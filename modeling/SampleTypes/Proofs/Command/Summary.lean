import SampleTypes.Proofs.Command.Invocation
import SampleTypes.Proofs.Command.Stages
import SampleTypes.Proofs.Command.Success
import SampleTypes.Proofs.Console.Markup
import SampleTypes.Proofs.Console.Wrap
import SampleTypes.Proofs.Inference.BareTypes
import SampleTypes.Proofs.Inference.GivenNames
import SampleTypes.Proofs.TypeScript.Imports

/-!
The summary of a report with a single type. The names of its fields come from the sample and are
printed as markup, so a field is shown under its own name only if that name has no markup in it.
-/

namespace SampleTypes.Command

open Console (Verbatim Span IsStyle OneLine)
open Inference (arrayOf)

/-! Styles, and the texts in them. -/

theorem isStyle_green : IsStyle "green".toList :=
  .of_check (by decide) (by decide) (by decide +kernel)

theorem isStyle_dim : IsStyle "dim".toList :=
  .of_check (by decide) (by decide) (by decide +kernel)

theorem isStyle_heading : IsStyle "bold cyan".toList :=
  .of_check (by decide) (by decide) (by decide +kernel)

def IsTypeChar (c : Char) : Prop := c.isAlphanum = true ∨ c = '[' ∨ c = ']'

theorem IsTypeChar.plain {c : Char} (h : IsTypeChar c) :
    Console.isStripped c = false ∧ Text.isBlank c = false ∧ c ≠ ':' ∧ c ≠ '\\' := by
  rcases h with ha | rfl | rfl
  · have hall := Text.ascii_forall (p := fun d => d.isAlphanum = true →
      Console.isStripped d = false ∧ Text.isBlank d = false ∧ d ≠ ':' ∧ d ≠ '\\') (by decide)
      (alphanum_lt ha)
    exact hall ha
  · decide
  · decide

def IsWordType (typeRef : String) : Prop :=
  ∃ base dimensions, typeRef = arrayOf base dimensions ∧ base ≠ "" ∧
    ∀ c ∈ base.toList, c.isAlphanum = true

namespace IsWordType

variable {typeRef : String}

theorem chars (h : IsWordType typeRef) : ∀ c ∈ typeRef.toList, IsTypeChar c := by
  obtain ⟨base, d, rfl, -, ha⟩ := h
  intro c hc
  rw [TypeScript.arrayOf_toList, List.mem_append] at hc
  rcases hc with hc | hc
  · exact .inl (ha c hc)
  · exact .inr (TypeScript.brackets_chars d c hc)

theorem untagged (h : IsWordType typeRef) : Console.hasTag typeRef.toList = false := by
  obtain ⟨base, d, rfl, -, ha⟩ := h
  rw [TypeScript.arrayOf_toList]
  induction d with
  | zero =>
    have hb : '[' ∉ base.toList := fun hm => by simpa using ha _ hm
    simpa [TypeScript.brackets] using Console.hasTag_free hb
  | succ d ih =>
    rw [TypeScript.brackets, ← List.append_assoc]
    exact Console.hasTag_append ih [']']

theorem verbatim (h : IsWordType typeRef) : Verbatim typeRef.toList :=
  .of_free h.untagged (fun hm => (h.chars _ hm).plain.2.2.1 rfl)
    fun hm => (h.chars _ hm).plain.2.2.2 rfl

theorem ne_nil (h : IsWordType typeRef) : typeRef.toList ≠ [] := by
  obtain ⟨base, d, rfl, hb, -⟩ := h
  rw [TypeScript.arrayOf_toList]
  simp [hb]

end IsWordType

theorem oneLine_text {width : Nat} {cs : List Char} (h : OneLine width cs) :
    linesText (Console.wrap width cs) = String.ofList cs ++ "\n" := by
  rw [h.wrap, linesText, List.map_singleton, String.join_cons, String.join_nil, String.append_empty,
    String.ofList_append]

/-! Lines on fields. -/

def fieldLine (f : Field String) : String :=
  "    " ++ f.name ++ (if f.required then "" else "?") ++ ": " ++ f.typeRef

def fieldLead (f : Field String) : String :=
  "    " ++ f.name ++ (if f.required then ": " else "")

theorem inLine_of_all {cs : List Char}
    (h : (cs.all fun c => !Console.isStripped c && c != '\n' && c != '\t') = true) :
    ∀ c ∈ cs, Console.isStripped c = false ∧ c ≠ '\n' ∧ c ≠ '\t' := by
  intro c hc
  simpa [and_assoc] using List.all_eq_true.mp h c hc

/-- The name of the field has no markup, and the line is printed without a break. -/
structure Legible (width : Nat) (f : Field String) : Prop where
  unmarked : Verbatim (fieldLead f).toList
  shown : ∀ c ∈ f.name.toList, Console.isStripped c = false ∧ c ≠ '\n' ∧ c ≠ '\t'
  fits : Text.width (fieldLine f).toList ≤ width

def fieldSpans (f : Field String) : List Span :=
  (if f.required then [] else [⟨"dim".toList, "?".toList, ": ".toList⟩]) ++
    [⟨"green".toList, f.typeRef.toList, []⟩]

section

variable {width : Nat} {f : Field String} (hl : Legible width f) (ht : IsWordType f.typeRef)
include hl ht

theorem fieldLine_shown :
    ∀ c ∈ (fieldLine f).toList, Console.isStripped c = false ∧ c ≠ '\n' ∧ c ≠ '\t' := by
  have hmark : ∀ c ∈ (if f.required then "" else "?").toList,
      Console.isStripped c = false ∧ c ≠ '\n' ∧ c ≠ '\t' := by
    split <;> exact inLine_of_all (by decide)
  have htype : ∀ c ∈ f.typeRef.toList, Console.isStripped c = false ∧ c ≠ '\n' ∧ c ≠ '\t' := by
    intro c hc
    obtain ⟨hs, hb, -, -⟩ := (ht.chars c hc).plain
    refine ⟨hs, ?_, ?_⟩ <;> rintro rfl <;> cases hb
  simp only [fieldLine, String.toList_append, List.forall_mem_append]
  exact ⟨⟨⟨⟨inLine_of_all (by decide), hl.shown⟩, hmark⟩, inLine_of_all (by decide)⟩, htype⟩

theorem fieldLine_oneLine : OneLine width (fieldLine f).toList where
  noBreak hm := (fieldLine_shown hl ht _ hm).2.1 rfl
  noTab hm := (fieldLine_shown hl ht _ hm).2.2 rfl
  fits := hl.fits
  solid c hc := by
    have hlast : (fieldLine f).toList.getLast? = some (f.typeRef.toList.getLast ht.ne_nil) := by
      rw [fieldLine, String.toList_append, List.getLast?_append,
        List.getLast?_eq_some_getLast ht.ne_nil]
      rfl
    obtain rfl := Option.some.inj (hlast.symm.trans hc)
    exact (ht.chars _ (List.getLast_mem _)).plain.2.1

theorem plain_field :
    Console.plainText ("    " ++ f.name ++ (if f.required then "" else "[dim]?[/]") ++ ": [green]" ++
      f.typeRef ++ "[/]") = .ok (fieldLine f).toList := by
  have hempty : Verbatim [] := .of_free rfl (by simp) (by simp)
  have hspans : ∀ s ∈ fieldSpans f, s.Sound := by
    intro s hs
    rcases List.mem_append.mp hs with hs | hs
    · split at hs
      · cases hs
      · obtain rfl := List.mem_singleton.mp hs
        refine ⟨isStyle_dim, ?_, ?_⟩ <;> constructor <;> decide +kernel
    · obtain rfl := List.mem_singleton.mp hs
      exact ⟨isStyle_green, ht.verbatim, hempty⟩
  have hshown : (fieldLead f).toList ++ (fieldSpans f).flatMap Span.shown = (fieldLine f).toList := by
    cases hr : f.required <;> simp [fieldLead, fieldSpans, fieldLine, Span.shown, hr]
  rw [Console.plainText_spans hl.unmarked hspans, hshown, List.filter_eq_self.mpr]
  · intro c hc
    simp [(fieldLine_shown hl ht c hc).1]
  · cases hr : f.required <;> simp [fieldLead, fieldSpans, Span.text, hr]

theorem sayField_prints : Prints width (sayField f) (fieldLine f ++ "\n") := by
  have hp : Prints width (sayField f) (linesText (Console.wrap width (fieldLine f).toList)) :=
    .say (plain_field hl ht)
  rwa [oneLine_text (fieldLine_oneLine hl ht), String.ofList_toList] at hp

end

/-! The whole summary. -/

def headingText (width : Nat) (t : TypeDecl String) : String :=
  linesText (Console.wrap width ("\n" ++ t.name ++ " (interface)").toList)

def rootText (width : Nat) : String := linesText (Console.wrap width "  Root type".toList)

def summaryText (width : Nat) (t : TypeDecl String) (rootType : String) : String :=
  headingText width t ++ (if t.name = rootType then rootText width else "") ++
    String.join (t.fields.map fun f => fieldLine f ++ "\n") ++ "\n"

section

variable {width : Nat}

theorem typeName_plain {name : String} (h : IsTypeName name) :
    Verbatim name.toList ∧ ∀ c ∈ name.toList, Console.isStripped c = false := by
  have hchars (c : Char) (hc : c ∈ name.toList) := (show IsTypeChar c from .inl (h.alphanum c hc)).plain
  have hbracket : '[' ∉ name.toList := fun hm => by simpa using h.alphanum _ hm
  refine ⟨.of_free (Console.hasTag_free hbracket) ?_ ?_, fun c hc => (hchars c hc).1⟩
  · exact fun hm => (hchars _ hm).2.2.1 rfl
  · exact fun hm => (hchars _ hm).2.2.2 rfl

theorem sayHeading_prints {t : TypeDecl String} (hn : IsTypeName t.name) (hk : t.kind = .record) :
    Prints width (Run.say ("\n[bold cyan]" ++ t.name ++ "[/] (" ++ t.kind.keyword ++ ")"))
      (headingText width t) := by
  obtain ⟨hname, hshown⟩ := typeName_plain hn
  have hlead : Verbatim "\n".toList := by constructor <;> decide +kernel
  have hafter : Verbatim " (interface)".toList := by constructor <;> decide +kernel
  have hsound : ∀ s ∈ [(⟨"bold cyan".toList, t.name.toList, " (interface)".toList⟩ : Span)], s.Sound :=
    fun s hs => List.mem_singleton.mp hs ▸ ⟨isStyle_heading, hname, hafter⟩
  have hp := Console.plainText_spans hlead hsound
    ("\n[bold cyan]" ++ t.name ++ "[/] (" ++ t.kind.keyword ++ ")")
    (by simp [Span.text, hk, TypeKind.keyword])
  have hall : ∀ c ∈ "\n".toList ++ (t.name.toList ++ " (interface)".toList),
      Console.isStripped c = false := by
    exact List.forall_mem_append.mpr ⟨Console.unstripped_of_all (by decide),
      List.forall_mem_append.mpr ⟨hshown, Console.unstripped_of_all (by decide)⟩⟩
  have ht : ("\n" ++ t.name ++ " (interface)").toList =
      "\n".toList ++ (t.name.toList ++ " (interface)".toList) := by
    rw [String.toList_append, String.toList_append, List.append_assoc]
  rw [List.flatMap_singleton, Span.shown, List.filter_eq_self.mpr fun c hc => by simp [hall c hc],
    ← ht] at hp
  exact .say hp

theorem sayRoot_prints : Prints width (Run.say "  Root type") (rootText width) := by
  have hp : Console.plainText "  Root type" = .ok "  Root type".toList := by decide +kernel
  exact .say hp

theorem sayDetail_prints {t : TypeDecl String} (hn : IsTypeName t.name) (hk : t.kind = .record)
    (hf : ∀ f ∈ t.fields, Legible width f ∧ IsWordType f.typeRef) (rootType : String) :
    Prints width (sayDetail t rootType) (summaryText width t rootType) := by
  have hend : Prints width (Run.echo "") "\n" := .echo ""
  have hfields : Prints width (t.fields.forM sayField >>= fun _ => Run.echo "")
      (String.join (t.fields.map fun f => fieldLine f ++ "\n") ++ "\n") :=
    (Prints.forM fun f hm => sayField_prints (hf f hm).1 (hf f hm).2).bind hend
  have hhead : Prints width _ (headingText width t) := sayHeading_prints hn hk
  unfold sayDetail summaryText
  simp only [hk, if_true, String.append_assoc] at hhead hfields ⊢
  refine hhead.bind ?_
  split
  · exact sayRoot_prints.bind hfields
  · exact hfields

end

/-! The command that prints it. -/

section

variable {clock : Clock} {files : FileTree} {environment : List (String × String)} {input : String}

/-- A sample that has a report is read and inferred; but for the log nothing changes. -/
theorem inferReport_ends {path rootName : String} {maxDepth : Option Int} {refs : Matcher Value}
    {r : Report String} {s : Session}
    (h : reportIn clock s.files path rootName maxDepth refs = some r) :
    ∃ t, Ends (inferReport clock path rootName maxDepth refs) s r t ∧ t.files = s.files ∧
      t.width = s.width ∧ t.out = s.out := by
  simp only [reportIn, Option.bind_eq_some_iff] at h
  obtain ⟨bytes, hb, x, hx, hr⟩ := h
  have hs : Ends (loadSample path) s x s := by
    refine .andThen (Run.files_run s) ?_
    rw [ok_of_toOption hb]
    dsimp only
    rw [ok_of_toOption hx]
    rfl
  obtain ⟨entries, he⟩ : ∃ entries, x.infer refs ⟨rootName, Path.name path, clock.timestamp, maxDepth⟩ =
      (entries, .ok r) := ⟨_, Prod.ext rfl (ok_of_toOption hr)⟩
  obtain ⟨u, hl, hkept⟩ : ∃ u, Ends (Run.log entries) s () u ∧ u.files = s.files ∧
      u.width = s.width ∧ u.out = s.out := ⟨_, rfl, rfl, rfl, rfl⟩
  refine ⟨u, hs.andThen ?_, hkept⟩
  dsimp only
  rw [he]
  exact hl.andThen rfl

def rootNameIn (environment : List (String × String)) : String :=
  (fallback environment (rootNameOption "Name of the root type")).getD defaultRootName

theorem parse_fallsBack (he : fallback environment referenceOption = none) :
    FallsBack files environment .parse := by
  intro o ho
  simp only [Name.options, List.mem_cons, List.not_mem_nil, or_false] at ho
  rcases ho with rfl | rfl | rfl | rfl | rfl | rfl
  · exact checkFallback_none he
  · cases hf : fallback environment (rootNameOption "Name of the root type") with
    | none => exact checkFallback_none hf
    | some v => exact checkFallback_some hf rfl
  · exact checkFallback_some (v := "table") rfl rfl
  · exact checkFallback_none rfl
  · exact checkFallback_none rfl
  · exact checkFallback_none rfl

theorem reportIn_single {path rootName : String} {maxDepth : Option Int} {r : Report String}
    {t : TypeDecl String} (hr : reportIn clock files path rootName maxDepth [] = some r)
    (ht : t ∈ r.types) :
    t.kind = .record ∧ IsTypeName t.name ∧ ∀ f ∈ t.fields, IsWordType f.typeRef := by
  simp only [reportIn, Option.bind_eq_some_iff] at hr
  obtain ⟨bytes, -, x, -, hx⟩ := hr
  have hx := ok_of_toOption hx
  have hall {α : Type} [Sampled α] {settings : Inference.Settings} {y : α}
      (h : (Inference.run ([] : Matcher Value) settings y).2 = .ok r) :
      t.kind = .record ∧ IsTypeName t.name ∧ ∀ f ∈ t.fields, IsWordType f.typeRef := by
    refine ⟨?_, Inference.run_names_given h ht, ?_⟩
    · rw [(Inference.run_bare h t ht).fieldsOnly]
    · exact fun f hf => Inference.run_fieldTypes rfl h ht hf
  cases x with
  | tree v => exact hall hx
  | graph place => exact hall hx

theorem runParse_single {i : Invocation} {r : Report String} {t : TypeDecl String} {s : Session}
    (href : i.given? "--reference" = none) (hformat : i.text? "--format" = some "table")
    (houtput : i.given? "--output" = none)
    (hr : reportIn clock s.files i.input (rootNameOf i) (i.whole? "--max-depth") [] = some r)
    (ht : r.types = [t]) (hf : ∀ f ∈ t.fields, Legible s.width f) :
    ∃ u, Ends (runParse clock i) s () u ∧ u.files = s.files ∧
      u.out = s.out ++ summaryText s.width t r.rootType := by
  obtain ⟨hk, hn, hw⟩ := reportIn_single hr (ht ▸ List.mem_singleton_self t)
  have hrefs : Ends (loadReferences (i.given? "--reference")) s [] s := by
    rw [href]
    rfl
  obtain ⟨u, hu, hfiles, hwidth, hout⟩ := inferReport_ends hr
  have hsay : Prints s.width (saySummary r) (summaryText s.width t r.rootType) := by
    unfold saySummary
    rw [ht]
    exact sayDetail_prints hn hk (fun f hm => ⟨hf f hm, hw f hm⟩) r.rootType
  refine ⟨u.printed (summaryText s.width t r.rootType), hrefs.andThen (hu.andThen ?_), hfiles, ?_⟩
  · rw [hformat]
    refine (hsay u hwidth).andThen ?_
    rw [houtput]
    rfl
  · rw [← hout]
    rfl

/-- The only type of a JSON sample is shown with its fields in their order, each under its own name, if
no name has markup in it. -/
theorem single_type_shown {host : Host} {j : Json} {r : Report String} {t : TypeDecl String}
    (hi : IsPlain input) (hy : isYamlPath input = false) (hj : HoldsDocument files input j)
    (he : fallback environment referenceOption = none)
    (hn : host.exhausted files ["parse", input] = none)
    (hr : (Inference.run ([] : Matcher Value)
      ⟨rootNameIn environment, Path.name input, clock.timestamp, none⟩ j.toValue).2 = .ok r)
    (ht : r.types = [t]) (hf : ∀ f ∈ t.fields, Legible host.width f) :
    ∃ s : Session, run clock environment files ["parse", input] host = ⟨0, none, s⟩ ∧
      s.files = files ∧ s.out = summaryText host.width t r.rootType := by
  obtain ⟨bytes, raw, hb, hd, -, hread⟩ := hj.read
  have hr : reportIn clock files input (rootNameIn environment) none [] = some r := by
    have hs : Sample.read input bytes = .ok (.tree j.toValue) := by
      simp only [Sample.read, hy, readJson, hd, hread, Bool.false_eq_true, if_false]
    simp only [reportIn, hb, hs, Sample.infer, hr, Except.toOption, Option.bind_some]
  obtain ⟨i, hinv, ha⟩ := answer_alone clock host hi hb (parse_fallsBack he)
  have href : i.given? "--reference" = none :=
    hinv.given_none (o := referenceOption) (by simp [Name.options]) he
  have hroot : rootNameOf i = rootNameIn environment :=
    congrArg (Option.getD · defaultRootName)
      (hinv.text (o := rootNameOption "Name of the root type") (by simp [Name.options]))
  have hdepth : i.whole? "--max-depth" = none :=
    hinv.whole (o := maxDepthOption) (by simp [Name.options])
  have hformat : i.text? "--format" = some "table" :=
    hinv.text (o := formatOption) (by simp [Name.options])
  have houtput : i.given? "--output" = none :=
    hinv.given_none (o := outputOption "Write output to file") (by simp [Name.options]) rfl
  rw [← hroot, ← hdepth, ← hinv.source] at hr
  obtain ⟨u, hu, hfiles, hout⟩ :=
    runParse_single (s := host.session files) href hformat houtput hr ht hf
  exact ⟨u, run_ends hn (ha.trans hu), hfiles, hout.trans String.empty_append⟩

end

def sampleFiles (sample : String) : FileTree where
  nodes := [(["s.json"], .file (Text.encodeUtf8 sample.toList))]

def recordReport (fields : List (Field String)) : Report String where
  types := [{ name := "ApiResponse", fields := fields }]
  rootType := "ApiResponse"
  source := "s.json"
  timestamp := "noon"

def indexSample : Json := .obj [("id", .str "x"), ("b[0]", .null)]

def indexText : String := "\x7b\"id\": \"x\", \"b[0]\": null\x7d"

def indexFields : List (Field String) :=
  [{ name := "id", typeRef := "string" }, { name := "b[0]", typeRef := "unknown", required := false }]

theorem index_held : HoldsDocument (sampleFiles indexText) "s.json" indexSample := by
  have hp : Json.Plain indexSample := by
    refine .obj (by decide) ?_
    simp only [List.forall_mem_cons]
    exact ⟨.str _, .null, by simp⟩
  have hw : Text.normalizeLines indexText.toList = Json.write none 0 indexSample := by
    decide +kernel
  refine ⟨Text.encodeUtf8 indexText.toList, indexText.toList, by decide +kernel, by decide +kernel,
    by decide +kernel, ?_⟩
  rw [hw]
  exact hp.read_write none

theorem index_shown : ∃ s : Session,
    run ⟨"noon"⟩ [] (sampleFiles indexText) ["parse", "s.json"] { width := 80 } = ⟨0, none, s⟩ ∧
      s.files = sampleFiles indexText ∧
      s.out = "\nApiResponse (interface)\n  Root type\n    id: string\n    b[0]?: unknown\n\n" := by
  have hf : ∀ f ∈ indexFields, Legible 80 f := by
    intro f hf
    simp only [indexFields, List.mem_cons, List.not_mem_nil, or_false] at hf
    rcases hf with rfl | rfl
    all_goals refine ⟨?_, inLine_of_all (by decide), by decide +kernel⟩
    all_goals constructor <;> decide +kernel
  have hi : IsPlain "s.json" := fun c cs h => by cases h
  have hy : isYamlPath "s.json" = false := by decide
  obtain ⟨s, hrun, hfiles, hout⟩ := @single_type_shown ⟨"noon"⟩ (sampleFiles indexText) [] "s.json"
    { width := 80 } indexSample (recordReport indexFields) _ hi hy index_held rfl rfl
    (by decide +kernel) rfl hf
  exact ⟨s, hrun, hfiles, hout.trans (by decide +kernel)⟩

def taggedFiles : FileTree := sampleFiles "\x7b\"a[b]\": 1\x7d"

/-- What looks like a tag in a name is not shown. -/
theorem tagged_name_lost :
    reportIn ⟨"noon"⟩ taggedFiles "s.json" (rootNameIn []) none [] =
        some (recordReport [{ name := "a[b]", typeRef := "number" }]) ∧
      (run ⟨"noon"⟩ [] taggedFiles ["parse", "s.json"] { width := 80 }).session.out =
        "\nApiResponse (interface)\n  Root type\n    a: number\n\n" := by
  decide +kernel

end SampleTypes.Command
