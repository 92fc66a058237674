import SampleTypes.Proofs.Catalog.Decoding
import SampleTypes.Proofs.Catalog.Demands
import SampleTypes.Proofs.Command.Invocation
import SampleTypes.Proofs.Command.Stages
import SampleTypes.Proofs.Command.Success
import SampleTypes.Proofs.Console.Markup

/-!
What the commands that take a report from a file make of any document. They end well with a report
that has texts where they need them, and tell why other documents are refused. But a report that is
read may lack the texts, its metadata may be nothing to read, and what is told of a document is taken
as markup, which its own values can upset; each of these ends a command by a fault that nobody
handles.
-/

namespace SampleTypes.Command

inductive Renderer where
  | source
  | page
  deriving DecidableEq, Repr

namespace Renderer

def command : Renderer → Name
  | source => .generate
  | page => .docs

def Takes : Renderer → Report Json → Prop
  | source, r => ∀ t ∈ r.types, TypeScript.Declarable t
  | page, r => Documentation.IsPresentable r

def Ready (files : FileTree) (environment : List (String × String)) : Renderer → Prop
  | source => fallback environment referenceOption = none ∧ fallback environment templateOption = none
  | page => ∀ html, ∃ t, writeDocs files "docs" html = .ok t

end Renderer

/-! Loading a report. -/

def complaint (path why : String) : String :=
  "[red]" ++ ("Cannot read parser output " ++ path) ++ ":[/] " ++ why

section

variable {s : Session} {what why : String}

theorem fail_told {cs : List Char} (h : Console.plainText ("[red]" ++ what ++ ":[/] " ++ why) = .ok cs) :
    (Run.fail what why : Run (Report Json)).run.run s =
      (.error (.exit 1), s.printed (linesText (Console.wrap s.width cs))) := by
  rw [Run.fail, Run.bind_ok (Prints.say h s rfl)]
  rfl

theorem fail_upset {m : Console.MarkupFault}
    (h : Console.plainText ("[red]" ++ what ++ ":[/] " ++ why) = .error m) :
    (Run.fail what why : Run (Report Json)).run.run s = (.error (.crash (.markup m)), s) := by
  rw [Run.fail, Run.bind_error (say_fault h s)]

end

section

variable {s : Session} {path : String} {j : Json}

theorem HoldsDocument.load (h : HoldsDocument s.files path j) :
    ∃ text, (Run.readText path).run.run s = (.ok (.ok text), s) ∧
      Report.load text = (Report.decode j).mapError .rejected := by
  obtain ⟨bytes, raw, hb, hd, -, hj⟩ := h.read
  refine ⟨Text.normalizeLines raw, ?_, ?_⟩
  · rw [Run.readText, Run.bind_ok (Run.files_run s)]
    simp only [hb, hd]
    rfl
  · rw [Report.load, hj]

theorem loadReport_read (h : HoldsDocument s.files path j) {r : Report Json}
    (hr : Report.decode j = .ok r) : Ends (loadReport path) s r s := by
  obtain ⟨text, ht, hl⟩ := h.load
  rw [hr] at hl
  rw [Ends, loadReport, Run.bind_ok ht]
  simp only [hl, Except.mapError]
  rfl

theorem loadReport_stray (h : HoldsDocument s.files path j) (hs : StrayMetadata j) :
    ∃ c, (loadReport path).run.run s = (.error (.crash c), s) := by
  obtain ⟨text, ht, hl⟩ := h.load
  obtain ⟨typeName, hd⟩ := decode_stray.mpr hs
  rw [hd] at hl
  rw [loadReport, Run.bind_ok ht]
  simp only [hl, Except.mapError]
  exact ⟨_, rfl⟩

theorem loadReport_refused (h : HoldsDocument s.files path j) (hs : ¬ StrayMetadata j)
    {f : DecodeFault} (hf : Report.decode j = .error f) :
    (loadReport path).run.run s =
      (Run.fail ("Cannot read parser output " ++ path) f.message).run.run s := by
  obtain ⟨text, ht, hl⟩ := h.load
  rw [hf] at hl
  rw [loadReport, Run.bind_ok ht]
  simp only [hl, Except.mapError]
  split
  · rename_i he
    cases he
  · rename_i typeName he
    cases he
    exact absurd (decode_stray.mp ⟨typeName, hf⟩) hs
  · rename_i he
    cases he
    rfl

end

/-! What is made of a report. -/

section

variable {i : Invocation} {s : Session} {r : Report Json}

def Crashes (m : Run Unit) (s : Session) : Prop := ∃ c t, m.run.run s = (.error (.crash c), t)

theorem Crashes.after {α : Type} {m : Run α} {f : α → Run Unit} {a : α} {t : Session}
    (h : Ends m s a t) (k : Crashes (f a) t) : Crashes (m >>= f) s := by
  obtain ⟨c, u, hc⟩ := k
  exact ⟨c, u, (Run.bind_ok h).trans hc⟩

theorem runGenerate_stages (h : Ends (loadReport i.input) s r s)
    (href : i.given? "--reference" = none) (htemplate : i.given? "--template" = none)
    (houtput : i.given? "--output" = none) :
    (runGenerate i).run.run s =
      (generateSource ⟨TypeScript.interfaceTemplate, i.has "--storybook"⟩ [] r.types >>= fun source =>
        Run.echo source.code).run.run s := by
  have hrefs : Ends (loadReferences (i.given? "--reference")) s [] s := by
    rw [href]
    rfl
  have ht : Ends (loadTemplate (i.given? "--template")) s TypeScript.interfaceTemplate s := by
    rw [htemplate]
    rfl
  rw [runGenerate, Run.bind_ok h, Run.bind_ok hrefs, Run.bind_ok ht, houtput]

theorem runGenerate_ends (h : Ends (loadReport i.input) s r s)
    (href : i.given? "--reference" = none) (htemplate : i.given? "--template" = none)
    (houtput : i.given? "--output" = none) (ht : Renderer.source.Takes r) :
    ∃ t, Ends (runGenerate i) s () t := by
  obtain ⟨source, hs⟩ := (TypeScript.generateChecked_isOk
    ⟨TypeScript.interfaceTemplate, i.has "--storybook"⟩).mpr ht
  have hg : ∃ t, Ends (generateSource ⟨TypeScript.interfaceTemplate, i.has "--storybook"⟩ [] r.types)
      s source t := by
    rw [generateSource, hs]
    exact ⟨_, rfl⟩
  obtain ⟨t, hg⟩ := hg
  exact ⟨_, (runGenerate_stages h href htemplate houtput).trans (hg.andThen rfl)⟩

theorem runGenerate_crashes (h : Ends (loadReport i.input) s r s)
    (href : i.given? "--reference" = none) (htemplate : i.given? "--template" = none)
    (houtput : i.given? "--output" = none) (ht : ¬ Renderer.source.Takes r) :
    Crashes (runGenerate i) s := by
  cases hs : TypeScript.generateChecked ⟨TypeScript.interfaceTemplate, i.has "--storybook"⟩ []
      r.types with
  | ok source => exact absurd ((TypeScript.generateChecked_isOk _).mp ⟨source, hs⟩) ht
  | error m =>
    have hg : (generateSource ⟨TypeScript.interfaceTemplate, i.has "--storybook"⟩ [] r.types).run.run s =
        (.error (.crash (.misuse m)), s) := by
      rw [generateSource, hs]
      rfl
    exact ⟨_, _, (runGenerate_stages h href htemplate houtput).trans (Run.bind_error hg)⟩

theorem saving_ends {onTrouble : Run.OnTrouble} {files : FileTree} :
    Ends (Run.saving onTrouble (.ok files)) s () { s with files := files } := rfl

/-- Where any page can be written, so can an empty one before it. -/
theorem writeDocs_stages {files : FileTree} {directory : String}
    (h : ∀ html, ∃ t, writeDocs files directory html = .ok t) :
    ∃ first second, files.makeDirectories directory = .ok first ∧
      first.writeText (Path.join directory "index.html") "" = .ok second ∧
      ∀ html, ∃ t, second.writeText (Path.join directory "index.html") html = .ok t := by
  simp only [writeDocs, bind_eq_ok] at h
  obtain ⟨_, first, h1, second, h2, -⟩ := h ""
  refine ⟨first, second, h1, h2, fun html => ?_⟩
  obtain ⟨t, first', h1', second', h2', h3⟩ := h html
  obtain rfl := Except.ok.inj (h1.symm.trans h1')
  obtain rfl := Except.ok.inj (h2.symm.trans h2')
  exact ⟨t, h3⟩

section

variable (onTrouble : Run.OnTrouble) {directory : String} (count : Nat)
  (h : ∀ html, ∃ t, writeDocs s.files directory html = .ok t)
include h

theorem saveDocs_ends (html : String) : ∃ t, Ends (saveDocs onTrouble directory count (.ok html)) s
    (Path.join directory "index.html") t := by
  obtain ⟨first, second, h1, h2, h3⟩ := writeDocs_stages h
  obtain ⟨t, h3⟩ := h3 html
  have hsaved : Ends (Run.saving onTrouble
      (second.writeText (Path.join directory "index.html") html)) { s with files := second } ()
      { s with files := t } := by
    rw [h3]
    exact saving_ends
  obtain ⟨u, hl⟩ : ∃ u, Ends (Run.log [docsEntry count (Path.join directory "index.html")])
      { s with files := t } () u := ⟨_, rfl⟩
  refine ⟨u, .andThen (Run.files_run s) ?_⟩
  rw [h1]
  refine saving_ends.andThen (.andThen (Run.files_run _) ?_)
  rw [h2]
  exact saving_ends.andThen (.andThen (Run.files_run _) (hsaved.andThen (hl.andThen rfl)))

theorem saveDocs_crashes (m : Misuse) :
    ∃ c t, (saveDocs onTrouble directory count (.error m)).run.run s = (.error (.crash c), t) := by
  obtain ⟨first, second, h1, h2, -⟩ := writeDocs_stages h
  refine ⟨.misuse m, { s with files := second }, (Run.bind_ok (Run.files_run s)).trans ?_⟩
  rw [h1]
  refine (Run.bind_ok saving_ends).trans ((Run.bind_ok (Run.files_run _)).trans ?_)
  rw [h2]
  exact Run.bind_ok saving_ends

end

theorem runDocs_ends (h : Ends (loadReport i.input) s r s)
    (houtput : i.text? "--output" = some "docs")
    (hw : ∀ html, ∃ t, writeDocs s.files "docs" html = .ok t) (ht : Renderer.page.Takes r) :
    ∃ t, Ends (runDocs i) s () t := by
  obtain ⟨html, hp⟩ := (Documentation.pageChecked_isOk (titleOf i)).mpr ht
  obtain ⟨t, hs⟩ := saveDocs_ends (Run.failing "Write failed") r.types.length hw html
  have hplain : Console.plainText ("[green]Documentation generated:[/] " ++
      Path.join "docs" "index.html") = .ok "Documentation generated: docs/index.html".toList := by
    decide +kernel
  obtain ⟨u, hu⟩ : ∃ u, Ends (Run.say _) t () u := ⟨_, Prints.say hplain t rfl⟩
  refine ⟨u, h.andThen ?_⟩
  dsimp only
  rw [houtput, hp]
  exact hs.andThen hu

theorem runDocs_crashes (h : Ends (loadReport i.input) s r s)
    (houtput : i.text? "--output" = some "docs")
    (hw : ∀ html, ∃ t, writeDocs s.files "docs" html = .ok t) (ht : ¬ Renderer.page.Takes r) :
    Crashes (runDocs i) s := by
  cases hp : Documentation.pageChecked (titleOf i) r with
  | ok html => exact absurd ((Documentation.pageChecked_isOk _).mp ⟨html, hp⟩) ht
  | error m =>
    obtain ⟨c, t, hs⟩ := saveDocs_crashes (Run.failing "Write failed") r.types.length hw m
    refine .after h ⟨c, t, ?_⟩
    dsimp only
    rw [houtput, hp]
    exact Run.bind_error hs

end

/-! Any document. -/

/-- A document that ends the command by a fault that nobody handles. -/
inductive Mishandled (renderer : Renderer) (path : String) (j : Json) : Prop where
  | metadata (h : StrayMetadata j)
  | lacking {r : Report Json} (read : Report.decode j = .ok r) (h : ¬ renderer.Takes r)
  | upset {f : DecodeFault} {m : Console.MarkupFault} (refused : Report.decode j = .error f)
      (h : Console.plainText (complaint path f.message) = .error m)

section

variable {renderer : Renderer} {path : String} {j : Json}

/-- A report that is read is mishandled only for the texts that it lacks. -/
theorem mishandled_read {r : Report Json} (hd : Report.decode j = .ok r) :
    Mishandled renderer path j ↔ ¬ renderer.Takes r := by
  refine ⟨fun hm => ?_, .lacking hd⟩
  cases hm with
  | metadata hs =>
    obtain ⟨typeName, he⟩ := decode_stray.mpr hs
    cases hd.symm.trans he
  | lacking read h =>
    obtain rfl := Except.ok.inj (hd.symm.trans read)
    exact h
  | upset refused h => cases hd.symm.trans refused

/-- A document that is refused is mishandled only on the way to what is told of it. -/
theorem mishandled_refused {f : DecodeFault} (hd : Report.decode j = .error f) :
    Mishandled renderer path j ↔
      StrayMetadata j ∨ ∃ m, Console.plainText (complaint path f.message) = .error m := by
  constructor
  · intro hm
    cases hm with
    | metadata hs => exact .inl hs
    | lacking read h => cases hd.symm.trans read
    | upset refused h =>
      obtain rfl := Except.error.inj (hd.symm.trans refused)
      exact .inr ⟨_, h⟩
  · rintro (hs | ⟨m, h⟩)
    · exact .metadata hs
    · exact .upset hd h

end

def complaintLead : String := "Cannot read parser output "

theorem isLead_complaint : Console.IsLead complaintLead.toList where
  noColon := by decide
  noSlash := by decide
  noBracket := by decide
  shown := Console.unstripped_of_all (by decide)
  ne_nil := by decide

theorem isStyle_red : Console.IsStyle "red".toList :=
  .of_check (by decide) (by decide) (by decide +kernel)

theorem complaint_lead {path why : String} {cs : List Char}
    (h : Console.plainText (complaint path why) = .ok cs) :
    ∃ more, cs = complaintLead.toList ++ more :=
  isLead_complaint.plainText isStyle_red (path.toList ++ (":[/] ".toList ++ why.toList))
    (by simp [complaint, complaintLead]) h

section

variable {files : FileTree} {environment : List (String × String)} {input : String} {j : Json}
  {renderer : Renderer}

theorem docs_no_file {t : FileTree} (h : files.makeDirectories "docs" = .ok t) :
    docsDirectoryOption.check files (some "docs") = .ok (.text "docs") := by
  have hline : files.lineage "docs".length "docs" = ["docs"] := rfl
  have hpath : FileTree.withoutSlashes "docs" = "docs" := by decide
  rw [FileTree.makeDirectories, hline] at h
  simp only [List.foldlM_cons, List.foldlM_nil, bind_eq_ok] at h
  obtain ⟨_, h, -⟩ := h
  cases hl : files.locate "docs" with
  | error e =>
    simp [FileTree.makeDirectory, FileTree.isDirectory, FileTree.status, FileTree.atPath, hpath, hl,
      bind, Except.bind, Except.mapError, Except.toOption] at h
  | ok l =>
    cases hg : files.get? l with
    | none =>
      have hs : files.status "docs" = .error .notFound := by
        simp only [FileTree.status, hl, hg, bind, Except.bind]
        rfl
      simp only [OptionSpec.check, docsDirectoryOption, lookUp, hs]
    | some n =>
      have hs : files.status "docs" = .ok n := by
        simp only [FileTree.status, hl, hg, bind, Except.bind]
        rfl
      cases n with
      | directory => simp only [OptionSpec.check, docsDirectoryOption, lookUp, hs]
      | file bytes =>
        simp [FileTree.makeDirectory, FileTree.isDirectory, FileTree.atPath, hpath, hl, hg, hs, bind,
          Except.bind, Except.mapError, Except.toOption, throw, throwThe, MonadExceptOf.throw] at h

theorem Renderer.Ready.fallsBack (h : renderer.Ready files environment) :
    FallsBack files environment renderer.command := by
  intro o ho
  cases renderer with
  | source =>
    obtain ⟨href, htemplate⟩ := h
    simp only [Renderer.command, Name.options, List.mem_cons, List.not_mem_nil, or_false] at ho
    rcases ho with rfl | rfl | rfl | rfl | rfl
    · exact checkFallback_none htemplate
    · exact checkFallback_none href
    · exact checkFallback_none rfl
    · exact checkFallback_none rfl
    · exact checkFallback_none rfl
  | page =>
    obtain ⟨first, -, h1, -⟩ := writeDocs_stages h
    simp only [Renderer.command, Name.options, List.mem_cons, List.not_mem_nil, or_false] at ho
    rcases ho with rfl | rfl | rfl
    · exact checkFallback_some rfl (docs_no_file h1)
    · exact checkFallback_some (v := Documentation.defaultTitle) rfl rfl
    · exact checkFallback_none rfl

/-- A fault that nobody handles has ended the run. -/
def GivenUp (outcome : Outcome) : Prop := outcome.exitCode = 1 ∧ ∃ c, outcome.crash = some c

section

variable {clock : Clock} {arguments : List String} {host : Host}
  (hn : host.exhausted files arguments = none)
include hn

theorem run_crashed (h : Crashes (answer clock environment arguments) (host.session files)) :
    GivenUp (run clock environment files arguments host) := by
  obtain ⟨c, t, hc⟩ := h
  simp only [run, hn, hc]
  exact ⟨rfl, c, rfl⟩

theorem run_stopped {code : Nat} {t : Session}
    (h : (answer clock environment arguments).run.run (host.session files) =
      (.error (.exit code), t)) :
    run clock environment files arguments host = ⟨code, none, t⟩ := by
  simp only [run, hn, h]

end

theorem run_exhausted {clock : Clock} {arguments : List String} {host : Host}
    (h : host.exhausted files arguments ≠ none) :
    GivenUp (run clock environment files arguments host) := by
  obtain ⟨s, hs⟩ := Option.ne_none_iff_exists'.mp h
  simp only [run, hs]
  exact ⟨rfl, _, rfl⟩

theorem carryOut_read (clock : Clock) (host : Host) {i : Invocation} {r : Report Json}
    (hr : renderer.Ready files environment)
    (hinv : Invoked environment renderer.command input [] i)
    (hl : Ends (loadReport i.input) (host.session files) r (host.session files)) :
    (renderer.Takes r → ∃ t, Ends (carryOut clock renderer.command i) (host.session files) () t) ∧
      (¬ renderer.Takes r → Crashes (carryOut clock renderer.command i) (host.session files)) := by
  cases renderer with
  | source =>
    obtain ⟨href, htemplate⟩ := hr
    have href : i.given? "--reference" = none :=
      hinv.given_none (o := referenceOption) (by simp [Renderer.command, Name.options]) href
    have htemplate : i.given? "--template" = none :=
      hinv.given_none (o := templateOption) (by simp [Renderer.command, Name.options]) htemplate
    have houtput : i.given? "--output" = none :=
      hinv.given_none (o := outputOption "Write TypeScript to this file or directory")
        (by simp [Renderer.command, Name.options]) rfl
    exact ⟨runGenerate_ends hl href htemplate houtput, runGenerate_crashes hl href htemplate houtput⟩
  | page =>
    have houtput : i.text? "--output" = some "docs" :=
      hinv.text (o := docsDirectoryOption) (by simp [Renderer.command, Name.options])
    exact ⟨runDocs_ends hl houtput hr, runDocs_crashes hl houtput hr⟩

theorem carryOut_stopped (clock : Clock) (renderer : Renderer) {i : Invocation} {s t : Session}
    {e : Stop} (h : (loadReport i.input).run.run s = (.error e, t)) :
    (carryOut clock renderer.command i).run.run s = (.error e, t) := by
  cases renderer with
  | source => exact Run.bind_error h
  | page => exact Run.bind_error h

/-- The run has succeeded with a report that is read, or tells that the document is refused. -/
def Answered (width : Nat) (j : Json) (outcome : Outcome) : Prop :=
  outcome.crash = none ∧
    (outcome.exitCode = 0 ∧ (∃ r, Report.decode j = .ok r) ∨
      outcome.exitCode = 1 ∧ (∃ f, Report.decode j = .error f) ∧
        ∃ more, outcome.session.out = linesText (Console.wrap width (complaintLead.toList ++ more)))

theorem answered_unless_mishandled (clock : Clock) {host : Host} (hi : IsPlain input)
    (hj : HoldsDocument files input j) (hr : renderer.Ready files environment)
    (hn : host.exhausted files [renderer.command.text, input] = none) :
    let outcome := run clock environment files [renderer.command.text, input] host
    (Mishandled renderer input j → GivenUp outcome) ∧
      (¬ Mishandled renderer input j → Answered host.width j outcome) := by
  intro outcome
  obtain ⟨bytes, raw, hb, -⟩ := hj.read
  obtain ⟨i, hinv, ha⟩ := answer_alone clock host hi hb hr.fallsBack
  obtain rfl : i.input = input := hinv.source
  have hcrash (h : Crashes (carryOut clock renderer.command i) (host.session files)) :
      GivenUp outcome := by
    obtain ⟨c, t, hc⟩ := h
    exact run_crashed hn ⟨c, t, ha.trans hc⟩
  cases hd : Report.decode j with
  | ok r =>
    rw [mishandled_read hd, not_not]
    obtain ⟨hends, hcrashes⟩ := carryOut_read clock host hr hinv (loadReport_read hj hd)
    refine ⟨fun ht => hcrash (hcrashes ht), fun ht => ?_⟩
    obtain ⟨t, hend⟩ := hends ht
    have ho : outcome = ⟨0, none, t⟩ := run_ends hn (ha.trans hend)
    rw [ho]
    exact ⟨rfl, .inl ⟨rfl, r, hd⟩⟩
  | error f =>
    rw [mishandled_refused hd]
    by_cases hs : StrayMetadata j
    · obtain ⟨c, hl⟩ := loadReport_stray (s := host.session files) hj hs
      exact ⟨fun _ => hcrash ⟨c, _, carryOut_stopped clock renderer hl⟩, fun hm => absurd (.inl hs) hm⟩
    have hl := loadReport_refused (s := host.session files) hj hs hd
    cases hp : Console.plainText (complaint i.input f.message) with
    | error m =>
      have hc := carryOut_stopped clock renderer (hl.trans (fail_upset hp))
      exact ⟨fun _ => hcrash ⟨_, _, hc⟩, fun hm => absurd (.inr ⟨m, rfl⟩) hm⟩
    | ok cs =>
      have hc := carryOut_stopped clock renderer (hl.trans (fail_told hp))
      have ho : outcome = ⟨1, none, _⟩ := run_stopped hn (ha.trans hc)
      obtain ⟨more, rfl⟩ := complaint_lead hp
      refine ⟨fun hm => ?_, fun _ => ?_⟩
      · rcases hm with h | ⟨m, ⟨⟩⟩
        exact absurd h hs
      · rw [ho]
        exact ⟨rfl, .inr ⟨rfl, ⟨f, hd⟩, more, String.empty_append⟩⟩

end

def documentFiles (document : String) : FileTree where
  nodes := [(["p.json"], .file (Text.encodeUtf8 document.toList))]

theorem list_held : HoldsDocument (documentFiles "[]") "p.json" (.arr []) := by
  refine ⟨Text.encodeUtf8 "[]".toList, "[]".toList, ?_, by decide +kernel, by decide +kernel, rfl⟩
  decide +kernel

def listMetadataText : String := "\x7b\"types\": [], \"metadata\": [1]\x7d"

end SampleTypes.Command
