import SampleTypes.Proofs.Inference.BareTypes
import SampleTypes.Proofs.Inference.GivenNames
import SampleTypes.Proofs.TypeScript.Filling
import SampleTypes.Proofs.TypeScript.Imports
import SampleTypes.TypeScript.Source

/-!
The source text for an inferred report, of whose records nothing is known but their fields. It imports the
schemas that the report uses and declares each record as one interface of its name with a line for each
field, and no declaration takes the name of a schema.
-/

namespace SampleTypes.TypeScript

open SampleTypes.Inference (Bare arrayOf run run_closed run_bare run_names_given run_names_distinct
  run_names_unreserved primitives)

/-- The lines between the braces of an interface. A field name cannot smuggle in a place for a
description: the place is taken out. -/
def interfaceBody (refs : Matcher String) (t : TypeDecl String) : String :=
  String.ofList (Text.replaceAll (placeholder "description") []
    (joinTexts "\n" (t.fields.map (fieldLine refs))).toList)

def interfaceBlock (refs : Matcher String) (t : TypeDecl String) : String :=
  "export interface " ++ t.name ++ " \x7b\n" ++ interfaceBody refs t ++ "\n\x7d"

theorem fieldLines_bare (refs : Matcher String) {t : TypeDecl String} (h : Bare t) :
    t.fields.flatMap (fieldLines refs) = t.fields.map (fieldLine refs) := by
  have hf : ∀ f ∈ t.fields, fieldLines refs f = [fieldLine refs f] := by
    intro f hf
    simp [fieldLines, described?, h.undescribed f hf]
  exact (List.flatMap_congr hf).trans (List.flatMap_pure_eq_map _ _)

theorem braceless_not_holds {text : String} (h : '\x7b' ∉ text.toList) (place : String) :
    ¬ Holds place text := by
  have hb : '\x7b' ∈ placeholder place := by simp [placeholder]
  exact fun hp => h (hp.subset hb)

theorem interfaceOf_bare (name fields : String) : interfaceOf "" name "" fields =
    "export interface " ++ name ++ " \x7b\n" ++ fields ++ "\n\x7d" := by
  simp [interfaceOf, interfaceBare_eq]

theorem interfaceText_bare (refs : Matcher String) {t : TypeDecl String} (h : Bare t)
    (hn : '\x7b' ∉ t.name.toList) :
    interfaceText interfaceTemplate refs t = interfaceBlock refs t := by
  have hd : t.description = none := congrArg TypeDecl.description h.fieldsOnly
  have hp : t.parents = [] := congrArg TypeDecl.parents h.fieldsOnly
  have hc : descriptionComment t = "" := by simp [descriptionComment, described?, hd]
  have he : extendsClause refs t = "" := by simp [extendsClause, hp]
  have hname (values : List (String × String)) : fill t.name values = t.name :=
    fill_none fun entry _ => braceless_not_holds hn entry.1
  have hempty (values : List (String × String)) : fill "" values = "" :=
    fill_none fun entry _ => braceless_not_holds (by simp) entry.1
  have hbody : fill (fieldsText refs t) [("description", "")] = interfaceBody refs t := by
    rw [fieldsText, fieldLines_bare refs h]
    rfl
  rw [interfaceText_filled, hc, he, hname, hempty, hbody]
  exact interfaceOf_bare _ _

theorem interfaceBlock_ne_empty (refs : Matcher String) (t : TypeDecl String) :
    interfaceBlock refs t ≠ "" := by
  intro he
  obtain ⟨-, hb⟩ := String.append_eq_empty_iff.mp he
  exact absurd hb (by decide)

/-- Of records of which only the fields are known there is one text and one file each. -/
theorem chunks_bare (refs : Matcher String) {types : List (TypeDecl String)}
    (h : ∀ t ∈ types, Bare t ∧ '\x7b' ∉ t.name.toList) :
    chunks {} refs types = types.map fun t => (t.name ++ ".ts", interfaceBlock refs t) := by
  have hc : ∀ t ∈ types, (t.name ++ ".ts", declaration interfaceTemplate refs t) =
      (t.name ++ ".ts", interfaceBlock refs t) := by
    intro t ht
    have hk : t.kind = .record := congrArg TypeDecl.kind (h t ht).1.fieldsOnly
    simp only [declaration, hk, interfaceText_bare refs (h t ht).1 (h t ht).2]
  rw [chunks, List.map_congr_left hc, List.filter_eq_self]
  intro chunk hm
  obtain ⟨t, -, rfl⟩ := List.mem_map.mp hm
  simpa using interfaceBlock_ne_empty refs t

theorem alphanum_inOnePiece {c : Char} (h : c.isAlphanum = true) :
    (Text.isBlank c = false ∧ c ≠ '|' ∧ c ≠ '[' ∧ c ≠ ']') ∧ c ≠ '\x7b' := by
  have hall := Text.ascii_forall (p := fun d => d.isAlphanum = true →
    (Text.isBlank d = false ∧ d ≠ '|' ∧ d ≠ '[' ∧ d ≠ ']') ∧ d ≠ '\x7b') (by decide) (alphanum_lt h)
  exact hall h

theorem typeName_inOnePiece {name : String} (h : IsTypeName name) : InOnePiece name :=
  fun c hc => (alphanum_inOnePiece (h.alphanum c hc)).1

theorem typeName_noPlace {name : String} (h : IsTypeName name) : '\x7b' ∉ name.toList :=
  fun hc => (alphanum_inOnePiece (h.alphanum _ hc)).2 rfl

theorem primitive_inOnePiece : ∀ name ∈ primitives, InOnePiece name := by
  have hall : ∀ name ∈ primitives, (name.toList.all fun c =>
      !Text.isBlank c && c != '|' && c != '[' && c != ']') = true := by
    decide
  intro name hn c hc
  have hk := List.all_eq_true.mp (hall name hn) c hc
  simpa [and_assoc] using hk

structure Consistent (refs : Matcher String) (types : List (TypeDecl String)) (source : Source) :
    Prop where
  imported : ∀ name, name ∈ importedNames refs types ↔
    (∃ s ∈ refs, s.name = name ∧ ∃ path, s.modulePath = some path ∧ path ≠ "") ∧
      ∃ t ∈ types, ∃ f ∈ t.fields, ∃ dimensions, f.typeRef = arrayOf name dimensions
  ordered : (importedNames refs types).Pairwise
    fun m n => (basesUsed types).idxOf m < (basesUsed types).idxOf n
  lines : ∀ s ∈ refs, ∀ path, s.modulePath = some path → path ≠ "" → importLine refs s.name =
    "import \x7b " ++ s.name ++ " \x7d from " ++ quote path ++ ";"
  code : source.code = joinTexts "\n\n" ((match importedNames refs types with
      | [] => []
      | names => [joinTexts "\n" ("// Reference type imports" :: names.map (importLine refs))]) ++
    types.map (interfaceBlock refs)) ++ "\n"
  files : source.files = types.map (·.name ++ ".ts")
  distinct : (types.map TypeDecl.name).Nodup
  unshadowed : ∀ t ∈ types, t.name ∉ refs.names

/-- Where nothing is imported, no empty part is left in the text. -/
theorem imports_part (refs : Matcher String) (types : List (TypeDecl String)) :
    (if importsText refs types = "" then [] else [importsText refs types]) =
      match importedNames refs types with
      | [] => []
      | names => [joinTexts "\n" ("// Reference type imports" :: names.map (importLine refs))] := by
  unfold importsText
  cases importedNames refs types with
  | nil => rfl
  | cons name rest => simp [joinTexts]

section

variable {α : Type} [Sampled α] {refs : Matcher String} {settings : Inference.Settings} {x : α}
  {report : Report String}

theorem run_plainFields (hr : ∀ s ∈ refs, InOnePiece s.name)
    (h : (run refs settings x).2 = .ok report) : PlainFields report.types := by
  intro t ht f hf
  obtain ⟨base, d, he, hb⟩ := (run_closed h).fields t ht f hf
  refine ⟨base, d, he, ?_⟩
  rcases hb with hp | hn | hs
  · exact primitive_inOnePiece base hp
  · obtain ⟨u, hu, rfl⟩ := List.mem_map.mp hn
    exact typeName_inOnePiece (run_names_given h hu)
  · obtain ⟨s, hm, rfl⟩ := List.mem_map.mp hs
    exact hr s hm

/-- The source text for an inferred report under the default template. -/
theorem generated_consistent (hd : refs.names.Nodup) (hr : ∀ s ∈ refs, InOnePiece s.name)
    (h : (run refs settings x).2 = .ok report) :
    Consistent refs report.types (generate {} refs report.types) := by
  have hp := run_plainFields hr h
  have hc := chunks_bare refs fun t ht =>
    ⟨run_bare h t ht, typeName_noPlace (run_names_given h ht)⟩
  constructor
  · exact fun name => mem_importedNames hd hr hp
  · exact importedNames_ordered hp
  · exact fun s hs path => importLine_of_mem hd hs
  · simp [generate, hc, imports_part, Function.comp_def]
  · simp [generate, hc, Function.comp_def]
  · exact run_names_distinct h
  · exact fun t ht => run_names_unreserved h ht

end

/-- A record with the natural name of a schema around records that the schema describes. -/
def lookalikeSample : Value :=
  .map [(.text "page", .map [(.text "no",
    .list [.list [.map [(.text "no", .scalar (.int 1))]]])])]

def pageModules : Matcher String :=
  [{ name := "Page", fields := [("no", "number")], modulePath := some "./page" }]

def lookalikeCatalog : Catalog String :=
  [{ name := "Page1", fields := [{ name := "no", typeRef := "Page[][]" }] },
    { name := "ApiResponse", fields := [{ name := "page", typeRef := "Page1" }] }]

def lookalikeReport : Report String where
  types := lookalikeCatalog.reverse
  rootType := "ApiResponse"
  source := "parser"
  timestamp := ""

theorem lookalike_run :
    (run pageModules { timestamp := "" } lookalikeSample).2 = .ok lookalikeReport := by
  have hr : (Inference.infer pageModules lookalikeSample "ApiResponse" 0
      (Inference.initialContext pageModules none)).result = .ok "ApiResponse" := by
    decide +kernel
  have hc : (Inference.infer pageModules lookalikeSample "ApiResponse" 0
      (Inference.initialContext pageModules none)).context.catalog = lookalikeCatalog := by
    decide +kernel
  have ho : orderTypes lookalikeCatalog (some "ApiResponse") = lookalikeCatalog.reverse := by
    simp [orderTypes, lookalikeCatalog, List.mergeSort, List.MergeSort.Internal.splitInTwo, rank,
      Rank.le]
  simp only [run, hr, hc, ho]
  rfl

theorem lookalike_consistent :
    pageModules.names.Nodup ∧ (∀ s ∈ pageModules, InOnePiece s.name) ∧
      (run pageModules { timestamp := "" } lookalikeSample).2 = .ok lookalikeReport ∧
      Consistent pageModules lookalikeReport.types (generate {} pageModules lookalikeReport.types)
    := by
  have hd : pageModules.names.Nodup := by decide
  have hr : ∀ s ∈ pageModules, InOnePiece s.name := by
    intro s hs
    obtain rfl := List.mem_singleton.mp hs
    exact typeName_inOnePiece ⟨'P', ['a', 'g', 'e'], rfl, rfl, List.all_eq_true.mp (by decide)⟩
  exact ⟨hd, hr, lookalike_run, generated_consistent hd hr lookalike_run⟩

example : importedNames pageModules lookalikeReport.types = ["Page"] := by decide +kernel

end SampleTypes.TypeScript
