import Mathlib.Data.List.Forall2
import SampleTypes.Catalog.Document
import SampleTypes.Proofs.Basic
import SampleTypes.Proofs.Json.RoundTrip

/-!
What the document of a report holds of it. Reading the document gives the report without what does
not apply to its kinds of types and without empty descriptions, and parents each once; the document
of that report is the same again. It has no numbers and no name twice in one object, so that its text
holds all of it.
-/

namespace SampleTypes

def Field.normalized (f : Field String) : Field String :=
  { f with description := f.description.filter (· ≠ "") }

/-- A type without alternatives if it is a record, without fields if it is none, and without empty
descriptions. -/
def TypeDecl.normalized (t : TypeDecl String) : TypeDecl String :=
  { t with
    fields := if t.kind = .record then t.fields.map Field.normalized else []
    alternatives := if t.kind = .record then [] else t.alternatives
    description := t.description.filter (· ≠ "") }

def Report.normalized (r : Report String) : Report String :=
  { r with types := r.types.map TypeDecl.normalized }

structure TypeDecl.Alike (a b : TypeDecl String) : Prop where
  parents : ∀ name, name ∈ a.parents ↔ name ∈ b.parents
  others : { a with parents := [] } = { b with parents := [] }

structure Report.Alike (a b : Report String) : Prop where
  types : List.Forall₂ TypeDecl.Alike a.types b.types
  others : { a with types := [] } = { b with types := [] }

def distinctTexts : List String → List String
  | [] => []
  | s :: rest => s :: (distinctTexts rest).filter (· ≠ s)

theorem mem_distinctTexts {texts : List String} {s : String} :
    s ∈ distinctTexts texts ↔ s ∈ texts := by
  induction texts with
  | nil => rfl
  | cons t rest ih =>
    by_cases hs : s = t
    · simp [distinctTexts, hs]
    · simp [distinctTexts, hs, ih]

theorem distinctTexts_self {texts : List String} (h : texts.Nodup) :
    distinctTexts texts = texts := by
  induction texts with
  | nil => rfl
  | cons t rest ih =>
    rw [List.nodup_cons] at h
    rw [distinctTexts, ih h.2, List.filter_eq_self.mpr]
    intro s hs
    exact decide_eq_true fun he => h.1 (he ▸ hs)

def TypeDecl.reloaded (t : TypeDecl String) : TypeDecl String :=
  { t.normalized with parents := distinctTexts (sortTexts t.parents) }

def Report.reloaded (r : Report String) : Report String :=
  { r with types := r.types.map TypeDecl.reloaded }

theorem TypeDecl.reloaded_alike (t : TypeDecl String) : t.reloaded.Alike t.normalized := by
  refine ⟨fun name => ?_, rfl⟩
  exact mem_distinctTexts.trans (sortTexts_perm t.parents).mem_iff

theorem Report.reloaded_alike (r : Report String) : r.reloaded.Alike r.normalized := by
  refine ⟨?_, rfl⟩
  simp only [Report.reloaded, Report.normalized, List.forall₂_map_left_iff,
    List.forall₂_map_right_iff, List.forall₂_same]
  exact fun t _ => t.reloaded_alike

/-! Reading the document. -/

theorem valueOf_describe {name : String} (h : name ≠ "description") (description : Option String) :
    valueOf? name (describe description) = none := by
  cases description with
  | none => rfl
  | some d =>
    by_cases hd : d = ""
    · simp [describe, Textual.truthy, hd, valueOf?]
    · simp [describe, Textual.truthy, hd, valueOf?, Ne.symm h]

theorem given_describe {members : List (String × Json)}
    (h : valueOf? "description" members = none) (description : Option String) :
    Json.given? "description" (members ++ describe description) =
      (description.filter (· ≠ "")).map Json.str := by
  rw [Json.given?, valueOf_append_none h]
  cases description with
  | none => rfl
  | some d =>
    by_cases hd : d = ""
    · simp [describe, Textual.truthy, hd, valueOf?, Option.filter]
    · simp [describe, Textual.truthy, Textual.toJson, hd, valueOf?, Option.filter]

def Field.anyText (f : Field String) : Field Json :=
  ⟨.str f.name, .str f.typeRef, f.required, f.description.map .str⟩

theorem Field.decode_toJson (f : Field String) :
    Field.decode f.toJson = .ok f.normalized.anyText := by
  have hd : Json.given? "description" ([("name", .str f.name), ("type", .str f.typeRef),
      ("required", .bool f.required)] ++ describe f.description) = _ :=
    given_describe (by simp [valueOf?]) f.description
  simp only [Field.toJson, Textual.toJson, Field.decode, hd]
  simp [valueOf?, Json.truthy, Field.normalized, Field.anyText]

theorem Json.distinct_texts (texts : List String) :
    Json.distinct (texts.map .str) = .ok ((distinctTexts texts).map .str) := by
  induction texts with
  | nil => rfl
  | cons s rest ih =>
    have hs : (fun k => !Json.sameMember (.str s) k) ∘ Json.str = fun k => decide (k ≠ s) := by
      funext k
      simp [Json.sameMember, Json.same, eq_comm]
    simp [Json.distinct, Json.isContainer, ih, Except.map, distinctTexts, List.filter_map, hs]

theorem TypeKind.decode_keyword (kind : TypeKind) :
    TypeKind.decode (.str kind.keyword) = .ok kind := by
  cases kind <;> rfl

theorem membersOf_arr {name : String} {members : List (String × Json)} {items : List Json}
    (h : valueOf? name members = some (.arr items)) : membersOf name members = .ok items := by
  rw [membersOf, h]
  cases items <;> rfl

theorem membersOf_none {name : String} {members : List (String × Json)}
    (h : valueOf? name members = none) : membersOf name members = .ok [] := by
  rw [membersOf, h]

theorem mapM_ok {α β ε : Type} {f : α → Except ε β} {g : α → β} (h : ∀ x, f x = .ok (g x))
    (xs : List α) : xs.mapM f = .ok (xs.map g) := by
  obtain rfl : f = fun x => pure (g x) := funext h
  exact List.mapM_pure

def TypeDecl.members (t : TypeDecl String) : List (String × Json) :=
  [("name", .str t.name), ("kind", .str t.kind.keyword)] ++
    (if t.kind = .record then [("fields", .arr (t.fields.map Field.toJson))]
      else [("values", .arr (t.alternatives.map .str))]) ++
    (if t.parents.isEmpty then [] else [("extends", .arr ((sortTexts t.parents).map .str))]) ++
    describe t.description

section

variable (t : TypeDecl String)

theorem TypeDecl.members_fields : membersOf "fields" t.members =
    .ok (if t.kind = .record then t.fields.map Field.toJson else []) := by
  by_cases hk : t.kind = .record
  · rw [if_pos hk]
    exact membersOf_arr (by simp [TypeDecl.members, hk, valueOf?])
  · rw [if_neg hk]
    cases hp : t.parents.isEmpty <;>
      exact membersOf_none (by simp [TypeDecl.members, hk, hp, valueOf?, valueOf_describe])

theorem TypeDecl.members_values : membersOf "values" t.members =
    .ok (if t.kind = .record then [] else t.alternatives.map .str) := by
  by_cases hk : t.kind = .record
  · rw [if_pos hk]
    cases hp : t.parents.isEmpty <;>
      exact membersOf_none (by simp [TypeDecl.members, hk, hp, valueOf?, valueOf_describe])
  · rw [if_neg hk]
    exact membersOf_arr (by simp [TypeDecl.members, hk, valueOf?])

theorem TypeDecl.members_extends : membersOf "extends" t.members =
    .ok ((sortTexts t.parents).map .str) := by
  cases hp : t.parents with
  | nil =>
    simp only [sortTexts, List.mergeSort_nil, List.map_nil]
    refine membersOf_none ?_
    by_cases hk : t.kind = .record <;>
      simp [TypeDecl.members, hk, hp, valueOf?, valueOf_describe]
  | cons name rest =>
    refine membersOf_arr ?_
    by_cases hk : t.kind = .record <;> simp [TypeDecl.members, hk, hp, valueOf?]

theorem TypeDecl.decode_toJson :
    TypeDecl.decode t.toJson = .ok (t.reloaded.map .str) := by
  have hm : t.toJson = .obj t.members := rfl
  have hname : valueOf? "name" t.members = some (.str t.name) := by
    simp [TypeDecl.members, valueOf?]
  have hkind : valueOf? "kind" t.members = some (.str t.kind.keyword) := by
    simp [TypeDecl.members, valueOf?]
  have hdesc : Json.given? "description" t.members = (t.description.filter (· ≠ "")).map .str := by
    refine given_describe ?_ _
    by_cases hk : t.kind = .record <;> cases hp : t.parents.isEmpty <;> simp [valueOf?, hk]
  have hfields : (if t.kind = .record then t.fields.map Field.toJson else []).mapM Field.decode =
      .ok (t.normalized.fields.map Field.anyText) := by
    by_cases hk : t.kind = .record
    · rw [if_pos hk, List.mapM_map, mapM_ok fun f => f.decode_toJson]
      simp [TypeDecl.normalized, hk]
    · simp [TypeDecl.normalized, hk, pure, Except.pure]
  have hvalues : (if t.kind = .record then [] else t.alternatives.map Json.str).map Json.toText =
      t.normalized.alternatives := by
    by_cases hk : t.kind = .record
    · simp [TypeDecl.normalized, hk]
    · have ht : Json.toText ∘ Json.str = id := funext fun _ => rfl
      simp [TypeDecl.normalized, hk, ht]
  have hparents : Json.distinct ((sortTexts t.parents).map .str) = _ := Json.distinct_texts _
  simp only [hm, TypeDecl.decode, hname, hkind, hdesc, Option.getD_some, TypeKind.decode_keyword,
    t.members_fields, t.members_values, t.members_extends, hparents, bind, Except.bind,
    Except.mapError, pure, Except.pure, hfields, hvalues]
  rfl

theorem Report.decode_toJson (r : Report String) :
    Report.decode r.toJson = .ok (r.reloaded.map .str) := by
  have ht : (r.types.map TypeDecl.toJson).mapM TypeDecl.decode =
      .ok ((r.types.map TypeDecl.reloaded).map (TypeDecl.map .str)) := by
    rw [List.mapM_map, mapM_ok fun t => t.decode_toJson]
    simp
  simp only [Report.toJson, Report.decode, valueOf?, if_true, ht, bind, Except.bind]
  rfl

/-! The document of what has been read. -/

theorem Json.sort_texts (texts : List String) :
    Json.sort? (texts.map .str) = some ((sortTexts texts).map .str) := by
  by_cases hl : (texts.map Json.str).length ≤ 1
  · rw [Json.sort?, if_pos hl]
    match texts, hl with
    | [], _ => simp [sortTexts]
    | [s], _ => simp [sortTexts]
  · have hs : (texts.map Json.str).mapM Json.str? = some texts := by
      rw [List.mapM_map]
      exact (List.mapM_pure (f := id)).trans (by simp)
    rw [Json.sort?, if_neg hl, hs]

theorem describe_texts (description : Option String) :
    describe ((description.filter (· ≠ "")).map Json.str) = describe description := by
  cases description with
  | none => rfl
  | some d =>
    by_cases hd : d = ""
    · simp [describe, Textual.truthy, hd, Option.filter]
    · simp [describe, Textual.truthy, Textual.toJson, Json.truthy, hd, Option.filter]

theorem Field.toJson_anyText (f : Field String) : f.normalized.anyText.toJson = f.toJson := by
  simp only [Field.toJson, Field.anyText, Field.normalized, describe_texts]
  rfl

theorem TypeDecl.reloaded_parents {t : TypeDecl String} (h : t.parents.Nodup) :
    t.reloaded.parents = sortTexts t.parents :=
  distinctTexts_self ((sortTexts_perm t.parents).nodup_iff.mpr h)

theorem TypeDecl.toJson_reloaded {t : TypeDecl String} (h : t.parents.Nodup) :
    (t.reloaded.map Json.str).toJson = t.toJson := by
  have hfields : t.kind = .record →
      (t.reloaded.map Json.str).fields.map Field.toJson = t.fields.map Field.toJson := by
    intro hk
    have hf : (t.reloaded.map Json.str).fields = t.fields.map fun f => f.normalized.anyText := by
      simp [TypeDecl.map, TypeDecl.reloaded, TypeDecl.normalized, hk, Field.anyText]
    rw [hf, List.map_map]
    exact List.map_congr_left fun f _ => f.toJson_anyText
  have hvalues : t.kind ≠ .record → (t.reloaded.map Json.str).alternatives = t.alternatives := by
    intro hk
    simp [TypeDecl.map, TypeDecl.reloaded, TypeDecl.normalized, hk]
  have hparents : (t.reloaded.map Json.str).parents = (sortTexts t.parents).map .str :=
    congrArg (List.map Json.str) (TypeDecl.reloaded_parents h)
  have hsort : Textual.sort ((sortTexts t.parents).map Json.str) =
      (sortTexts t.parents).map Json.str := by
    show (Json.sort? _).getD _ = _
    rw [Json.sort_texts, sortTexts_sortTexts, Option.getD_some]
  have hempty : ((sortTexts t.parents).map Json.str).isEmpty = t.parents.isEmpty := by
    rw [List.isEmpty_map, Bool.eq_iff_iff, List.isEmpty_iff, List.isEmpty_iff]
    exact ⟨fun he => List.perm_nil.mp (he ▸ (sortTexts_perm t.parents).symm),
      fun he => by rw [he]; exact List.mergeSort_nil⟩
  have hdesc : describe (t.reloaded.map Json.str).description = describe t.description :=
    describe_texts t.description
  have hid : ∀ texts : List String, (texts.map Json.str).map Textual.toJson =
      texts.map Textual.toJson := fun texts => List.map_map
  have hkind : (t.reloaded.map Json.str).kind = t.kind := rfl
  by_cases hk : t.kind = .record
  · simp only [TypeDecl.toJson, hkind, if_pos hk, hfields hk, hparents, hempty, hsort, hdesc, hid]
    rfl
  · simp only [TypeDecl.toJson, hkind, if_neg hk, hvalues hk, hparents, hempty, hsort, hdesc, hid]
    rfl

/-- Parents that are texts have an order, so what has been read can be written. -/
theorem TypeDecl.sortedParents_texts (t : TypeDecl String) :
    (t.map Json.str).sortedParents = .ok ((sortTexts t.parents).map .str) := by
  simp only [TypeDecl.sortedParents, TypeDecl.map, Json.sort_texts]

theorem Report.sortable (r : Report String) :
    (r.map Json.str).types.mapM TypeDecl.sortedParents =
      .ok (r.types.map fun t => (sortTexts t.parents).map .str) := by
  show (r.types.map (TypeDecl.map Json.str)).mapM TypeDecl.sortedParents = _
  rw [List.mapM_map]
  exact mapM_ok (fun t => t.sortedParents_texts) r.types

theorem Report.encode_reloaded {r : Report String} (h : ∀ t ∈ r.types, t.parents.Nodup) :
    (r.reloaded.map Json.str).encode = .ok r.toJson := by
  have ht : (r.reloaded.map Json.str).types.map TypeDecl.toJson = r.types.map TypeDecl.toJson := by
    simp only [Report.map, Report.reloaded, List.map_map]
    exact List.map_congr_left fun t hm => TypeDecl.toJson_reloaded (h t hm)
  rw [Report.encode, Report.sortable, Report.toJson, ht]
  rfl

end

open Json (Plain)

theorem describe_cases (description : Option String) :
    describe description = [] ∨ ∃ d, describe description = [("description", .str d)] := by
  cases description with
  | none => exact Or.inl rfl
  | some d =>
    by_cases hd : d = ""
    · exact Or.inl (by simp [describe, Textual.truthy, hd])
    · exact Or.inr ⟨d, by simp [describe, Textual.truthy, Textual.toJson, hd]⟩

theorem Field.toJson_plain (f : Field String) : Plain f.toJson := by
  rcases describe_cases f.description with hd | ⟨d, hd⟩ <;>
    exact .obj (by simp [hd]) (by simp [hd, Textual.toJson, Plain.str, Plain.bool])

theorem texts_plain (texts : List String) : Plain (.arr (texts.map .str)) := by
  refine .arr fun j hj => ?_
  obtain ⟨s, -, rfl⟩ := List.mem_map.mp hj
  exact .str s

theorem fields_plain (fields : List (Field String)) :
    Plain (.arr (fields.map Field.toJson)) := by
  refine .arr fun j hj => ?_
  obtain ⟨f, -, rfl⟩ := List.mem_map.mp hj
  exact f.toJson_plain

theorem TypeDecl.toJson_plain (t : TypeDecl String) : Plain t.toJson := by
  show Plain (.obj t.members)
  by_cases hk : t.kind = .record <;> cases hp : t.parents.isEmpty <;>
    rcases describe_cases t.description with hd | ⟨d, hd⟩ <;>
    exact .obj (by simp [TypeDecl.members, hk, hp, hd])
      (by simp [TypeDecl.members, hk, hp, hd, Plain.str, texts_plain, fields_plain])

theorem Report.toJson_plain (r : Report String) : Plain r.toJson := by
  have ht : Plain (.arr (r.types.map TypeDecl.toJson)) := by
    refine .arr fun j hj => ?_
    obtain ⟨t, -, rfl⟩ := List.mem_map.mp hj
    exact t.toJson_plain
  have hm : Plain (.obj [("source", .str r.source), ("timestamp", .str r.timestamp),
      ("rootType", .str r.rootType)]) := .obj (by simp) (by simp [Plain.str])
  exact .obj (by simp) (by simp [ht, hm, Textual.toJson])

theorem Report.toJsonText_toList (r : Report String) (indent : Option Nat) :
    (r.toJsonText indent).toList = Json.write indent 0 r.toJson :=
  String.toList_ofList

theorem Report.toJsonText_printed (r : Report String) (indent : Option Nat) :
    Json.Printed (r.toJsonText indent).toList := by
  rw [r.toJsonText_toList]
  exact r.toJson_plain.printed indent 0

/-- The text of a document is loaded as the report that the document is read as. -/
theorem Report.load_toJsonText (r : Report String) (indent : Option Nat) :
    Report.load (r.toJsonText indent).toList = .ok (r.reloaded.map .str) := by
  rw [r.toJsonText_toList]
  simp only [Report.load, r.toJson_plain.read_write indent, r.decode_toJson]
  rfl

end SampleTypes
