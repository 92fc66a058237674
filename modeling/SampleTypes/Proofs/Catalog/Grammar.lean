import Mathlib.Data.List.Forall2
import Mathlib.Tactic.MkIffOfInductiveProp
import SampleTypes.Catalog.Document
import SampleTypes.Proofs.Basic

/-!
The grammar of report documents: which values stand for a report, and for which one. It is told by what
stands under a name of a mapping, whatever the order in which that is looked at. Main result: exactly the
documents of the grammar are read, each as the report it stands for, and any other is a fault.
-/

namespace SampleTypes

def kindSpellings : List (String × TypeKind) :=
  [("interface", .record), ("type", .alias), ("enum", .enumeration),
    ("record", .record), ("alias", .alias), ("enumeration", .enumeration)]

def IsNamed (j : Json) : Prop := ∃ name, j.member? "name" = some name

/-- A value that has members, or counts as false and so has none. -/
@[mk_iff]
inductive IsIterable : Json → Prop where
  | falsy {j : Json} (h : j.truthy = false) : IsIterable j
  | list (items : List Json) : IsIterable (.arr items)
  | text (s : String) : IsIterable (.str s)
  | mapping (members : List (String × Json)) : IsIterable (.obj members)

@[mk_iff]
inductive IsFieldList : Json → Prop where
  | falsy {j : Json} (h : j.truthy = false) : IsFieldList j
  | list {items : List Json} (h : ∀ item ∈ items, IsNamed item) : IsFieldList (.arr items)

@[mk_iff]
inductive IsParentList : Json → Prop where
  | falsy {j : Json} (h : j.truthy = false) : IsParentList j
  | list {items : List Json} (h : ∀ item ∈ items, item.isContainer = false) : IsParentList (.arr items)
  | text (s : String) : IsParentList (.str s)
  | mapping (members : List (String × Json)) : IsParentList (.obj members)

structure IsTypeEntry (j : Json) : Prop where
  name : IsNamed j
  kind : ∀ v, j.member? "kind" = some v → ∃ spelling ∈ kindSpellings, v = .str spelling.1
  fields : ∀ v, j.member? "fields" = some v → IsFieldList v
  alternatives : ∀ v, j.member? "values" = some v → IsIterable v
  parents : ∀ v, j.member? "extends" = some v → IsParentList v

structure IsReportDocument (d : Json) : Prop where
  types : ∃ entries, d.member? "types" = some (.arr entries) ∧ ∀ entry ∈ entries, IsTypeEntry entry
  about : ∀ v, d.member? "metadata" = some v → v.truthy = false ∨ ∃ members, v = .obj members

namespace Json

/-- The items of a list, the characters of a text, the names in a mapping. -/
def elements : Json → List Json
  | .arr items => items
  | .str s => s.toList.map fun c => .str (String.singleton c)
  | .obj members => members.map fun m => .str m.1
  | _ => []

def elementsUnder (name : String) (j : Json) : List Json := ((j.member? name).map elements).getD []

def said? (name : String) (d : Json) : Option Json := (d.member? "metadata").bind (member? name)

end Json

structure FieldOf (entry : Json) (f : Field Json) : Prop where
  name : entry.member? "name" = some f.name
  typeRef : f.typeRef = (entry.member? "type").getD (.str "unknown")
  required : f.required = ((entry.member? "required").map Json.truthy).getD true
  description : ∀ v, f.description = some v ↔ entry.member? "description" = some v ∧ v ≠ .null

structure TypeOf (entry : Json) (t : TypeDecl Json) : Prop where
  name : entry.member? "name" = some t.name
  kind : ∃ spelling, (entry.member? "kind").getD (.str "interface") = .str spelling ∧
    (spelling, t.kind) ∈ kindSpellings
  fields : List.Forall₂ FieldOf (entry.elementsUnder "fields") t.fields
  alternatives : t.alternatives = (entry.elementsUnder "values").map Json.toText
  parents : Json.distinct (entry.elementsUnder "extends") = .ok t.parents
  description : ∀ v, t.description = some v ↔ entry.member? "description" = some v ∧ v ≠ .null

structure ReportOf (d : Json) (r : Report Json) : Prop where
  types : ∃ entries, d.member? "types" = some (.arr entries) ∧ List.Forall₂ TypeOf entries r.types
  rootType : r.rootType = (d.said? "rootType").getD (.str "")
  source : r.source = (d.said? "source").getD (.str "parser")
  timestamp : r.timestamp = (d.said? "timestamp").getD (.str "")

section Values

variable {j : Json} {items : List Json} {name : String} {members : List (String × Json)}

theorem member_obj (name : String) (members : List (String × Json)) :
    (Json.obj members).member? name = valueOf? name members := rfl

theorem elements_falsy (h : j.truthy = false) : j.elements = [] := by
  cases j <;> simp_all [Json.truthy, Json.elements]

theorem iterate_eq_ok : j.iterate = .ok items ↔ IsIterable j ∧ j.elements = items := by
  unfold Json.iterate
  cases ht : j.truthy with
  | false =>
    simp only [Bool.false_eq_true, if_false, elements_falsy ht, and_iff_right (IsIterable.falsy ht)]
    exact ⟨Except.ok.inj, congrArg Except.ok⟩
  | true => cases j <;> simp [isIterable_iff, ht, Json.elements]

theorem text_not_named (s : String) : ¬ IsNamed (.str s) := nofun

/-- Neither the characters of a text nor the names in a mapping are entries, so only those without any
may stand for fields. -/
theorem isFieldList_iff_elements :
    IsFieldList j ↔ IsIterable j ∧ ∀ item ∈ j.elements, IsNamed item := by
  constructor
  · rintro (hf | h)
    · exact ⟨.falsy hf, by simp [elements_falsy hf]⟩
    · exact ⟨.list _, h⟩
  · rintro ⟨hi, hn⟩
    cases hi with
    | falsy hf => exact .falsy hf
    | list items => exact .list hn
    | text s =>
      have hs : s.toList = [] := List.eq_nil_iff_forall_not_mem.mpr fun c hc =>
        text_not_named _ (hn _ (List.mem_map_of_mem hc))
      exact .falsy (by simpa [Json.truthy] using hs)
    | mapping members =>
      have hm : members = [] := List.eq_nil_iff_forall_not_mem.mpr fun m hc =>
        text_not_named _ (hn _ (List.mem_map_of_mem hc))
      exact .falsy (by simp [Json.truthy, hm])

theorem isParentList_iff_elements :
    IsParentList j ↔ IsIterable j ∧ ∀ item ∈ j.elements, item.isContainer = false := by
  constructor
  · rintro (hf | h | s | members)
    · exact ⟨.falsy hf, by simp [elements_falsy hf]⟩
    · exact ⟨.list _, h⟩
    · refine ⟨.text s, fun item hi => ?_⟩
      obtain ⟨c, -, rfl⟩ := List.mem_map.mp hi
      rfl
    · refine ⟨.mapping members, fun item hi => ?_⟩
      obtain ⟨m, -, rfl⟩ := List.mem_map.mp hi
      rfl
  · rintro ⟨hi, hn⟩
    cases hi with
    | falsy hf => exact .falsy hf
    | list items => exact .list hn
    | text s => exact .text s
    | mapping members => exact .mapping members

theorem membersOf_eq_ok : membersOf name members = .ok items ↔
    (∀ v, valueOf? name members = some v → IsIterable v) ∧
      (Json.obj members).elementsUnder name = items := by
  rw [membersOf, Json.elementsUnder, member_obj]
  cases valueOf? name members with
  | none => simp
  | some v => simp [mapError_eq_ok, iterate_eq_ok]

theorem distinct_isOk :
    (∃ kept, Json.distinct items = .ok kept) ↔ ∀ j ∈ items, j.isContainer = false := by
  induction items with
  | nil => exact iff_of_true ⟨[], rfl⟩ nofun
  | cons j rest ih =>
    rw [List.forall_mem_cons, ← ih, Json.distinct]
    cases hc : j.isContainer with
    | true => simp
    | false => simp [map_eq_ok]

/-- Members that are all checked pass if and only if what is there has members and each may pass. -/
theorem members_checked {ε β : Type} {check : List Json → Except ε β} {P : Json → Prop}
    (hc : ∀ {items}, (∃ checked, check items = .ok checked) ↔ ∀ item ∈ items, P item) :
    (∃ items checked, membersOf name members = .ok items ∧ check items = .ok checked) ↔
      ∀ v, valueOf? name members = some v → IsIterable v ∧ ∀ item ∈ v.elements, P item := by
  simp only [exists_and_left, hc, membersOf_eq_ok, Json.elementsUnder, member_obj, and_assoc]
  cases valueOf? name members with
  | none => simp
  | some v => simp

theorem given_eq_some {v : Json} : Json.given? name members = some v ↔
    (Json.obj members).member? name = some v ∧ v ≠ .null := by
  rw [Json.given?, member_obj]
  split
  · rename_i h
    rw [h, Option.some.injEq]
    exact iff_of_false nofun fun ⟨he, hn⟩ => hn he.symm
  · rename_i hn
    constructor
    · intro h
      exact ⟨h, fun hv => hn (hv ▸ h)⟩
    · exact And.left

end Values

theorem ofName_eq_some {spelling : String} {k : TypeKind} :
    TypeKind.ofName? spelling = some k ↔ (spelling, k) ∈ kindSpellings := by
  constructor
  · intro h
    have hk := List.find?_some h
    simp only [Bool.or_eq_true, decide_eq_true_eq] at hk
    rcases hk with rfl | rfl <;> cases k <;> decide
  · intro h
    have hall : ∀ p ∈ kindSpellings, TypeKind.ofName? p.1 = some p.2 := by decide
    exact hall _ h

theorem TypeKind.decode_eq_ok {raw : Json} {k : TypeKind} : TypeKind.decode raw = .ok k ↔
    ∃ spelling, raw = .str spelling ∧ (spelling, k) ∈ kindSpellings := by
  unfold TypeKind.decode
  cases raw with
  | str s =>
    cases hs : TypeKind.ofName? s <;>
      simp [Json.isContainer, Json.str?, hs, ← ofName_eq_some]
  | _ => simp [Json.isContainer, Json.str?]

theorem Field.decode_eq_ok {entry : Json} {f : Field Json} :
    Field.decode entry = .ok f ↔ FieldOf entry f := by
  cases entry with
  | obj members =>
    rw [Field.decode]
    cases hn : valueOf? "name" members with
    | none => exact iff_of_false nofun fun h => nomatch hn.symm.trans h.name
    | some name =>
      constructor
      · intro h
        obtain rfl := Except.ok.inj h
        exact ⟨hn, rfl, rfl, fun v => given_eq_some⟩
      · intro h
        obtain rfl : name = f.name := Option.some.inj (hn.symm.trans h.name)
        have hd : Json.given? "description" members = f.description :=
          Option.ext fun v => given_eq_some.trans (h.description v).symm
        have ht : f.typeRef = (valueOf? "type" members).getD (.str "unknown") := h.typeRef
        have hr : f.required = ((valueOf? "required" members).map Json.truthy).getD true := h.required
        simp only [hd, ← ht, ← hr]
  | _ => exact iff_of_false nofun fun h => nomatch h.name

theorem Field.decode_isOk {entry : Json} : (∃ f, Field.decode entry = .ok f) ↔ IsNamed entry := by
  constructor
  · rintro ⟨f, hf⟩
    exact ⟨f.name, (Field.decode_eq_ok.mp hf).name⟩
  · rintro ⟨name, hn⟩
    cases entry with
    | obj members =>
      rw [member_obj] at hn
      exact ⟨_, by rw [Field.decode, hn]⟩
    | _ => cases hn

theorem fields_isOk {items : List Json} :
    (∃ fields, items.mapM Field.decode = .ok fields) ↔ ∀ item ∈ items, IsNamed item := by
  simp only [mapM_isOk, Field.decode_isOk]

theorem TypeDecl.decode_eq_ok {entry : Json} {t : TypeDecl Json} : TypeDecl.decode entry = .ok t ↔
    ∃ members fieldItems values parentItems, entry = .obj members ∧
      valueOf? "name" members = some t.name ∧
      TypeKind.decode ((valueOf? "kind" members).getD (.str "interface")) = .ok t.kind ∧
      membersOf "fields" members = .ok fieldItems ∧ fieldItems.mapM Field.decode = .ok t.fields ∧
      membersOf "values" members = .ok values ∧ t.alternatives = values.map Json.toText ∧
      membersOf "extends" members = .ok parentItems ∧ Json.distinct parentItems = .ok t.parents ∧
      t.description = Json.given? "description" members := by
  cases entry with
  | obj members =>
    rw [TypeDecl.decode]
    cases hn : valueOf? "name" members with
    | none =>
      refine iff_of_false nofun ?_
      rintro ⟨members', _, _, _, he, h, -⟩
      cases he
      cases hn.symm.trans h
    | some name =>
      simp only [bind_eq_ok, mapError_eq_ok]
      constructor
      · rintro ⟨kind, hk, fieldItems, hf, fields, hfs, values, hv, parentItems, hp, parents, hps, ht⟩
        obtain rfl := Except.ok.inj ht
        exact ⟨members, fieldItems, values, parentItems, rfl, hn, hk, hf, hfs, hv, rfl, hp, hps, rfl⟩
      · rintro ⟨members', fieldItems, values, parentItems, he, hname, hk, hf, hfs, hv, ha, hp, hps, hd⟩
        obtain rfl := Json.obj.inj he
        obtain rfl : name = t.name := Option.some.inj (hn.symm.trans hname)
        refine ⟨t.kind, hk, fieldItems, hf, t.fields, hfs, values, hv, parentItems, hp, t.parents, hps,
          ?_⟩
        rw [← ha, ← hd]
        rfl
  | _ =>
    refine iff_of_false nofun ?_
    rintro ⟨_, _, _, _, he, -⟩
    cases he

theorem TypeKind.decode_isOk {members : List (String × Json)} :
    (∃ k, TypeKind.decode ((valueOf? "kind" members).getD (.str "interface")) = .ok k) ↔
      ∀ v, valueOf? "kind" members = some v → ∃ spelling ∈ kindSpellings, v = .str spelling.1 := by
  cases valueOf? "kind" members with
  | none => exact iff_of_true ⟨.record, decode_eq_ok.mpr ⟨"interface", rfl, by decide⟩⟩ nofun
  | some raw =>
    simp only [Option.getD_some, decode_eq_ok, Option.some.injEq, forall_eq']
    constructor
    · rintro ⟨k, spelling, hraw, hk⟩
      exact ⟨_, hk, hraw⟩
    · rintro ⟨⟨spelling, k⟩, hk, hraw⟩
      exact ⟨k, spelling, hraw, hk⟩

theorem TypeDecl.decode_isOk {entry : Json} :
    (∃ t, TypeDecl.decode entry = .ok t) ↔ IsTypeEntry entry := by
  constructor
  · rintro ⟨t, ht⟩
    obtain ⟨members, fieldItems, values, parentItems, rfl, hname, hkind, hf, hfields, hv, -, hp,
      hparents, -⟩ := decode_eq_ok.mp ht
    exact {
      name := ⟨t.name, hname⟩
      kind := TypeKind.decode_isOk.mp ⟨t.kind, hkind⟩
      fields := fun v hm => isFieldList_iff_elements.mpr
        (members_checked fields_isOk |>.mp ⟨fieldItems, t.fields, hf, hfields⟩ v hm)
      alternatives := (membersOf_eq_ok.mp hv).1
      parents := fun v hm => isParentList_iff_elements.mpr
        (members_checked distinct_isOk |>.mp ⟨parentItems, t.parents, hp, hparents⟩ v hm) }
  · intro h
    obtain ⟨name, hname⟩ := h.name
    cases entry with
    | obj members =>
      obtain ⟨kind, hkind⟩ := TypeKind.decode_isOk.mpr h.kind
      obtain ⟨fieldItems, fields, hf, hfields⟩ := (members_checked fields_isOk).mpr fun v hm =>
        isFieldList_iff_elements.mp (h.fields v hm)
      obtain ⟨parentItems, parents, hp, hparents⟩ := (members_checked distinct_isOk).mpr fun v hm =>
        isParentList_iff_elements.mp (h.parents v hm)
      have hv := membersOf_eq_ok.mpr ⟨h.alternatives, rfl⟩
      exact ⟨⟨name, kind, fields, _, parents, _⟩, decode_eq_ok.mpr ⟨members, fieldItems, _, parentItems,
        rfl, hname, hkind, hf, hfields, hv, rfl, hp, hparents, rfl⟩⟩
    | _ => cases hname

theorem TypeDecl.typeOf_decode {entry : Json} {t : TypeDecl Json} (h : TypeDecl.decode entry = .ok t) :
    TypeOf entry t := by
  obtain ⟨members, fieldItems, values, parentItems, rfl, hname, hkind, hf, hfields, hv, halt, hp,
    hparents, hdesc⟩ := decode_eq_ok.mp h
  obtain ⟨-, rfl⟩ := membersOf_eq_ok.mp hf
  obtain ⟨-, rfl⟩ := membersOf_eq_ok.mp hv
  obtain ⟨-, rfl⟩ := membersOf_eq_ok.mp hp
  exact {
    name := hname
    kind := TypeKind.decode_eq_ok.mp hkind
    fields := (mapM_eq_ok.mp hfields).imp fun _ _ => Field.decode_eq_ok.mp
    alternatives := halt
    parents := hparents
    description := fun v => by rw [hdesc, given_eq_some] }

section Metadata

variable {members : List (String × Json)}

theorem metadataOf_isOk : (∃ entries, metadataOf members = .ok entries) ↔
    ∀ v, valueOf? "metadata" members = some v → v.truthy = false ∨ ∃ inner, v = .obj inner := by
  unfold metadataOf
  cases valueOf? "metadata" members with
  | none => simp
  | some v =>
    cases ht : v.truthy with
    | false => simp [ht]
    | true => cases v <;> simp [ht]

theorem metadataOf_said {entries : List (String × Json)} (h : metadataOf members = .ok entries)
    (name : String) : valueOf? name entries = (Json.obj members).said? name := by
  rw [Json.said?, member_obj]
  unfold metadataOf at h
  cases hm : valueOf? "metadata" members with
  | none =>
    rw [hm] at h
    obtain rfl := Except.ok.inj h
    rfl
  | some v =>
    simp only [hm] at h
    cases v with
    | obj inner =>
      cases inner with
      | nil =>
        obtain rfl := Except.ok.inj h
        rfl
      | cons m rest =>
        obtain rfl := Except.ok.inj h
        rfl
    | _ =>
      split at h
      · cases h
      · obtain rfl := Except.ok.inj h
        rfl

end Metadata

theorem Report.decode_eq_ok {d : Json} {r : Report Json} : Report.decode d = .ok r ↔
    ∃ members entries about, d = .obj members ∧ valueOf? "types" members = some (.arr entries) ∧
      entries.mapM TypeDecl.decode = .ok r.types ∧ metadataOf members = .ok about ∧
      r.rootType = (valueOf? "rootType" about).getD (.str "") ∧
      r.source = (valueOf? "source" about).getD (.str "parser") ∧
      r.timestamp = (valueOf? "timestamp" about).getD (.str "") := by
  constructor
  · intro h
    unfold Report.decode at h
    split at h
    · rename_i members
      split at h
      · rename_i entries he
        simp only [bind_eq_ok] at h
        obtain ⟨types, ht, about, ha, hr⟩ := h
        obtain rfl := Except.ok.inj hr
        exact ⟨members, entries, about, rfl, he, ht, ha, rfl, rfl, rfl⟩
      · cases h
    · cases h
  · rintro ⟨members, entries, about, rfl, he, ht, ha, hroot, hsource, htime⟩
    simp only [Report.decode, he, bind_eq_ok]
    refine ⟨r.types, ht, about, ha, ?_⟩
    rw [← hroot, ← hsource, ← htime]
    rfl

theorem Report.decode_isOk {d : Json} : (∃ r, Report.decode d = .ok r) ↔ IsReportDocument d := by
  constructor
  · rintro ⟨r, hr⟩
    obtain ⟨members, entries, about, rfl, he, ht, ha, -⟩ := decode_eq_ok.mp hr
    have hentries : ∀ entry ∈ entries, ∃ t, TypeDecl.decode entry = .ok t :=
      mapM_isOk.mp ⟨r.types, ht⟩
    exact {
      types := ⟨entries, he, fun entry hm => TypeDecl.decode_isOk.mp (hentries entry hm)⟩
      about := metadataOf_isOk.mp ⟨about, ha⟩ }
  · intro h
    obtain ⟨entries, he, hentries⟩ := h.types
    cases d with
    | obj members =>
      obtain ⟨types, ht⟩ := mapM_isOk.mpr fun entry hm => TypeDecl.decode_isOk.mpr (hentries entry hm)
      obtain ⟨about, ha⟩ := metadataOf_isOk.mpr h.about
      exact ⟨⟨types, _, _, _⟩,
        decode_eq_ok.mpr ⟨members, entries, about, rfl, he, ht, ha, rfl, rfl, rfl⟩⟩
    | _ => cases he

theorem Report.reportOf_decode {d : Json} {r : Report Json} (h : Report.decode d = .ok r) :
    ReportOf d r := by
  obtain ⟨members, entries, about, rfl, he, ht, ha, hroot, hsource, htime⟩ := decode_eq_ok.mp h
  simp only [metadataOf_said ha] at hroot hsource htime
  exact {
    types := ⟨entries, he, (mapM_eq_ok.mp ht).imp fun _ _ => TypeDecl.typeOf_decode⟩
    rootType := hroot
    source := hsource
    timestamp := htime }

/-- The documents of the grammar are read, and no others: whatever else is a fault. What is read is the
report that the document stands for, with one type for each entry and one field for each of its entries,
in their order. -/
theorem decodes_exactly_grammar (d : Json) :
    ((∃ r, Report.decode d = .ok r) ↔ IsReportDocument d) ∧
      ((∃ fault, Report.decode d = .error fault) ↔ ¬ IsReportDocument d) ∧
      ∀ r, Report.decode d = .ok r → ReportOf d r := by
  refine ⟨Report.decode_isOk, ?_, fun r => Report.reportOf_decode⟩
  rw [← Report.decode_isOk]
  cases Report.decode d with
  | ok r => simp
  | error fault => simp

/-- Texts stand for their characters, and what counts as false for nothing. -/
theorem loose_document_read : ∃ d r,
    d = Json.obj [("metadata", .int 0), ("types", .arr [.obj [("name", .str "Side"),
      ("kind", .str "enum"), ("values", .str "LR"), ("fields", .str ""), ("extends", .null)]])] ∧
    IsReportDocument d ∧ Report.decode d = .ok r ∧ ReportOf d r := by
  have hentry : IsTypeEntry (.obj [("name", .str "Side"), ("kind", .str "enum"), ("values", .str "LR"),
      ("fields", .str ""), ("extends", .null)]) := {
    name := ⟨.str "Side", rfl⟩
    kind := by simp [Json.member?, valueOf?, kindSpellings]
    fields := by simpa [Json.member?, valueOf?] using .falsy rfl
    alternatives := by simpa [Json.member?, valueOf?] using .text "LR"
    parents := by simpa [Json.member?, valueOf?] using .falsy rfl }
  have hdocument : IsReportDocument (.obj [("metadata", .int 0), ("types", .arr [_])]) := {
    types := ⟨_, rfl, List.forall_mem_singleton.mpr hentry⟩
    about := by simp [Json.member?, valueOf?, Json.truthy] }
  obtain ⟨r, hr⟩ := (decodes_exactly_grammar _).1.mpr hdocument
  exact ⟨_, r, rfl, hdocument, hr, (decodes_exactly_grammar _).2.2 r hr⟩

end SampleTypes
