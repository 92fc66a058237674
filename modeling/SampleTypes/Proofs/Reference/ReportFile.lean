import SampleTypes.Proofs.Catalog.Reloading
import SampleTypes.Proofs.Yaml.Sampling
import SampleTypes.Reference.Load

/-!
A report where reference schemas are wanted. Its document is YAML too, but the entry `types` is a list
and no schema, so that no schemas are loaded from it.
-/

namespace SampleTypes

open Yaml (Terse)

theorem describe_terse (description : Option String) :
    ∀ m ∈ describe description, Yaml.IsShortWord m.1 ∧ Terse m.2 := by
  rcases describe_cases description with hd | ⟨d, hd⟩
  · simp [hd]
  · rw [hd]
    exact List.forall_mem_singleton.mpr ⟨(by decide : Yaml.IsShortWord "description"), .str d⟩

/-- An object whose members have short words for names and are terse. -/
theorem terse_obj {members : List (String × Json)}
    (h : ∀ m ∈ members, Yaml.IsShortWord m.1 ∧ Terse m.2) : Terse (.obj members) :=
  .obj (fun m hm => (h m hm).1) fun m hm => (h m hm).2

theorem terse_arr {α : Type} {f : α → Json} (hf : ∀ x, Terse (f x)) (xs : List α) :
    Terse (.arr (xs.map f)) :=
  .arr (List.forall_mem_map.mpr fun x _ => hf x)

theorem Field.toJson_terse (f : Field String) : Terse f.toJson := by
  refine terse_obj (List.forall_mem_append.mpr ⟨?_, describe_terse f.description⟩)
  simp only [List.forall_mem_cons]
  exact ⟨⟨by decide, .str _⟩, ⟨by decide, .str _⟩, ⟨by decide, .bool _⟩, nofun⟩

theorem TypeDecl.toJson_terse (t : TypeDecl String) : Terse t.toJson := by
  refine terse_obj (List.forall_mem_append.mpr ⟨List.forall_mem_append.mpr
    ⟨List.forall_mem_append.mpr ⟨?_, ?_⟩, ?_⟩, describe_terse t.description⟩)
  · simp only [List.forall_mem_cons]
    exact ⟨⟨by decide, .str _⟩, ⟨by decide, .str _⟩, nofun⟩
  · split
    · exact List.forall_mem_singleton.mpr
        ⟨(by decide : Yaml.IsShortWord "fields"), terse_arr Field.toJson_terse _⟩
    · exact List.forall_mem_singleton.mpr
        ⟨(by decide : Yaml.IsShortWord "values"), terse_arr .str _⟩
  · split
    · nofun
    · exact List.forall_mem_singleton.mpr
        ⟨(by decide : Yaml.IsShortWord "extends"), terse_arr .str _⟩

theorem Report.toJson_terse (r : Report String) : Terse r.toJson := by
  refine terse_obj ?_
  simp only [List.forall_mem_cons]
  refine ⟨⟨by decide, terse_arr TypeDecl.toJson_terse _⟩, ⟨by decide, terse_obj ?_⟩, nofun⟩
  simp only [List.forall_mem_cons]
  exact ⟨⟨by decide, .str _⟩, ⟨by decide, .str _⟩, ⟨by decide, .str _⟩, nofun⟩

namespace Reference

/-- Read as YAML, the document of a report has a list where a schema would be. -/
theorem read_report (r : Report String) {indent : Option Nat} {timestamps : Bool} {place : Place}
    (h : Yaml.read timestamps (Text.encodeUtf8 (r.toJsonText indent).toList) = .ok place) :
    ∃ types metadata : Place,
      Sampled.layer place = .record [(.text "types", types), (.text "metadata", metadata)] ∧
      record? types = none := by
  have hin : Yaml.Input.ofBytes (Text.encodeUtf8 (r.toJsonText indent).toList) =
      ⟨Json.write indent 0 r.toJson, none⟩ := by
    rw [Yaml.Input.ofBytes_printed (r.toJsonText_printed indent), r.toJsonText_toList]
  rw [Yaml.read, hin] at h
  cases hd : Yaml.Document.read? timestamps ⟨Json.write indent 0 r.toJson, none⟩ with
  | error e =>
    rw [hd] at h
    cases h
  | ok d =>
    rw [hd] at h
    obtain ⟨doc, rfl, houtline⟩ := Yaml.Document.read_write r.toJson_terse rfl hd
    have hnames : ([("types", .sequence), ("metadata", .mapping)] :
        List (String × Yaml.Shape)).map Prod.fst |>.Nodup := by decide
    obtain ⟨parts, hlayer, hparts⟩ := Yaml.Document.sample_record hnames houtline h
    cases hparts with
    | @cons t _ parts _ ht hparts =>
    cases hparts with
    | @cons m _ parts _ hm hparts =>
    cases hparts
    obtain ⟨tname, types⟩ := t
    obtain ⟨mname, metadata⟩ := m
    obtain ⟨rfl, hlist⟩ := ht
    obtain ⟨rfl, -⟩ := hm
    refine ⟨types, metadata, hlayer, ?_⟩
    unfold record?
    split
    · rename_i entries he
      exact absurd he (hlist rfl entries)
    · rfl

theorem load_rejected (name : String) {bytes : List UInt8}
    (h : ∀ doc, Yaml.read true bytes = .ok doc → ∃ e, (parse doc).2 = .error e)
    (schemas : Matcher Value) : (load name bytes).2 ≠ .ok schemas := by
  unfold load
  split
  · nofun
  · rename_i doc hr
    obtain ⟨e, he⟩ := h doc hr
    split
    · nofun
    · rename_i log found hp
      rw [hp] at he
      cases he

theorem not_loaded_report (name : String) (r : Report String) (indent : Option Nat)
    (schemas : Matcher Value) :
    (load name (Text.encodeUtf8 (r.toJsonText indent).toList)).2 ≠ .ok schemas := by
  refine load_rejected name (fun place hr => ⟨.schemaNotMapping (.text "types"), ?_⟩) schemas
  obtain ⟨types, metadata, hlayer, htypes⟩ := read_report r hr
  have hnone : underText? "references" [(.text "types", types), (.text "metadata", metadata)] =
      none := by
    simp [underText?]
  have hschema : schemaOf false (.text "types") types = .error (.schemaNotMapping (.text "types")) := by
    rw [schemaOf, htypes]
    rfl
  simp only [parse, hlayer, hnone, Option.bind_none, schemasOf, hschema]

end Reference

end SampleTypes
