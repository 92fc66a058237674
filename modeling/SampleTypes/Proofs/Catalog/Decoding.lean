import SampleTypes.Catalog.Document

/-!
Faults of documents. The one fault for which a document is not refused comes from what it says about
itself: where that is neither a mapping nor false, it is still asked for its entries.
-/

namespace SampleTypes

section

variable {α β : Type}

/-- The fault is none of asking a value that is no mapping for its entries. -/
def Refusable (x : Except DecodeFault α) : Prop := ∀ typeName, x ≠ .error (.misuse (.notMapping typeName))

theorem Refusable.ok (a : α) : Refusable (.ok a : Except DecodeFault α) := nofun

theorem Refusable.bind {x : Except DecodeFault α} {f : α → Except DecodeFault β} (h : Refusable x)
    (k : ∀ a, Refusable (f a)) : Refusable (x >>= f) := by
  cases x with
  | error e => exact fun n he => h n (congrArg Except.error (Except.error.inj he))
  | ok a => exact k a

theorem refusable_mapM {f : α → Except DecodeFault β} (h : ∀ x, Refusable (f x)) (xs : List α) :
    Refusable (xs.mapM f) := by
  induction xs with
  | nil => exact .ok _
  | cons x xs ih =>
    rw [List.mapM_cons]
    exact .bind (h x) fun _ => .bind ih fun _ => .ok _

end

theorem refusable_kind (raw : Json) : Refusable (TypeKind.decode raw) := by
  unfold TypeKind.decode
  split
  · nofun
  · split
    · exact .ok _
    · nofun

theorem refusable_field (raw : Json) : Refusable (Field.decode raw) := by
  unfold Field.decode
  split
  · split
    · nofun
    · exact .ok _
  · nofun

theorem refusable_members (name : String) (members : List (String × Json)) :
    Refusable (membersOf name members) := by
  unfold membersOf
  split
  · exact .ok _
  · rename_i j _
    unfold Json.iterate
    split
    · split
      · exact .ok _
      · exact .ok _
      · exact .ok _
      · nofun
    · exact .ok _

theorem refusable_distinct (parents : List Json) :
    Refusable ((Json.distinct parents).mapError .misuse) := by
  induction parents with
  | nil => exact .ok _
  | cons j rest ih =>
    unfold Json.distinct
    split
    · nofun
    · cases hd : Json.distinct rest with
      | error m =>
        rw [hd] at ih
        exact ih
      | ok more => exact .ok _

theorem refusable_type (raw : Json) : Refusable (TypeDecl.decode raw) := by
  unfold TypeDecl.decode
  split
  · split
    · nofun
    · refine .bind (refusable_kind _) fun _ => .bind (refusable_members _ _) fun _ => ?_
      refine .bind (refusable_mapM refusable_field _) fun _ => .bind (refusable_members _ _) fun _ => ?_
      exact .bind (refusable_members _ _) fun _ => .bind (refusable_distinct _) fun _ => .ok _
  · nofun

/-- A document of a report whose types can be read, but that says about itself what is no mapping. -/
inductive StrayMetadata : Json → Prop where
  | intro {members : List (String × Json)} {entries : List Json} {types : List (TypeDecl Json)}
      {about : Json} (found : valueOf? "types" members = some (.arr entries))
      (read : entries.mapM TypeDecl.decode = .ok types)
      (said : valueOf? "metadata" members = some about) (truthy : about.truthy = true)
      (stray : ∀ inner, about ≠ .obj inner) : StrayMetadata (.obj members)

theorem metadataOf_stray {members : List (String × Json)} {typeName : String} :
    metadataOf members = .error (.misuse (.notMapping typeName)) ↔
      ∃ about, valueOf? "metadata" members = some about ∧ about.truthy = true ∧
        (∀ inner, about ≠ .obj inner) ∧ about.typeName = typeName := by
  unfold metadataOf
  cases hm : valueOf? "metadata" members with
  | none => simp
  | some about =>
    cases ht : about.truthy with
    | false => simp [ht]
    | true => cases about <;> simp [ht]

/-- Of all documents those are not refused though they are no reports. -/
theorem decode_stray {j : Json} :
    (∃ typeName, Report.decode j = .error (.misuse (.notMapping typeName))) ↔ StrayMetadata j := by
  constructor
  · rintro ⟨typeName, h⟩
    unfold Report.decode at h
    split at h
    · rename_i members
      split at h
      · rename_i entries he
        cases ht : entries.mapM TypeDecl.decode with
        | error e =>
          rw [ht] at h
          obtain rfl : e = .misuse (.notMapping typeName) := Except.error.inj h
          exact absurd ht (refusable_mapM refusable_type entries typeName)
        | ok types =>
          cases hm : metadataOf members with
          | error e =>
            rw [ht, hm] at h
            obtain rfl : e = .misuse (.notMapping typeName) := Except.error.inj h
            obtain ⟨about, hs, htr, hn, -⟩ := metadataOf_stray.mp hm
            exact .intro he ht hs htr hn
          | ok about =>
            rw [ht, hm] at h
            cases h
      · cases h
    · cases h
  · rintro ⟨found, read, said, truthy, stray⟩
    obtain ⟨typeName, hm⟩ : ∃ typeName, metadataOf _ = .error (.misuse (.notMapping typeName)) :=
      ⟨_, metadataOf_stray.mpr ⟨_, said, truthy, stray, rfl⟩⟩
    refine ⟨typeName, ?_⟩
    simp only [Report.decode, found, read, hm, bind, Except.bind]

end SampleTypes
