import SampleTypes.Documentation.Card
import SampleTypes.Proofs.TypeScript.PlainReading
import SampleTypes.Sample

/-!
What the example of a type expression illustrates. Brackets are taken off the end of a whole expression
before it is cut at its bars, so the brackets of the last member come to stand around the example of the
first one. Main result: the example is that of the first member under the arrays of the first and, where
there are several, of the last; and when it is a value of one of the members.
-/

namespace SampleTypes.Documentation

open TypeScript (Part Writes partsOf)

def IsOfBase (base : String) (j : Json) : Prop :=
  if base = "string" then ∃ s, j = .str s
  else if base = "number" then (∃ n, j = .int n) ∨ ∃ x, j = .float x
  else if base = "boolean" then ∃ b, j = .bool b
  else if base = "Date" then ∃ s, j = .str s ∧ isTemporal s = true
  else j = .null

def IsNested (inner : Json → Prop) : Nat → Json → Prop
  | 0, j => inner j
  | dimensions + 1, j => ∃ items, j = .arr items ∧ ∀ item ∈ items, IsNested inner dimensions item

def IsOfPart (p : Part) (j : Json) : Prop := IsNested (IsOfBase p.base) p.dimensions j

def outerDimensions (rest : List Part) : Nat := (rest.getLast?.map Part.dimensions).getD 0

theorem bareExample_isOfBase (base : String) : IsOfBase base (bareExample base) := by
  unfold IsOfBase bareExample
  split_ifs
  · exact ⟨_, rfl⟩
  · exact .inl ⟨_, rfl⟩
  · exact ⟨_, rfl⟩
  · exact ⟨_, rfl, by decide +kernel⟩
  · rfl

theorem bareExample_not_list (base : String) (items : List Json) : bareExample base ≠ .arr items := by
  unfold bareExample
  split_ifs <;> exact Json.noConfusion

theorem list_not_ofBase (base : String) (items : List Json) : ¬ IsOfBase base (.arr items) := by
  unfold IsOfBase
  split_ifs <;> simp

/-- A value that is no list is nested as deeply as there are lists put around it. -/
theorem isNested_arrays {inner : Json → Prop} {j : Json} (hi : ∀ items, ¬ inner (.arr items))
    (hj : ∀ items, j ≠ .arr items) {d e : Nat} :
    IsNested inner d (exampleReading.arrays j e) ↔ d = e ∧ inner j := by
  induction d generalizing e with
  | zero =>
    cases e with
    | zero => simp [IsNested, TypeScript.Reading.arrays]
    | succ e => simp [IsNested, TypeScript.Reading.arrays, exampleReading, hi]
  | succ d ih =>
    cases e with
    | zero => simp [IsNested, TypeScript.Reading.arrays, hj]
    | succ e =>
      have hlist : exampleReading.arrays j (e + 1) = .arr [exampleReading.arrays j e] := rfl
      simp [hlist, IsNested, ih]

theorem isOfPart_example {p : Part} {base : String} {dimensions : Nat} :
    IsOfPart p (exampleReading.arrays (bareExample base) dimensions) ↔
      p.dimensions = dimensions ∧ IsOfBase p.base (bareExample base) :=
  isNested_arrays (list_not_ofBase p.base) (bareExample_not_list base)

theorem exampleReading_knowsNone : exampleReading.KnowsNone := fun _ => rfl

theorem exampleReading_readAs (p : Part) :
    exampleReading.readAs p = exampleReading.arrays (bareExample p.base) p.dimensions := rfl

theorem exampleValue_parts {typeRef : String} {first : Part} {rest : List Part}
    (h : TypeScript.parts typeRef = first :: rest) : exampleValue typeRef =
      exampleReading.arrays (bareExample first.base) (first.dimensions + outerDimensions rest) := by
  have hf : typeRef.toList.length < typeRef.length + 1 := Nat.lt_succ_self _
  have hp : partsOf typeRef.toList = first :: rest := h
  rcases List.eq_nil_or_concat rest with rfl | ⟨mid, last, rfl⟩
  · have hb := TypeScript.bar_not_mem_of_single hp
    rw [TypeScript.partsOf_single hb] at hp
    obtain rfl := List.singleton_inj.mp hp
    rw [exampleValue, TypeScript.Reading.read, exampleReading_knowsNone.single hf hb]
    exact exampleReading_readAs _
  · rw [List.concat_eq_append] at hp ⊢
    rw [exampleValue, TypeScript.Reading.read,
      exampleReading_knowsNone.several hf (List.cons_ne_nil first mid) hp, outerDimensions,
      List.getLast?_concat, Option.map_some, Option.getD_some, ← TypeScript.Reading.arrays_add]
    exact congrArg (exampleReading.arrays · last.dimensions) (exampleReading_readAs first)

/-- The example is of the first member, under the arrays of the first and, if there are more, of the last.
So it is a value of a member if the last has no brackets; otherwise only if another member happens to
have so many and a base with the same values. -/
theorem example_of_union {texts : List String} {first : Part} {rest : List Part}
    (h : List.Forall₂ Writes texts (first :: rest)) :
    exampleValue (joinTexts "|" texts) =
        exampleReading.arrays (bareExample first.base) (first.dimensions + outerDimensions rest) ∧
      ((∃ p ∈ first :: rest, IsOfPart p (exampleValue (joinTexts "|" texts))) ↔
        outerDimensions rest = 0 ∨ ∃ p ∈ rest,
          p.dimensions = first.dimensions + outerDimensions rest ∧
            IsOfBase p.base (bareExample first.base)) := by
  have hne : texts ≠ [] := by
    rintro rfl
    cases h
  have hv := exampleValue_parts (TypeScript.parts_joined hne h)
  refine ⟨hv, ?_⟩
  simp only [hv, isOfPart_example, List.mem_cons, or_and_right, exists_or, exists_eq_left]
  have hfirst : first.dimensions = first.dimensions + outerDimensions rest ↔
      outerDimensions rest = 0 := by omega
  rw [hfirst, and_iff_left (bareExample_isOfBase first.base)]

theorem nested_times_shown :
    List.Forall₂ Writes ["Date", " boolean[] ", " string[][]"]
      [⟨"Date", 0⟩, ⟨"boolean", 1⟩, ⟨"string", 2⟩] ∧
    exampleValue "Date| boolean[] | string[][]" = .arr [.arr [.str "2024-01-01T00:00:00.000Z"]] ∧
    ∃ p ∈ [⟨"Date", 0⟩, ⟨"boolean", 1⟩, (⟨"string", 2⟩ : Part)],
      IsOfPart p (exampleValue "Date| boolean[] | string[][]") := by
  have hw : List.Forall₂ Writes ["Date", " boolean[] ", " string[][]"]
      [⟨"Date", 0⟩, ⟨"boolean", 1⟩, ⟨"string", 2⟩] :=
    .cons ⟨by decide, by decide⟩ (.cons ⟨by decide, by decide⟩ (.cons ⟨by decide, by decide⟩ .nil))
  obtain ⟨hv, hmember⟩ := example_of_union hw
  refine ⟨hw, hv, hmember.mpr (.inr ⟨⟨"string", 2⟩, by decide, rfl, ?_⟩)⟩
  exact ⟨_, rfl⟩

/-- The brackets of the second member are put around the example of the first, so that the value is
neither a number nor a list of texts. -/
theorem numbers_listed : List.Forall₂ Writes ["number ", " string[]"] [⟨"number", 0⟩, ⟨"string", 1⟩] ∧
    exampleValue "number | string[]" = .arr [.int 0] ∧
    ¬ ∃ p ∈ [⟨"number", 0⟩, (⟨"string", 1⟩ : Part)], IsOfPart p (exampleValue "number | string[]") := by
  have hw : List.Forall₂ Writes ["number ", " string[]"] [⟨"number", 0⟩, ⟨"string", 1⟩] :=
    .cons ⟨by decide, by decide⟩ (.cons ⟨by decide, by decide⟩ .nil)
  have hv : exampleValue "number | string[]" = exampleReading.arrays (bareExample "number") 1 :=
    exampleValue_parts (TypeScript.parts_joined (List.cons_ne_nil _ _) hw)
  refine ⟨hw, hv, ?_⟩
  rintro ⟨p, hp, hpart⟩
  rw [hv, isOfPart_example] at hpart
  obtain ⟨hd, hbase⟩ := hpart
  rcases List.mem_pair.mp hp with rfl | rfl
  · exact absurd hd (by decide)
  · obtain ⟨s, hs⟩ : ∃ s, bareExample "number" = .str s := hbase
    exact Json.noConfusion hs

end SampleTypes.Documentation
