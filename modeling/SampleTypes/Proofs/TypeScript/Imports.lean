import Mathlib.Data.List.Induction
import SampleTypes.Proofs.Inference.Closure
import SampleTypes.Proofs.Text.Replacement
import SampleTypes.TypeScript.Source

/-!
What is imported for types whose expressions are arrays over names in one piece: the bases of the
expressions that have a module, each once, in the order of their first use.
-/

namespace SampleTypes.TypeScript

open SampleTypes.Inference (arrayOf arrayMark)

/-- The name is not taken apart where it stands in a type expression, as no identifier is. -/
def InOnePiece (name : String) : Prop :=
  ∀ c ∈ name.toList, Text.isBlank c = false ∧ c ≠ '|' ∧ c ≠ '[' ∧ c ≠ ']'

def brackets : Nat → List Char
  | 0 => []
  | dimensions + 1 => brackets dimensions ++ ['[', ']']

theorem arrayOf_toList (base : String) (dimensions : Nat) :
    (arrayOf base dimensions).toList = base.toList ++ brackets dimensions := by
  induction dimensions with
  | zero => simp [arrayOf, brackets]
  | succ d ih => simp [arrayOf, brackets, ih, arrayMark]

theorem brackets_chars (dimensions : Nat) : ∀ c ∈ brackets dimensions, c = '[' ∨ c = ']' := by
  induction dimensions with
  | zero => simp [brackets]
  | succ d ih =>
    intro c hc
    rcases List.mem_append.mp hc with hc | hc
    · exact ih c hc
    · simpa using hc

theorem brackets_length (dimensions : Nat) : (brackets dimensions).length = 2 * dimensions := by
  induction dimensions with
  | zero => rfl
  | succ d ih => simp [brackets, ih]; omega

theorem dropArray_brackets (cs : List Char) : dropArray? (cs ++ ['[', ']']) = some cs := by
  simp [dropArray?, Text.endsWith, List.isSuffixOf_iff_suffix]

theorem dropArray_none {cs : List Char} (h : ']' ∉ cs) : dropArray? cs = none := by
  have hs : ¬ ['[', ']'] <:+ cs := fun hs => h (hs.subset (by simp))
  simp [dropArray?, Text.endsWith, List.isSuffixOf_iff_suffix, hs]

theorem dropArrays_brackets {cs : List Char} (h : ']' ∉ cs) (dimensions : Nat) {fuel : Nat}
    (hf : dimensions ≤ fuel) : dropArrays fuel (cs ++ brackets dimensions) = cs := by
  induction dimensions generalizing fuel with
  | zero => cases fuel <;> simp [brackets, dropArrays, dropArray_none h]
  | succ d ih =>
    cases fuel with
    | zero => exact absurd hf (Nat.not_succ_le_zero d)
    | succ fuel =>
      rw [brackets, ← List.append_assoc, dropArrays, dropArray_brackets]
      exact ih (Nat.le_of_succ_le_succ hf)

theorem baseNames_arrayOf {name : String} (h : InOnePiece name) (dimensions : Nat) :
    baseNames (arrayOf name dimensions) = [name] := by
  have hc : ∀ c ∈ name.toList ++ brackets dimensions, Text.isBlank c = false ∧ c ≠ '|' := by
    intro c hm
    rcases List.mem_append.mp hm with hm | hm
    · exact ⟨(h c hm).1, (h c hm).2.1⟩
    · rcases brackets_chars dimensions c hm with rfl | rfl <;> decide
  have hsplit : (name.toList ++ brackets dimensions).splitOn '|' =
      [name.toList ++ brackets dimensions] :=
    List.splitOn_eq_singleton fun hm => (hc _ hm).2 rfl
  have htrim : Text.trim (name.toList ++ brackets dimensions) =
      name.toList ++ brackets dimensions :=
    Text.trim_solid (fun c hm => (hc c (List.mem_of_mem_head? hm)).1)
      (fun c hm => (hc c (List.mem_of_mem_getLast? hm)).1)
  have hl : dimensions ≤ (name.toList ++ brackets dimensions).length := by
    rw [List.length_append, brackets_length]
    omega
  have hd := dropArrays_brackets (fun hm => (h _ hm).2.2.2 rfl) dimensions hl
  simp only [baseNames, arrayOf_toList, hsplit, List.map_cons, List.map_nil, htrim, hd,
    String.ofList_toList]

def baseOf (typeRef : String) : String :=
  String.ofList (dropArrays typeRef.length typeRef.toList)

theorem baseOf_arrayOf {name : String} (h : InOnePiece name) (dimensions : Nat) :
    baseOf (arrayOf name dimensions) = name := by
  have hl : dimensions ≤ (arrayOf name dimensions).length := by
    rw [← String.length_toList, arrayOf_toList, List.length_append, brackets_length]
    omega
  rw [baseOf, arrayOf_toList, dropArrays_brackets (fun hm => (h _ hm).2.2.2 rfl) dimensions hl,
    String.ofList_toList]

/-! Names at their first places. -/

theorem firstUses_snoc (names : List String) (name : String) :
    firstUses (names ++ [name]) =
      if name ∈ firstUses names then firstUses names else firstUses names ++ [name] := by
  rw [firstUses, List.foldl_append]
  rfl

theorem mem_firstUses {names : List String} {name : String} :
    name ∈ firstUses names ↔ name ∈ names := by
  induction names using List.reverseRecOn with
  | nil => simp [firstUses]
  | append_singleton names last ih =>
    rw [firstUses_snoc, List.mem_append, List.mem_singleton]
    by_cases hl : last ∈ firstUses names
    · rw [if_pos hl, ih]
      refine ⟨Or.inl, ?_⟩
      rintro (hn | rfl)
      · exact hn
      · exact ih.mp hl
    · rw [if_neg hl, List.mem_append, List.mem_singleton, ih]

/-- Those of the names that are asked for stand in the order in which they first appear. -/
theorem firstUses_ordered (names : List String) (p : String → Bool) :
    (firstUses (names.filter p)).Pairwise fun m n => names.idxOf m < names.idxOf n := by
  induction names using List.reverseRecOn with
  | nil => simp [firstUses]
  | append_singleton names last ih =>
    have hmem : ∀ n ∈ firstUses (names.filter p), n ∈ names :=
      fun n hn => List.mem_of_mem_filter (mem_firstUses.mp hn)
    have hold : (firstUses (names.filter p)).Pairwise
        fun m n => (names ++ [last]).idxOf m < (names ++ [last]).idxOf n := by
      refine ih.imp_of_mem fun hm hn hlt => ?_
      rwa [List.idxOf_append_of_mem (hmem _ hm), List.idxOf_append_of_mem (hmem _ hn)]
    by_cases hp : p last = true
    · rw [List.filter_append, List.filter_singleton, hp, cond_true, firstUses_snoc]
      split
      · exact hold
      · rename_i hl
        refine List.pairwise_append.mpr ⟨hold, List.pairwise_singleton _ _, ?_⟩
        intro m hm n hn
        obtain rfl := List.mem_singleton.mp hn
        have hn : n ∉ names := fun h => hl (mem_firstUses.mpr (List.mem_filter.mpr ⟨h, hp⟩))
        rw [List.idxOf_append_of_mem (hmem m hm), List.idxOf_append_of_notMem hn]
        exact Nat.lt_add_right _ (List.idxOf_lt_length_of_mem (hmem m hm))
    · simpa [List.filter_append, hp] using hold

def basesUsed (types : List (TypeDecl String)) : List String :=
  types.flatMap fun t => t.fields.map fun f => baseOf f.typeRef

/-- The types of all fields are arrays, maybe of no dimension, over names in one piece. -/
def PlainFields (types : List (TypeDecl String)) : Prop :=
  ∀ t ∈ types, ∀ f ∈ t.fields,
    ∃ base dimensions, f.typeRef = arrayOf base dimensions ∧ InOnePiece base

theorem namesUsed_plain {types : List (TypeDecl String)} (h : PlainFields types) :
    namesUsed types = basesUsed types := by
  refine List.flatMap_congr fun t ht => ?_
  have hf : ∀ f ∈ t.fields, baseNames f.typeRef = [baseOf f.typeRef] := by
    intro f hf
    obtain ⟨base, d, he, hb⟩ := h t ht f hf
    rw [he, baseNames_arrayOf hb, baseOf_arrayOf hb]
  exact (List.flatMap_congr hf).trans (List.flatMap_pure_eq_map _ _)

theorem mem_basesUsed {types : List (TypeDecl String)} (h : PlainFields types) {name : String}
    (hn : InOnePiece name) :
    name ∈ basesUsed types ↔
      ∃ t ∈ types, ∃ f ∈ t.fields, ∃ dimensions, f.typeRef = arrayOf name dimensions := by
  simp only [basesUsed, List.mem_flatMap, List.mem_map]
  refine exists_congr fun t => and_congr_right fun ht => exists_congr fun f =>
    and_congr_right fun hf => ?_
  obtain ⟨base, d, he, hb⟩ := h t ht f hf
  rw [he, baseOf_arrayOf hb]
  constructor
  · rintro rfl
    exact ⟨d, rfl⟩
  · rintro ⟨d', hd⟩
    rw [← baseOf_arrayOf hb d, hd, baseOf_arrayOf hn]

section

variable {refs : Matcher String}

/-- Where no name is given twice, each schema is found under its name. -/
theorem get_of_mem (hd : refs.names.Nodup) {schema : Schema String} (h : schema ∈ refs) :
    refs.get? schema.name = some schema := by
  cases hg : refs.get? schema.name with
  | none =>
    have hn := List.find?_eq_none.mp hg schema h
    simp at hn
  | some found =>
    have hn : found.name = schema.name := by simpa using List.find?_some hg
    have hm := List.mem_of_find?_eq_some hg
    rw [List.inj_on_of_nodup_map hd hm h hn]

theorem module_isSome (hd : refs.names.Nodup) {name : String} :
    (moduleOf? refs name).isSome = true ↔
      ∃ s ∈ refs, s.name = name ∧ ∃ path, s.modulePath = some path ∧ path ≠ "" := by
  constructor
  · intro h
    obtain ⟨path, hp⟩ := Option.isSome_iff_exists.mp h
    obtain ⟨hb, hne⟩ := Option.filter_eq_some_iff.mp hp
    obtain ⟨s, hg, hs⟩ := Option.bind_eq_some_iff.mp hb
    exact ⟨s, List.mem_of_find?_eq_some hg, by simpa using List.find?_some hg, path, hs,
      by simpa using hne⟩
  · rintro ⟨s, hs, rfl, path, hp, hne⟩
    simp [moduleOf?, get_of_mem hd hs, hp, hne]

/-- The names that are imported are those of schemas with a module that are the base of the type of
some field. -/
theorem mem_importedNames (hd : refs.names.Nodup) (hr : ∀ s ∈ refs, InOnePiece s.name)
    {types : List (TypeDecl String)} (h : PlainFields types) {name : String} :
    name ∈ importedNames refs types ↔
      (∃ s ∈ refs, s.name = name ∧ ∃ path, s.modulePath = some path ∧ path ≠ "") ∧
        ∃ t ∈ types, ∃ f ∈ t.fields, ∃ dimensions, f.typeRef = arrayOf name dimensions := by
  rw [importedNames, mem_firstUses, List.mem_filter, namesUsed_plain h, module_isSome hd, and_comm]
  refine and_congr_right ?_
  rintro ⟨s, hs, rfl, -⟩
  exact mem_basesUsed h (hr s hs)

theorem importedNames_ordered {types : List (TypeDecl String)} (h : PlainFields types) :
    (importedNames refs types).Pairwise
      fun m n => (basesUsed types).idxOf m < (basesUsed types).idxOf n := by
  rw [importedNames, namesUsed_plain h]
  exact firstUses_ordered _ _

theorem importLine_of_mem (hd : refs.names.Nodup) {schema : Schema String} (h : schema ∈ refs)
    {path : String} (hp : schema.modulePath = some path) (hne : path ≠ "") :
    importLine refs schema.name =
      "import \x7b " ++ schema.name ++ " \x7d from " ++ quote path ++ ";" := by
  simp [importLine, moduleOf?, get_of_mem hd h, hp, Option.filter, hne]

end

end SampleTypes.TypeScript
