import Mathlib.Data.List.Forall2
import SampleTypes.Proofs.Text.Cutting
import SampleTypes.Proofs.TypeScript.Imports

/-!
Type expressions read part by part. A reader takes brackets off the end of a whole expression before
it looks for bars, and asks at every depth whether it knows the name. Where no known name has a bar or
brackets at its end, this comes to the same as cutting the expression at its bars first and reading
each part as a base under so many arrays.
-/

namespace SampleTypes.TypeScript

open SampleTypes.Inference (arrayOf)

theorem dropArray_eq_some {cs inner : List Char} :
    dropArray? cs = some inner ↔ cs = inner ++ ['[', ']'] := by
  constructor
  · intro h
    by_cases hs : ['[', ']'] <:+ cs
    · obtain ⟨front, rfl⟩ := hs
      rw [dropArray_brackets] at h
      rw [Option.some.inj h]
    · simp [dropArray?, Text.endsWith, List.isSuffixOf_iff_suffix, hs] at h
  · rintro rfl
    exact dropArray_brackets inner

theorem dropArray_eq_none {cs : List Char} : dropArray? cs = none ↔ ¬ ['[', ']'] <:+ cs := by
  simp [dropArray?, Text.endsWith, List.isSuffixOf_iff_suffix]

theorem bar_not_mem_blanks {blanks : List Char} (h : ∀ c ∈ blanks, Text.isBlank c = true) :
    '|' ∉ blanks := by
  intro hm
  exact absurd (h _ hm) (by decide)

theorem bar_mem_trim {cs : List Char} : '|' ∈ Text.trim cs ↔ '|' ∈ cs := by
  obtain ⟨before, after, he, hb, ha⟩ := Text.trim_cut cs
  conv_rhs => rw [he]
  simp [bar_not_mem_blanks hb, bar_not_mem_blanks ha]

structure Part where
  base : String
  dimensions : Nat
  deriving DecidableEq, Repr

/-- What is left of a text that is read from its end, without the blanks and the pairs of brackets
there; and the number of pairs. -/
def peel : List Char → List Char × Nat
  | [] => ([], 0)
  | [c] => if Text.isBlank c then ([], 0) else ([c], 0)
  | c :: d :: rest =>
    if c = ']' ∧ d = '[' then ((peel rest).1, (peel rest).2 + 1)
    else if Text.isBlank c then peel (d :: rest)
    else (c :: d :: rest, 0)

def partOf (cs : List Char) : Part where
  base := String.ofList (Text.trimStart (peel cs.reverse).1.reverse)
  dimensions := (peel cs.reverse).2

def parts (typeRef : String) : List Part := (typeRef.toList.splitOn '|').map partOf

theorem peel_pair (cs : List Char) : peel (']' :: '[' :: cs) = ((peel cs).1, (peel cs).2 + 1) := by
  rw [peel, if_pos ⟨rfl, rfl⟩]

theorem peel_blank {c : Char} (h : Text.isBlank c = true) (cs : List Char) :
    peel (c :: cs) = peel cs := by
  have hc : c ≠ ']' := by
    rintro rfl
    exact absurd h (by decide)
  cases cs with
  | nil => simp only [peel, h, if_true]
  | cons d rest => rw [peel, if_neg fun hp => hc hp.1, if_pos h]

theorem peel_solid {c : Char} {cs : List Char} (h : Text.isBlank c = false)
    (hb : ¬ [']', '['] <+: c :: cs) : peel (c :: cs) = (c :: cs, 0) := by
  have hn : ¬ Text.isBlank c = true := by simp [h]
  cases cs with
  | nil => rw [peel, if_neg hn]
  | cons d rest =>
    have hp : ¬ (c = ']' ∧ d = '[') := by
      rintro ⟨rfl, rfl⟩
      exact hb (by simp)
    rw [peel, if_neg hp, if_neg hn]

/-- A blank at the far end is left over with the base, if anything is left over. -/
theorem peel_blank_last {c : Char} (h : Text.isBlank c = true) (cs : List Char) :
    peel (cs ++ [c]) = peel cs ∨
      (peel (cs ++ [c])).1 = (peel cs).1 ++ [c] ∧ (peel (cs ++ [c])).2 = (peel cs).2 := by
  have hc : c ≠ '[' := by
    rintro rfl
    exact absurd h (by decide)
  fun_induction peel cs with
  | case1 => exact .inl (peel_blank h [])
  | case2 d hd => exact .inl (by rw [List.singleton_append, peel_blank hd, peel_blank h, peel])
  | case3 d hd =>
    right
    rw [List.singleton_append, peel_solid (by simpa using hd) (by simp [Ne.symm hc])]
    exact ⟨rfl, rfl⟩
  | case4 d e rest hp ih =>
    obtain ⟨rfl, rfl⟩ := hp
    simp only [List.cons_append, peel_pair]
    rcases ih with ih | ⟨hbase, hcount⟩
    · exact .inl (by rw [ih])
    · exact .inr ⟨hbase, by rw [hcount]⟩
  | case5 d e rest hp hd ih =>
    rw [List.cons_append, peel_blank hd]
    exact ih
  | case6 d e rest hp hd =>
    right
    have hpair : ¬ [']', '['] <+: d :: e :: (rest ++ [c]) := by
      intro hpre
      obtain ⟨h1, h2⟩ : ']' = d ∧ '[' = e := by simpa using hpre
      exact hp ⟨h1.symm, h2.symm⟩
    rw [List.cons_append, List.cons_append, peel_solid (by simpa using hd) hpair]
    exact ⟨rfl, rfl⟩

theorem partOf_array (cs : List Char) :
    partOf (cs ++ ['[', ']']) = { partOf cs with dimensions := (partOf cs).dimensions + 1 } := by
  simp [partOf, peel_pair]

theorem partOf_blank_last {c : Char} (h : Text.isBlank c = true) (cs : List Char) :
    partOf (cs ++ [c]) = partOf cs := by
  simp [partOf, peel_blank h]

theorem partOf_blank_first {c : Char} (h : Text.isBlank c = true) (cs : List Char) :
    partOf (c :: cs) = partOf cs := by
  rcases peel_blank_last h cs.reverse with he | ⟨hbase, hcount⟩
  · simp [partOf, he]
  · simp [partOf, hbase, hcount, Text.trimStart, h]

theorem partOf_after {blanks : List Char} (h : ∀ c ∈ blanks, Text.isBlank c = true)
    (cs : List Char) : partOf (cs ++ blanks) = partOf cs := by
  induction blanks using List.reverseRecOn with
  | nil => rw [List.append_nil]
  | append_singleton blanks c ih =>
    rw [← List.append_assoc, partOf_blank_last (h c (by simp))]
    exact ih fun d hd => h d (List.mem_append_left _ hd)

theorem partOf_before {blanks : List Char} (h : ∀ c ∈ blanks, Text.isBlank c = true)
    (cs : List Char) : partOf (blanks ++ cs) = partOf cs := by
  induction blanks with
  | nil => rfl
  | cons c blanks ih =>
    rw [List.cons_append, partOf_blank_first (h c List.mem_cons_self)]
    exact ih fun d hd => h d (List.mem_cons_of_mem c hd)

theorem partOf_trim (cs : List Char) : partOf (Text.trim cs) = partOf cs := by
  obtain ⟨before, after, he, hb, ha⟩ := Text.trim_cut cs
  conv_rhs => rw [he, partOf_before hb, partOf_after ha]

def partsOf (cs : List Char) : List Part := (cs.splitOn '|').map partOf

theorem partsOf_after {blanks : List Char} (h : ∀ c ∈ blanks, Text.isBlank c = true)
    (cs : List Char) : partsOf (cs ++ blanks) = partsOf cs := by
  obtain ⟨front, last, he, hm⟩ := splitOn_append_free (bar_not_mem_blanks h) cs
  simp only [partsOf, he, hm, List.map_append, List.map_singleton, partOf_after h]

theorem partsOf_before {blanks : List Char} (h : ∀ c ∈ blanks, Text.isBlank c = true)
    (cs : List Char) : partsOf (blanks ++ cs) = partsOf cs := by
  obtain ⟨first, rest, he, hm⟩ := splitOn_free_append (bar_not_mem_blanks h) cs
  simp only [partsOf, he, hm, List.map_cons, partOf_before h]

theorem partsOf_trim (cs : List Char) : partsOf (Text.trim cs) = partsOf cs := by
  obtain ⟨before, after, he, hb, ha⟩ := Text.trim_cut cs
  conv_rhs => rw [he, partsOf_before hb, partsOf_after ha]

theorem partsOf_single {cs : List Char} (h : '|' ∉ cs) : partsOf cs = [partOf cs] := by
  rw [partsOf, List.splitOn_eq_singleton h, List.map_singleton]

theorem partsOf_array (cs : List Char) : ∃ front last, partsOf cs = front ++ [last] ∧
    partsOf (cs ++ ['[', ']']) = front ++ [{ last with dimensions := last.dimensions + 1 }] := by
  have hbar : '|' ∉ ['[', ']'] := by decide
  obtain ⟨front, last, he, hm⟩ := splitOn_append_free hbar cs
  refine ⟨front.map partOf, partOf last, ?_, ?_⟩
  · rw [partsOf, he, List.map_append, List.map_singleton]
  · rw [partsOf, hm, List.map_append, List.map_singleton, partOf_array]

/-- Without brackets at the end, the base is the text without the blanks around it. -/
theorem partOf_bare {cs : List Char} (h : dropArray? (Text.trim cs) = none) :
    partOf cs = ⟨String.ofList (Text.trim cs), 0⟩ := by
  have hp : peel (Text.trim cs).reverse = ((Text.trim cs).reverse, 0) := by
    cases hr : (Text.trim cs).reverse with
    | nil => rfl
    | cons c rest =>
      have hc : Text.isBlank c = false :=
        Text.trim_last (List.head?_reverse ▸ congrArg List.head? hr)
      refine peel_solid hc fun hpair => dropArray_eq_none.mp h ?_
      rw [← hr] at hpair
      simpa using List.reverse_suffix.mpr hpair
  have hs : Text.trimStart (Text.trim cs) = Text.trim cs :=
    Text.trimStart_solid fun _ => Text.trim_first
  rw [← partOf_trim, partOf, hp, List.reverse_reverse, hs]

def IsWhole (name : String) : Prop := '|' ∉ name.toList ∧ ¬ ['[', ']'] <:+ name.toList

instance (name : String) : Decidable (IsWhole name) := inferInstanceAs (Decidable (_ ∧ _))

instance (name : String) : Decidable (InOnePiece name) := List.decidableBAll _ _

theorem bar_not_mem_brackets (dimensions : Nat) : '|' ∉ brackets dimensions := by
  intro hm
  rcases brackets_chars dimensions _ hm with hc | hc
  · exact absurd hc (by decide)
  · exact absurd hc (by decide)

theorem InOnePiece.arrayOf_no_bar {name : String} (h : InOnePiece name) (dimensions : Nat) :
    '|' ∉ (arrayOf name dimensions).toList := by
  rw [arrayOf_toList, List.mem_append]
  rintro (hm | hm)
  · exact (h _ hm).2.1 rfl
  · exact bar_not_mem_brackets dimensions hm

theorem InOnePiece.isWhole {name : String} (h : InOnePiece name) : IsWhole name := by
  constructor
  · intro hb
    exact (h _ hb).2.1 rfl
  · intro hs
    exact (h ']' (hs.subset (by simp))).2.2.2 rfl

theorem InOnePiece.no_bracket {name : String} (h : InOnePiece name) : ']' ∉ name.toList :=
  fun hm => (h _ hm).2.2.2 rfl

theorem InOnePiece.trim {name : String} (h : InOnePiece name) :
    Text.trim name.toList = name.toList :=
  Text.trim_solid (fun c hc => (h c (List.mem_of_mem_head? hc)).1)
    (fun c hc => (h c (List.mem_of_mem_getLast? hc)).1)

theorem partOf_arrayOf {name : String} (h : InOnePiece name) (dimensions : Nat) :
    partOf (arrayOf name dimensions).toList = ⟨name, dimensions⟩ := by
  induction dimensions with
  | zero =>
    have hb : dropArray? (Text.trim name.toList) = none := by
      rw [h.trim]
      exact dropArray_none h.no_bracket
    rw [arrayOf, partOf_bare hb, h.trim, String.ofList_toList]
  | succ d ih =>
    rw [arrayOf_toList] at ih
    rw [arrayOf_toList, brackets, ← List.append_assoc, partOf_array, ih]

namespace Reading

variable {ρ : Type}

def arrays (r : Reading ρ) (v : ρ) : Nat → ρ
  | 0 => v
  | dimensions + 1 => r.array (r.arrays v dimensions)

def readBase (r : Reading ρ) (name : String) : ρ := (r.lookup name).getD (r.bare name)

def readPart (r : Reading ρ) (part : List Char) : ρ :=
  r.arrays (r.readBase (partOf part).base) (partOf part).dimensions

def readParts (r : Reading ρ) (cs : List Char) : ρ := r.union ((cs.splitOn '|').map r.readPart)

/-- Brackets after a union stand after its last member, as in a text that is read from its end. -/
structure IsFlat (r : Reading ρ) : Prop where
  whole : ∀ name v, r.lookup name = some v → IsWhole name
  single : ∀ v, r.union [v] = v
  array_union : ∀ vs v, r.array (r.union (vs ++ [v])) = r.union (vs ++ [r.array v])

variable (r : Reading ρ)

theorem readPart_array (part : List Char) :
    r.readPart (part ++ ['[', ']']) = r.array (r.readPart part) := by
  rw [readPart, partOf_array]
  rfl

theorem readPart_bare {cs : List Char} (h : dropArray? (Text.trim cs) = none) :
    r.readPart cs = r.readBase (String.ofList (Text.trim cs)) := by
  rw [readPart, partOf_bare h]
  rfl

def readAs (p : Part) : ρ := r.arrays (r.readBase p.base) p.dimensions

theorem readParts_eq (cs : List Char) : r.readParts cs = r.union ((partsOf cs).map r.readAs) := by
  rw [readParts, partsOf, List.map_map]
  rfl

theorem readParts_trim (cs : List Char) : r.readParts (Text.trim cs) = r.readParts cs := by
  rw [readParts_eq, readParts_eq, partsOf_trim]

variable {r}

theorem IsFlat.readParts_single (h : r.IsFlat) {cs : List Char} (hb : '|' ∉ cs) :
    r.readParts cs = r.readPart cs := by
  rw [readParts_eq, partsOf_single hb, List.map_singleton, h.single]
  rfl

theorem IsFlat.readParts_array (h : r.IsFlat) (cs : List Char) :
    r.readParts (cs ++ ['[', ']']) = r.array (r.readParts cs) := by
  obtain ⟨front, last, he, hm⟩ := partsOf_array cs
  rw [readParts_eq, readParts_eq, he, hm, List.map_append, List.map_append, List.map_singleton,
    List.map_singleton, h.array_union]
  rfl

/-- Taking brackets off makes a text shorter, whatever blanks stand around it. -/
theorem inner_length_lt {cs inner : List Char} (h : dropArray? (Text.trim cs) = some inner) :
    inner.length < cs.length := by
  have hl := congrArg List.length (dropArray_eq_some.mp h)
  have ht := Text.trim_length_le cs
  simp only [List.length_append, List.length_cons] at hl
  omega

theorem part_length_lt {cs part : List Char} (hb : '|' ∈ Text.trim cs)
    (h : part ∈ (Text.trim cs).splitOn '|') : part.length < cs.length :=
  lt_of_lt_of_le (length_lt_of_mem_splitOn hb h) (Text.trim_length_le cs)

/-- By induction on the depth that is left, the way that the reader goes on: none of the texts on its
way that are no single base is known, so the order in which they are taken apart does not show. -/
theorem IsFlat.readWithin (h : r.IsFlat) {fuel : Nat} {cs : List Char} (hf : cs.length < fuel) :
    r.readWithin fuel cs = r.readParts cs := by
  induction fuel generalizing cs with
  | zero => exact absurd hf (Nat.not_lt_zero _)
  | succ fuel ih =>
    simp only [Reading.readWithin]
    split
    · rename_i known hk
      obtain ⟨hb, ha⟩ := h.whole _ _ hk
      rw [String.toList_ofList] at hb ha
      have hbare := readPart_bare r (dropArray_eq_none.mpr ha)
      rw [h.readParts_single (mt bar_mem_trim.mpr hb), hbare, readBase, hk, Option.getD_some]
    · rename_i hk
      split
      · rename_i inner hd
        have hl := inner_length_lt hd
        rw [ih (by omega), ← readParts_trim r cs, dropArray_eq_some.mp hd, h.readParts_array]
      · rename_i hd
        split
        · rename_i hb
          have hb : '|' ∈ Text.trim cs := by simpa using hb
          rw [← readParts_trim r cs, readParts]
          refine congrArg r.union (List.map_congr_left fun part hp => ?_)
          have hl := part_length_lt hb hp
          rw [ih (by omega), h.readParts_single (mem_splitOn hp).1]
        · rename_i hb
          have hb : '|' ∉ Text.trim cs := by simpa using hb
          rw [h.readParts_single (mt bar_mem_trim.mpr hb), readPart_bare r hd, readBase, hk,
            Option.getD_none]

/-- What a reader makes of a text, told by rules without a bound on the depth. -/
inductive Reads (r : Reading ρ) : List Char → ρ → Prop where
  | known {cs v} : r.lookup (String.ofList (Text.trim cs)) = some v → Reads r cs v
  | array {cs inner v} : r.lookup (String.ofList (Text.trim cs)) = none →
      dropArray? (Text.trim cs) = some inner → Reads r inner v → Reads r cs (r.array v)
  | union {cs vs} : r.lookup (String.ofList (Text.trim cs)) = none →
      dropArray? (Text.trim cs) = none → '|' ∈ Text.trim cs →
      List.Forall₂ (Reads r) ((Text.trim cs).splitOn '|') vs → Reads r cs (r.union vs)
  | bare {cs} : r.lookup (String.ofList (Text.trim cs)) = none →
      dropArray? (Text.trim cs) = none → '|' ∉ Text.trim cs →
      Reads r cs (r.bare (String.ofList (Text.trim cs)))

theorem reads_readWithin (r : Reading ρ) {fuel : Nat} {cs : List Char} (hf : cs.length < fuel) :
    r.Reads cs (r.readWithin fuel cs) := by
  induction fuel generalizing cs with
  | zero => exact absurd hf (Nat.not_lt_zero _)
  | succ fuel ih =>
    simp only [Reading.readWithin]
    split
    · rename_i hk
      exact .known hk
    · rename_i hk
      split
      · rename_i inner hd
        have hl := inner_length_lt hd
        exact .array hk hd (ih (by omega))
      · rename_i hd
        split
        · rename_i hb
          have hb : '|' ∈ Text.trim cs := by simpa using hb
          refine .union hk hd hb (List.forall₂_map_right_iff.mpr (List.forall₂_same.mpr ?_))
          intro part hp
          have hl := part_length_lt hb hp
          exact ih (by omega)
        · rename_i hb
          exact .bare hk hd (by simpa using hb)

/-- A depth of more than the length of the text is never used up, and the rules leave no choice. -/
theorem reads_iff (r : Reading ρ) {fuel : Nat} {cs : List Char} (hf : cs.length < fuel) {v : ρ} :
    r.Reads cs v ↔ v = r.readWithin fuel cs := by
  refine ⟨fun h => ?_, fun h => h ▸ r.reads_readWithin hf⟩
  induction fuel generalizing cs v with
  | zero => exact absurd hf (Nat.not_lt_zero _)
  | succ fuel ih =>
    cases h with
    | known hk => simp only [Reading.readWithin, hk]
    | array hk hd hv =>
      have hl := inner_length_lt hd
      simp only [Reading.readWithin, hk, hd]
      rw [ih (by omega) hv]
    | @union _ vs hk hd hb hvs =>
      have hl : ∀ part ∈ (Text.trim cs).splitOn '|', part.length < fuel := by
        intro part hp
        have hlt := part_length_lt hb hp
        omega
      have hparts : List.Forall₂ (fun part v => r.readWithin fuel part = v)
          ((Text.trim cs).splitOn '|') vs :=
        ((List.forall₂_and_left _ _).mpr ⟨hl, hvs⟩).imp fun part v h => (ih h.1 h.2).symm
      rw [← List.forall₂_map_left_iff, List.forall₂_eq_eq_eq] at hparts
      simp [Reading.readWithin, hk, hd, hb, hparts]
    | bare hk hd hb => simp [Reading.readWithin, hk, hd, hb]

end Reading

def override? (refs : Matcher String) (name : String) : Option String :=
  ((refs.get? name).bind Schema.typeOverride).filter (· != "")

/-- The text for a part: the override, if there is one, in the place of the base. -/
def resolvedPart (refs : Matcher String) (p : Part) : String :=
  arrayOf ((override? refs p.base).getD p.base) p.dimensions

section

variable {refs : Matcher String}

theorem resolution_base (refs : Matcher String) (name : String) :
    (resolution refs).readBase name = (override? refs name).getD name := by
  cases hg : refs.get? name with
  | none => simp [Reading.readBase, resolution, override?, hg]
  | some s =>
    cases ho : s.typeOverride with
    | none => simp [Reading.readBase, resolution, override?, overrideOf, hg, ho]
    | some t =>
      by_cases ht : t = ""
      · simp [Reading.readBase, resolution, override?, overrideOf, hg, ho, ht, Option.filter]
      · simp [Reading.readBase, resolution, override?, overrideOf, hg, ho, ht, Option.filter]

theorem resolution_arrays (refs : Matcher String) (text : String) (dimensions : Nat) :
    (resolution refs).arrays text dimensions = arrayOf text dimensions := by
  induction dimensions with
  | zero => rfl
  | succ d ih =>
    rw [Reading.arrays, ih]
    rfl

theorem get_whole (hr : ∀ s ∈ refs, IsWhole s.name) {name : String} {s : Schema String}
    (h : refs.get? name = some s) : IsWhole name := by
  have hn : s.name = name := by simpa using List.find?_some h
  exact hn ▸ hr s (List.mem_of_find?_eq_some h)

theorem resolution_isFlat (hr : ∀ s ∈ refs, IsWhole s.name) : (resolution refs).IsFlat where
  whole name v h := by
    obtain ⟨s, hs, -⟩ := Option.map_eq_some_iff.mp h
    exact get_whole hr hs
  single _ := rfl
  array_union texts text := joinTexts_append " | " text "[]" texts

theorem resolution_parts (refs : Matcher String) (typeRef : String) :
    (resolution refs).readParts typeRef.toList =
      joinTexts " | " ((parts typeRef).map (resolvedPart refs)) := by
  rw [Reading.readParts, parts, List.map_map]
  refine congrArg (joinTexts " | ") (List.map_congr_left fun part _ => ?_)
  rw [Reading.readPart, resolution_base, resolution_arrays]
  rfl

theorem resolve_parts (hr : ∀ s ∈ refs, IsWhole s.name) (typeRef : String) :
    resolve refs typeRef = joinTexts " | " ((parts typeRef).map (resolvedPart refs)) := by
  have hf : typeRef.toList.length < typeRef.length + 1 := Nat.lt_succ_self _
  rw [← resolution_parts]
  exact (resolution_isFlat hr).readWithin hf

theorem parts_ne_nil (typeRef : String) : parts typeRef ≠ [] :=
  mt List.map_eq_nil_iff.mp (List.splitOn_ne_nil _ _)

/-- The text for a type expression is the text for its parts, whatever the order in which the reader
takes it apart; and the reader comes to its end. -/
theorem resolve_part_by_part (hr : ∀ s ∈ refs, IsWhole s.name) (typeRef : String) :
    resolve refs typeRef = joinTexts " | " ((parts typeRef).map (resolvedPart refs)) ∧
      ∀ text, (resolution refs).Reads typeRef.toList text ↔ text = resolve refs typeRef := by
  refine ⟨resolve_parts hr typeRef, fun text => ?_⟩
  have hf : typeRef.toList.length < typeRef.length + 1 := Nat.lt_succ_self _
  exact (resolution refs).reads_iff hf

end

def placeSchemas : Matcher String :=
  [{ name := "GeoPoint", typeOverride := some "[number, number]" },
    { name := "Money", modulePath := some "./money" }]

theorem placeSchemas_part_by_part : (∀ s ∈ placeSchemas, IsWhole s.name) ∧
    resolve placeSchemas "string |GeoPoint [] [] | Money[]" =
      joinTexts " | " ((parts "string |GeoPoint [] [] | Money[]").map (resolvedPart placeSchemas)) ∧
    ∀ text, (resolution placeSchemas).Reads "string |GeoPoint [] [] | Money[]".toList text ↔
      text = resolve placeSchemas "string |GeoPoint [] [] | Money[]" := by
  have hr : ∀ s ∈ placeSchemas, IsWhole s.name := by decide
  exact ⟨hr, resolve_part_by_part hr _⟩

example : parts "string |GeoPoint [] [] | Money[]" =
    [⟨"string", 0⟩, ⟨"GeoPoint", 2⟩, ⟨"Money", 1⟩] := by
  decide +kernel

example : resolve [{ name := "GeoPoint", typeOverride := some "[number, number]" }]
    "string |GeoPoint [] [] | Money[]" = "string | [number, number][][] | Money[]" := by
  decide +kernel

end SampleTypes.TypeScript
