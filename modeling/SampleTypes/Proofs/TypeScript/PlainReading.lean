import SampleTypes.Proofs.TypeScript.Parts

/-!
Type expressions read where no names are known. What is read first are the brackets at the end of the
whole text, so those of the last part of a union come to stand around all of it.
-/

namespace SampleTypes.TypeScript

theorem bar_not_mem_of_single {cs : List Char} {p : Part} (h : partsOf cs = [p]) : '|' ∉ cs := by
  intro hm
  obtain ⟨xs, ys, -, -, hs⟩ := splitOn_last hm
  have hl := congrArg List.length h
  have hx := List.length_pos_iff.mpr (List.splitOn_ne_nil '|' xs)
  rw [partsOf, hs, List.length_map, List.length_append, List.length_singleton] at hl
  simp only [List.length_singleton] at hl
  omega

/-- No blanks stand at the end of a text that ends where a trimmed one does. -/
theorem trim_suffix {cs tail : List Char} (h : tail <:+ Text.trim cs) : Text.trim tail <:+ tail := by
  obtain ⟨before, after, he, -, ha⟩ := Text.trim_cut tail
  rcases List.eq_nil_or_concat after with rfl | ⟨more, c, rfl⟩
  · exact ⟨before, by simpa using he.symm⟩
  · have hlast : (Text.trim cs).getLast? = some c := by
      obtain ⟨front, hf⟩ := h
      rw [← hf, he]
      simp
    have hc : Text.isBlank c = true := ha c (by simp)
    exact absurd (Text.trim_last hlast) (by simp [hc])

/-- Where a text ends in no brackets, neither does the last one of its parts. -/
theorem partsOf_bare {cs : List Char} (hb : '|' ∈ Text.trim cs) (hd : dropArray? (Text.trim cs) = none) :
    ∃ front base, partsOf cs = front ++ [⟨base, 0⟩] := by
  obtain ⟨xs, ys, he, -, hs⟩ := splitOn_last hb
  have hsuffix : ys <:+ Text.trim cs := ⟨xs ++ ['|'], by simp [he]⟩
  have hbare : dropArray? (Text.trim ys) = none := by
    rw [dropArray_eq_none] at hd ⊢
    exact fun hy => hd (hy.trans ((trim_suffix hsuffix).trans hsuffix))
  refine ⟨(xs.splitOn '|').map partOf, String.ofList (Text.trim ys), ?_⟩
  rw [← partsOf_trim, partsOf, hs, List.map_append, List.map_singleton, partOf_bare hbare]

namespace Reading

variable {ρ : Type} {r : Reading ρ}

def KnowsNone (r : Reading ρ) : Prop := ∀ name, r.lookup name = none

theorem KnowsNone.single (h : r.KnowsNone) {fuel : Nat} {cs : List Char}
    (hf : cs.length < fuel) (hb : '|' ∉ cs) : r.readWithin fuel cs = r.readPart cs := by
  induction fuel generalizing cs with
  | zero => exact absurd hf (Nat.not_lt_zero _)
  | succ fuel ih =>
    have hbt : '|' ∉ Text.trim cs := mt bar_mem_trim.mp hb
    have htrim : r.readPart (Text.trim cs) = r.readPart cs := by
      rw [readPart, partOf_trim, readPart]
    simp only [Reading.readWithin, h _]
    cases hd : dropArray? (Text.trim cs) with
    | some inner =>
      have he := dropArray_eq_some.mp hd
      have hl := inner_length_lt hd
      have hi : '|' ∉ inner := fun hm => hbt (he ▸ List.mem_append_left _ hm)
      have hread := ih (by omega) hi
      simp only
      rw [hread, ← htrim, he, readPart_array]
    | none =>
      have hc : (Text.trim cs).contains '|' = false := by simpa using hbt
      simp only [hc, Bool.false_eq_true, if_false]
      rw [readPart_bare r hd, readBase, h, Option.getD_none]

/-- The brackets at the end are taken off before the bars are looked at. So they stand around the whole
union, and the last part stands in it without them. -/
theorem KnowsNone.several (h : r.KnowsNone) {fuel : Nat} {cs : List Char} (hf : cs.length < fuel)
    {front : List Part} {last : Part} (hne : front ≠ []) (hp : partsOf cs = front ++ [last]) :
    r.readWithin fuel cs =
      r.arrays (r.union ((front ++ [{ last with dimensions := 0 }]).map r.readAs)) last.dimensions := by
  induction fuel generalizing cs front last with
  | zero => exact absurd hf (Nat.not_lt_zero _)
  | succ fuel ih =>
    have hb : '|' ∈ Text.trim cs := by
      by_contra hb
      rw [← partsOf_trim, partsOf_single hb, ← List.nil_append [_]] at hp
      exact hne (List.append_inj' hp rfl).1.symm
    simp only [Reading.readWithin, h _]
    cases hd : dropArray? (Text.trim cs) with
    | some inner =>
      have hl := inner_length_lt hd
      obtain ⟨front', last', hi, hm⟩ := partsOf_array inner
      rw [← partsOf_trim, dropArray_eq_some.mp hd, hm] at hp
      obtain ⟨rfl, hlast⟩ := List.append_inj' hp rfl
      obtain rfl := List.singleton_inj.mp hlast
      have hread := ih (by omega) hne hi
      simp only
      rw [hread, arrays]
    | none =>
      have hc : (Text.trim cs).contains '|' = true := by simpa using hb
      obtain ⟨front', base, hm⟩ := partsOf_bare hb hd
      obtain ⟨rfl, hlast⟩ := List.append_inj' (hm.symm.trans hp) rfl
      obtain rfl := List.singleton_inj.mp hlast
      have hparts : ((Text.trim cs).splitOn '|').map (r.readWithin fuel) =
          (partsOf cs).map r.readAs := by
        rw [← partsOf_trim, partsOf, List.map_map]
        refine List.map_congr_left fun part hpart => ?_
        have hl := part_length_lt hb hpart
        exact h.single (by omega) (mem_splitOn hpart).1
      simp only [hc, if_true]
      rw [hparts, hm, arrays]

theorem arrays_add (r : Reading ρ) (v : ρ) (d e : Nat) : r.arrays (r.arrays v d) e = r.arrays v (d + e) := by
  induction e with
  | zero => rfl
  | succ e ih => rw [arrays, ih, ← Nat.add_assoc, arrays]

end Reading

open SampleTypes.Inference (arrayOf)

structure Writes (text : String) (p : Part) : Prop where
  inOnePiece : InOnePiece p.base
  trimmed : Text.trim text.toList = (arrayOf p.base p.dimensions).toList

theorem Writes.no_bar {text : String} {p : Part} (h : Writes text p) : '|' ∉ text.toList := by
  rw [← bar_mem_trim, h.trimmed]
  exact h.inOnePiece.arrayOf_no_bar p.dimensions

theorem Writes.partOf {text : String} {p : Part} (h : Writes text p) : partOf text.toList = p := by
  rw [← partOf_trim, h.trimmed, partOf_arrayOf h.inOnePiece]

theorem parts_joined {texts : List String} {members : List Part} (hne : texts ≠ [])
    (h : List.Forall₂ Writes texts members) : parts (joinTexts "|" texts) = members := by
  have hbar : ∀ text ∈ texts, '|' ∉ text.toList :=
    ((List.forall₂_and_left _ _).mp (h.imp fun _ _ hw => ⟨hw.no_bar, hw⟩)).1
  have hparts : List.Forall₂ (fun text p => TypeScript.partOf text.toList = p) texts members :=
    h.imp fun _ _ hw => hw.partOf
  rw [← List.forall₂_map_left_iff, List.forall₂_eq_eq_eq] at hparts
  rw [parts, splitOn_joinTexts rfl hne hbar, List.map_map, ← hparts]
  rfl

end SampleTypes.TypeScript
