import Mathlib.Data.List.Infix
import SampleTypes.Proofs.Text.Replacement

/-!
Where a pattern stands in a text, and patterns of two characters that are broken up by a third one put
between them. No pattern is left over or made anew by this. What the text was before can be told but
for the patterns that were broken up in it already.
-/

namespace SampleTypes.Text

def occurrences (pattern cs : List Char) : List (List Char) :=
  cs.tails.filter fun place => pattern.isPrefixOf place

section

variable {pattern cs : List Char} {c : Char}

theorem occurrences_here (h : pattern <+: c :: cs) :
    occurrences pattern (c :: cs) = (c :: cs) :: occurrences pattern cs := by
  have hp : pattern.isPrefixOf (c :: cs) = true := List.isPrefixOf_iff_prefix.mpr h
  rw [occurrences, List.tails, List.filter_cons, if_pos hp, occurrences]

theorem occurrences_past (h : ¬ pattern <+: c :: cs) :
    occurrences pattern (c :: cs) = occurrences pattern cs := by
  have hp : ¬ pattern.isPrefixOf (c :: cs) = true := mt List.isPrefixOf_iff_prefix.mp h
  rw [occurrences, List.tails, List.filter_cons, if_neg hp, occurrences]

/-- A part without the pattern adds no place to those behind a character that the pattern does not
hold. -/
theorem occurrences_part {d : Char} (h : d ∉ pattern) {xs : List Char} (hx : ¬ pattern <:+: xs)
    (ys : List Char) : occurrences pattern (xs ++ d :: ys) = occurrences pattern ys := by
  induction xs with
  | nil =>
    have hd : ¬ pattern <+: d :: ys := fun hp => hx ((begins_part h [] ys).mp hp).isInfix
    exact occurrences_past hd
  | cons c xs ih =>
    rw [List.infix_cons_iff, not_or] at hx
    have hc : ¬ pattern <+: c :: (xs ++ d :: ys) := fun hp => hx.1 ((begins_part h (c :: xs) ys).mp hp)
    rw [List.cons_append, occurrences_past hc, ih hx.2]

end

/-- One replacement after the one the other way round does what it does alone, if each copies what it
writes and the first makes no beginning of what the second looks for. -/
theorem replaceAll_undone {first : Char} {p q : List Char}
    (hp : ∀ ys, replaceAll (first :: q) (first :: p) (first :: p ++ ys) =
      first :: p ++ replaceAll (first :: q) (first :: p) ys)
    (hq : ∀ ys, replaceAll (first :: p) (first :: q) (first :: q ++ ys) =
      first :: q ++ replaceAll (first :: p) (first :: q) ys)
    (hnew : ∀ c cs, first :: p <+: c :: replaceAll (first :: q) (first :: p) cs →
      first :: p <+: c :: cs) (cs : List Char) :
    replaceAll (first :: p) (first :: q) (replaceAll (first :: q) (first :: p) cs) =
      replaceAll (first :: p) (first :: q) cs := by
  induction hl : cs.length using Nat.strong_induction_on generalizing cs with
  | _ n ih =>
    have shorter {x : Char} {xs rest : List Char} (hr : x :: xs ++ rest = cs) : rest.length < n := by
      rw [← hl, ← hr, List.length_append, List.length_cons]
      omega
    cases cs with
    | nil => rfl
    | cons c cs =>
      by_cases hqc : first :: q <+: c :: cs
      · obtain ⟨rest, hr⟩ := hqc
        rw [← hr, replaceAll_here, replaceAll_here, hq, ih _ (shorter hr) _ rfl]
      by_cases hpc : first :: p <+: c :: cs
      · obtain ⟨rest, hr⟩ := hpc
        rw [← hr, hp, replaceAll_here, replaceAll_here, ih _ (shorter hr) _ rfl]
      · have hkept : ¬ first :: p <+: c :: replaceAll (first :: q) (first :: p) cs :=
          mt (hnew c cs) hpc
        have hcs : [c] ++ cs = c :: cs := rfl
        rw [replaceAll_past hqc, replaceAll_past hkept, replaceAll_past hpc, ih _ (shorter hcs) _ rfl]

section

variable {a b d c : Char} {cs : List Char}

theorem begins_pair : [a, b] <+: c :: cs ↔ a = c ∧ cs.head? = some b := by
  cases cs <;> simp [List.cons_prefix_cons, eq_comm]

theorem begins_broken :
    [a, d, b] <+: c :: cs ↔ a = c ∧ ∃ rest, cs = d :: rest ∧ rest.head? = some b := by
  cases cs with
  | nil => simp
  | cons e rest =>
    rw [List.cons_prefix_cons, begins_pair]
    simp [eq_comm]

/-- No pattern is left, and none is made where the new parts meet with what is around them. The rest of
a pattern that was broken up is still to be left out, so the induction is for any number of these. -/
theorem replaceFrom_broken (hab : a ≠ b) (hda : d ≠ a) (hdb : d ≠ b) (skip : Nat) (cs : List Char) :
    ¬ [a, b] <:+: replaceFrom [a, b] [a, d, b] skip cs := by
  induction cs generalizing skip with
  | nil => simp [replaceFrom]
  | cons c cs ih =>
    cases skip with
    | succ skip => exact ih skip
    | zero =>
      by_cases h : [a, b] <+: c :: cs
      · have hd : d ∉ [a, b] := by simp [hda, hdb]
        have hfront : ¬ [a, b] <:+: [a] := fun hi => absurd hi.length_le (by simp)
        have hback : ¬ [a, b] <:+: b :: replaceFrom [a, b] [a, d, b] 1 cs := by
          rw [List.infix_cons_iff, List.cons_prefix_cons]
          exact not_or.mpr ⟨fun hb => hab hb.1, ih 1⟩
        have hparts := mt (infix_part hd _ _).mp (not_or.mpr ⟨hfront, hback⟩)
        rw [replaceFrom, if_pos (List.isPrefixOf_iff_prefix.mpr h)]
        exact hparts
      · have hpast : replaceFrom [a, b] [a, d, b] 0 (c :: cs) = c :: replaceAll [a, b] [a, d, b] cs :=
          replaceAll_past h _
        rw [hpast, List.infix_cons_iff, begins_pair, replaceAll_head, ← begins_pair]
        exact not_or.mpr ⟨h, ih 0⟩

theorem broken_kept (hab : a ≠ b) (hda : d ≠ a) (hdb : d ≠ b) (ys : List Char) :
    replaceAll [a, b] [a, d, b] (a :: d :: b :: ys) = a :: d :: b :: replaceAll [a, b] [a, d, b] ys := by
  have hhead : ¬ [a, b] <+: a :: d :: b :: ys := fun h => hdb (by simpa using (begins_pair.mp h).2)
  have hfree : a ∉ [d, b] := by simp [hab, Ne.symm hda]
  rw [replaceAll_past hhead]
  exact congrArg (a :: ·) (replaceAll_free hfree _ ys)

theorem whole_kept (hab : a ≠ b) (hdb : d ≠ b) (ys : List Char) :
    replaceAll [a, d, b] [a, b] (a :: b :: ys) = a :: b :: replaceAll [a, d, b] [a, b] ys := by
  have hhead : ¬ [a, d, b] <+: a :: b :: ys := by
    intro h
    obtain ⟨-, rest, hr, -⟩ := begins_broken.mp h
    exact hdb (List.cons.inj hr).1.symm
  have hfree : a ∉ [b] := by simp [hab]
  rw [replaceAll_past hhead]
  exact congrArg (a :: ·) (replaceAll_free hfree _ ys)

/-- Putting patterns together again takes no notice of their having been broken up. -/
theorem mend_broken (hab : a ≠ b) (hda : d ≠ a) (hdb : d ≠ b) (cs : List Char) :
    replaceAll [a, d, b] [a, b] (replaceAll [a, b] [a, d, b] cs) = replaceAll [a, d, b] [a, b] cs := by
  refine replaceAll_undone (broken_kept hab hda hdb) (whole_kept hab hdb) ?_ cs
  intro c cs h
  obtain ⟨rfl, rest, hr, hb⟩ := begins_broken.mp h
  have hhead := replaceAll_head a [b] [d, b] cs
  rw [hr, List.head?_cons] at hhead
  obtain ⟨tail, rfl⟩ := List.head?_eq_some_iff.mp hhead.symm
  have hpast : ¬ [a, b] <+: d :: tail := fun hp => hda (begins_pair.mp hp).1.symm
  rw [replaceAll_past hpast, List.cons.injEq] at hr
  refine begins_broken.mpr ⟨rfl, tail, rfl, ?_⟩
  rw [← replaceAll_head a [b] [d, b] tail, hr.2, hb]

theorem break_mended (hab : a ≠ b) (hda : d ≠ a) (hdb : d ≠ b) (cs : List Char) :
    replaceAll [a, b] [a, d, b] (replaceAll [a, d, b] [a, b] cs) = replaceAll [a, b] [a, d, b] cs := by
  refine replaceAll_undone (whole_kept hab hdb) (broken_kept hab hda hdb) ?_ cs
  intro c cs h
  rwa [begins_pair, replaceAll_head, ← begins_pair] at h

theorem replaceAll_broken_iff (hab : a ≠ b) (hda : d ≠ a) (hdb : d ≠ b) {xs ys : List Char} :
    replaceAll [a, b] [a, d, b] xs = replaceAll [a, b] [a, d, b] ys ↔
      replaceAll [a, d, b] [a, b] xs = replaceAll [a, d, b] [a, b] ys := by
  constructor
  · intro h
    rw [← mend_broken hab hda hdb xs, ← mend_broken hab hda hdb ys, h]
  · intro h
    rw [← break_mended hab hda hdb xs, ← break_mended hab hda hdb ys, h]

end

end SampleTypes.Text
