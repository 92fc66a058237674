import Mathlib.Data.List.DropRight
import Mathlib.Data.List.TakeWhile
import SampleTypes.Text.Basic

/-!
Replacing and trimming. What begins no occurrence of a pattern is copied, and a character that the
pattern does not hold parts a text into two that are replaced on their own.
-/

namespace SampleTypes.Text

variable {old new : List Char}

/-- Where the pattern does not begin, the character is copied. -/
theorem replaceAll_past {c : Char} {cs : List Char} (h : ¬ old <+: c :: cs) (new : List Char) :
    replaceAll old new (c :: cs) = c :: replaceAll old new cs := by
  have hp : ¬ old.isPrefixOf (c :: cs) = true := mt List.isPrefixOf_iff_prefix.mp h
  rw [replaceAll, replaceFrom, if_neg hp, replaceAll]

theorem replaceAll_none {cs : List Char} (h : ¬ old <:+: cs) (new : List Char) :
    replaceAll old new cs = cs := by
  induction cs with
  | nil => rfl
  | cons c cs ih =>
    rw [List.infix_cons_iff, not_or] at h
    rw [replaceAll_past h.1, ih h.2]

/-- A part without the first character of the pattern is copied. -/
theorem replaceAll_free {first : Char} {xs : List Char} (h : first ∉ xs) (new ys : List Char) :
    replaceAll (first :: old) new (xs ++ ys) = xs ++ replaceAll (first :: old) new ys := by
  induction xs with
  | nil => rfl
  | cons c cs ih =>
    rw [List.mem_cons, not_or] at h
    have hc : (first :: old).isPrefixOf (c :: (cs ++ ys)) = false := by
      simp [List.isPrefixOf, h.1]
    simp only [replaceAll, List.cons_append, replaceFrom, hc] at ih ⊢
    exact congrArg (c :: ·) (ih h.2)

theorem isPrefixOf_part {d : Char} {pattern : List Char} (h : d ∉ pattern) (xs ys : List Char) :
    pattern.isPrefixOf (xs ++ d :: ys) = pattern.isPrefixOf xs := by
  induction pattern generalizing xs with
  | nil => rfl
  | cons p ps ih =>
    rw [List.mem_cons, not_or] at h
    cases xs with
    | nil => simp [List.isPrefixOf, Ne.symm h.1]
    | cons x xs => simp [List.isPrefixOf, ih h.2]

theorem begins_part {d : Char} {pattern : List Char} (h : d ∉ pattern) (xs ys : List Char) :
    pattern <+: xs ++ d :: ys ↔ pattern <+: xs := by
  rw [← List.isPrefixOf_iff_prefix, isPrefixOf_part h, List.isPrefixOf_iff_prefix]

/-- What holds no separator stands in two texts around one if it stands in either of them. -/
theorem infix_part {d : Char} {pattern : List Char} (h : d ∉ pattern) (xs ys : List Char) :
    pattern <:+: xs ++ d :: ys ↔ pattern <:+: xs ∨ pattern <:+: ys := by
  induction xs with
  | nil =>
    rw [List.nil_append, List.infix_cons_iff, ← List.nil_append (d :: ys), begins_part h,
      List.prefix_nil, List.infix_nil]
  | cons c cs ih =>
    calc pattern <:+: c :: (cs ++ d :: ys)
      _ ↔ pattern <+: c :: cs ++ d :: ys ∨ pattern <:+: cs ++ d :: ys := List.infix_cons_iff
      _ ↔ pattern <+: c :: cs ∨ pattern <:+: cs ∨ pattern <:+: ys := or_congr (begins_part h _ ys) ih
      _ ↔ pattern <:+: c :: cs ∨ pattern <:+: ys := by rw [List.infix_cons_iff, or_assoc]

/-- Where no occurrence that begins in the first part goes over its end, the two parts are replaced on
their own. -/
theorem replaceFrom_border {first : Char} {xs ys : List Char}
    (h : ∀ zs, zs <:+ xs → zs ≠ [] →
      (first :: old).isPrefixOf (zs ++ ys) = (first :: old).isPrefixOf zs)
    (new : List Char) {skip : Nat} (hs : skip ≤ xs.length) :
    replaceFrom (first :: old) new skip (xs ++ ys) =
      replaceFrom (first :: old) new skip xs ++ replaceAll (first :: old) new ys := by
  induction xs generalizing skip with
  | nil =>
    obtain rfl : skip = 0 := Nat.le_zero.mp hs
    rfl
  | cons c cs ih =>
    have hcs : ∀ zs, zs <:+ cs → zs ≠ [] →
        (first :: old).isPrefixOf (zs ++ ys) = (first :: old).isPrefixOf zs :=
      fun zs hz => h zs (hz.trans (List.suffix_cons c cs))
    cases skip with
    | succ skip => exact ih hcs (Nat.le_of_succ_le_succ hs)
    | zero =>
      have hp := h (c :: cs) List.suffix_rfl (List.cons_ne_nil _ _)
      rw [List.cons_append] at hp ⊢
      rw [replaceFrom, replaceFrom, hp]
      by_cases hm : (first :: old).isPrefixOf (c :: cs) = true
      · have hl := (List.isPrefixOf_iff_prefix.mp hm).length_le
        have hk : (first :: old).length - 1 ≤ cs.length := Nat.le_of_succ_le_succ hl
        rw [if_pos hm, if_pos hm, ih hcs hk, List.append_assoc]
      · rw [if_neg hm, if_neg hm, ih hcs (Nat.zero_le _), List.cons_append]

/-- No occurrence goes over a character that the pattern does not hold. -/
theorem replaceAll_part {first d : Char} (h : d ∉ first :: old) (new xs ys : List Char) :
    replaceAll (first :: old) new (xs ++ d :: ys) =
      replaceAll (first :: old) new xs ++ d :: replaceAll (first :: old) new ys := by
  have hb := replaceFrom_border (fun zs _ _ => isPrefixOf_part h zs ys) new (Nat.zero_le xs.length)
  have hd : first ∉ [d] := fun hm => h (List.mem_singleton.mp hm ▸ List.mem_cons_self)
  have hc : replaceAll (first :: old) new (d :: ys) = d :: replaceAll (first :: old) new ys :=
    replaceAll_free hd new ys
  rw [← hc]
  exact hb

theorem replaceFrom_skip (xs ys : List Char) :
    replaceFrom old new xs.length (xs ++ ys) = replaceAll old new ys := by
  induction xs with
  | nil => rfl
  | cons c cs ih => exact ih

theorem replaceAll_here (first : Char) (old new ys : List Char) :
    replaceAll (first :: old) new (first :: old ++ ys) = new ++ replaceAll (first :: old) new ys := by
  have hp : (first :: old).isPrefixOf (first :: (old ++ ys)) = true :=
    List.isPrefixOf_iff_prefix.mpr (List.prefix_append (first :: old) ys)
  rw [List.cons_append, replaceAll, replaceFrom, if_pos hp]
  exact congrArg (new ++ ·) (replaceFrom_skip old ys)

/-- A pattern of one character is replaced wherever this character stands. -/
theorem replaceAll_char (a : Char) (new cs : List Char) :
    replaceAll [a] new cs = cs.flatMap fun c => if c = a then new else [c] := by
  induction cs with
  | nil => rfl
  | cons c cs ih =>
    rw [List.flatMap_cons, ← ih]
    by_cases hc : c = a
    · subst hc
      rw [if_pos rfl]
      exact replaceAll_here c [] new cs
    · rw [if_neg hc]
      have hfree : a ∉ [c] := by simpa using Ne.symm hc
      exact replaceAll_free hfree new cs

/-- If the new part begins as the pattern does, the text begins as it did. -/
theorem replaceAll_head (first : Char) (old new cs : List Char) :
    (replaceAll (first :: old) (first :: new) cs).head? = cs.head? := by
  cases cs with
  | nil => rfl
  | cons c cs =>
    by_cases h : first :: old <+: c :: cs
    · obtain ⟨rfl, -⟩ := List.cons_prefix_cons.mp h
      obtain ⟨rest, hr⟩ := h
      rw [← hr, replaceAll_here]
      rfl
    · rw [replaceAll_past h]
      rfl

/-- How much longer a text gets is a multiple of how much longer the new part is. -/
theorem replaceFrom_length (first : Char) (old new : List Char) {skip : Nat} {cs : List Char}
    (hs : skip ≤ cs.length) :
    ∃ count, (replaceFrom (first :: old) new skip cs).length + skip + count * (old.length + 1) =
      cs.length + count * new.length := by
  induction cs generalizing skip with
  | nil =>
    obtain rfl : skip = 0 := Nat.le_zero.mp hs
    exact ⟨0, by simp [replaceFrom]⟩
  | cons c cs ih =>
    cases skip with
    | succ skip =>
      obtain ⟨count, hc⟩ := ih (Nat.le_of_succ_le_succ hs)
      refine ⟨count, ?_⟩
      rw [replaceFrom, List.length_cons]
      omega
    | zero =>
      rw [replaceFrom]
      by_cases hm : (first :: old).isPrefixOf (c :: cs) = true
      · have hl := (List.isPrefixOf_iff_prefix.mp hm).length_le
        have hk : old.length ≤ cs.length := Nat.le_of_succ_le_succ hl
        obtain ⟨count, hc⟩ := ih hk
        refine ⟨count + 1, ?_⟩
        rw [if_pos hm, List.length_append, List.length_cons, List.length_cons, Nat.add_sub_cancel,
          Nat.succ_mul, Nat.succ_mul]
        omega
      · obtain ⟨count, hc⟩ := ih (Nat.zero_le _)
        refine ⟨count, ?_⟩
        rw [if_neg hm, List.length_cons, List.length_cons]
        omega

theorem replaceAll_eq_self_iff {first : Char} (hne : new ≠ first :: old) {cs : List Char} :
    replaceAll (first :: old) new cs = cs ↔ ¬ first :: old <:+: cs := by
  refine ⟨fun he => ?_, fun h => replaceAll_none h new⟩
  induction cs with
  | nil => simp
  | cons c cs ih =>
    by_cases hm : first :: old <+: c :: cs
    · obtain ⟨ys, hys⟩ := hm
      rw [← hys, replaceAll_here] at he
      obtain ⟨count, hc⟩ := replaceFrom_length first old new (Nat.zero_le ys.length)
      have hl := congrArg List.length he
      simp only [List.length_append, List.length_cons, replaceAll] at hl
      have hmul : (count + 1) * (old.length + 1) = (count + 1) * new.length := by
        rw [Nat.succ_mul, Nat.succ_mul]
        omega
      have heq : new.length = (first :: old).length :=
        (Nat.eq_of_mul_eq_mul_left (Nat.succ_pos count) hmul).symm
      exact absurd (List.append_inj he heq).1 hne
    · rw [replaceAll_past hm] at he
      rw [List.infix_cons_iff, not_or]
      exact ⟨hm, ih (List.cons.inj he).2⟩

theorem trimStart_solid {xs : List Char} (h : ∀ c, xs.head? = some c → isBlank c = false) :
    trimStart xs = xs := by
  cases xs with
  | nil => rfl
  | cons c cs => simp [trimStart, h c rfl]

theorem trim_solid {xs : List Char} (hf : ∀ c, xs.head? = some c → isBlank c = false)
    (hl : ∀ c, xs.getLast? = some c → isBlank c = false) : trim xs = xs := by
  have hr : xs.reverse.dropWhile isBlank = xs.reverse :=
    trimStart_solid fun c hc => hl c (List.head?_reverse ▸ hc)
  rw [trim, trimStart_solid hf, trimEnd, hr, List.reverse_reverse]

theorem trim_blank {c : Char} (h : isBlank c = true) (cs : List Char) : trim (c :: cs) = trim cs := by
  simp [trim, trimStart, h]

theorem trim_cut (cs : List Char) : ∃ before after, cs = before ++ (trim cs ++ after) ∧
    (∀ c ∈ before, isBlank c = true) ∧ ∀ c ∈ after, isBlank c = true := by
  have hend : trim cs ++ ((trimStart cs).reverse.takeWhile isBlank).reverse = trimStart cs := by
    rw [trim, trimEnd, ← List.reverse_append, List.takeWhile_append_dropWhile, List.reverse_reverse]
  refine ⟨cs.takeWhile isBlank, ((trimStart cs).reverse.takeWhile isBlank).reverse, ?_, ?_, ?_⟩
  · rw [hend, trimStart, List.takeWhile_append_dropWhile]
  · exact fun c hc => List.mem_takeWhile_imp hc
  · exact fun c hc => List.mem_takeWhile_imp (List.mem_reverse.mp hc)

theorem trim_length_le (cs : List Char) : (trim cs).length ≤ cs.length := by
  obtain ⟨before, after, he, -⟩ := trim_cut cs
  have hl := congrArg List.length he
  simp only [List.length_append] at hl
  omega

theorem trim_first {cs : List Char} {c : Char} (h : (trim cs).head? = some c) :
    isBlank c = false := by
  obtain ⟨rest, hr⟩ := List.head?_eq_some_iff.mp h
  obtain ⟨after, ha⟩ : trim cs <+: trimStart cs := List.rdropWhile_prefix isBlank _
  have hn := List.head?_dropWhile_not isBlank cs
  rw [hr, trimStart] at ha
  rw [← ha] at hn
  simpa using hn

theorem trim_last {cs : List Char} {c : Char} (h : (trim cs).getLast? = some c) :
    isBlank c = false := by
  rw [trim, trimEnd, List.getLast?_reverse] at h
  have hn := List.head?_dropWhile_not isBlank (trimStart cs).reverse
  rw [h] at hn
  simpa using hn

end SampleTypes.Text
