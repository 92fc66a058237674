import Mathlib.Data.List.Infix
import SampleTypes.Text.Basic

/-!
Texts cut at a character, and texts joined.
-/

namespace SampleTypes

section

variable {a : Char} {cs part : List Char}

theorem mem_splitOn (h : part ∈ cs.splitOn a) : a ∉ part ∧ part <:+: cs := by
  induction hl : cs.length using Nat.strong_induction_on generalizing cs with
  | _ n ih =>
    by_cases hm : a ∈ cs
    · obtain ⟨xs, ys, rfl, hx⟩ := List.eq_append_cons_of_mem hm
      rw [List.splitOn_append_cons_self_of_not_mem hx] at h
      rcases List.mem_cons.mp h with rfl | h
      · exact ⟨hx, (List.prefix_append _ _).isInfix⟩
      · have hlt : ys.length < n := by
          simp only [List.length_append, List.length_cons] at hl
          omega
        obtain ⟨hp, hi⟩ := ih _ hlt h rfl
        have hsuffix : ys <:+ xs ++ a :: ys :=
          (List.suffix_cons a ys).trans (List.suffix_append _ _)
        exact ⟨hp, hi.trans hsuffix.isInfix⟩
    · rw [List.splitOn_eq_singleton hm] at h
      obtain rfl := List.mem_singleton.mp h
      exact ⟨hm, List.infix_rfl⟩

/-- Where there is something to cut at, every part is shorter than the text. -/
theorem length_lt_of_mem_splitOn (hm : a ∈ cs) (h : part ∈ cs.splitOn a) :
    part.length < cs.length := by
  obtain ⟨hp, hi⟩ := mem_splitOn h
  refine lt_of_le_of_ne hi.length_le fun he => hp ?_
  rwa [hi.eq_of_length he]

/-- What stands behind the last place to cut at is the last part. -/
theorem splitOn_last (h : a ∈ cs) :
    ∃ xs ys, cs = xs ++ a :: ys ∧ a ∉ ys ∧ cs.splitOn a = xs.splitOn a ++ [ys] := by
  obtain ⟨ys, xs, he, hn⟩ := List.eq_append_cons_of_mem (List.mem_reverse.mpr h)
  have hcs : cs = xs.reverse ++ a :: ys.reverse := by simpa using congrArg List.reverse he
  have hy : a ∉ ys.reverse := by simpa using hn
  refine ⟨xs.reverse, ys.reverse, hcs, hy, ?_⟩
  rw [hcs, List.splitOn_append_cons_self, List.splitOn_eq_singleton hy]

theorem splitOn_append_free {more : List Char} (h : a ∉ more) (cs : List Char) :
    ∃ front last, cs.splitOn a = front ++ [last] ∧
      (cs ++ more).splitOn a = front ++ [last ++ more] := by
  by_cases hm : a ∈ cs
  · obtain ⟨xs, ys, rfl, hy, hs⟩ := splitOn_last hm
    have hmore : (ys ++ more).splitOn a = [ys ++ more] :=
      List.splitOn_eq_singleton (by simp [hy, h])
    refine ⟨xs.splitOn a, ys, hs, ?_⟩
    rw [List.append_assoc, List.cons_append, List.splitOn_append_cons_self, hmore]
  · exact ⟨[], cs, List.splitOn_eq_singleton hm, List.splitOn_eq_singleton (by simp [hm, h])⟩

theorem splitOn_free_append {more : List Char} (h : a ∉ more) (cs : List Char) :
    ∃ first rest, cs.splitOn a = first :: rest ∧
      (more ++ cs).splitOn a = (more ++ first) :: rest := by
  by_cases hm : a ∈ cs
  · obtain ⟨xs, ys, rfl, hn⟩ := List.eq_append_cons_of_mem hm
    refine ⟨xs, ys.splitOn a, List.splitOn_append_cons_self_of_not_mem hn ys, ?_⟩
    rw [← List.append_assoc]
    exact List.splitOn_append_cons_self_of_not_mem (by simp [hn, h]) ys
  · exact ⟨cs, [], List.splitOn_eq_singleton hm, List.splitOn_eq_singleton (by simp [hm, h])⟩

end

theorem joinTexts_toList (sep first : String) (rest : List String) :
    (joinTexts sep (first :: rest)).toList =
      first.toList ++ rest.flatMap fun t => sep.toList ++ t.toList := by
  induction rest generalizing first with
  | nil => simp [joinTexts]
  | cons next rest ih => simp [joinTexts, ih, String.toList_append]

theorem joinTexts_cons (sep first : String) {rest : List String} (h : rest ≠ []) :
    joinTexts sep (first :: rest) = first ++ sep ++ joinTexts sep rest := by
  cases rest with
  | nil => exact absurd rfl h
  | cons next rest => rfl

theorem joinTexts_concat (sep last : String) {texts : List String} (h : texts ≠ []) :
    joinTexts sep (texts ++ [last]) = joinTexts sep texts ++ sep ++ last := by
  induction texts with
  | nil => exact absurd rfl h
  | cons first rest ih =>
    by_cases hr : rest = []
    · subst hr
      rfl
    · have hne : rest ++ [last] ≠ [] := List.append_ne_nil_of_left_ne_nil hr _
      rw [List.cons_append, joinTexts_cons _ _ hne, joinTexts_cons _ _ hr, ih hr]
      simp only [String.append_assoc]

theorem joinTexts_append (sep last more : String) (texts : List String) :
    joinTexts sep (texts ++ [last]) ++ more = joinTexts sep (texts ++ [last ++ more]) := by
  cases texts with
  | nil => rfl
  | cons first rest =>
    have hne : first :: rest ≠ [] := List.cons_ne_nil _ _
    rw [joinTexts_concat sep last hne, joinTexts_concat sep _ hne]
    simp only [String.append_assoc]

/-- Cut at what they were joined with, the texts come out again. -/
theorem splitOn_joinTexts {sep : String} {c : Char} (hs : sep.toList = [c]) {texts : List String}
    (hne : texts ≠ []) (h : ∀ t ∈ texts, c ∉ t.toList) :
    (joinTexts sep texts).toList.splitOn c = texts.map String.toList := by
  induction texts with
  | nil => exact absurd rfl hne
  | cons first rest ih =>
    rw [List.forall_mem_cons] at h
    by_cases hr : rest = []
    · subst hr
      exact List.splitOn_eq_singleton h.1
    · rw [joinTexts_cons _ _ hr, String.toList_append, String.toList_append, hs, List.append_assoc,
        List.singleton_append, List.splitOn_append_cons_self_of_not_mem h.1, ih hr h.2, List.map_cons]

end SampleTypes
