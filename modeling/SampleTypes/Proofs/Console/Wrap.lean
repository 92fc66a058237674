import Mathlib.Data.List.SplitBy
import SampleTypes.Console.Wrap

/-!
Lines that fit are not broken. A text of one line that takes no more cells than the console has is
printed as it is, as it is broken only before words, and the words up to one of them do not take more
cells than the text does.
-/

namespace SampleTypes.Text

/-! The width of a text and of its parts. -/

theorem widthFrom_last (hidden : Bool) (last : Option Char) (cs : List Char) :
    widthFrom hidden none cs ≤ widthFrom hidden last cs := by
  induction cs generalizing hidden last with
  | nil => rfl
  | cons c cs ih =>
    simp only [widthFrom]
    split
    · exact ih false last
    · split
      · exact ih true last
      · split
        · simp
        · split
          · exact Nat.add_le_add_left (ih false last) _
          · rfl

theorem widthFrom_append (hidden : Bool) (last : Option Char) (cs more : List Char) :
    widthFrom hidden last cs ≤ widthFrom hidden last (cs ++ more) := by
  induction cs generalizing hidden last with
  | nil => exact Nat.zero_le _
  | cons c cs ih =>
    simp only [widthFrom, List.cons_append]
    split
    · exact ih _ _
    · split
      · exact ih _ _
      · split <;> exact Nat.add_le_add_left (ih _ _) _

/-- Two parts take no more cells than the whole, unless a joiner hides the start of the second. -/
theorem widthFrom_add_le {hidden : Bool} {last : Option Char} {cs : List Char}
    (hc : cs.getLast? ≠ some joiner) (hn : cs = [] → hidden = false) (more : List Char) :
    widthFrom hidden last cs + width more ≤ widthFrom hidden last (cs ++ more) := by
  induction cs generalizing hidden last with
  | nil =>
    rw [hn rfl]
    exact (Nat.zero_add _).trans_le (widthFrom_last false last more)
  | cons c cs ih =>
    have hc' : cs.getLast? ≠ some joiner := by
      intro he
      rw [List.getLast?_cons, he] at hc
      exact hc rfl
    simp only [widthFrom, List.cons_append]
    split
    · exact ih hc' fun _ => rfl
    · split
      · rename_i hj
        refine ih hc' ?_
        rintro rfl
        exact absurd (congrArg some hj) hc
      · split
        · rw [Nat.add_assoc]
          exact Nat.add_le_add_left (ih hc' fun _ => rfl) _
        · rw [Nat.add_assoc]
          exact Nat.add_le_add_left (ih hc' fun _ => rfl) _

theorem width_add_le {cs : List Char} (hc : cs.getLast? ≠ some joiner) (more : List Char) :
    width cs + width more ≤ width (cs ++ more) :=
  widthFrom_add_le hc (fun _ => rfl) more

theorem trimEnd_prefix (cs : List Char) : trimEnd cs <+: cs := by
  have hs : (cs.reverse.dropWhile isBlank).reverse <+: cs.reverse.reverse :=
    List.reverse_prefix.mpr (List.dropWhile_suffix _)
  rwa [List.reverse_reverse] at hs

theorem width_trimEnd (cs : List Char) : width (trimEnd cs) ≤ width cs := by
  obtain ⟨more, hm⟩ := trimEnd_prefix cs
  conv_rhs => rw [← hm]
  exact widthFrom_append _ _ _ _

/-- A text that does not end in a blank has none to lose there. -/
theorem trimEnd_solid {cs : List Char} (h : ∀ c, cs.getLast? = some c → isBlank c = false) :
    trimEnd cs = cs := by
  have hr : cs.reverse.dropWhile isBlank = cs.reverse := by
    cases hc : cs.reverse with
    | nil => rfl
    | cons c rest =>
      have hl : cs.getLast? = some c := by rw [← List.head?_reverse, hc]; rfl
      simp [h c hl]
  rw [trimEnd, hr, List.reverse_reverse]

end SampleTypes.Text

namespace SampleTypes.Console

open Text

def EndsBlank (cs : List Char) : Prop := ∃ c, cs.getLast? = some c ∧ isBlank c = true

theorem EndsBlank.no_joiner {cs : List Char} (h : EndsBlank cs) : cs.getLast? ≠ some joiner := by
  obtain ⟨c, hl, hb⟩ := h
  rw [hl]
  rintro ⟨⟩
  revert hb
  decide

abbrev Spaced (words : List (List Char)) : Prop := words.IsChain fun word _ => EndsBlank word

abbrev runs (text : List Char) : List (List Char) :=
  text.splitBy fun a b => !isBlank a || isBlank b

theorem runs_spaced (text : List Char) : Spaced (runs text) := by
  refine (List.isChain_getLast_head_splitBy _ text).imp fun run next => ?_
  rintro ⟨hr, hn, h⟩
  refine ⟨run.getLast hr, List.getLast?_eq_some_getLast hr, ?_⟩
  simpa using (Bool.or_eq_false_iff.mp h).1

/-- The words are the runs, but that blanks before the first word belong to it. -/
theorem wordsFrom_cases (text : List Char) :
    wordsFrom text = [] ∨ wordsFrom text = runs text ∨
      ∃ blanks word rest, runs text = blanks :: word :: rest ∧
        wordsFrom text = (blanks ++ word) :: rest := by
  unfold wordsFrom
  dsimp only
  split
  · rename_i blanks word rest hr
    split
    · exact .inr (.inr ⟨blanks, word, rest, hr, rfl⟩)
    · exact .inr (.inl rfl)
  · split
    · exact .inl rfl
    · exact .inr (.inl rfl)
  · exact .inl rfl

theorem wordsFrom_spaced (text : List Char) : Spaced (wordsFrom text) := by
  have hs := runs_spaced text
  rcases wordsFrom_cases text with hw | hw | ⟨blanks, word, rest, hr, hw⟩
  · exact hw ▸ .nil
  · exact hw ▸ hs
  · rw [hr] at hs
    rw [hw]
    cases rest with
    | nil => exact .singleton _
    | cons next rest =>
      obtain ⟨⟨c, hl, hb⟩, ht⟩ := List.isChain_cons_cons.mp hs.tail
      exact List.isChain_cons_cons.mpr ⟨⟨c, by simp [List.getLast?_append, hl], hb⟩, ht⟩

theorem wordsFrom_flatten (text : List Char) : wordsFrom text = [] ∨ (wordsFrom text).flatten = text := by
  have hf : (runs text).flatten = text := List.flatten_splitBy _ text
  rcases wordsFrom_cases text with hw | hw | ⟨blanks, word, rest, hr, hw⟩
  · exact .inl hw
  · exact .inr (hw ▸ hf)
  · rw [hr] at hf
    rw [hw]
    exact .inr (by simpa using hf)

theorem breakPlaces_none {room : Nat} {words : List (List Char)} (hs : Spaced words)
    (start : Nat) {used : Nat} (h : used + width words.flatten ≤ room) :
    breakPlaces true room start used words = [] := by
  induction words generalizing start used with
  | nil => rfl
  | cons word rest ih =>
    have hw : width word + width rest.flatten ≤ width (word :: rest).flatten := by
      cases rest with
      | nil => simp [width, widthFrom]
      | cons next rest =>
        exact width_add_le (List.isChain_cons_cons.mp hs).1.no_joiner _
    have ht := width_trimEnd word
    rw [breakPlaces, if_pos (by omega)]
    exact ih hs.tail _ (by omega)

theorem breakPlaces_fitting {room : Nat} {line : List Char} (h : width line ≤ room) :
    breakPlaces true room 0 0 (wordsFrom line) = [] := by
  rcases wordsFrom_flatten line with hf | hf
  · rw [hf]
    rfl
  · exact breakPlaces_none (wordsFrom_spaced line) 0 (by rwa [hf, Nat.zero_add])

structure OneLine (room : Nat) (cs : List Char) : Prop where
  noBreak : '\n' ∉ cs
  noTab : '\t' ∉ cs
  fits : width cs ≤ room
  solid : ∀ c, cs.getLast? = some c → isBlank c = false

theorem OneLine.wrap {room : Nat} {cs : List Char} (h : OneLine room cs) :
    wrap room cs = [cs] := by
  have ht : expandTabs cs = cs := by
    rw [expandTabs, List.splitOn_eq_singleton h.noTab]
    rfl
  have hl : wrapLine room cs = [cs] := by
    simp only [wrapLine, ht, breakPlaces_fitting h.fits, cutAt, List.map_cons, List.map_nil, dropExcess,
      trimEnd_solid h.solid, Nat.sub_self, Nat.min_zero, Nat.sub_zero, List.take_length]
  simp only [Console.wrap, List.splitOn_eq_singleton h.noBreak, List.flatMap_cons, List.flatMap_nil,
    List.append_nil, hl, List.map_cons, List.map_nil, truncate, h.fits, if_true]

end SampleTypes.Console
