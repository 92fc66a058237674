import SampleTypes.Proofs.Yaml.Cursor
import SampleTypes.Yaml.Scalar

/-!
Words without quotes. Inside brackets a word ends at the next mark, whatever blanks and line ends are
before it.
-/

namespace SampleTypes.Yaml

theorem moreBreaks_near (fuel : Nat) (breaks : List Char) (c : Cursor) :
    c.Near (moreBreaks fuel breaks c).2 := by
  induction fuel generalizing breaks c with
  | zero => exact .refl c
  | succ fuel ih =>
    rw [moreBreaks]
    split
    · rename_i b next hl
      have hn := Cursor.near_lineBreak hl
      split
      · exact hn
      · exact hn.trans (ih _ _)
    · split
      · rename_i hp
        exact (Cursor.near_forward hp (by decide)).trans (ih _ _)
      · exact .refl c

theorem gap_near (c : Cursor) : c.Near (gap c).after := by
  have hb : c.Near (c.span (· = ' ')).2 := c.near_skipBlanks
  unfold gap
  dsimp only
  split
  · exact hb
  · rename_i first next hl
    have hn := hb.trans (Cursor.near_lineBreak hl)
    split
    · exact hn
    · split
      · rename_i d hm
        have hd := moreBreaks_near next.rest.length [] next
        rw [hm] at hd
        exact hn.trans hd
      · rename_i more d hm
        have hd := moreBreaks_near next.rest.length [] next
        rw [hm] at hd
        exact hn.trans hd

def endsFlowWord (c : Char) : Bool := isSpace c || flowMarks.contains c

def isFlowWordChar (c : Char) : Bool :=
  !(isBlankOrTab c || isBreak c || c = ':' || flowMarks.contains c)

theorem plainRun_end {x : Char} (hx : endsFlowWord x = true) (more : List Char) :
    plainRun true (x :: more) = 0 := by
  have h : (isBlankOrTab x || isBreak x || (x = ':' && marksKey true more.head?) ||
      (true && flowMarks.contains x)) = true := by
    simp only [endsFlowWord, isSpace, Bool.or_eq_true, decide_eq_true_eq] at hx
    rcases hx with (rfl | hb) | hm
    · rfl
    · simp [hb]
    · simp only [hm, Bool.and_self, Bool.or_true]
  rw [plainRun, if_pos h]

theorem plainRun_word {word : List Char} (hw : ∀ x ∈ word, isFlowWordChar x = true) {x : Char}
    (hx : endsFlowWord x = true) (more : List Char) :
    plainRun true (word ++ x :: more) = word.length := by
  induction word with
  | nil => exact plainRun_end hx more
  | cons y rest ih =>
    obtain ⟨hy, hr⟩ := List.forall_mem_cons.mp hw
    simp only [isFlowWordChar, Bool.not_eq_true', Bool.or_eq_false_iff, decide_eq_false_iff_not] at hy
    obtain ⟨⟨⟨h1, h2⟩, h3⟩, h4⟩ := hy
    rw [List.cons_append, plainRun, if_neg (by simp only [h1, h2, h3, h4, decide_false, Bool.false_and,
      Bool.and_false, Bool.or_self, Bool.false_eq_true, not_false_eq_true]), ih hr, List.length_cons]

theorem endsFlowWord_of_ahead {c : Cursor} {x : Char} {others : List Char} (ha : c.ahead = x :: others)
    (hx : flowMarks.contains x = true) : ∃ y ys, c.rest = y :: ys ∧ endsFlowWord y = true := by
  obtain ⟨y, hp, hy⟩ := Cursor.peek_of_ahead ha
  obtain ⟨ys, hys⟩ := List.head?_eq_some_iff.mp hp
  refine ⟨y, ys, hys, ?_⟩
  cases hs : isSpace y with
  | true => simp [endsFlowWord, hs]
  | false =>
    rw [hy hs]
    simp only [endsFlowWord, hx, Bool.or_true]

theorem plainFrom_end {c : Cursor} {y : Char} {ys : List Char} (hr : (gap c).after.rest = y :: ys)
    (hy : endsFlowWord y = true) (indent : Int) (fuel : Nat) (word : List Char) :
    plainFrom true indent fuel word (gap c) = ⟨word, (gap c).hasBreak, (gap c).after⟩ := by
  cases fuel with
  | zero => rfl
  | succ fuel => simp only [plainFrom, hr, plainRun_end hy, if_true]

theorem plainText_word {word more : List Char} {c : Cursor} {indent : Int} (hne : word ≠ [])
    (hw : ∀ x ∈ word, isFlowWordChar x = true) (hr : c.rest = word ++ more) {x : Char}
    {others : List Char} (hm : trim more = x :: others) (hx : flowMarks.contains x = true) :
    (plainText true indent c).text = word ∧ (plainText true indent c).after.ahead = trim more ∧
      (plainText true indent c).after.ending = c.ending := by
  obtain ⟨y, ys, rfl, hy⟩ := endsFlowWord_of_ahead (c := { rest := more }) hm hx
  obtain ⟨n, hn⟩ : ∃ n, c.rest.length = n + 1 := by
    rw [hr, List.length_append, List.length_cons]
    exact ⟨_, rfl⟩
  have hrun : plainRun true c.rest = word.length := by rw [hr, plainRun_word hw hy]
  have hlen : word.length ≠ 0 := fun h => hne (List.length_eq_zero_iff.mp h)
  have htake : c.rest.take word.length = word := by rw [hr, List.take_left]
  have hskip : (c.skip word.length).rest = y :: ys := by
    rw [Cursor.skip_rest, hr, List.drop_left]
  have hnear := gap_near (c.skip word.length)
  have hahead : (gap (c.skip word.length)).after.ahead = x :: others := by
    rw [hnear.ahead, Cursor.ahead, hskip]
    exact hm
  have hend : (c.skip word.length).ending = c.ending := Cursor.skip_ending _ c
  obtain ⟨z, zs, hz, hze⟩ := endsFlowWord_of_ahead hahead hx
  have hall : plainText true indent c =
      ⟨word, (gap (c.skip word.length)).hasBreak, (gap (c.skip word.length)).after⟩ := by
    rw [plainText, hn, plainFrom]
    simp only [hrun, hlen, if_false, htake, List.nil_append]
    split
    · rfl
    · exact plainFrom_end hz hze indent n word
  rw [hall]
  exact ⟨rfl, hahead.trans hm.symm, hnear.ending.trans hend⟩

end SampleTypes.Yaml
