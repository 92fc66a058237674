import Mathlib.Data.List.TakeWhile
import SampleTypes.Yaml.Cursor

/-!
Places in a text. Between two places, some text on one line has been passed, or nothing but blanks and
line ends.
-/

namespace SampleTypes.Yaml

def isSpace (c : Char) : Bool := c = ' ' || isBreak c

def trim (text : List Char) : List Char := text.dropWhile isSpace

theorem trim_space {x : Char} (hx : isSpace x = true) (more : List Char) :
    trim (x :: more) = trim more :=
  List.dropWhile_cons_of_pos hx

theorem trim_other {x : Char} (hx : isSpace x = false) (more : List Char) :
    trim (x :: more) = x :: more :=
  List.dropWhile_cons_of_neg (by simp [hx])

theorem trim_spaces {spaces : List Char} (h : ∀ x ∈ spaces, isSpace x = true) (more : List Char) :
    trim (spaces ++ more) = trim more := by
  induction spaces with
  | nil => rfl
  | cons x rest ih =>
    obtain ⟨hx, hr⟩ := List.forall_mem_cons.mp h
    exact (trim_space hx _).trans (ih hr)

structure Cursor.Passed (c : Cursor) (text : List Char) (d : Cursor) : Prop where
  rest : c.rest = text ++ d.rest
  index : d.index = c.index + text.length
  line : d.line = c.line
  ending : d.ending = c.ending

namespace Cursor

variable {c d e : Cursor} {text more : List Char}

theorem Passed.refl (c : Cursor) : c.Passed [] c := ⟨rfl, rfl, rfl, rfl⟩

theorem Passed.trans (h : c.Passed text d) (k : d.Passed more e) : c.Passed (text ++ more) e where
  rest := by rw [h.rest, k.rest, List.append_assoc]
  index := by rw [k.index, h.index, List.length_append, Nat.add_assoc]
  line := k.line.trans h.line
  ending := k.ending.trans h.ending

theorem passed_forward {x : Char} (hr : c.rest = x :: more) (hx : isBreak x = false) :
    c.Passed [x] c.forward := by
  simp only [forward, hr, hx, Bool.false_eq_true, if_false]
  exact ⟨hr, rfl, rfl, rfl⟩

theorem forward_rest {x : Char} (hr : c.rest = x :: more) : c.forward.rest = more := by
  unfold forward
  rw [hr]

theorem passed_skip (hr : c.rest = text ++ more) (hx : ∀ x ∈ text, isBreak x = false) :
    c.Passed text (c.skip text.length) := by
  induction text generalizing c with
  | nil => exact .refl c
  | cons x rest ih =>
    obtain ⟨h, hs⟩ := List.forall_mem_cons.mp hx
    exact (passed_forward hr h).trans (ih (forward_rest hr) hs)

theorem passed_span {p : Char → Bool} (hp : ∀ x, p x = true → isBreak x = false) (c : Cursor) :
    c.Passed (c.rest.takeWhile p) (c.span p).2 :=
  passed_skip (List.takeWhile_append_dropWhile).symm fun x hx => hp x (List.mem_takeWhile_imp hx)

theorem Passed.rest_eq {rest : List Char} (h : c.Passed text d) (hr : c.rest = text ++ rest) :
    d.rest = rest :=
  List.append_cancel_left (h.rest.symm.trans hr)

def ahead (c : Cursor) : List Char := trim c.rest

structure Near (c d : Cursor) : Prop where
  ahead : d.ahead = c.ahead
  ending : d.ending = c.ending

theorem Near.refl (c : Cursor) : c.Near c := ⟨rfl, rfl⟩

theorem Near.trans {e : Cursor} (h : c.Near d) (k : d.Near e) : c.Near e :=
  ⟨k.ahead.trans h.ahead, k.ending.trans h.ending⟩

theorem forward_ending (c : Cursor) : c.forward.ending = c.ending := by
  unfold forward
  split <;> rfl

theorem skip_ending (n : Nat) (c : Cursor) : (c.skip n).ending = c.ending := by
  induction n generalizing c with
  | zero => rfl
  | succ n ih => rw [skip, ih, forward_ending]

theorem near_forward {x : Char} (h : c.peek = some x) (hx : isSpace x = true) : c.Near c.forward := by
  obtain ⟨more, hr⟩ := List.head?_eq_some_iff.mp h
  refine ⟨?_, c.forward_ending⟩
  rw [ahead, ahead, forward_rest hr, hr, trim_space hx]

theorem skip_rest (n : Nat) (c : Cursor) : (c.skip n).rest = c.rest.drop n := by
  induction n generalizing c with
  | zero => rfl
  | succ n ih =>
    rw [skip, ih]
    cases hr : c.rest with
    | nil => simp [forward, hr]
    | cons x more => rw [forward_rest hr, List.drop_succ_cons]

theorem span_rest (p : Char → Bool) (c : Cursor) : (c.span p).2.rest = c.rest.dropWhile p := by
  refine (skip_rest _ c).trans ?_
  calc c.rest.drop (c.rest.takeWhile p).length
      = (c.rest.takeWhile p ++ c.rest.dropWhile p).drop (c.rest.takeWhile p).length := by
        rw [List.takeWhile_append_dropWhile]
    _ = c.rest.dropWhile p := List.drop_left

theorem near_skip {n : Nat} (h : ∀ x ∈ c.rest.take n, isSpace x = true) : c.Near (c.skip n) := by
  induction n generalizing c with
  | zero => exact .refl c
  | succ n ih =>
    cases hr : c.rest with
    | nil =>
      have hf : c.forward = c := by unfold forward; rw [hr]
      rw [skip, hf]
      exact ih (by simp [hr])
    | cons x more =>
      rw [hr, List.take_succ_cons, List.forall_mem_cons] at h
      have hp : c.peek = some x := by rw [peek, hr]; rfl
      exact (near_forward hp h.1).trans (ih (by rw [forward_rest hr]; exact h.2))

theorem near_span {p : Char → Bool} (hp : ∀ x, p x = true → isSpace x = true) (c : Cursor) :
    c.Near (c.span p).2 := by
  refine near_skip fun x hx => hp x ?_
  rw [List.prefix_iff_eq_take.mp (List.takeWhile_prefix p) |>.symm] at hx
  exact List.mem_takeWhile_imp hx

theorem near_skipBlanks (c : Cursor) : c.Near c.skipBlanks :=
  near_span (fun x hx => by simpa [isSpace] using Or.inl (by simpa using hx)) c

theorem lineBreak_some {b : Char} (h : c.lineBreak? = some (b, d)) :
    ∃ x, c.peek = some x ∧ isBreak x = true ∧ d = c.forward := by
  unfold lineBreak? at h
  split at h
  · rename_i x hp
    split at h
    · rename_i hb
      cases h
      exact ⟨x, hp, hb, rfl⟩
    · cases h
  · cases h

theorem near_lineBreak {b : Char} (h : c.lineBreak? = some (b, d)) : c.Near d := by
  obtain ⟨x, hp, hb, rfl⟩ := lineBreak_some h
  exact near_forward hp (by simp [isSpace, hb])

theorem lineBreak_none {x : Char} (hp : c.peek = some x) (h : c.lineBreak? = none) :
    isBreak x = false := by
  simpa [lineBreak?, hp] using h

/-- What comes first is ahead, unless it is a blank or a line end. -/
theorem peek_of_ahead {x : Char} {more : List Char} (ha : c.ahead = x :: more) :
    ∃ y, c.peek = some y ∧ (isSpace y = false → y = x) := by
  cases hr : c.rest with
  | nil =>
    rw [ahead, hr] at ha
    cases ha
  | cons y others =>
    refine ⟨y, by rw [peek, hr]; rfl, fun hy => ?_⟩
    rw [ahead, hr, trim_other hy] at ha
    exact (List.cons.inj ha).1

theorem skipComment_self (ha : c.ahead.head? ≠ some '#') :
    c.skipBlanks.skipComment = c.skipBlanks := by
  have hne : c.skipBlanks.peek ≠ some '#' := by
    intro he
    obtain ⟨others, hr⟩ := List.head?_eq_some_iff.mp he
    refine ha ?_
    rw [← c.near_skipBlanks.ahead, ahead, hr, trim_other (by decide)]
    rfl
  rw [skipComment, if_neg hne]

theorem skipBlanks_peek (c : Cursor) : c.skipBlanks.peek ≠ some ' ' := by
  intro hp
  have hd := List.head?_dropWhile_not (fun x => decide (x = ' ')) c.rest
  rw [← span_rest, show (c.span fun x => decide (x = ' ')).2.rest.head? = some ' ' from hp] at hd
  simp at hd

/-- Where no line ends after the blanks, all that is to be passed has been. -/
theorem skipBlanks_ahead (hl : c.skipBlanks.lineBreak? = none) : c.skipBlanks.rest = c.ahead := by
  rw [← c.near_skipBlanks.ahead, ahead]
  cases hr : c.skipBlanks.rest with
  | nil => rfl
  | cons y others =>
    have hp : c.skipBlanks.peek = some y := by rw [peek, hr]; rfl
    have hblank : y ≠ ' ' := by
      rintro rfl
      exact c.skipBlanks_peek hp
    have hspace : isSpace y = false := by simp [isSpace, hblank, lineBreak_none hp hl]
    exact (trim_other hspace others).symm

theorem lineBreak_shorter {b : Char} (hl : c.skipBlanks.lineBreak? = some (b, d)) :
    d.rest.length < c.rest.length := by
  obtain ⟨z, hz, -, rfl⟩ := lineBreak_some hl
  obtain ⟨others, hr⟩ := List.head?_eq_some_iff.mp hz
  have hle : c.skipBlanks.rest.length ≤ c.rest.length := by
    rw [show c.skipBlanks.rest = _ from span_rest _ _]
    exact (List.dropWhile_sublist _).length_le
  rw [forward_rest hr]
  rw [hr, List.length_cons] at hle
  omega

end Cursor

end SampleTypes.Yaml
