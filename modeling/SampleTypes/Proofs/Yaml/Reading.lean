import SampleTypes.Proofs.Yaml.Cursor
import SampleTypes.Yaml.Lines

/-!
How a text without blocks is read, token by token. What counts of the place is the text ahead of it,
and of the reader what it has found and how many brackets are open.
-/

namespace SampleTypes.Yaml

namespace Reader

/-- What a reader that has opened no blocks has found, and the text that is ahead of it. -/
structure Reads (r : Reader) (rest : List Char) (found : List Token) (depth : Nat) (allowed : Bool) :
    Prop where
  ahead : r.cursor.ahead = trim rest
  complete : r.cursor.ending = none
  tokens : r.found = found
  count : r.count = found.length
  opened : r.depth = depth
  allowed : allowed = true → r.keyAllowed = true
  indent : r.indent = -1
  optional : ∀ k ∈ r.keys, k.2.required = false

section

variable {r : Reader} {rest : List Char} {found : List Token} {depth : Nat} {allowed : Bool}

/-- Blanks and line ends are passed up to what comes after them, which is no comment. -/
theorem skipToToken_near {fuel : Nat} (hf : r.cursor.rest.length ≤ fuel)
    (ha : r.cursor.ahead.head? ≠ some '#') :
    ∃ c a, skipToToken fuel r = (r.moveTo c).allow a ∧ r.cursor.Near c ∧ c.rest = r.cursor.ahead ∧
      (r.keyAllowed = true → a = true) := by
  induction fuel generalizing r with
  | zero =>
    have hr : r.cursor.rest = [] := List.length_eq_zero_iff.mp (Nat.le_zero.mp hf)
    exact ⟨r.cursor, r.keyAllowed, rfl, .refl _, by rw [Cursor.ahead, hr]; rfl, id⟩
  | succ fuel ih =>
    have hn := r.cursor.near_skipBlanks
    rw [skipToToken, Cursor.skipComment_self ha]
    cases hl : r.cursor.skipBlanks.lineBreak? with
    | none => exact ⟨_, r.keyAllowed, rfl, hn, Cursor.skipBlanks_ahead hl, id⟩
    | some found =>
      obtain ⟨b, next⟩ := found
      have hnear := hn.trans (Cursor.near_lineBreak hl)
      have hshort : next.rest.length ≤ fuel := by
        have := Cursor.lineBreak_shorter hl
        omega
      obtain ⟨c, a, he, hc, hrest, hk⟩ :=
        ih (r := (r.moveTo next).allow (r.keyAllowed || !r.inFlow)) hshort (hnear.ahead ▸ ha)
      refine ⟨c, a, he, hnear.trans hc, hrest.trans hnear.ahead, fun h => hk ?_⟩
      simp [allow, h]

def fresh (r : Reader) : Reader := { r with keys := r.keys.filter fun k => !k.2.isStale r.cursor }

theorem dropStaleKeys_ok (h : ∀ k ∈ r.keys, k.2.required = false) :
    r.dropStaleKeys = .ok r.fresh := by
  have hn : (r.keys.any fun k => k.2.isStale r.cursor && k.2.required) = false :=
    List.any_eq_false.mpr fun k hk => by simp [h k hk]
  simp [dropStaleKeys, hn, fresh]

theorem dropKey_ok (h : ∀ k ∈ r.keys, k.2.required = false) :
    r.dropKey = .ok { r with keys := r.keys.filter fun k => k.1 != r.depth } := by
  have hn : (r.keys.any fun k => k.1 = r.depth && k.2.required) = false :=
    List.any_eq_false.mpr fun k hk => by simp [h k hk]
  simp [dropKey, hn]

theorem goOn_ok (h : r.cursor.ending = none) : r.goOn = .ok r := by
  simp [goOn, Cursor.ending?, h]

theorem unwindTo_self (hi : r.indent = -1) {column : Int} (hc : -1 ≤ column) :
    r.unwindTo column = r := by
  unfold unwindTo
  split
  · rfl
  · have hn : ¬ column < r.indent := by omega
    simp only [List.takeWhile_cons, hn, decide_false, Bool.false_eq_true, if_false, List.length_nil,
      List.drop_zero, List.foldl_nil]

theorem Reads.fresh (h : r.Reads rest found depth allowed) :
    r.fresh.Reads rest found depth allowed :=
  { h with optional := fun k hk => h.optional k (List.mem_filter.mp hk).1 }

theorem Reads.unwound (h : r.Reads rest found depth allowed) :
    r.unwindTo (r.cursor.column : Int) = r :=
  unwindTo_self h.indent (Int.le_trans (by decide) (Int.natCast_nonneg _))

theorem skipByteOrderMark_self (h : r.cursor.peek ≠ some byteOrderMark) : r.skipByteOrderMark = r := by
  simp [skipByteOrderMark, h]

/-- The reader goes on to the end of the text without a fault, with these tokens. -/
def Completes (r : Reader) (tokens : List Token) : Prop := ∃ fuel, readAll fuel r = ⟨tokens, none⟩

theorem Completes.step {tokens : List Token} (h : r.Completes tokens) :
    ∃ last next, r.step = .ok (last, next) ∧
      if last then tokens = next.found.reverse else next.Completes tokens := by
  obtain ⟨fuel, h⟩ := h
  cases fuel with
  | zero => cases h
  | succ fuel =>
    rw [readAll] at h
    cases hs : r.step with
    | error e =>
      rw [hs] at h
      cases h
    | ok result =>
      obtain ⟨last, next⟩ := result
      rw [hs] at h
      cases last with
      | true =>
        cases h
        exact ⟨true, next, rfl, rfl⟩
      | false => exact ⟨false, next, rfl, fuel, h⟩

/-- A step to a token, once blanks and line ends have been passed. -/
theorem step_of_skip {s : Reader} {x : Char} {more : List Char}
    (hmark : r.cursor.peek ≠ some byteOrderMark)
    (hskip : skipToToken r.cursor.rest.length r = s) (h : s.Reads rest found depth allowed)
    (hr : s.cursor.rest = x :: more) :
    r.step = (do return (false, ← (← (← s.fresh.readToken x).goOn).dropStaleKeys)) := by
  have hpeek : s.fresh.cursor.peek = some x := by
    rw [Cursor.peek, show s.fresh.cursor.rest = x :: more from hr]
    rfl
  simp only [step, skipByteOrderMark_self hmark, hskip, goOn_ok h.complete,
    dropStaleKeys_ok h.optional, bind, Except.bind, h.fresh.unwound, hpeek]

/-- Before a token, the reader has passed blanks and line ends. -/
theorem Reads.arrive {x : Char} {more : List Char} (h : r.Reads rest found depth allowed)
    (hr : trim rest = x :: more) (hx : x ≠ '#') (hb : x ≠ byteOrderMark) :
    ∃ s : Reader, s.Reads rest found depth allowed ∧ s.cursor.rest = x :: more ∧
      r.step = (do return (false, ← (← (← s.readToken x).goOn).dropStaleKeys)) := by
  have hahead := h.ahead.trans hr
  obtain ⟨c, a, hskip, hnear, hrest, hallow⟩ := skipToToken_near (r := r) (Nat.le_refl _)
    (by rw [hahead]; exact fun he => hx (Option.some.inj he))
  rw [hahead] at hrest
  have hmark : r.cursor.peek ≠ some byteOrderMark := by
    obtain ⟨y, hp, hy⟩ := Cursor.peek_of_ahead hahead
    intro he
    obtain rfl := Option.some.inj (hp.symm.trans he)
    exact hb (hy (by decide)).symm
  have hreads : ((r.moveTo c).allow a).Reads rest found depth allowed :=
    { h with
      ahead := hnear.ahead.trans h.ahead
      complete := hnear.ending.trans h.complete
      allowed := fun ha => hallow (h.allowed ha) }
  exact ⟨_, hreads.fresh, hrest, step_of_skip hmark hskip hreads hrest⟩

theorem Completes.finish {tokens : List Token} (hc : r.Completes tokens)
    (h : r.Reads rest found depth allowed) (hr : trim rest = []) : tokens = found.reverse := by
  obtain ⟨last, next, hstep, hlast⟩ := hc.step
  have hahead := h.ahead.trans hr
  obtain ⟨c, a, hskip, hnear, hrest, -⟩ := skipToToken_near (r := r) (Nat.le_refl _)
    (by rw [hahead]; nofun)
  have hmark : r.cursor.peek ≠ some byteOrderMark := by
    intro he
    obtain ⟨others, hm⟩ := List.head?_eq_some_iff.mp he
    rw [Cursor.ahead, hm, trim_other (by decide)] at hahead
    cases hahead
  have hs : ((r.moveTo c).allow a).Reads rest found depth a :=
    { h with
      ahead := hnear.ahead.trans h.ahead
      complete := hnear.ending.trans h.complete
      allowed := id }
  have hpeek : ((r.moveTo c).allow a).fresh.cursor.peek = none := by
    rw [Cursor.peek, show ((r.moveTo c).allow a).fresh.cursor.rest = [] from hrest.trans hahead]
    rfl
  simp only [Reader.step, skipByteOrderMark_self hmark, hskip, goOn_ok hs.complete,
    dropStaleKeys_ok hs.optional, bind, Except.bind, hs.fresh.unwound, hpeek,
    unwindTo_self hs.fresh.indent (Int.le_refl _), dropKey_ok hs.fresh.optional] at hstep
  cases hstep
  exact hlast.trans (congrArg List.reverse hs.tokens)

theorem skipToToken_self {x : Char} {more : List Char} (hr : r.cursor.rest = x :: more)
    (hs : isSpace x = false) (hx : x ≠ '#') (fuel : Nat) : skipToToken fuel r = r := by
  cases fuel with
  | zero => rfl
  | succ fuel =>
    simp only [isSpace, Bool.or_eq_false_iff, decide_eq_false_iff_not] at hs
    have hblanks : r.cursor.skipBlanks = r.cursor := by
      simp [Cursor.skipBlanks, Cursor.span, hr, hs.1, Cursor.skip]
    have hcomment : r.cursor.skipComment = r.cursor := by
      simp [Cursor.skipComment, Cursor.peek, hr, hx]
    have hbreak : r.cursor.lineBreak? = none := by
      simp [Cursor.lineBreak?, Cursor.peek, hr, hs.2]
    rw [skipToToken, hblanks, hcomment, hbreak]
    rfl

theorem Reads.here {x : Char} {more : List Char} (h : r.Reads rest found depth allowed)
    (hr : r.cursor.rest = x :: more) (hs : isSpace x = false) (hx : x ≠ '#') (hb : x ≠ byteOrderMark) :
    r.step = (do return (false, ← (← (← r.fresh.readToken x).goOn).dropStaleKeys)) := by
  refine step_of_skip ?_ (skipToToken_self hr hs hx _) h hr
  rw [Cursor.peek, hr]
  exact fun he => hb (Option.some.inj he)

theorem Completes.token {s : Reader} {x : Char} {tokens : List Token} (h : r.Completes tokens)
    (hs : r.step = (do return (false, ← (← (← s.readToken x).goOn).dropStaleKeys))) :
    ∃ t : Reader, s.readToken x = .ok t ∧ ∀ {rest found depth allowed},
      t.Reads rest found depth allowed → t.fresh.Completes tokens := by
  obtain ⟨last, next, hstep, h⟩ := h.step
  rw [hs] at hstep
  cases ht : s.readToken x with
  | error e =>
    rw [ht] at hstep
    cases hstep
  | ok t =>
    refine ⟨t, rfl, fun hreads => ?_⟩
    simp only [ht, bind, Except.bind, goOn_ok hreads.complete, dropStaleKeys_ok hreads.optional]
      at hstep
    cases hstep
    exact h

end

/-- Some reader that has found so much and has this text ahead goes on to the end. -/
def Goes (tokens : List Token) (rest : List Char) (found : List Token) (depth : Nat)
    (allowed : Bool) : Prop :=
  ∃ r : Reader, r.Reads rest found depth allowed ∧ r.Completes tokens

section

variable {tokens found : List Token} {rest more : List Char} {depth : Nat} {allowed : Bool} {x : Char}

theorem Goes.token (h : Goes tokens rest found depth allowed) (hr : trim rest = x :: more)
    (hx : x ≠ '#') (hb : x ≠ byteOrderMark) :
    ∃ s t : Reader, s.Reads rest found depth allowed ∧ s.cursor.rest = x :: more ∧
      s.readToken x = .ok t ∧ ∀ {rest' found' depth' allowed'},
        t.Reads rest' found' depth' allowed' → Goes tokens rest' found' depth' allowed' := by
  obtain ⟨r, hreads, hc⟩ := h
  obtain ⟨s, hs, hrest, hstep⟩ := hreads.arrive hr hx hb
  obtain ⟨t, ht, hgo⟩ := hc.token hstep
  exact ⟨s, t, hs, hrest, ht, fun hr' => ⟨t.fresh, hr'.fresh, hgo hr'⟩⟩

end

end Reader

end SampleTypes.Yaml
