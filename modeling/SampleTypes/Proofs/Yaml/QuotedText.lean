import SampleTypes.Proofs.Json.StringText
import SampleTypes.Proofs.Json.WrittenText
import SampleTypes.Proofs.Yaml.Cursor
import SampleTypes.Yaml.Scalar

/-!
Strings of JSON read as YAML. What is written for a string stays on its line, and reading it as a
scalar in double quotes ends right after its closing quote.
-/

namespace SampleTypes.Yaml

def IsOrdinary (c : Char) : Prop := (0x20 ≤ c.toNat ∧ c.toNat ≤ 0x7E) ∧ c ≠ '"' ∧ c ≠ '\\'

theorem IsOrdinary.not_break {c : Char} (h : IsOrdinary c) : isBreak c = false := by
  have hn : ∀ d : Char, c = d → 0x20 ≤ d.toNat ∧ d.toNat ≤ 0x7E := fun d hd => hd ▸ h.1
  simp only [isBreak, Bool.or_eq_false_iff, decide_eq_false_iff_not]
  exact ⟨⟨⟨fun he => absurd (hn _ he) (by decide), fun he => absurd (hn _ he) (by decide)⟩,
    fun he => absurd (hn _ he) (by decide)⟩, fun he => absurd (hn _ he) (by decide)⟩

/-- What stands between the quotes of a JSON string: characters, short escapes and escapes with four
digits. -/
inductive Quotable : List Char → Prop
  | nil : Quotable []
  | ordinary {c : Char} {cs : List Char} (hc : IsOrdinary c) (h : Quotable cs) : Quotable (c :: cs)
  | short {e : Char} {cs : List Char} (he : e ∈ ['"', '\\', 'n', 'r', 't', 'f', 'b'])
      (h : Quotable cs) : Quotable ('\\' :: e :: cs)
  | unit {digits cs : List Char} (hl : digits.length = 4) (hd : ∀ d ∈ digits, IsOrdinary d)
      (h : Quotable cs) : Quotable ('\\' :: 'u' :: (digits ++ cs))

namespace Quotable

variable {cs ds : List Char}

theorem tail {c : Char} (h : Quotable (c :: cs)) (hc : c ≠ '\\') : Quotable cs := by
  cases h with
  | ordinary _ h => exact h
  | short he h => exact absurd rfl hc
  | unit hl hd h => exact absurd rfl hc

theorem dropWhile {p : Char → Bool} (hp : p '\\' = false) (h : Quotable cs) :
    Quotable (cs.dropWhile p) := by
  induction cs with
  | nil => exact h
  | cons c rest ih =>
    by_cases hc : p c = true
    · rw [List.dropWhile_cons_of_pos hc]
      exact ih (h.tail fun he => by rw [he, hp] at hc; cases hc)
    · rwa [List.dropWhile_cons_of_neg hc]

theorem next (h : Quotable cs) (rest : List Char) :
    ∃ x more, cs ++ '"' :: rest = x :: more ∧ isBreak x = false := by
  cases h with
  | nil => exact ⟨'"', rest, rfl, by decide⟩
  | ordinary hc h => exact ⟨_, _, rfl, hc.not_break⟩
  | short he h => exact ⟨_, _, rfl, by decide⟩
  | unit hl hd h => exact ⟨_, _, rfl, by decide⟩

end Quotable

section

variable {c d : Cursor} {body rest : List Char}

/-- A run of characters that ends before an escape or the closing quote. -/
theorem span_body {p : Char → Bool} (hq : p '"' = false) (hp : ∀ x, p x = true → isBreak x = false)
    (hr : c.rest = body ++ '"' :: rest) :
    (c.span p).1 = body.takeWhile p ∧ c.Passed (body.takeWhile p) (c.span p).2 ∧
      (c.span p).2.rest = body.dropWhile p ++ '"' :: rest := by
  have ht : c.rest.takeWhile p = body.takeWhile p := by
    rw [hr, List.takeWhile_append]
    split
    · rename_i hl
      rw [List.takeWhile_cons_of_neg (by simp [hq]), List.append_nil]
      exact (List.takeWhile_prefix p).eq_of_length hl |>.symm
    · rfl
  have hpassed := Cursor.passed_span hp c
  rw [ht] at hpassed
  refine ⟨ht, hpassed, hpassed.rest_eq ?_⟩
  rw [hr, ← List.append_assoc, List.takeWhile_append_dropWhile]

theorem isBlankOrTab_not_break (x : Char) (hx : isBlankOrTab x = true) : isBreak x = false := by
  rcases (by simpa [isBlankOrTab] using hx : x = ' ' ∨ x = '\t') with rfl | rfl <;> decide

theorem quotedSpaces_body (h : Quotable body) (hr : c.rest = body ++ '"' :: rest) :
    quotedSpaces c = .ok (c.span isBlankOrTab) := by
  obtain ⟨-, -, hafter⟩ := span_body (by decide) isBlankOrTab_not_break hr
  obtain ⟨x, more, hx, hbreak⟩ := (h.dropWhile (p := isBlankOrTab) (by decide)).next rest
  have hpeek : (c.span isBlankOrTab).2.peek = some x := by
    rw [Cursor.peek, hafter, hx]
    rfl
  simp [quotedSpaces, Cursor.lineBreak?, hpeek, hbreak]

theorem readEscape_short {e : Char} {more : List Char} (he : e ∈ ['"', '\\', 'n', 'r', 't', 'f', 'b'])
    (hr : c.rest = e :: more) : ∃ text, readEscape c = .ok (text, c.forward) := by
  have hpeek : c.peek = some e := by rw [Cursor.peek, hr]; rfl
  have hall : ∀ e ∈ ['"', '\\', 'n', 'r', 't', 'f', 'b'], (escaped? e).isSome :=
    List.all_eq_true.mp (by decide)
  obtain ⟨y, hy⟩ := Option.isSome_iff_exists.mp (hall e he)
  exact ⟨[y], by simp [readEscape, hpeek, hy]⟩

theorem readEscape_unit {more text : List Char} (hr : c.rest = 'u' :: more)
    (h : readEscape c = .ok (text, d)) : d = c.forward.skip 4 := by
  have hpeek : c.peek = some 'u' := by rw [Cursor.peek, hr]; rfl
  have hs : escaped? 'u' = none := rfl
  have hw : escapeWidth? 'u' = some 4 := rfl
  simp only [readEscape, hpeek, hs, hw] at h
  cases hn : hexNumber "expected escape sequence of hexadecimal numbers" 4 0 c.forward with
  | error e =>
    rw [hn] at h
    cases h
  | ok code =>
    simp only [hn, bind, Except.bind] at h
    split at h
    · cases h
      rfl
    · cases h

def isRunChar (y : Char) : Bool :=
  !(y = '\'' || y = '"' || y = '\\' || isBlankOrTab y || isBreak y)

theorem isRunChar_not_break (x : Char) (hx : isRunChar x = true) : isBreak x = false := by
  simp only [isRunChar, Bool.not_eq_true', Bool.or_eq_false_iff] at hx
  exact hx.2

theorem quotedFrom_end {fuel : Nat} {text found : List Char} (hr : c.rest = '"' :: rest)
    (hq : quotedFrom true fuel text c = .ok (found, d)) : found = text ∧ d = c.forward := by
  cases fuel with
  | zero => cases hq
  | succ fuel =>
    have hpeek : c.peek = some '"' := by rw [Cursor.peek, hr]; rfl
    simp [quotedFrom, hpeek, isBlankOrTab, isBreak] at hq
    exact ⟨hq.1.symm, hq.2.symm⟩

/-- A step of reading passes a part of the text and goes on with what is left of it. -/
def StepsOn (fuel : Nat) (c d : Cursor) (body found : List Char) : Prop :=
  ∃ (part more text : List Char) (e : Cursor), body = part ++ more ∧ Quotable more ∧ c.Passed part e ∧
    quotedFrom true fuel text e = .ok (found, d)

section

variable {fuel : Nat} {text found more : List Char}

/-- Blanks and characters are taken in runs, and so is an apostrophe, on its own. -/
theorem quotedFrom_ordinary {x : Char} (hx : IsOrdinary x) (hm : Quotable more)
    (hr : c.rest = x :: more ++ '"' :: rest)
    (hq : quotedFrom true (fuel + 1) text c = .ok (found, d)) : StepsOn fuel c d (x :: more) found := by
  have hpeek : c.peek = some x := by rw [Cursor.peek, hr]; rfl
  have hbody : Quotable (x :: more) := .ordinary hx hm
  have hbreak := hx.not_break
  rw [quotedFrom] at hq
  by_cases hb : isBlankOrTab x = true
  · simp only [hpeek, hb, Bool.true_or, if_true, quotedSpaces_body hbody hr] at hq
    obtain ⟨-, hp, -⟩ := span_body (by decide) isBlankOrTab_not_break hr
    exact ⟨_, _, _, _, List.takeWhile_append_dropWhile.symm, hbody.dropWhile (by decide), hp, hq⟩
  · have hb : isBlankOrTab x = false := by simpa using hb
    simp only [hpeek, hb, hbreak, hx.2.1, hx.2.2, Bool.or_self, Bool.false_eq_true, if_false,
      Bool.true_and, decide_false, if_true] at hq
    obtain ⟨hrun, hp, -⟩ := span_body (p := isRunChar) (by decide) isRunChar_not_break hr
    split at hq
    · rename_i he
      have hnil : (x :: more).takeWhile isRunChar = [] := by
        rw [← hrun]
        exact List.isEmpty_iff.mp he
      rw [hnil] at hp
      have hpassed := hp.trans (Cursor.passed_forward (hp.rest_eq hr) hbreak)
      exact ⟨[x], more, _, _, rfl, hm, hpassed, hq⟩
    · exact ⟨_, _, _, _, List.takeWhile_append_dropWhile.symm, hbody.dropWhile (by decide), hp, hq⟩

theorem quotedFrom_escape (hp : c.peek = some '\\') : quotedFrom true (fuel + 1) text c =
    (do let (more, c) ← readEscape c.forward; quotedFrom true fuel (text ++ more) c) := by
  rw [quotedFrom]
  simp only [hp]
  rfl

theorem quotedFrom_short {e : Char} (he : e ∈ ['"', '\\', 'n', 'r', 't', 'f', 'b'])
    (hm : Quotable more) (hr : c.rest = '\\' :: e :: more ++ '"' :: rest)
    (hq : quotedFrom true (fuel + 1) text c = .ok (found, d)) :
    StepsOn fuel c d ('\\' :: e :: more) found := by
  have hpeek : c.peek = some '\\' := by rw [Cursor.peek, hr]; rfl
  have hf := Cursor.forward_rest hr
  obtain ⟨_, he'⟩ := readEscape_short he hf
  have hall : ∀ e ∈ ['"', '\\', 'n', 'r', 't', 'f', 'b'], (!isBreak e) = true :=
    List.all_eq_true.mp (by decide)
  have hbreak : isBreak e = false := by simpa using hall e he
  rw [quotedFrom_escape hpeek, he'] at hq
  have hp : c.Passed ['\\', e] c.forward.forward :=
    (Cursor.passed_forward hr (by decide)).trans (Cursor.passed_forward hf hbreak)
  exact ⟨['\\', e], more, _, _, rfl, hm, hp, hq⟩

theorem quotedFrom_unit {digits : List Char} (hl : digits.length = 4)
    (hd : ∀ x ∈ digits, IsOrdinary x) (hm : Quotable more)
    (hr : c.rest = '\\' :: 'u' :: (digits ++ more) ++ '"' :: rest)
    (hq : quotedFrom true (fuel + 1) text c = .ok (found, d)) :
    StepsOn fuel c d ('\\' :: 'u' :: (digits ++ more)) found := by
  have hpeek : c.peek = some '\\' := by rw [Cursor.peek, hr]; rfl
  have hf := Cursor.forward_rest hr
  rw [quotedFrom_escape hpeek] at hq
  cases he : readEscape c.forward with
  | error f =>
    rw [he] at hq
    cases hq
  | ok result =>
    obtain ⟨_, e⟩ := result
    rw [he] at hq
    obtain rfl := readEscape_unit hf he
    have hff := Cursor.forward_rest hf
    have hskip : c.forward.forward.Passed digits (c.forward.forward.skip digits.length) :=
      Cursor.passed_skip (hff.trans (List.append_assoc ..)) fun x hx => (hd x hx).not_break
    rw [hl] at hskip
    have hp := (Cursor.passed_forward hr (by decide)).trans
      ((Cursor.passed_forward hf (by decide)).trans hskip)
    exact ⟨'\\' :: 'u' :: digits, more, _, _, rfl, hm, hp, hq⟩

end

/-- Reading goes on to the closing quote and no further, by induction on the fuel. -/
theorem quotedFrom_passed {fuel : Nat} {text found : List Char} (h : Quotable body)
    (hr : c.rest = body ++ '"' :: rest) (hq : quotedFrom true fuel text c = .ok (found, d)) :
    c.Passed (body ++ ['"']) d := by
  induction fuel generalizing c body text with
  | zero => cases hq
  | succ fuel ih =>
    have goOn : StepsOn fuel c d body found → c.Passed (body ++ ['"']) d := by
      rintro ⟨part, more, text', e, rfl, hm, hp, hq'⟩
      rw [List.append_assoc]
      exact hp.trans (ih hm (hp.rest_eq (by rw [hr, List.append_assoc])) hq')
    cases h with
    | nil =>
      obtain ⟨-, rfl⟩ := quotedFrom_end hr hq
      exact Cursor.passed_forward hr (by decide)
    | ordinary hx hm => exact goOn (quotedFrom_ordinary hx hm hr hq)
    | short he hm => exact goOn (quotedFrom_short he hm hr hq)
    | unit hl hd hm => exact goOn (quotedFrom_unit hl hd hm hr hq)

/-- A text without escapes, blanks and quotes is read as it is. -/
theorem quotedFrom_word {fuel : Nat} {text found : List Char} (hw : ∀ x ∈ body, isRunChar x = true)
    (hr : c.rest = body ++ '"' :: rest) (hq : quotedFrom true fuel text c = .ok (found, d)) :
    found = text ++ body := by
  cases body with
  | nil => rw [(quotedFrom_end hr hq).1, List.append_nil]
  | cons x more =>
    cases fuel with
    | zero => cases hq
    | succ fuel =>
      have hpeek : c.peek = some x := by rw [Cursor.peek, hr]; rfl
      have hx := hw x (by simp)
      simp only [isRunChar, Bool.not_eq_true', Bool.or_eq_false_iff, decide_eq_false_iff_not] at hx
      obtain ⟨⟨⟨⟨-, hquote⟩, hslash⟩, hb⟩, hbreak⟩ := hx
      obtain ⟨hrun, hp, hafter⟩ := span_body (p := isRunChar) (by decide) isRunChar_not_break hr
      have hall : (x :: more).takeWhile isRunChar = x :: more :=
        List.takeWhile_eq_self_iff.mpr hw
      have hrun' : (c.span fun y => !(y = '\'' || y = '"' || y = '\\' || isBlankOrTab y ||
          isBreak y)).1 = x :: more := hrun.trans hall
      rw [quotedFrom] at hq
      simp only [hpeek, hb, hbreak, hquote, hslash, Bool.or_self, Bool.false_eq_true, if_false,
        Bool.true_and, decide_false, if_true, hrun', List.isEmpty_cons] at hq
      have hend : (c.span isRunChar).2.rest = '"' :: rest := by
        rw [hafter, List.dropWhile_eq_nil_iff.mpr hw, List.nil_append]
      exact (quotedFrom_end hend hq).1

end

/-! What is written for strings. -/

theorem ordinary_hexDigit : ∀ n < 16, IsOrdinary (Text.hexDigit false n) := by
  unfold IsOrdinary
  decide

theorem quotable_unit (u : Nat) {rest : List Char} (h : Quotable rest) :
    Quotable (Json.writeUnit u ++ rest) := by
  refine .unit (Json.hexDigits_length u) ?_ h
  intro d hd
  simp only [Json.hexDigits_four, List.mem_cons, List.not_mem_nil, or_false] at hd
  rcases hd with rfl | rfl | rfl | rfl <;> exact ordinary_hexDigit _ (Nat.mod_lt _ (by decide))

/-- Some characters have a short escape, and the others are written in another way. -/
theorem quotable_short {p : Prop} [Decidable p] {e : Char} {cs rest : List Char}
    (he : e ∈ ['"', '\\', 'n', 'r', 't', 'f', 'b']) (h : Quotable rest)
    (hn : ¬ p → Quotable (cs ++ rest)) : Quotable ((if p then ['\\', e] else cs) ++ rest) :=
  iteInduction (motive := fun l => Quotable (l ++ rest)) (fun _ => .short he h) hn

theorem quotable_char (c : Char) {rest : List Char} (h : Quotable rest) :
    Quotable (Json.writeChar c ++ rest) := by
  unfold Json.writeChar
  refine quotable_short (by decide) h fun hq => quotable_short (by decide) h fun hs => ?_
  iterate 5 refine quotable_short (by decide) h fun _ => ?_
  split
  · rename_i hc
    exact .ordinary ⟨by simpa using hc, hq, hs⟩ h
  split
  · exact quotable_unit _ h
  · rw [List.append_assoc]
    exact quotable_unit _ (quotable_unit _ h)

theorem quotable_chars (cs : List Char) : Quotable (cs.flatMap Json.writeChar) := by
  induction cs with
  | nil => exact .nil
  | cons c rest ih =>
    rw [List.flatMap_cons]
    exact quotable_char c ih

end SampleTypes.Yaml
