import SampleTypes.Json
import SampleTypes.Json.Reader

/-!
Strings in JSON text. Every character is read back from what is written for it, be it the character
itself, a short escape, an escape with its number or two of them. In a text that names no half of a
pair of surrogates alone, every escape stands for a character.
-/

namespace SampleTypes.Json

open Text (hexDigit hexDigits)

theorem hexValue_hexDigit : ∀ n < 16, hexValue (hexDigit false n) = some n := by
  decide

theorem hexDigits_four (u : Nat) :
    hexDigits false 4 u = [hexDigit false (u / 4096 % 16), hexDigit false (u / 256 % 16),
      hexDigit false (u / 16 % 16), hexDigit false (u % 16)] := by
  simp [hexDigits, Nat.div_div_eq_div_mul]

theorem hexDigits_length (u : Nat) : (hexDigits false 4 u).length = 4 := by
  rw [hexDigits_four]
  rfl

/-- Four digits are read as the code unit they were written for, unless the text ends with them. -/
theorem fourHex_hexDigits {u : Nat} (hu : u < 0x10000) {rest : List Char} (hr : rest ≠ []) :
    fourHex? (hexDigits false 4 u ++ rest) = some u := by
  obtain ⟨c, more, rfl⟩ := List.exists_cons_of_ne_nil hr
  have digit : ∀ n, hexValue (hexDigit false (n % 16)) = some (n % 16) :=
    fun n => hexValue_hexDigit _ (Nat.mod_lt _ (by decide))
  simp only [hexDigits_four, List.cons_append, List.nil_append, fourHex?, digit, Option.some.injEq]
  omega

/-- The rest of a string after some characters that an escape has used up. -/
theorem readString_skip (start offset : Nat) (taken rest : List Char) :
    readString start taken.length offset (taken ++ rest) =
      readString start 0 (offset + taken.length) rest := by
  induction taken generalizing offset with
  | nil => rfl
  | cons c more ih =>
    simp only [List.length_cons, List.cons_append, readString]
    rw [ih]
    congr 1
    omega

/-- The result of reading a string from some place on, with one more character before it. -/
def afterChar (c : Char) (r : Except ReadFault (Read (List Char))) :
    Except ReadFault (Read (List Char)) :=
  r.map fun r => { r with value := c :: r.value }

theorem readString_escaped {start offset : Nat} {taken rest : List Char} {d : Char}
    (h : readEscape start offset (taken ++ rest) = .ok (d.toNat, taken.length)) :
    readString start 0 offset ('\\' :: (taken ++ rest)) =
      afterChar d (readString start 0 (offset + (taken.length + 1)) rest) := by
  have hs := readString_skip start (offset + 1) taken rest
  rw [readString, if_neg (by decide), if_pos rfl, h]
  simp only [hs, Nat.add_assoc, Nat.add_comm 1, afterChar, Char.ofNat_toNat]

theorem readEscape_simple (start offset : Nat) (rest : List Char) {e d : Char}
    (he : simpleEscape? e = some d) :
    readEscape start offset ([e] ++ rest) = .ok (d.toNat, [e].length) := by
  have hu : e ≠ 'u' := by
    rintro rfl
    cases he
  simp [readEscape, he]

/-- The number of a character is no surrogate, so no second escape belongs to it. -/
theorem readEscape_unit (start offset : Nat) {rest : List Char} (hr : rest ≠ []) {u : Nat}
    (hu : u < 0x10000) (hs : ¬(0xD800 ≤ u ∧ u ≤ 0xDBFF)) :
    readEscape start offset (('u' :: hexDigits false 4 u) ++ rest) =
      .ok (u, ('u' :: hexDigits false 4 u).length) := by
  simp [readEscape, fourHex_hexDigits hu hr, pairUp, hs, hexDigits_length, Except.map]

theorem pairUp_surrogates (offset : Nat) {rest : List Char} (hr : rest ≠ []) {n : Nat}
    (hn : n < 0x100000) :
    pairUp (0xD800 + n / 0x400) offset (writeUnit (0xDC00 + n % 0x400) ++ rest) =
      .ok (0x10000 + n, 6) := by
  have hh : 0xD800 ≤ 0xD800 + n / 0x400 ∧ 0xD800 + n / 0x400 ≤ 0xDBFF := by omega
  have hl : 0xDC00 ≤ 0xDC00 + n % 0x400 ∧ 0xDC00 + n % 0x400 ≤ 0xDFFF := by omega
  have hlen : ¬(hexDigits false 4 (0xDC00 + n % 0x400) ++ rest).length < 5 := by
    have := List.length_pos_iff.mpr hr
    simp only [List.length_append, hexDigits_length]
    omega
  have hv : 0x10000 + (0xD800 + n / 0x400 - 0xD800) * 0x400 + (0xDC00 + n % 0x400 - 0xDC00) =
      0x10000 + n := by omega
  have hw : writeUnit (0xDC00 + n % 0x400) ++ rest =
      '\\' :: 'u' :: (hexDigits false 4 (0xDC00 + n % 0x400) ++ rest) := rfl
  have hf := fourHex_hexDigits (show 0xDC00 + n % 0x400 < 0x10000 by omega) hr
  simp only [hw, pairUp, hh, hl, hlen, hf, hv, decide_true, Bool.and_self, if_true, if_false]

theorem readEscape_pair (start offset : Nat) {rest : List Char} (hr : rest ≠ []) {n : Nat}
    (hn : n < 0x100000) :
    let taken := 'u' :: hexDigits false 4 (0xD800 + n / 0x400) ++ writeUnit (0xDC00 + n % 0x400)
    readEscape start offset (taken ++ rest) = .ok (0x10000 + n, taken.length) := by
  have hu : 0xD800 + n / 0x400 < 0x10000 := by omega
  have hne : writeUnit (0xDC00 + n % 0x400) ++ rest ≠ [] := by simp [writeUnit]
  have hd : (hexDigits false 4 (0xD800 + n / 0x400) ++
      (writeUnit (0xDC00 + n % 0x400) ++ rest)).drop 4 =
        writeUnit (0xDC00 + n % 0x400) ++ rest :=
    List.drop_left' (hexDigits_length _)
  simp only [List.cons_append, List.append_assoc, readEscape, fourHex_hexDigits hu hne, hd,
    pairUp_surrogates offset hr hn]
  simp [Except.map, writeUnit, hexDigits_length]

theorem toNat_range (c : Char) :
    c.toNat < 0xD800 ∨ 0xDFFF < c.toNat ∧ c.toNat < 0x110000 :=
  c.valid

theorem readString_unit (start offset : Nat) {c : Char} {rest : List Char} (hr : rest ≠ [])
    (hu : c.toNat < 0x10000) :
    readString start 0 offset (writeUnit c.toNat ++ rest) =
      afterChar c (readString start 0 (offset + (writeUnit c.toNat).length) rest) := by
  have hs : ¬(0xD800 ≤ c.toNat ∧ c.toNat ≤ 0xDBFF) := by
    have := toNat_range c
    omega
  exact readString_escaped (readEscape_unit start offset hr hu hs)

theorem readString_pair (start offset : Nat) {c : Char} {rest : List Char} (hr : rest ≠ [])
    (hu : 0x10000 ≤ c.toNat) :
    let n := c.toNat - 0x10000
    let pair := writeUnit (0xD800 + n / 0x400) ++ writeUnit (0xDC00 + n % 0x400)
    readString start 0 offset (pair ++ rest) =
      afterChar c (readString start 0 (offset + pair.length) rest) := by
  have hn : c.toNat - 0x10000 < 0x100000 := by
    have := toNat_range c
    omega
  have he := readEscape_pair start offset hr hn
  rw [Nat.add_sub_cancel' hu] at he
  exact readString_escaped he

/-- A character is read from what is written for it, as long as the text goes on. -/
theorem readString_writeChar (start offset : Nat) (c : Char) {rest : List Char} (hr : rest ≠ []) :
    readString start 0 offset (writeChar c ++ rest) =
      afterChar c (readString start 0 (offset + (writeChar c).length) rest) := by
  have simple : ∀ e, simpleEscape? e = some c → writeChar c = ['\\', e] →
      readString start 0 offset (writeChar c ++ rest) =
        afterChar c (readString start 0 (offset + (writeChar c).length) rest) := by
    intro e he hw
    rw [hw]
    exact readString_escaped (readEscape_simple start offset rest he)
  by_cases h1 : c = '"'
  · exact simple '"' (by simp [simpleEscape?, h1]) (by simp [writeChar, h1])
  by_cases h2 : c = '\\'
  · exact simple '\\' (by simp [simpleEscape?, h2]) (by simp [writeChar, h2])
  by_cases h3 : c = '\n'
  · exact simple 'n' (by simp [simpleEscape?, h3]) (by simp [writeChar, h3])
  by_cases h4 : c = '\r'
  · exact simple 'r' (by simp [simpleEscape?, h4]) (by simp [writeChar, h4])
  by_cases h5 : c = '\t'
  · exact simple 't' (by simp [simpleEscape?, h5]) (by simp [writeChar, h5])
  by_cases h6 : c = '\x0c'
  · exact simple 'f' (by simp [simpleEscape?, h6]) (by simp [writeChar, h6])
  by_cases h7 : c = '\x08'
  · exact simple 'b' (by simp [simpleEscape?, h7]) (by simp [writeChar, h7])
  simp only [writeChar, if_neg h1, if_neg h2, if_neg h3, if_neg h4, if_neg h5, if_neg h6, if_neg h7]
  split
  · rename_i hp
    have hc : ¬c.toNat < 0x20 := by
      simp only [Bool.and_eq_true, decide_eq_true_eq] at hp
      omega
    simp only [List.singleton_append, readString, if_neg h1, if_neg h2, if_neg hc, afterChar,
      List.length_singleton]
  · split
    · exact readString_unit start offset hr ‹_›
    · exact readString_pair start offset hr (Nat.le_of_not_lt ‹_›)

theorem readString_written (start offset : Nat) (cs rest : List Char) :
    readString start 0 offset (cs.flatMap writeChar ++ '"' :: rest) =
      .ok ⟨cs, offset + (cs.flatMap writeChar).length + 1, rest⟩ := by
  induction cs generalizing offset with
  | nil => simp [readString]
  | cons c more ih =>
    rw [List.flatMap_cons, List.append_assoc, readString_writeChar start offset c (by simp), ih]
    simp only [afterChar, Except.map, List.length_append, Nat.add_assoc]

/-! Escapes that stand for characters. -/

theorem hexValue_lt {c : Char} {n : Nat} (h : hexValue c = some n) : n < 16 := by
  have digit {last : Char} {k : Nat} (hc : c ≤ last) (hk : last.toNat - k < 16) : c.toNat - k < 16 :=
    Nat.lt_of_le_of_lt (Nat.sub_le_sub_right hc k) hk
  unfold hexValue at h
  simp only [Bool.and_eq_true, decide_eq_true_eq] at h
  split at h
  · rename_i hc
    obtain rfl := Option.some.inj h
    exact digit hc.2 (by decide)
  · split at h
    · rename_i hc
      obtain rfl := Option.some.inj h
      exact digit hc.2 (by decide)
    · split at h
      · rename_i hc
        obtain rfl := Option.some.inj h
        exact digit hc.2 (by decide)
      · cases h

theorem fourHex_lt {cs : List Char} {u : Nat} (h : fourHex? cs = some u) : u < 0x10000 := by
  unfold fourHex? at h
  split at h
  · split at h
    · rename_i ha hb hc hd
      have := hexValue_lt ha
      have := hexValue_lt hb
      have := hexValue_lt hc
      have := hexValue_lt hd
      have := Option.some.inj h
      omega
    · cases h
  · cases h

/-- Where a pair of surrogates is read does not matter, and what is read is a code point. -/
theorem pairUp_ok {u offset used : Nat} {rest : List Char} {v : Nat} (hu : u < 0x10000)
    (h : pairUp u offset rest = .ok (v, used)) :
    v < 0x110000 ∧ ∀ place, pairUp u place rest = .ok (v, used) := by
  unfold pairUp at h ⊢
  grind

theorem simpleEscape_lt {e d : Char} (h : simpleEscape? e = some d) : d.toNat < 0x80 := by
  unfold simpleEscape? at h
  split at h <;> cases h <;> decide

theorem readEscape_ok {start offset u used : Nat} {cs : List Char}
    (h : readEscape start offset cs = .ok (u, used)) :
    u < 0x110000 ∧ readEscape 0 0 cs = .ok (u, used) := by
  cases cs with
  | nil => cases h
  | cons c cs =>
    by_cases hc : c = 'u'
    · subst hc
      simp only [readEscape] at h ⊢
      cases hf : fourHex? cs with
      | none => simp [hf] at h
      | some v =>
        simp only [hf] at h ⊢
        cases hp : pairUp v offset (cs.drop 4) with
        | error e => simp [hp, Except.map] at h
        | ok p =>
          obtain ⟨hlt, hplace⟩ := pairUp_ok (fourHex_lt hf) hp
          rw [hp] at h
          cases h
          exact ⟨hlt, congrArg (Except.map _) (hplace 0)⟩
    · simp only [readEscape] at h ⊢
      cases hs : simpleEscape? c with
      | none => simp [hs] at h
      | some d =>
        simp only [hs] at h ⊢
        cases h
        exact ⟨Nat.lt_trans (simpleEscape_lt hs) (by decide), rfl⟩

/-- In a text without halves of pairs, every escape stands for a character. -/
theorem escape_character {start offset u used : Nat} {cs : List Char}
    (hn : namesHalf 0 ('\\' :: cs) = false) (h : readEscape start offset cs = .ok (u, used)) :
    (Char.ofNat u).toNat = u ∧ namesHalf used cs = false := by
  obtain ⟨hlt, h⟩ := readEscape_ok h
  simp only [namesHalf, h, if_true, Bool.or_eq_false_iff] at hn
  refine ⟨?_, hn.2⟩
  have hv : u.isValidChar := by
    have hs := hn.1
    simp only [isSurrogate, Bool.and_eq_false_iff, decide_eq_false_iff_not] at hs
    unfold Nat.isValidChar
    omega
  rw [Char.ofNat, dif_pos hv]
  rfl

end SampleTypes.Json
