import SampleTypes.Text.Utf8

/-!
Texts in ASCII. Each character is one byte, so no chunk of a file breaks a character off, and the pieces
that are read are those of the text. Without carriage returns the line ends are as they should be.
-/

namespace SampleTypes.Text

def IsAscii (cs : List Char) : Prop := ∀ c ∈ cs, c.toNat < 0x80

/-- Of the characters of ASCII a property can be decided one by one. -/
theorem ascii_forall {p : Char → Prop} (h : ∀ n < 0x80, p (Char.ofNat n)) {c : Char}
    (hc : c.toNat < 0x80) : p c :=
  Char.ofNat_toNat c ▸ h c.toNat hc

theorem encodeChar_ascii {c : Char} (h : c.toNat < 0x80) :
    encodeChar c = [c.toNat.toUInt8] := by
  simp [encodeChar, h]

theorem decodeFrom_ascii {cs : List Char} (h : IsAscii cs) (position : Nat) :
    decodeFrom position none (encodeUtf8 cs) = .ok cs := by
  induction cs generalizing position with
  | nil => rfl
  | cons c rest ih =>
    have hc : c.toNat < 0x80 := h c (List.mem_cons_self ..)
    have hr := ih (fun d hd => h d (List.mem_cons_of_mem _ hd)) (position + 1)
    have hb : c.toNat.toUInt8.toNat = c.toNat := by
      simp only [Nat.toUInt8_eq, UInt8.toNat_ofNat']
      omega
    simp only [encodeUtf8, List.flatMap_cons, encodeChar_ascii hc, List.singleton_append,
      decodeFrom, hb, hc, if_true] at hr ⊢
    rw [hr, Char.ofNat_toNat]
    rfl

theorem decodeUtf8_ascii {cs : List Char} (h : IsAscii cs) : decodeUtf8 (encodeUtf8 cs) = .ok cs :=
  decodeFrom_ascii h 0

theorem normalizeLines_self {cs : List Char} (h : '\r' ∉ cs) : normalizeLines cs = cs := by
  induction cs with
  | nil => rfl
  | cons c rest ih =>
    rw [List.mem_cons, not_or] at h
    rw [normalizeLines.eq_4 c rest ?_ ?_, ih h.2]
    · rintro _ rfl
      exact fun _ => h.1 rfl
    · rintro rfl
      exact h.1 rfl

theorem IsAscii.take {cs : List Char} (h : IsAscii cs) (n : Nat) : IsAscii (cs.take n) :=
  fun c hc => h c (List.mem_of_mem_take hc)

theorem IsAscii.drop {cs : List Char} (h : IsAscii cs) (n : Nat) : IsAscii (cs.drop n) :=
  fun c hc => h c (List.mem_of_mem_drop hc)

theorem encodeUtf8_map {cs : List Char} (h : IsAscii cs) :
    encodeUtf8 cs = cs.map fun c => c.toNat.toUInt8 := by
  induction cs with
  | nil => rfl
  | cons c rest ih =>
    obtain ⟨hc, hr⟩ := List.forall_mem_cons.mp h
    rw [encodeUtf8, List.flatMap_cons, encodeChar_ascii hc, List.map_cons]
    exact congrArg (c.toNat.toUInt8 :: ·) (ih hr)

theorem encodeUtf8_take {cs : List Char} (h : IsAscii cs) (n : Nat) :
    (encodeUtf8 cs).take n = encodeUtf8 (cs.take n) := by
  rw [encodeUtf8_map h, encodeUtf8_map (h.take n), List.map_take]

theorem encodeUtf8_drop {cs : List Char} (h : IsAscii cs) (n : Nat) :
    (encodeUtf8 cs).drop n = encodeUtf8 (cs.drop n) := by
  rw [encodeUtf8_map h, encodeUtf8_map (h.drop n), List.map_drop]

theorem encodeUtf8_length {cs : List Char} (h : IsAscii cs) :
    (encodeUtf8 cs).length = cs.length := by
  rw [encodeUtf8_map h, List.length_map]

namespace Stream

structure Holds (s : Stream) (text : List Char) : Prop where
  ascii : IsAscii text
  no_return : '\r' ∉ text
  rest : ∃ ahead, s.bytes = encodeUtf8 ahead ∧ text = s.decoded ++ ahead
  broken : s.broken = []
  held : s.heldReturn = false

variable {s : Stream} {text : List Char}

theorem holds_start (ha : IsAscii text) (hr : '\r' ∉ text) :
    Holds { bytes := encodeUtf8 text } text :=
  ⟨ha, hr, ⟨text, rfl, rfl⟩, rfl, rfl⟩

theorem settleReturn_none {cs : List Char} (h : '\r' ∉ cs) (final : Bool) :
    settleReturn false final cs = (cs, false) := by
  have hl : cs.getLast? ≠ some '\r' := fun he => h (List.mem_of_getLast? he)
  simp [settleReturn, hl]

/-- One more chunk decodes at least a character, as long as there are bytes. -/
theorem Holds.decodeChunk (h : s.Holds text) (wanted : Nat) :
    ∃ t, s.decodeChunk wanted = .ok t ∧ t.Holds text ∧
      (s.bytes ≠ [] → s.decoded.length < t.decoded.length) := by
  obtain ⟨ahead, hb, htext⟩ := h.rest
  obtain ⟨size, hsize⟩ : ∃ n, n = max chunkSize (s.expectedSize wanted) := ⟨_, rfl⟩
  have hahead : IsAscii ahead := fun c hc => h.ascii c (by rw [htext]; exact List.mem_append_right _ hc)
  have hreturn : '\r' ∉ ahead.take size := fun hc =>
    h.no_return (by rw [htext]; exact List.mem_append_right _ (List.mem_of_mem_take hc))
  have hchunk : s.bytes.take size = encodeUtf8 (ahead.take size) := hb ▸ encodeUtf8_take hahead size
  have hd := decodeUtf8_ascii (hahead.take size)
  have hstart : decodeStart (s.broken ++ s.bytes.take size) = .ok (ahead.take size, []) := by
    simp [decodeStart, h.broken, hchunk, hd]
  have hlast : (s.bytes.take size).isEmpty = true → decodeUtf8 s.broken = .ok (ahead.take size) := by
    intro he
    rw [h.broken, ← hd, ← hchunk, List.isEmpty_iff.mp he]
  have hsettled := settleReturn_none hreturn (s.bytes.take size).isEmpty
  have hlines := normalizeLines_self hreturn
  refine ⟨⟨s.bytes.drop size, s.decoded ++ ahead.take size, [], false,
    ((s.bytes.take size).length, (ahead.take size).length)⟩, ?_, ?_, ?_⟩
  · simp only [Stream.decodeChunk, List.splitAt_eq, ← hsize, bind, Except.bind, h.held]
    cases he : (s.bytes.take size).isEmpty with
    | true =>
      simp only [if_true, hlast he, Except.map, he ▸ hsettled, hlines]
      rfl
    | false =>
      simp only [Bool.false_eq_true, if_false, hstart, he ▸ hsettled, hlines]
      rfl
  · refine ⟨h.ascii, h.no_return, ⟨ahead.drop size, hb ▸ encodeUtf8_drop hahead size, ?_⟩, rfl, rfl⟩
    rw [List.append_assoc, List.take_append_drop, htext]
  · intro hne
    have hpos : 0 < ahead.length := by
      rw [← encodeUtf8_length hahead, ← hb]
      exact List.length_pos_iff.mpr hne
    have hs : 0 < size := hsize ▸ Nat.lt_of_lt_of_le (by decide) (Nat.le_max_left _ _)
    simp only [List.length_append, List.length_take]
    omega

theorem Holds.supply (h : s.Holds text) {wanted fuel : Nat}
    (hf : wanted < fuel + s.decoded.length) :
    ∃ t, s.supply wanted fuel = .ok t ∧ t.Holds text ∧
      (wanted ≤ t.decoded.length ∨ t.bytes = []) := by
  induction fuel generalizing s with
  | zero => exact ⟨s, rfl, h, .inl (by omega)⟩
  | succ fuel ih =>
    rw [Stream.supply]
    split
    · rename_i hdone
      refine ⟨s, rfl, h, ?_⟩
      rcases Bool.or_eq_true _ _ ▸ hdone with hw | hs
      · exact .inl (of_decide_eq_true hw)
      · simp only [isSpent, Bool.and_eq_true] at hs
        exact .inr (List.isEmpty_iff.mp hs.1.1)
    · rename_i hmore
      obtain ⟨t, ht, hholds, hlonger⟩ := h.decodeChunk (wanted - s.decoded.length)
      have hne : s.bytes ≠ [] := by
        intro he
        simp [isSpent, he, h.broken, h.held] at hmore
      simp only [ht, bind, Except.bind]
      exact ih hholds (by have := hlonger hne; omega)

theorem Holds.read (h : s.Holds text) (wanted : Nat) :
    ∃ t, s.read wanted = .ok (text.take wanted, t) ∧ t.Holds (text.drop wanted) := by
  have hfuel : wanted < wanted + 3 + s.decoded.length := by omega
  obtain ⟨t, ht, hholds, hend⟩ := h.supply hfuel
  obtain ⟨ahead, hb, rfl⟩ := hholds.rest
  have hsplit : wanted ≤ t.decoded.length ∨ ahead = [] := by
    refine hend.imp_right fun he => ?_
    have hahead : IsAscii ahead := fun c hc => h.ascii c (List.mem_append_right _ hc)
    rw [hb] at he
    exact List.length_eq_zero_iff.mp (by rw [← encodeUtf8_length hahead, he]; rfl)
  have htake : (t.decoded ++ ahead).take wanted = t.decoded.take wanted := by
    rcases hsplit with hl | rfl
    · exact List.take_append_of_le_length hl
    · rw [List.append_nil]
  have hdrop : (t.decoded ++ ahead).drop wanted = t.decoded.drop wanted ++ ahead := by
    rcases hsplit with hl | rfl
    · exact List.drop_append_of_le_length hl
    · rw [List.append_nil, List.append_nil]
  refine ⟨{ t with decoded := t.decoded.drop wanted }, ?_, ?_⟩
  · simp only [Stream.read, ht, bind, Except.bind, List.splitAt_eq, htake]
    rfl
  · exact ⟨h.ascii.drop wanted, fun hc => h.no_return (List.mem_of_mem_drop hc),
      ⟨ahead, hb, hdrop⟩, hholds.broken, hholds.held⟩

end Stream

end SampleTypes.Text
