import SampleTypes.Proofs.Basic
import SampleTypes.Proofs.Json.StringText
import SampleTypes.Proofs.Json.WrittenText

/-!
Reading back what has been written, with any indentation. A value is read up to its end and no
further, and the length of its text is bound enough for the work.
-/

namespace SampleTypes.Json

def Blanks (cs : List Char) : Prop := ∀ c ∈ cs, isSpace c = true

theorem Blanks.nil : Blanks [] := fun _ hc => by cases hc

theorem lineStart_blanks (indent : Option Nat) (level : Nat) : Blanks (lineStart indent level) := by
  cases indent with
  | none => exact .nil
  | some blanks =>
    intro c hc
    rcases List.mem_cons.mp hc with rfl | hc
    · rfl
    · rw [List.eq_of_mem_replicate hc]
      rfl

def itemGap : Option Nat → Nat → List Char
  | none, _ => [' ']
  | some indent, level => lineStart (some indent) level

theorem separator_eq (indent : Option Nat) (level : Nat) :
    separator indent level = ',' :: itemGap indent level := by
  cases indent <;> rfl

theorem itemGap_blanks (indent : Option Nat) (level : Nat) : Blanks (itemGap indent level) := by
  cases indent with
  | none =>
    intro c hc
    rw [List.mem_singleton.mp hc]
    rfl
  | some blanks => exact lineStart_blanks (some blanks) level

theorem skipSpace_blanks {blanks : List Char} (hb : Blanks blanks) {c : Char}
    (hc : isSpace c = false) (offset : Nat) (rest : List Char) :
    skipSpace offset (blanks ++ c :: rest) = (offset + blanks.length, c :: rest) := by
  have ht : (blanks ++ c :: rest).takeWhile isSpace = blanks := by
    rw [List.takeWhile_append_of_pos hb, List.takeWhile_cons_of_neg (by simp [hc]),
      List.append_nil]
  simp [skipSpace, ht]

theorem skipSpace_none {c : Char} (hc : isSpace c = false) (offset : Nat) (rest : List Char) :
    skipSpace offset (c :: rest) = (offset, c :: rest) :=
  skipSpace_blanks .nil hc offset rest

theorem openers_not_space {c : Char} (h : c ∈ openers) : isSpace c = false := by
  simp only [openers, List.mem_cons, List.not_mem_nil, or_false] at h
  rcases h with rfl | rfl | rfl | rfl | rfl | rfl <;> rfl

theorem skipSpace_value {blanks : List Char} (hb : Blanks blanks) {j : Json} (hj : Plain j)
    (indent : Option Nat) (level offset : Nat) (rest : List Char) :
    skipSpace offset (blanks ++ (write indent level j ++ rest)) =
      (offset + blanks.length, write indent level j ++ rest) := by
  obtain ⟨c, cs, hw, hc⟩ := hj.opener indent level
  rw [hw, List.cons_append]
  exact skipSpace_blanks hb (openers_not_space hc) offset _

def ReadsBack (indent : Option Nat) (j : Json) : Prop :=
  ∀ level fuel offset rest, (write indent level j).length ≤ fuel →
    readValue fuel offset (write indent level j ++ rest) =
      .ok ⟨j, offset + (write indent level j).length, rest⟩

section

variable {indent : Option Nat}

theorem readItems_last {v : Json} (hv : ReadsBack indent v) {level fuel : Nat}
    (hf : (write indent level v).length ≤ fuel) {close : List Char} (hb : Blanks close)
    (offset : Nat) (rest : List Char) :
    readItems (fuel + 1) offset (write indent level v ++ (close ++ ']' :: rest)) =
      .ok ⟨[v], offset + (write indent level v).length + close.length + 1, rest⟩ := by
  simp only [readItems, hv level fuel offset _ hf,
    skipSpace_blanks hb (show isSpace ']' = false from rfl)]

theorem readItems_next {v w : Json} (hv : ReadsBack indent v) (hw : Plain w) {level fuel : Nat}
    (hf : (write indent level v).length ≤ fuel) (offset : Nat) (rest : List Char) :
    readItems (fuel + 1) offset
        (write indent level v ++ (separator indent level ++ (write indent level w ++ rest))) =
      (readItems fuel (offset + (write indent level v).length + (separator indent level).length)
        (write indent level w ++ rest)).map fun r => { r with value := v :: r.value } := by
  have hg := skipSpace_value (itemGap_blanks indent level) hw indent level
  simp only [readItems, hv level fuel offset _ hf, separator_eq, List.cons_append,
    skipSpace_none (show isSpace ',' = false from rfl), hg, List.length_cons]
  simp only [Nat.add_assoc, Nat.add_comm 1]

theorem readItems_written {v : Json} {vs : List Json}
    (h : ∀ j ∈ v :: vs, Plain j ∧ ReadsBack indent j) {level fuel : Nat}
    (hf : (write indent level v ++ writeItems indent level vs).length < fuel) {close : List Char}
    (hb : Blanks close) (offset : Nat) (rest : List Char) :
    readItems fuel offset
        (write indent level v ++ (writeItems indent level vs ++ (close ++ ']' :: rest))) =
      .ok ⟨v :: vs, offset + (write indent level v).length + (writeItems indent level vs).length +
        close.length + 1, rest⟩ := by
  induction vs generalizing v fuel offset with
  | nil =>
    obtain ⟨fuel, rfl⟩ := Nat.exists_eq_succ_of_ne_zero (Nat.ne_of_gt (Nat.zero_lt_of_lt hf))
    simp only [writeItems, List.append_nil, List.nil_append, List.length_nil, Nat.add_zero] at hf ⊢
    exact readItems_last (h v (List.mem_cons_self ..)).2 (Nat.le_of_lt_succ hf) hb offset rest
  | cons w ws ih =>
    obtain ⟨fuel, rfl⟩ := Nat.exists_eq_succ_of_ne_zero (Nat.ne_of_gt (Nat.zero_lt_of_lt hf))
    have hv := (h v (List.mem_cons_self ..)).2
    have hw := (h w (by simp)).1
    have hs : 1 ≤ (separator indent level).length := by simp [separator_eq]
    simp only [writeItems, List.append_assoc, List.length_append] at hf ⊢
    rw [readItems_next hv hw (by omega), ih (fun j hj => h j (List.mem_cons_of_mem _ hj))
      (by simp only [List.length_append]; omega)]
    simp only [Except.map, Nat.add_assoc]

def afterMember (fuel : Nat) (members : List (String × Json)) :
    Nat × List Char → Except ReadFault (Read (List (String × Json)))
  | (offset, '\x7d' :: rest) => .ok ⟨members, offset + 1, rest⟩
  | (offset, ',' :: rest) =>
    let (offset, rest) := skipSpace (offset + 1) rest
    readMembers fuel members offset rest
  | (offset, _) => .error (.unmet .comma offset)

theorem readMembers_member {v : Json} (hp : Plain v) (hv : ReadsBack indent v) {level fuel : Nat}
    (hf : (write indent level v).length ≤ fuel) (k : String) (before : List (String × Json))
    (offset : Nat) (rest : List Char) :
    readMembers (fuel + 1) before offset
        (writeString k ++ ':' :: ' ' :: (write indent level v ++ rest)) =
      afterMember fuel (putValue k v before)
        (skipSpace (offset + (writeString k).length + 2 + (write indent level v).length) rest) := by
  have hs := readString_written offset (offset + 1) k.toList
    (':' :: ' ' :: (write indent level v ++ rest))
  have hg : ∀ o, skipSpace o (' ' :: (write indent level v ++ rest)) =
      (o + 1, write indent level v ++ rest) := fun o =>
    skipSpace_value (show Blanks [' '] by simp [Blanks, isSpace]) hp indent level o rest
  have ho : offset + 1 + (k.toList.flatMap writeChar).length + 1 + 1 + 1 =
      offset + (writeString k).length + 2 := by
    simp only [writeString, List.length_cons, List.length_append, List.length_nil]
    omega
  rw [← ho]
  simp only [writeString, List.cons_append, List.append_assoc, List.nil_append, readMembers, hs,
    skipSpace_none (show isSpace ':' = false from rfl), hg, hv level fuel _ _ hf,
    String.ofList_toList]
  rfl

theorem name_new {k : String} {v : Json} {before ms : List (String × Json)}
    (hd : ((before ++ (k, v) :: ms).map Prod.fst).Nodup) : k ∉ before.map Prod.fst := by
  rw [List.map_append, List.nodup_append] at hd
  exact fun hm => hd.2.2 k hm k (by simp) rfl

/-- Members up to the closing brace, added to those before them. -/
theorem readMembers_written {k : String} {v : Json} {ms : List (String × Json)}
    (h : ∀ m ∈ (k, v) :: ms, Plain m.2 ∧ ReadsBack indent m.2) {level fuel : Nat}
    (hf : (writeString k ++ ':' :: ' ' :: (write indent level v ++
      writeMembers indent level ms)).length < fuel) {before : List (String × Json)}
    (hd : ((before ++ (k, v) :: ms).map Prod.fst).Nodup) {close : List Char} (hb : Blanks close)
    (offset : Nat) (rest : List Char) :
    readMembers fuel before offset
        (writeString k ++ ':' :: ' ' :: (write indent level v ++
          (writeMembers indent level ms ++ (close ++ '\x7d' :: rest)))) =
      .ok ⟨before ++ (k, v) :: ms, offset + (writeString k).length + 2 +
        (write indent level v).length + (writeMembers indent level ms).length + close.length + 1,
        rest⟩ := by
  induction ms generalizing k v before fuel offset with
  | nil =>
    obtain ⟨fuel, rfl⟩ := Nat.exists_eq_succ_of_ne_zero (Nat.ne_of_gt (Nat.zero_lt_of_lt hf))
    obtain ⟨hp, hv⟩ : Plain v ∧ ReadsBack indent v := h (k, v) (List.mem_cons_self ..)
    have hk := name_new hd
    simp only [writeMembers, List.append_nil, List.nil_append, List.length_append, List.length_cons,
      List.length_nil] at hf ⊢
    rw [readMembers_member hp hv (by omega), skipSpace_blanks hb rfl]
    simp only [afterMember, putValue_new hk, Nat.add_zero]
  | cons m ms ih =>
    obtain ⟨l, w⟩ := m
    obtain ⟨fuel, rfl⟩ := Nat.exists_eq_succ_of_ne_zero (Nat.ne_of_gt (Nat.zero_lt_of_lt hf))
    obtain ⟨hp, hv⟩ : Plain v ∧ ReadsBack indent v := h (k, v) (List.mem_cons_self ..)
    have hk := name_new hd
    have hgap : ∀ o more, skipSpace o (itemGap indent level ++ (writeString l ++ more)) =
        (o + (itemGap indent level).length, writeString l ++ more) := fun o more =>
      skipSpace_blanks (itemGap_blanks indent level) rfl o _
    simp only [writeMembers, separator_eq, List.append_assoc, List.cons_append, List.length_append,
      List.length_cons] at hf ⊢
    rw [readMembers_member hp hv (by omega), skipSpace_none rfl]
    simp only [afterMember, hgap, putValue_new hk]
    rw [ih (fun m hm => h m (List.mem_cons_of_mem _ hm))
      (by simp only [List.length_append, List.length_cons]; omega) (by simpa using hd)]
    simp only [Except.ok.injEq, Read.mk.injEq, and_true]
    exact ⟨by simp, by omega⟩

theorem readValue_list {v : Json} (hv : Plain v) {blanks : List Char} (hb : Blanks blanks)
    (level fuel offset : Nat) (rest : List Char) :
    readValue (fuel + 1) offset ('[' :: (blanks ++ (write indent level v ++ rest))) =
      (readItems fuel (offset + 1 + blanks.length) (write indent level v ++ rest)).map fun r =>
        ⟨.arr r.value, r.offset, r.rest⟩ := by
  obtain ⟨c, cs, hw, hc⟩ := hv.opener indent level
  have hn : c ≠ ']' := by
    rintro rfl
    revert hc
    decide
  have hs := skipSpace_value hb hv indent level (offset + 1) rest
  simp only [hw, List.cons_append] at hs ⊢
  rw [readValue, if_neg (by decide), if_neg (by decide), if_pos rfl, hs]
  split
  · rename_i he
    cases he
    exact absurd rfl hn
  · rename_i he
    cases he
    rfl

theorem readValue_record {blanks : List Char} (hb : Blanks blanks) (fuel offset : Nat) (k : String)
    (rest : List Char) :
    readValue (fuel + 1) offset ('\x7b' :: (blanks ++ (writeString k ++ rest))) =
      (readMembers fuel [] (offset + 1 + blanks.length) (writeString k ++ rest)).map fun r =>
        ⟨.obj r.value, r.offset, r.rest⟩ := by
  have hs : skipSpace (offset + 1) (blanks ++ (writeString k ++ rest)) =
      (offset + 1 + blanks.length, writeString k ++ rest) := skipSpace_blanks hb rfl _ _
  rw [readValue, if_neg (by decide), if_pos rfl, hs]
  rfl

/-- The text of a value is not empty, so there is work to do and bound for it. -/
theorem ReadsBack.of_succ {j : Json} (hj : Plain j)
    (h : ∀ level fuel offset rest, (write indent level j).length ≤ fuel + 1 →
      readValue (fuel + 1) offset (write indent level j ++ rest) =
        .ok ⟨j, offset + (write indent level j).length, rest⟩) : ReadsBack indent j := by
  intro level fuel offset rest hf
  obtain ⟨c, cs, hw, -⟩ := hj.opener indent level
  have hl : 0 < (write indent level j).length := by simp [hw]
  obtain ⟨fuel, rfl⟩ := Nat.exists_eq_succ_of_ne_zero (Nat.ne_of_gt (Nat.lt_of_lt_of_le hl hf))
  exact h level fuel offset rest hf

/-- A document without numbers is read back, and what stands after it is left. -/
theorem Plain.readsBack {j : Json} (h : Plain j) : ReadsBack indent j := by
  induction h with
  | null =>
    refine .of_succ .null fun level fuel offset rest hf => ?_
    rfl
  | bool b =>
    refine .of_succ (.bool b) fun level fuel offset rest hf => ?_
    cases b <;> rfl
  | str s =>
    refine .of_succ (.str s) fun level fuel offset rest hf => ?_
    have hs := readString_written offset (offset + 1) s.toList rest
    simp only [write, writeString, List.cons_append, List.append_assoc, List.nil_append] at hs ⊢
    rw [readValue, if_pos rfl, hs]
    simp only [Except.map, String.ofList_toList, List.length_cons, List.length_append,
      List.length_nil, Except.ok.injEq, Read.mk.injEq, and_true, true_and]
    omega
  | @arr items hp ih =>
    refine .of_succ (.arr hp) fun level fuel offset rest hf => ?_
    cases items with
    | nil => rfl
    | cons v vs =>
      simp only [write, List.cons_append, List.append_assoc, List.length_cons, List.length_append,
        List.nil_append, List.length_nil] at hf ⊢
      rw [readValue_list (hp v (List.mem_cons_self ..)) (lineStart_blanks _ _),
        readItems_written (fun j hj => ⟨hp j hj, ih j hj⟩)
          (by simp only [List.length_append]; omega) (lineStart_blanks _ _)]
      simp only [Except.map, Except.ok.injEq, Read.mk.injEq, and_true, true_and]
      omega
  | @obj members hd hp ih =>
    refine .of_succ (.obj hd hp) fun level fuel offset rest hf => ?_
    cases members with
    | nil => rfl
    | cons m ms =>
      obtain ⟨k, v⟩ := m
      simp only [write, List.cons_append, List.append_assoc, List.length_cons, List.length_append,
        List.nil_append, List.length_nil] at hf ⊢
      rw [readValue_record (lineStart_blanks _ _),
        readMembers_written (fun m hm => ⟨hp m hm, ih m hm⟩)
          (by simp only [List.length_append, List.length_cons]; omega) hd (lineStart_blanks _ _)]
      simp only [Except.map, Except.ok.injEq, Read.mk.injEq, and_true, List.nil_append, true_and]
      omega

/-- A document without numbers is read from the text written for it. -/
theorem Plain.read_write {j : Json} (h : Plain j) (indent : Option Nat) :
    read (write indent 0 j) = .ok j := by
  obtain ⟨c, cs, hw, hc⟩ := h.opener indent 0
  have hb : (write indent 0 j).head? ≠ some (Char.ofNat 0xFEFF) := by
    rw [hw, List.head?_cons]
    intro he
    obtain rfl := Option.some.inj he
    revert hc
    decide
  have hs : skipSpace 0 (write indent 0 j) = (0, write indent 0 j) := by
    rw [hw]
    exact skipSpace_none (openers_not_space hc) 0 cs
  have hj : ReadsBack indent j := h.readsBack
  have hr := hj 0 (2 * (write indent 0 j).length + 2) 0 [] (by omega)
  rw [List.append_nil] at hr
  rw [read, if_neg hb, hs]
  simp only [hr]
  rfl

end

end SampleTypes.Json
