import SampleTypes.Json
import SampleTypes.Proofs.Text.Stream

/-!
What is written for documents without numbers: printable ASCII and line feeds, with a character in
front that tells what kind of value follows.
-/

namespace SampleTypes.Json

open Text (hexDigit hexDigits IsAscii)

inductive Plain : Json → Prop where
  | null : Plain .null
  | bool (b : Bool) : Plain (.bool b)
  | str (s : String) : Plain (.str s)
  | arr {items : List Json} (h : ∀ j ∈ items, Plain j) : Plain (.arr items)
  | obj {members : List (String × Json)} (hd : (members.map Prod.fst).Nodup)
      (h : ∀ m ∈ members, Plain m.2) : Plain (.obj members)

def openers : List Char := ['n', 't', 'f', '"', '[', '\x7b']

theorem Plain.opener {j : Json} (h : Plain j) (indent : Option Nat) (level : Nat) :
    ∃ c cs, write indent level j = c :: cs ∧ c ∈ openers := by
  cases h with
  | null => exact ⟨'n', _, rfl, by decide⟩
  | bool b =>
    cases b with
    | false => exact ⟨'f', _, rfl, by decide⟩
    | true => exact ⟨'t', _, rfl, by decide⟩
  | str s => exact ⟨'"', _, rfl, by decide⟩
  | @arr items h =>
    cases items with
    | nil => exact ⟨'[', _, rfl, by decide⟩
    | cons v vs => exact ⟨'[', _, rfl, by decide⟩
  | @obj members hd h =>
    cases members with
    | nil => exact ⟨'\x7b', _, rfl, by decide⟩
    | cons m rest => exact ⟨'\x7b', _, rfl, by decide⟩

def Printed (cs : List Char) : Prop :=
  ∀ c ∈ cs, c = '\n' ∨ 0x20 ≤ c.toNat ∧ c.toNat ≤ 0x7E

theorem Printed.append {cs ds : List Char} (h : Printed cs) (k : Printed ds) :
    Printed (cs ++ ds) :=
  fun c hc => (List.mem_append.mp hc).elim (h c) (k c)

theorem Printed.cons {c : Char} {cs : List Char} (h : 0x20 ≤ c.toNat ∧ c.toNat ≤ 0x7E)
    (k : Printed cs) : Printed (c :: cs) := by
  intro d hd
  rcases List.mem_cons.mp hd with rfl | hd
  · exact Or.inr h
  · exact k d hd

theorem Printed.nil : Printed [] := fun _ hc => by cases hc

theorem Printed.ascii {cs : List Char} (h : Printed cs) : IsAscii cs := by
  intro c hc
  rcases h c hc with rfl | hp
  · decide
  · omega

theorem Printed.no_return {cs : List Char} (h : Printed cs) : '\r' ∉ cs := by
  intro hc
  have := h _ hc
  simp at this

theorem hexDigit_printed : ∀ n < 16,
    0x20 ≤ (hexDigit false n).toNat ∧ (hexDigit false n).toNat ≤ 0x7E := by
  decide

theorem hexDigits_printed (width n : Nat) : Printed (hexDigits false width n) := by
  induction width generalizing n with
  | zero => exact .nil
  | succ width ih =>
    exact (ih (n / 16)).append (.cons (hexDigit_printed _ (Nat.mod_lt _ (by decide))) .nil)

theorem writeUnit_printed (u : Nat) : Printed (writeUnit u) :=
  .cons (by decide) (.cons (by decide) (hexDigits_printed 4 u))

theorem writeChar_printed (c : Char) : Printed (writeChar c) := by
  have escape : ∀ e : Char, 0x20 ≤ e.toNat ∧ e.toNat ≤ 0x7E → Printed ['\\', e] :=
    fun e he => .cons (by decide) (.cons he .nil)
  unfold writeChar
  split; · exact escape '"' (by decide)
  split; · exact escape '\\' (by decide)
  split; · exact escape 'n' (by decide)
  split; · exact escape 'r' (by decide)
  split; · exact escape 't' (by decide)
  split; · exact escape 'f' (by decide)
  split; · exact escape 'b' (by decide)
  split
  · rename_i hc
    exact .cons (by simpa using hc) .nil
  split
  · exact writeUnit_printed _
  · exact (writeUnit_printed _).append (writeUnit_printed _)

theorem writeString_printed (s : String) : Printed (writeString s) := by
  have hs : Printed (s.toList.flatMap writeChar) := by
    intro d hd
    obtain ⟨c, -, hc⟩ := List.mem_flatMap.mp hd
    exact writeChar_printed c d hc
  exact .cons (by decide) (hs.append (.cons (by decide) .nil))

theorem lineStart_printed (indent : Option Nat) (level : Nat) :
    Printed (lineStart indent level) := by
  cases indent with
  | none => exact .nil
  | some blanks =>
    intro c hc
    rcases List.mem_cons.mp hc with rfl | hc
    · exact Or.inl rfl
    · rw [List.eq_of_mem_replicate hc]
      exact Or.inr (by decide)

theorem separator_printed (indent : Option Nat) (level : Nat) :
    Printed (separator indent level) := by
  cases indent with
  | none => exact .cons (by decide) (.cons (by decide) .nil)
  | some blanks => exact .cons (by decide) (lineStart_printed _ _)

theorem writeItems_printed (indent : Option Nat) {items : List Json} {level : Nat}
    (h : ∀ j ∈ items, Printed (write indent level j)) :
    Printed (writeItems indent level items) := by
  induction items with
  | nil => exact .nil
  | cons v vs ih =>
    rw [writeItems]
    exact ((separator_printed indent level).append (h v (List.mem_cons_self ..))).append
      (ih fun j hj => h j (List.mem_cons_of_mem _ hj))

theorem member_printed {value : List Char} (name : String) (h : Printed value) :
    Printed (writeString name ++ ':' :: ' ' :: value) :=
  (writeString_printed name).append (.cons (by decide) (.cons (by decide) h))

theorem writeMembers_printed (indent : Option Nat) {members : List (String × Json)} {level : Nat}
    (h : ∀ m ∈ members, Printed (write indent level m.2)) :
    Printed (writeMembers indent level members) := by
  induction members with
  | nil => exact .nil
  | cons m rest ih =>
    obtain ⟨k, v⟩ := m
    have hv := member_printed k (h (k, v) (List.mem_cons_self ..))
    have hr := ih fun m hm => h m (List.mem_cons_of_mem _ hm)
    have := ((separator_printed indent level).append hv).append hr
    simpa [writeMembers] using this

/-- A document without numbers is written in printable ASCII and line feeds. -/
theorem Plain.printed {j : Json} (h : Plain j) (indent : Option Nat) (level : Nat) :
    Printed (write indent level j) := by
  induction h generalizing level with
  | null => simp [write, Printed]
  | bool b => cases b <;> simp [write, Printed]
  | str s => exact writeString_printed s
  | @arr items _ ih =>
    cases items with
    | nil => exact .cons (by decide) (.cons (by decide) .nil)
    | cons v vs =>
      have hv := ih v (List.mem_cons_self ..) (level + 1)
      have hvs := writeItems_printed indent
        fun j hj => ih j (List.mem_cons_of_mem _ hj) (level + 1)
      rw [write]
      exact .cons (by decide) (((((lineStart_printed _ _).append hv).append hvs).append
        (lineStart_printed _ _)).append (.cons (by decide) .nil))
  | @obj members _ _ ih =>
    cases members with
    | nil => exact .cons (by decide) (.cons (by decide) .nil)
    | cons m rest =>
      obtain ⟨k, v⟩ := m
      have hv := member_printed k (ih (k, v) (List.mem_cons_self ..) (level + 1))
      have hr := writeMembers_printed indent
        fun m hm => ih m (List.mem_cons_of_mem _ hm) (level + 1)
      have hb := (((lineStart_printed indent (level + 1)).append hv).append hr).append
        ((lineStart_printed indent level).append (.cons (by decide : 0x20 ≤ '\x7d'.toNat ∧ _) .nil))
      rw [write]
      exact .cons (by decide) (by simpa using hb)

end SampleTypes.Json
