import Mathlib.Data.List.Basic
import SampleTypes.Naming.Allocator
import SampleTypes.Proofs.Text.Stream

/-!
What names for types look like: a capital letter and then letters and digits, all of ASCII. So no
such name can be taken apart as a type expression, and none of the primitive expressions but one
looks like a name.
-/

namespace SampleTypes

theorem alphanum_iff {c : Char} :
    c.isAlphanum = true ↔ (c.isUpper = true ∨ c.isLower = true) ∨ c.isDigit = true := by
  have h : c.isAlphanum = ((c.isUpper || c.isLower) || c.isDigit) := rfl
  rw [h, Bool.or_eq_true, Bool.or_eq_true]

/-- A capital letter, and after it letters and digits. -/
def IsTypeName (name : String) : Prop :=
  ∃ c cs, name.toList = c :: cs ∧ c.isUpper = true ∧ ∀ d ∈ cs, d.isAlphanum = true

theorem IsTypeName.alphanum {name : String} (h : IsTypeName name) :
    ∀ c ∈ name.toList, c.isAlphanum = true := by
  obtain ⟨c, cs, hn, hc, hd⟩ := h
  intro d hm
  rw [hn] at hm
  rcases List.mem_cons.mp hm with rfl | hm
  · exact alphanum_iff.mpr (.inl (.inl hc))
  · exact hd d hm

theorem alphanum_lt {c : Char} (h : c.isAlphanum = true) : c.toNat < 0x80 := by
  rcases alphanum_iff.mp h with (hu | hl) | hd
  · have hle : c.toNat ≤ 'Z'.toNat := (of_decide_eq_true hu).2
    exact Nat.lt_of_le_of_lt hle (by decide)
  · have hle : c.toNat ≤ 'z'.toNat := of_decide_eq_true (Bool.and_eq_true_iff.mp hl).2
    exact Nat.lt_of_le_of_lt hle (by decide)
  · have hle : c.toNat ≤ '9'.toNat := of_decide_eq_true (Bool.and_eq_true_iff.mp hd).2
    exact Nat.lt_of_le_of_lt hle (by decide)

/-- A letter or digit in upper case is a capital letter, or the digit that it was. -/
theorem toUpper_cases {c : Char} (h : c.isAlphanum = true) :
    c.toUpper.isUpper = true ∨ c.toUpper = c ∧ c.isDigit = true := by
  have hall := Text.ascii_forall (p := fun d => d.isAlphanum = true →
    d.toUpper.isUpper = true ∨ d.toUpper = d ∧ d.isDigit = true) (by decide) (alphanum_lt h)
  exact hall h

theorem toUpper_alphanum {c : Char} (h : c.isAlphanum = true) : c.toUpper.isAlphanum = true := by
  rcases toUpper_cases h with hu | ⟨hs, -⟩
  · exact alphanum_iff.mpr (.inl (.inl hu))
  · rw [hs]
    exact h

theorem capitalizeRuns_alphanum (atStart : Bool) (cs : List Char) :
    ∀ c ∈ capitalizeRuns atStart cs, c.isAlphanum = true := by
  induction cs generalizing atStart with
  | nil => simp [capitalizeRuns]
  | cons d rest ih =>
    by_cases hd : d.isAlphanum = true
    · intro c hc
      simp only [capitalizeRuns, hd, if_true, List.mem_cons] at hc
      rcases hc with rfl | hc
      · cases atStart
        · exact hd
        · exact toUpper_alphanum hd
      · exact ih false c hc
    · simpa [capitalizeRuns, hd] using ih true

theorem capitalizeRuns_head {cs : List Char} {c : Char} {rest : List Char}
    (h : capitalizeRuns true cs = c :: rest) : c.isUpper = true ∨ c.isDigit = true := by
  induction cs with
  | nil => cases h
  | cons d more ih =>
    by_cases hd : d.isAlphanum = true
    · simp only [capitalizeRuns, hd, if_true, List.cons.injEq] at h
      rcases toUpper_cases hd with hu | ⟨hs, hn⟩
      · exact Or.inl (h.1 ▸ hu)
      · exact Or.inr (by rw [← h.1, hs]; exact hn)
    · exact ih (by simpa [capitalizeRuns, hd] using h)

theorem pascalCase_isTypeName (hint : String) : IsTypeName (pascalCase hint) := by
  have ha := capitalizeRuns_alphanum true hint.toList
  unfold pascalCase
  cases hr : capitalizeRuns true hint.toList with
  | nil => exact ⟨'A', _, rfl, rfl, List.all_eq_true.mp (by decide)⟩
  | cons c cs =>
    rw [hr] at ha
    by_cases hd : c.isDigit = true
    · simp only [hd, if_true]
      refine ⟨'T', 'y' :: 'p' :: 'e' :: c :: cs, String.toList_ofList, rfl, ?_⟩
      intro d hm
      simp only [List.mem_cons] at hm
      rcases hm with rfl | rfl | rfl | hm
      · rfl
      · rfl
      · rfl
      · exact ha d (List.mem_cons.mpr hm)
    · simp only [hd, Bool.false_eq_true, if_false]
      have hu := (capitalizeRuns_head hr).resolve_right hd
      exact ⟨c, cs, String.toList_ofList, hu, fun d hm => ha d (List.mem_cons_of_mem c hm)⟩

theorem natText_digits {n : Nat} {c : Char} (h : c ∈ (Decimal.natText n).toList) :
    c.isDigit = true := by
  rw [Decimal.natText, String.toList_ofList] at h
  exact Nat.isDigit_of_mem_toDigits (by decide) (by decide) h

namespace Allocator

theorem numbered_isTypeName {base : String} (h : IsTypeName base) (n : Nat) :
    IsTypeName (numbered base n) := by
  by_cases hn : n = 0
  · simpa [numbered, hn] using h
  · obtain ⟨c, cs, hb, hu, ha⟩ := h
    refine ⟨c, cs ++ (Decimal.natText n).toList, ?_, hu, fun d hd => ?_⟩
    · simp [numbered, hn, hb]
    · rcases List.mem_append.mp hd with hd | hd
      · exact ha d hd
      · exact alphanum_iff.mpr (.inr (natText_digits hd))

theorem numbered_eq_base {base name : String} {n : Nat} (h : numbered base n = name)
    (hl : ∀ c, name.toList.getLast? = some c → c.isDigit = false) : base = name := by
  by_cases hn : n = 0
  · simpa [numbered, hn] using h
  · exfalso
    have hd : (Decimal.natText n).toList ≠ [] := by
      simp [Decimal.natText, Nat.toDigits_ne_nil]
    have hg : name.toList.getLast? = some ((Decimal.natText n).toList.getLast hd) := by
      rw [← h]
      simp [numbered, hn, List.getLast?_append, List.getLast?_eq_some_getLast hd]
    have hc := hl _ hg
    rw [natText_digits (List.getLast_mem hd)] at hc
    cases hc

theorem allocate_name (a : Allocator) (hint : String) :
    ∃ n, (a.allocate hint).1 = numbered (pascalCase hint) n :=
  ⟨_, rfl⟩

end Allocator

end SampleTypes
