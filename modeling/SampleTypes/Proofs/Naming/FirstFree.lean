import Mathlib.Data.List.Nodup
import Mathlib.Data.List.Perm.Subperm
import SampleTypes.Naming.Allocator
import SampleTypes.Proofs.Basic

/-!
The names that an allocator hands out. The numbered names of one base are all different, so among one more
of them than there are taken names one is free, and the bounded search finds it. The number that is kept
for a base only saves work: all names of the base below it are taken, so a search from that number on finds
the name that a search from the bare base would find, the first that is free.
-/

namespace SampleTypes

theorem natText_injective {m n : Nat} (h : Decimal.natText m = Decimal.natText n) : m = n := by
  have hd : Nat.toDigits 10 m = Nat.toDigits 10 n := by
    simpa [Decimal.natText] using congrArg String.toList h
  calc m = Nat.ofDigitChars 10 (Nat.toDigits 10 m) 0 := Nat.ofDigitChars_ten_toDigits.symm
    _ = Nat.ofDigitChars 10 (Nat.toDigits 10 n) 0 := by rw [hd]
    _ = n := Nat.ofDigitChars_ten_toDigits

theorem append_natText_ne_self (base : String) (n : Nat) : base ++ Decimal.natText n ≠ base := by
  intro h
  have hd : Nat.toDigits 10 n = [] := by simpa [Decimal.natText] using congrArg String.toList h
  exact Nat.toDigits_ne_nil hd

namespace Allocator

theorem numbered_injective {base : String} {m n : Nat} (h : numbered base m = numbered base n) :
    m = n := by
  by_cases hm : m = 0 <;> by_cases hn : n = 0
  · rw [hm, hn]
  · simp only [numbered, hm, hn, ↓reduceIte] at h
    exact absurd h.symm (append_natText_ne_self base n)
  · simp only [numbered, hm, hn, ↓reduceIte] at h
    exact absurd h (append_natText_ne_self base m)
  · simp only [numbered, hm, hn, ↓reduceIte] at h
    exact natText_injective ((String.append_right_inj base).mp h)

/-- The search passes over taken names only, and stops early only at a free one. -/
theorem firstFree_search (base : String) (taken : List String) (fuel n : Nat) :
    ∃ k ≤ fuel, firstFree base taken fuel n = n + k ∧
      (∀ j < k, numbered base (n + j) ∈ taken) ∧
      (k < fuel → numbered base (n + k) ∉ taken) := by
  induction fuel generalizing n with
  | zero => exact ⟨0, Nat.le_refl 0, rfl, by omega, by omega⟩
  | succ fuel ih =>
    by_cases hn : numbered base n ∈ taken
    · obtain ⟨k, hk, he, hp, hf⟩ := ih (n + 1)
      refine ⟨k + 1, by omega, ?_, ?_, ?_⟩
      · simp only [firstFree, hn, ↓reduceIte, he]
        omega
      · intro j hj
        cases j with
        | zero => exact hn
        | succ j =>
          have := hp j (by omega)
          rwa [show n + 1 + j = n + (j + 1) by omega] at this
      · intro hlt
        have := hf (by omega)
        rwa [show n + 1 + k = n + (k + 1) by omega] at this
    · exact ⟨0, by omega, by simp [firstFree, hn], by omega, fun _ => hn⟩

/-- No more numbered names of a base in a row are taken than there are taken names. -/
theorem run_length_le {base : String} {taken : List String} {n k : Nat}
    (h : ∀ j < k, numbered base (n + j) ∈ taken) : k ≤ taken.length := by
  have hd : ((List.range k).map fun j => numbered base (n + j)).Nodup := by
    refine List.Nodup.map_on ?_ List.nodup_range
    intro i _ j _ hij
    have := numbered_injective hij
    omega
  have hs : ((List.range k).map fun j => numbered base (n + j)) ⊆ taken := by
    intro name hm
    obtain ⟨j, hj, rfl⟩ := List.mem_map.mp hm
    exact h j (List.mem_range.mp hj)
  simpa using (hd.subperm hs).length_le

theorem firstFree_not_taken (base : String) (taken : List String) (n : Nat) :
    numbered base (firstFree base taken taken.length n) ∉ taken := by
  obtain ⟨k, hk, he, hp, hf⟩ := firstFree_search base taken taken.length n
  rw [he]
  by_cases hlt : k < taken.length
  · exact hf hlt
  · intro hm
    have hle : k + 1 ≤ taken.length := by
      refine @run_length_le base taken n (k + 1) fun j hj => ?_
      rcases Nat.lt_succ_iff_lt_or_eq.mp hj with hj | rfl
      · exact hp j hj
      · exact hm
    omega

theorem allocate_fresh (a : Allocator) (hint : String) : (a.allocate hint).1 ∉ a.taken :=
  firstFree_not_taken _ _ _

theorem allocate_taken (a : Allocator) (hint : String) :
    (a.allocate hint).2.taken = a.taken ++ [(a.allocate hint).1] := rfl

end Allocator

end SampleTypes

namespace SampleTypes.Allocator

/-- A search for a free name from a number on, bounded by nothing: it goes on while the names are taken
and ends at the first one that is not. -/
inductive Search (base : String) (taken : List String) : Nat → Nat → Prop where
  | found {n : Nat} : numbered base n ∉ taken → Search base taken n n
  | passed {n m : Nat} : numbered base n ∈ taken → Search base taken (n + 1) m → Search base taken n m

section

variable {base : String} {taken : List String} {n m : Nat}

theorem Search.free (h : Search base taken n m) : numbered base m ∉ taken := by
  induction h with
  | found hf => exact hf
  | passed _ _ ih => exact ih

theorem Search.unique (h : Search base taken n m) {k : Nat} (hk : Search base taken n k) : k = m := by
  induction h with
  | found hf =>
    cases hk with
    | found => rfl
    | passed ht => exact absurd ht hf
  | passed ht _ ih =>
    cases hk with
    | found hf => exact absurd ht hf
    | passed _ hk => exact ih hk

/-- Numbers before the start may be searched as well if their names are taken. -/
theorem Search.from_start (h : Search base taken n m) (ht : ∀ j < n, numbered base j ∈ taken) :
    Search base taken 0 m := by
  induction n with
  | zero => exact h
  | succ n ih => exact ih (.passed (ht n (Nat.lt_succ_self n)) h) fun j hj => ht j (by omega)

theorem Search.taken_below (h : Search base taken n m) (ht : ∀ j < n, numbered base j ∈ taken) :
    ∀ j < m, numbered base j ∈ taken := by
  induction h with
  | found => exact ht
  | @passed n m hn _ ih =>
    refine ih fun j hj => ?_
    rcases Nat.lt_succ_iff_lt_or_eq.mp hj with hj | rfl
    · exact ht j hj
    · exact hn

theorem Search.start_le (h : Search base taken n m) : n ≤ m := by
  induction h with
  | found => exact Nat.le_refl _
  | passed _ _ ih => omega

theorem search_of_run {k : Nat} (hp : ∀ j < k, numbered base (n + j) ∈ taken)
    (hf : numbered base (n + k) ∉ taken) : Search base taken n (n + k) := by
  induction k generalizing n with
  | zero => exact .found hf
  | succ k ih =>
    have hs : n + (k + 1) = n + 1 + k := by omega
    refine .passed (hp 0 (Nat.succ_pos k)) (hs ▸ ih (fun j hj => ?_) (hs ▸ hf))
    rw [show n + 1 + j = n + (j + 1) by omega]
    exact hp (j + 1) (by omega)

theorem firstFree_ends (base : String) (taken : List String) (n : Nat) :
    Search base taken n (firstFree base taken taken.length n) := by
  obtain ⟨k, -, he, hp, -⟩ := firstFree_search base taken taken.length n
  have hf := firstFree_not_taken base taken n
  rw [he] at hf ⊢
  exact search_of_run hp hf

end

def nextNumber (a : Allocator) (hint : String) : Nat :=
  firstFree (pascalCase hint) a.taken a.taken.length (a.counter (pascalCase hint))

section

variable (a : Allocator) (hint : String)

theorem allocate_numbered :
    (a.allocate hint).1 = numbered (pascalCase hint) (a.nextNumber hint) := rfl

theorem counter_allocate_self :
    (a.allocate hint).2.counter (pascalCase hint) = a.nextNumber hint + 1 :=
  congrArg (Option.getD · 0) (valueOf_putValue_self _)

theorem counter_allocate_other {base : String} (h : base ≠ pascalCase hint) :
    (a.allocate hint).2.counter base = a.counter base :=
  congrArg (Option.getD · 0) (valueOf_putValue_other h _)

theorem nextNumber_search :
    Search (pascalCase hint) a.taken (a.counter (pascalCase hint)) (a.nextNumber hint) :=
  firstFree_ends _ _ _

end

/-- All names of a base below its number are taken. -/
def Counted (a : Allocator) : Prop := ∀ base, ∀ n < a.counter base, numbered base n ∈ a.taken

theorem counted_reserving (reserved : List String) : Counted (reserving reserved) :=
  fun _ _ h => absurd h (Nat.not_lt_zero _)

theorem Counted.allocate {a : Allocator} (h : a.Counted) (hint : String) :
    (a.allocate hint).2.Counted := by
  intro base n hn
  rw [allocate_taken]
  by_cases hb : base = pascalCase hint
  · subst hb
    rw [counter_allocate_self] at hn
    rcases Nat.lt_succ_iff_lt_or_eq.mp hn with hn | rfl
    · exact List.mem_append_left _ ((a.nextNumber_search hint).taken_below (h _) n hn)
    · exact List.mem_append_right _ (List.mem_singleton_self _)
  · rw [counter_allocate_other a hint hb] at hn
    exact List.mem_append_left _ (h base n hn)

/-- What a hint comes to is taken once a name has been handed out for it. -/
theorem Counted.base_taken {a : Allocator} (h : a.Counted) (hint : String) :
    pascalCase hint ∈ (a.allocate hint).2.taken := by
  have hb := h.allocate hint (pascalCase hint) 0
  rw [counter_allocate_self] at hb
  exact hb (Nat.succ_pos _)

def handOut (a : Allocator) : List String → List String × Allocator
  | [] => ([], a)
  | hint :: rest =>
    let (names, b) := (a.allocate hint).2.handOut rest
    ((a.allocate hint).1 :: names, b)

theorem Counted.handOut {a : Allocator} (h : a.Counted) (hints : List String) :
    (a.handOut hints).2.Counted := by
  induction hints generalizing a with
  | nil => exact h
  | cons hint rest ih => exact ih (h.allocate hint)

theorem handOut_taken (a : Allocator) (hints : List String) :
    (a.handOut hints).2.taken = a.taken ++ (a.handOut hints).1 := by
  induction hints generalizing a with
  | nil => exact (List.append_nil _).symm
  | cons hint rest ih =>
    simp only [handOut, ih, allocate_taken, List.append_assoc, List.singleton_append]

/-- The number of the name that is handed out next for a hint, where the names known are taken. -/
structure IsNext (a : Allocator) (known : List String) (hint : String) (n : Nat) : Prop where
  name : (a.allocate hint).1 = numbered (pascalCase hint) n
  free : numbered (pascalCase hint) n ∉ known
  first : ∀ m < n, numbered (pascalCase hint) m ∈ known
  search : ∀ m, Search (pascalCase hint) known (a.counter (pascalCase hint)) m ↔ m = n
  searchFromBase : ∀ m, Search (pascalCase hint) known 0 m ↔ m = n
  counted : a.occurrences hint < (a.allocate hint).2.occurrences hint
  others : ∀ base ≠ pascalCase hint, (a.allocate hint).2.counter base = a.counter base

/-- Where all numbers below the counters are taken, the next name is the first one that is free. -/
theorem Counted.isNext {a : Allocator} (h : a.Counted) (hint : String) :
    a.IsNext a.taken hint (a.nextNumber hint) := by
  have hsearch := a.nextNumber_search hint
  have hzero := hsearch.from_start (h _)
  have hup : (a.allocate hint).2.occurrences hint = a.nextNumber hint + 1 :=
    counter_allocate_self a hint
  exact {
    name := a.allocate_numbered hint
    free := hsearch.free
    first := hsearch.taken_below (h _)
    search := fun m => ⟨hsearch.unique, fun he => he ▸ hsearch⟩
    searchFromBase := fun m => ⟨hzero.unique, fun he => he ▸ hzero⟩
    counted := hup ▸ Nat.lt_succ_of_le hsearch.start_le
    others := fun _ ho => counter_allocate_other a hint ho }

/-- Whatever was handed out before, the next name is the first of its base that is neither reserved nor
handed out. The search for it ends, from the number kept for the base as from the bare base, at that
name and no other; the number of the base goes up and no other number changes. -/
theorem first_free_handed_out (reserved hints : List String) (hint : String) :
    ∃ n, ((reserving reserved).handOut hints).2.IsNext
      (reserved ++ ((reserving reserved).handOut hints).1) hint n := by
  have hcounted := (counted_reserving reserved).handOut hints
  have hknown : ((reserving reserved).handOut hints).2.taken =
      reserved ++ ((reserving reserved).handOut hints).1 := handOut_taken _ hints
  exact ⟨_, hknown ▸ hcounted.isNext hint⟩

/-- Names of another base and reserved names make holes in the numbers. -/
example : ((reserving ["Money1"]).handOut ["address_1", "address", "address", "money", "money"]).1 =
    ["Address1", "Address", "Address2", "Money", "Money2"] := by decide +kernel

end SampleTypes.Allocator
