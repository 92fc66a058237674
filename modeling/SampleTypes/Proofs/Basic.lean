import Mathlib.Data.List.Basic
import Mathlib.Data.List.Forall2
import Mathlib.Data.String.Basic
import SampleTypes.Json
import SampleTypes.Sample

/-!
Checks made one after another, of which all pass if and only if each does; looking up and putting in, by
name, in lists of pairs; and texts in ascending order, where sorting loses none and adds none.
-/

namespace SampleTypes

section Checks

variable {ε α β γ : Type}

theorem bind_eq_ok {x : Except ε α} {f : α → Except ε β} {b : β} :
    (x >>= f) = .ok b ↔ ∃ a, x = .ok a ∧ f a = .ok b := by
  cases x with
  | error e => simp [bind, Except.bind]
  | ok a => simp [bind, Except.bind]

theorem map_eq_ok {x : Except ε α} {f : α → β} {b : β} :
    x.map f = .ok b ↔ ∃ a, x = .ok a ∧ f a = b := by
  cases x <;> simp [Except.map]

theorem mapError_eq_ok {δ : Type} {x : Except ε α} {f : ε → δ} {a : α} :
    x.mapError f = .ok a ↔ x = .ok a := by
  cases x <;> simp [Except.mapError]

theorem ok_of_toOption {x : Except ε α} {a : α} (h : x.toOption = some a) : x = .ok a := by
  cases x with
  | error e => cases h
  | ok b => exact congrArg Except.ok (Option.some.inj h)

theorem forM_eq_ok {check : α → Except ε Unit} {xs : List α} {u : Unit} :
    xs.forM check = .ok u ↔ ∀ x ∈ xs, check x = .ok () := by
  induction xs with
  | nil => exact iff_of_true rfl nofun
  | cons x xs ih =>
    have hc : (x :: xs).forM check = check x >>= fun _ => xs.forM check := rfl
    rw [hc, bind_eq_ok, List.forall_mem_cons, ih]
    exact ⟨fun ⟨_, h⟩ => h, fun h => ⟨(), h⟩⟩

theorem mapM_eq_ok {f : α → Except ε β} {xs : List α} {ys : List β} :
    xs.mapM f = .ok ys ↔ List.Forall₂ (fun x y => f x = .ok y) xs ys := by
  induction xs generalizing ys with
  | nil =>
    rw [List.forall₂_nil_left_iff]
    exact ⟨fun h => (Except.ok.inj h).symm, fun h => congrArg Except.ok h.symm⟩
  | cons x xs ih =>
    simp only [List.mapM_cons, bind_eq_ok, List.forall₂_cons_left_iff, ih]
    constructor
    · rintro ⟨y, hy, zs, hzs, he⟩
      exact ⟨y, zs, hy, hzs, (Except.ok.inj he).symm⟩
    · rintro ⟨y, zs, hy, hzs, rfl⟩
      exact ⟨y, hy, zs, hzs, rfl⟩

theorem mapM_isOk {f : α → Except ε β} {xs : List α} :
    (∃ ys, xs.mapM f = .ok ys) ↔ ∀ x ∈ xs, ∃ y, f x = .ok y := by
  induction xs with
  | nil => exact iff_of_true ⟨[], rfl⟩ nofun
  | cons x xs ih =>
    simp only [List.mapM_cons, bind_eq_ok, List.forall_mem_cons, ← ih]
    constructor
    · rintro ⟨_, y, hy, ys, hys, -⟩
      exact ⟨⟨y, hy⟩, ys, hys⟩
    · rintro ⟨⟨y, hy⟩, ys, hys⟩
      exact ⟨y :: ys, y, hy, ys, hys, rfl⟩

theorem mem_of_mapM {f : α → Except ε β} {xs : List α} {ys : List β} (h : xs.mapM f = .ok ys) {y : β}
    (hy : y ∈ ys) : ∃ x ∈ xs, f x = .ok y := by
  have hpairs := mapM_eq_ok.mp h
  obtain ⟨i, hi, rfl⟩ := List.getElem_of_mem hy
  have hx : i < xs.length := hpairs.length_eq ▸ hi
  exact ⟨xs[i], List.getElem_mem hx, hpairs.get hx hi⟩

end Checks

section Lookup

variable {α : Type} {name : String} {entries : List (String × α)}

theorem valueOf_eq_none : valueOf? name entries = none ↔ name ∉ entries.map Prod.fst := by
  induction entries with
  | nil => simp [valueOf?]
  | cons e rest ih =>
    obtain ⟨k, v⟩ := e
    by_cases hk : k = name
    · simp [valueOf?, hk]
    · simp [valueOf?, hk, ih, Ne.symm hk]

theorem mem_of_valueOf {v : α} (h : valueOf? name entries = some v) : (name, v) ∈ entries := by
  induction entries with
  | nil => simp [valueOf?] at h
  | cons e rest ih =>
    obtain ⟨k, w⟩ := e
    by_cases hk : k = name
    · simp_all [valueOf?]
    · exact List.mem_cons_of_mem _ (ih (by simpa [valueOf?, hk] using h))

theorem valueOf_of_mem (hd : (entries.map Prod.fst).Nodup) {v : α} (h : (name, v) ∈ entries) :
    valueOf? name entries = some v := by
  induction entries with
  | nil => cases h
  | cons e rest ih =>
    obtain ⟨k, w⟩ := e
    obtain ⟨hk, hr⟩ := List.nodup_cons.mp hd
    rcases List.mem_cons.mp h with he | hm
    · obtain ⟨rfl, rfl⟩ := Prod.mk.inj he
      simp [valueOf?]
    · have hn : name ∈ rest.map Prod.fst := List.mem_map.mpr ⟨_, hm, rfl⟩
      have hne : k ≠ name := fun he => hk (he ▸ hn)
      simpa [valueOf?, hne] using ih hr hm

theorem valueOf_append {v : α} (h : valueOf? name entries = some v) (more : List (String × α)) :
    valueOf? name (entries ++ more) = some v := by
  induction entries with
  | nil => simp [valueOf?] at h
  | cons e rest ih =>
    obtain ⟨k, w⟩ := e
    by_cases hk : k = name
    · simpa [valueOf?, hk] using h
    · simpa [valueOf?, hk] using ih (by simpa [valueOf?, hk] using h)

theorem valueOf_append_none (h : valueOf? name entries = none) (more : List (String × α)) :
    valueOf? name (entries ++ more) = valueOf? name more := by
  induction entries with
  | nil => rfl
  | cons e rest ih =>
    obtain ⟨k, w⟩ := e
    by_cases hk : k = name
    · simp [valueOf?, hk] at h
    · simpa [valueOf?, hk] using ih (by simpa [valueOf?, hk] using h)

theorem valueOf_longer {v : α} {longer : List (String × α)} (hp : entries <+: longer)
    (h : valueOf? name entries = some v) : valueOf? name longer = some v := by
  obtain ⟨more, rfl⟩ := hp
  exact valueOf_append h more

theorem valueOf_append_self (h : name ∉ entries.map Prod.fst) (v : α) :
    valueOf? name (entries ++ [(name, v)]) = some v := by
  induction entries with
  | nil => simp [valueOf?]
  | cons e rest ih =>
    obtain ⟨k, w⟩ := e
    simp only [List.map_cons, List.mem_cons, not_or] at h
    simpa [valueOf?, Ne.symm h.1] using ih h.2

/-- Lists of the same names have their values for one name at the same place. -/
theorem valueOf_zip {β : Type} {others : List (String × β)}
    (h : entries.map Prod.fst = others.map Prod.fst) {v : α} (hv : valueOf? name entries = some v) :
    ∃ w, valueOf? name others = some w ∧
      (v, w) ∈ (entries.map Prod.snd).zip (others.map Prod.snd) := by
  induction entries generalizing others with
  | nil => cases hv
  | cons e rest ih =>
    cases others with
    | nil => cases h
    | cons e' rest' =>
      obtain ⟨k, u⟩ := e
      obtain ⟨k', u'⟩ := e'
      obtain ⟨rfl, hr⟩ := List.cons.inj h
      by_cases hk : k = name
      · have hu : u = v := by simpa [valueOf?, hk] using hv
        exact ⟨u', by simp [valueOf?, hk], by simp [hu]⟩
      · obtain ⟨w, hw, hm⟩ := ih hr (by simpa [valueOf?, hk] using hv)
        exact ⟨w, by simpa [valueOf?, hk] using hw, List.mem_cons_of_mem _ hm⟩

theorem putValue_new (h : name ∉ entries.map Prod.fst) (v : α) :
    putValue name v entries = entries ++ [(name, v)] := by
  induction entries with
  | nil => rfl
  | cons e rest ih =>
    obtain ⟨k, w⟩ := e
    simp only [List.map_cons, List.mem_cons, not_or] at h
    simp [putValue, Ne.symm h.1, ih h.2]

/-- Where a name was put, it was there before or is the last. -/
theorem names_putValue (v : α) : (putValue name v entries).map Prod.fst =
    if name ∈ entries.map Prod.fst then entries.map Prod.fst
    else entries.map Prod.fst ++ [name] := by
  induction entries with
  | nil => rfl
  | cons e rest ih =>
    obtain ⟨k, w⟩ := e
    by_cases hk : k = name
    · simp [putValue, hk]
    · have hcons : name ∈ k :: rest.map Prod.fst ↔ name ∈ rest.map Prod.fst := by
        simp [Ne.symm hk]
      rw [putValue, if_neg hk, List.map_cons, ih, List.map_cons]
      by_cases hm : name ∈ rest.map Prod.fst
      · rw [if_pos hm, if_pos (hcons.mpr hm)]
      · rw [if_neg hm, if_neg (mt hcons.mp hm), List.cons_append]

theorem nodup_putValue (h : (entries.map Prod.fst).Nodup) (v : α) :
    ((putValue name v entries).map Prod.fst).Nodup := by
  rw [names_putValue]
  split
  · exact h
  · rename_i hn
    refine List.nodup_append.mpr ⟨h, List.pairwise_singleton _ _, ?_⟩
    rintro a ha b hb rfl
    exact hn (List.mem_singleton.mp hb ▸ ha)

/-- New names, none of them put twice, stand in the order in which they were put. -/
theorem foldl_putValue {β : Type} {key : β → String} {value : β → α} {xs : List β}
    (h : (entries.map Prod.fst ++ xs.map key).Nodup) :
    xs.foldl (fun found x => putValue (key x) (value x) found) entries =
      entries ++ xs.map fun x => (key x, value x) := by
  induction xs generalizing entries with
  | nil => exact (List.append_nil entries).symm
  | cons x xs ih =>
    have hx : key x ∉ entries.map Prod.fst := by
      intro hm
      exact (List.nodup_append.mp h).2.2 _ hm _ List.mem_cons_self rfl
    rw [List.foldl_cons, putValue_new hx, ih (by simpa using h), List.append_assoc]
    rfl

theorem valueOf_putValue_self (v : α) : valueOf? name (putValue name v entries) = some v := by
  induction entries with
  | nil => simp [putValue, valueOf?]
  | cons e rest ih =>
    obtain ⟨k, w⟩ := e
    by_cases hk : k = name
    · simp [putValue, valueOf?, hk]
    · simpa [putValue, valueOf?, hk] using ih

theorem valueOf_putValue_other {other : String} (h : other ≠ name) (v : α) :
    valueOf? other (putValue name v entries) = valueOf? other entries := by
  induction entries with
  | nil => simp [putValue, valueOf?, Ne.symm h]
  | cons e rest ih =>
    obtain ⟨k, w⟩ := e
    by_cases hk : k = name
    · subst hk
      simp [putValue, valueOf?, Ne.symm h]
    · simp [putValue, valueOf?, hk, ih]

end Lookup

theorem textLe_iff {a b : String} : textLe a b = true ↔ a ≤ b := by
  simp only [textLe, Bool.not_eq_true', decide_eq_false_iff_not, not_lt]

theorem textLe_trans (a b c : String) (h : textLe a b = true) (k : textLe b c = true) :
    textLe a c = true :=
  textLe_iff.mpr (le_trans (textLe_iff.mp h) (textLe_iff.mp k))

theorem textLe_total (a b : String) : (textLe a b || textLe b a) = true := by
  rw [Bool.or_eq_true, textLe_iff, textLe_iff]
  exact le_total a b

theorem sortTexts_perm (texts : List String) : (sortTexts texts).Perm texts :=
  List.mergeSort_perm _ _

theorem sortTexts_pairwise (texts : List String) :
    (sortTexts texts).Pairwise fun a b => textLe a b = true :=
  List.pairwise_mergeSort textLe_trans textLe_total texts

theorem sortTexts_sortTexts (texts : List String) : sortTexts (sortTexts texts) = sortTexts texts :=
  List.mergeSort_of_pairwise (sortTexts_pairwise texts)

end SampleTypes
