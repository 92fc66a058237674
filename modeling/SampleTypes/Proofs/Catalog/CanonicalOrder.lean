import Mathlib.Data.List.Sigma
import SampleTypes.Catalog.Registry

/-!
The order in which types are written loses none and adds none and is fixed by the list and the root.
Types are told apart by their positions, so that types of one name, and even equal ones, have a first and a
second. Main result: of all arrangements of the list only one has the types of the root's name in front,
few references before many, and otherwise the order of the list; the types are written in it.
-/

namespace SampleTypes

theorem rank_le_trans (a b c : Rank) (h : a.le b = true) (k : b.le c = true) : a.le c = true := by
  simp only [Rank.le, Bool.or_eq_true, Bool.and_eq_true, decide_eq_true_eq] at *
  omega

theorem rank_le_total (a b : Rank) : (a.le b || b.le a) = true := by
  simp only [Rank.le, Bool.or_eq_true, Bool.and_eq_true, decide_eq_true_eq]
  omega

section

variable {τ : Type} [BEq τ]

theorem orderTypes_perm (types : List (TypeDecl τ)) (root : Option τ) :
    (orderTypes types root).Perm types :=
  List.mergeSort_perm _ _

theorem orderTypes_pairwise (types : List (TypeDecl τ)) (root : Option τ) :
    (orderTypes types root).Pairwise
      fun a b => (rank types root a).le (rank types root b) = true := by
  refine List.pairwise_mergeSort ?_ ?_ types
  · intro a b c
    exact rank_le_trans _ _ _
  · intro a b
    exact rank_le_total _ _

theorem rank_root [LawfulBEq τ] (types : List (TypeDecl τ)) {root : τ} {t : TypeDecl τ} :
    (rank types (some root) t).root = 0 ↔ t.name = root := by
  simp [rank]

theorem root_first [LawfulBEq τ] {types : List (TypeDecl τ)} {root : τ}
    (h : root ∈ types.map TypeDecl.name) :
    ∃ t rest, orderTypes types (some root) = t :: rest ∧ t.name = root := by
  obtain ⟨t, ht, hn⟩ := List.mem_map.mp h
  have hm : t ∈ orderTypes types (some root) := (orderTypes_perm types _).mem_iff.mpr ht
  have hp := orderTypes_pairwise types (some root)
  cases ho : orderTypes types (some root) with
  | nil =>
    rw [ho] at hm
    exact absurd hm List.not_mem_nil
  | cons first rest =>
    refine ⟨first, rest, rfl, ?_⟩
    rw [ho] at hm hp
    rcases List.mem_cons.mp hm with rfl | hr
    · exact hn
    · have hle := List.rel_of_pairwise_cons hp hr
      have ht : (rank types (some root) t).root = 0 := (rank_root types).mpr hn
      simp only [Rank.le, Bool.or_eq_true, Bool.and_eq_true, decide_eq_true_eq] at hle
      exact (rank_root types).mp (by omega)

end

def IsRoot (root : Option String) (t : TypeDecl String) : Prop := root = some t.name

instance (root : Option String) (t : TypeDecl String) : Decidable (IsRoot root t) :=
  inferInstanceAs (Decidable (root = some t.name))

def referring (types : List (TypeDecl String)) (t : TypeDecl String) : List (TypeDecl String) :=
  types.filter fun other => other.name ≠ t.name ∧ ∃ f ∈ other.fields, f.typeRef = t.name

theorem incoming_eq (types : List (TypeDecl String)) (t : TypeDecl String) :
    incoming types t.name = (referring types t).length := by
  rw [incoming, referring, List.countP_eq_length_filter]
  congr 2
  funext other
  rw [Bool.eq_iff_iff]
  simp

theorem referring_length_perm {types others : List (TypeDecl String)} (h : others.Perm types)
    (t : TypeDecl String) : (referring others t).length = (referring types t).length :=
  (h.filter _).length_eq

/-- The types of a list with their positions in it, arranged as they are to be written. -/
structure IsCanonical (types : List (TypeDecl String)) (root : Option String)
    (placed : List (TypeDecl String × Nat)) : Prop where
  perm : placed.Perm types.zipIdx
  rootFirst : placed.Pairwise fun x y => IsRoot root y.1 → IsRoot root x.1
  ascending : placed.Pairwise fun x y => (IsRoot root x.1 ↔ IsRoot root y.1) →
    (referring types x.1).length ≤ (referring types y.1).length
  stable : placed.Pairwise fun x y => (IsRoot root x.1 ↔ IsRoot root y.1) →
    (referring types x.1).length = (referring types y.1).length → x.2 < y.2

section

variable {types : List (TypeDecl String)} {root : Option String}

theorem rank_le_iff {s t : TypeDecl String} :
    (rank types root s).le (rank types root t) = true ↔
      (IsRoot root t → IsRoot root s) ∧ ((IsRoot root s ↔ IsRoot root t) →
        (referring types s).length ≤ (referring types t).length) := by
  have hroot (u : TypeDecl String) : (rank types root u).root = if IsRoot root u then 0 else 1 := by
    cases root with
    | none => rfl
    | some name => simp [rank, IsRoot, eq_comm (a := name)]
  have hcount (u : TypeDecl String) : (rank types root u).incoming = (referring types u).length :=
    incoming_eq types u
  rw [Rank.le, Bool.or_eq_true, Bool.and_eq_true, decide_eq_true_eq, decide_eq_true_eq,
    decide_eq_true_eq, hroot, hroot, hcount, hcount]
  by_cases hs : IsRoot root s
  · by_cases ht : IsRoot root t
    · simp [hs, ht]
    · simp [hs, ht]
  · by_cases ht : IsRoot root t
    · simp [hs, ht]
    · simp [hs, ht]

def Before (types : List (TypeDecl String)) (root : Option String)
    (x y : TypeDecl String × Nat) : Prop :=
  (rank types root x.1).le (rank types root y.1) = true ∧
    ((rank types root y.1).le (rank types root x.1) = true → x.2 < y.2)

theorem before_iff {x y : TypeDecl String × Nat} : Before types root x y ↔
    (IsRoot root y.1 → IsRoot root x.1) ∧
    ((IsRoot root x.1 ↔ IsRoot root y.1) →
      (referring types x.1).length ≤ (referring types y.1).length) ∧
    ((IsRoot root x.1 ↔ IsRoot root y.1) →
      (referring types x.1).length = (referring types y.1).length → x.2 < y.2) := by
  rw [Before, rank_le_iff, rank_le_iff, and_assoc]
  refine and_congr_right fun hr => and_congr_right fun ha => ?_
  constructor
  · intro h hiff heq
    exact h ⟨hiff.mp, fun _ => Nat.le_of_eq heq.symm⟩
  · intro h hback
    have hiff : IsRoot root x.1 ↔ IsRoot root y.1 := ⟨hback.1, hr⟩
    exact h hiff (le_antisymm (ha hiff) (hback.2 hiff.symm))

theorem isCanonical_iff {placed : List (TypeDecl String × Nat)} :
    IsCanonical types root placed ↔
      placed.Perm types.zipIdx ∧ placed.Pairwise (Before types root) := by
  have hsplit : placed.Pairwise (Before types root) ↔ _ :=
    (List.Pairwise.iff fun _ _ => before_iff).trans
      (List.pairwise_and_iff.trans (and_congr_right' List.pairwise_and_iff))
  rw [hsplit]
  constructor
  · intro h
    exact ⟨h.perm, h.rootFirst, h.ascending, h.stable⟩
  · rintro ⟨hp, hroot, hascending, hstable⟩
    exact ⟨hp, hroot, hascending, hstable⟩

theorem IsCanonical.unique {placed others : List (TypeDecl String × Nat)}
    (h : IsCanonical types root placed) (k : IsCanonical types root others) : others = placed := by
  rw [isCanonical_iff] at h k
  refine List.Perm.eq_of_pairwise ?_ k.2 h.2 (k.1.trans h.1.symm)
  intro x y _ _ hxy hyx
  have hlt := hxy.2 hyx.1
  have hgt := hyx.2 hxy.1
  omega

/-- Sorted with their positions, the types come out as without them. -/
theorem exists_canonical (types : List (TypeDecl String)) (root : Option String) :
    ∃ placed, IsCanonical types root placed ∧ placed.map Prod.fst = orderTypes types root := by
  let le := fun a b => (rank types root a).le (rank types root b)
  refine ⟨types.zipIdx.mergeSort (List.zipIdxLE le), isCanonical_iff.mpr ⟨?_, ?_⟩, ?_⟩
  · exact List.mergeSort_perm _ _
  · have htrans := List.zipIdxLE_trans fun a b c : TypeDecl String =>
      rank_le_trans (rank types root a) (rank types root b) (rank types root c)
    have htotal := List.zipIdxLE_total fun a b : TypeDecl String =>
      rank_le_total (rank types root a) (rank types root b)
    have hsorted := List.pairwise_mergeSort htrans htotal types.zipIdx
    have hapart : (types.zipIdx.mergeSort (List.zipIdxLE le)).Pairwise fun x y => x.2 ≠ y.2 := by
      have hnodup := List.nodup_zipIdx_map_snd types
      rw [← ((List.mergeSort_perm types.zipIdx (List.zipIdxLE le)).map Prod.snd).nodup_iff] at hnodup
      exact List.pairwise_map.mp hnodup
    refine (hsorted.and hapart).imp ?_
    rintro x y ⟨hle, hne⟩
    simp only [List.zipIdxLE] at hle
    split at hle
    · rename_i hxy
      refine ⟨hxy, fun hyx => ?_⟩
      rw [if_pos hyx, decide_eq_true_eq] at hle
      omega
    · cases hle
  · exact List.mergeSort_zipIdx

theorem orderTypes_orderTypes (types : List (TypeDecl String)) (root : Option String) :
    orderTypes (orderTypes types root) root = orderTypes types root := by
  have hrank (t : TypeDecl String) : rank (orderTypes types root) root t = rank types root t := by
    rw [rank, rank, incoming_eq, incoming_eq, referring_length_perm (orderTypes_perm types root)]
  rw [orderTypes.eq_def (orderTypes types root)]
  simp only [hrank]
  exact List.mergeSort_of_pairwise (orderTypes_pairwise types root)

end

/-- The types are written in the one canonical order of the list; written once more they stay in it,
and the counts of references are those of any other order of the list. -/
theorem written_in_canonical_order (types : List (TypeDecl String)) (root : Option String) :
    (∃ placed, IsCanonical types root placed ∧ placed.map Prod.fst = orderTypes types root ∧
      ∀ others, IsCanonical types root others → others = placed) ∧
    orderTypes (orderTypes types root) root = orderTypes types root ∧
    ∀ others : List (TypeDecl String), others.Perm types → ∀ t : TypeDecl String,
      incoming others t.name = (referring types t).length := by
  refine ⟨?_, orderTypes_orderTypes types root, ?_⟩
  · obtain ⟨placed, hc, hmap⟩ := exists_canonical types root
    exact ⟨placed, hc, hmap, fun others h => hc.unique h⟩
  · intro others h t
    rw [incoming_eq, referring_length_perm h]

end SampleTypes
