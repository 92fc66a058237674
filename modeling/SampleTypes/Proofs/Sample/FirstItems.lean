import Mathlib.Data.List.Nodup
import Mathlib.Data.List.Perm.Subperm
import SampleTypes.Sample

/-!
Chains of first items. A chain that ends is no longer than the bound of its sample: in a tree it
goes down, and in a graph it meets no list twice, since it would never end if it did.
-/

namespace SampleTypes

section

variable {α : Type} [Sampled α]

inductive FirstItems : α → Nat → Prop where
  | stop {x : α} (h : ∀ first rest, Sampled.layer x ≠ .list (first :: rest)) : FirstItems x 0
  | step {x first : α} {rest : List α} {n : Nat} (h : Sampled.layer x = .list (first :: rest))
      (k : FirstItems first n) : FirstItems x (n + 1)

theorem FirstItems.unique {x : α} {m n : Nat} (h : FirstItems x m) (k : FirstItems x n) :
    m = n := by
  induction h generalizing n with
  | stop hx =>
    cases k with
    | stop _ => rfl
    | step hl _ => exact absurd hl (hx _ _)
  | step hl _ ih =>
    cases k with
    | stop hx => exact absurd hl (hx _ _)
    | step hl' k' =>
      obtain ⟨rfl, rfl⟩ := List.cons.inj (Layer.list.inj (hl.symm.trans hl'))
      rw [ih k']

end

/-- Samples whose bound is one for their chains of first items. -/
class BoundedSample (α : Type) [Sampled α] : Prop where
  first_items_le : ∀ {x : α} {n : Nat}, FirstItems x n → n ≤ Sampled.bound x

theorem value_first_items {v : Value} {n : Nat} (h : FirstItems v n) : n ≤ v.height := by
  induction h with
  | stop _ => exact Nat.zero_le _
  | @step x first rest n hl _ ih =>
    cases x with
    | list items =>
      obtain rfl : items = first :: rest := Layer.list.inj hl
      simp only [Value.height, Value.itemsHeight]
      omega
    | pair a b =>
      obtain ⟨rfl, -⟩ := List.cons.inj (Layer.list.inj hl)
      simp only [Value.height]
      omega
    | scalar s => cases hl
    | map entries => cases hl
    | set members => cases hl
    | again isMap => cases hl

instance : BoundedSample Value where
  first_items_le h := Nat.le_succ_of_le (value_first_items h)

namespace Place

theorem node_outside {graph : Graph} {id : Nat} (h : ¬ id < graph.size) :
    node graph id = .scalar .null := by
  simp [node, Array.getElem?_eq_none (Nat.le_of_not_lt h)]

/-- One step of a chain from a node: the node is a list in the graph. -/
theorem node_layer {p : Place} {id : Nat} (hp : p.item = .node id) {first : Place}
    {rest : List Place} (hl : p.layer = .list (first :: rest)) :
    id < p.graph.size ∧ first.graph = p.graph := by
  simp only [layer, hp] at hl
  split at hl
  · cases hl
  · rename_i items hn
    cases items with
    | nil => cases hl
    | cons i more =>
      obtain ⟨rfl, -⟩ := List.cons.inj (Layer.list.inj hl)
      refine ⟨?_, rfl⟩
      by_contra hid
      cases (node_outside hid).symm.trans hn
  · cases hl
  · cases hl

/-- The nodes on a chain, none of them twice: each has a chain of its own, and of two different
lengths. Between two nodes there is at most one pair. -/
theorem chain_nodes {graph : Graph} {p : Place} {n : Nat} (hg : p.graph = graph)
    (h : FirstItems p n) :
    ∃ ids : List Nat, ids.Nodup ∧ (∀ id ∈ ids, id < graph.size) ∧
      (∀ id ∈ ids, ∃ m ≤ n, FirstItems (Place.ofNode graph id) m) ∧
      n ≤ 2 * ids.length + (match p.item with | .pair _ _ => 1 | .node _ => 0) := by
  induction h with
  | stop _ => exact ⟨[], List.nodup_nil, by simp, by simp, by simp⟩
  | @step p first rest n hl k ih =>
    have hf : FirstItems p (n + 1) := .step hl k
    obtain ⟨g, item⟩ := p
    obtain rfl : g = graph := hg
    cases item with
    | pair a b =>
      obtain ⟨rfl, -⟩ := List.cons.inj (Layer.list.inj hl)
      obtain ⟨ids, hd, hs, hc, hn⟩ := ih rfl
      refine ⟨ids, hd, hs, fun id hm => ?_, ?_⟩
      · obtain ⟨m, hm, hk⟩ := hc id hm
        exact ⟨m, Nat.le_succ_of_le hm, hk⟩
      · have hm : n ≤ 2 * ids.length := hn
        show n + 1 ≤ 2 * ids.length + 1
        omega
    | node id =>
      obtain ⟨hid, hfg⟩ := node_layer rfl hl
      obtain ⟨ids, hd, hs, hc, hn⟩ := ih hfg
      have hnew : id ∉ ids := by
        intro hm
        obtain ⟨m, hm, hk⟩ := hc id hm
        have := hf.unique hk
        omega
      refine ⟨id :: ids, List.nodup_cons.mpr ⟨hnew, hd⟩, ?_, ?_, ?_⟩
      · intro i hm
        rcases List.mem_cons.mp hm with rfl | hm
        · exact hid
        · exact hs i hm
      · intro i hm
        rcases List.mem_cons.mp hm with rfl | hm
        · exact ⟨n + 1, Nat.le_refl _, hf⟩
        · obtain ⟨m, hm, hk⟩ := hc i hm
          exact ⟨m, Nat.le_succ_of_le hm, hk⟩
      · simp only [List.length_cons]
        split at hn <;> omega

theorem chain_le {p : Place} {n : Nat} (h : FirstItems p n) : n ≤ 2 * p.graph.size + 1 := by
  obtain ⟨ids, hd, hs, -, hn⟩ := chain_nodes rfl h
  have hl : ids.length ≤ p.graph.size := by
    have hr : ids ⊆ List.range p.graph.size := fun id hm => List.mem_range.mpr (hs id hm)
    simpa using (hd.subperm hr).length_le
  split at hn <;> omega

theorem first_items_bounded {p : Place} {n : Nat} (h : FirstItems p n) : n ≤ p.bound := by
  have hn := chain_le h
  have hb : 2 * p.graph.size + 2 ≤ p.bound := Nat.le_mul_of_pos_left _ (Nat.succ_pos _)
  omega

instance : BoundedSample Place where
  first_items_le h := first_items_bounded h

end Place

end SampleTypes
