import Mathlib.Data.Fintype.Card
import Mathlib.Data.Set.Finite.Lemmas
import Mathlib.Logic.Relation
import SampleTypes.Proofs.Sample.FirstItems

/-!
What a sample is made of: its parts, how deeply they are nested, and what can be reached through
them. In a finite graph everything reached lies among the parts of its nodes, so if no list leads
back to itself by first items alone, all chains of first items end.
-/

namespace SampleTypes

def Layer.parts {α : Type} : Layer α → List α
  | .list items => items
  | .record entries => entries.map Prod.snd
  | _ => []

section

variable {α : Type} [Sampled α]

def parts (x : α) : List α := (Sampled.layer x).parts

/-- No chain of parts from the sample is longer. -/
def NestsWithin : Nat → α → Prop
  | 0, x => parts x = []
  | n + 1, x => ∀ y ∈ parts x, NestsWithin n y

def IsPart (x y : α) : Prop := y ∈ parts x

def Reaches : α → α → Prop := Relation.ReflTransGen IsPart

def IsFirst (x y : α) : Prop := ∃ rest, Sampled.layer x = .list (y :: rest)

theorem parts_list {x : α} {items : List α} (h : Sampled.layer x = .list items) :
    parts x = items := by
  rw [parts, h, Layer.parts]

theorem parts_record {x : α} {entries : List (Scalar × α)} (h : Sampled.layer x = .record entries) :
    parts x = entries.map Prod.snd := by
  rw [parts, h, Layer.parts]

theorem isPart_first {x first : α} {rest : List α} (h : Sampled.layer x = .list (first :: rest)) :
    IsPart x first := by
  rw [IsPart, parts_list h]
  exact List.mem_cons_self

theorem isPart_entry {x : α} {entries : List (Scalar × α)} (h : Sampled.layer x = .record entries)
    {entry : Scalar × α} (he : entry ∈ entries) : IsPart x entry.2 := by
  rw [IsPart, parts_record h]
  exact List.mem_map_of_mem he

theorem NestsWithin.part {n : Nat} {x y : α} (h : NestsWithin n x) (hy : IsPart x y) :
    ∃ m, n = m + 1 ∧ NestsWithin m y := by
  cases n with
  | zero =>
    rw [IsPart, show parts x = [] from h] at hy
    cases hy
  | succ m => exact ⟨m, rfl, h y hy⟩

/-- Where finitely many samples are reached and none of them leads back to itself by first items, every
chain of first items ends. -/
theorem chains_end {x : α} (hf : {y | Reaches x y}.Finite)
    (hc : ∀ y, Reaches x y → ¬ Relation.TransGen IsFirst y y) {y : α} (hy : Reaches x y) :
    ∃ n, FirstItems y n := by
  let Reached := {y // Reaches x y}
  have : Finite Reached := hf
  have : IsTrans Reached fun a b => Relation.TransGen IsFirst b.1 a.1 :=
    ⟨fun _ _ _ hab hbc => hbc.trans hab⟩
  have : Std.Irrefl fun a b : Reached => Relation.TransGen IsFirst b.1 a.1 :=
    ⟨fun a h => hc a.1 a.2 h⟩
  have wf := Finite.wellFounded_of_trans_of_irrefl
    fun a b : Reached => Relation.TransGen IsFirst b.1 a.1
  suffices h : ∀ a : Reached, ∃ n, FirstItems a.1 n from h ⟨y, hy⟩
  intro a
  induction a using wf.induction with
  | _ a ih =>
    by_cases hl : ∃ first rest, Sampled.layer a.1 = .list (first :: rest)
    · obtain ⟨first, rest, hl⟩ := hl
      obtain ⟨n, hn⟩ := ih ⟨first, a.2.tail (isPart_first hl)⟩ (.single ⟨rest, hl⟩)
      exact ⟨n + 1, .step hl hn⟩
    · exact ⟨0, .stop fun first rest h => hl ⟨first, rest, h⟩⟩

/-- Where every first item is of a lower rank than its list, no list leads back to itself. -/
theorem no_cycle_of_rank {x : α} (rank : α → Nat)
    (h : ∀ y z, Reaches x y → IsFirst y z → rank z < rank y) {y : α} (hy : Reaches x y) :
    ¬ Relation.TransGen IsFirst y y := by
  have lower : ∀ z, Relation.TransGen IsFirst y z → Reaches x z ∧ rank z < rank y := by
    intro z hz
    induction hz with
    | single hz =>
      obtain ⟨rest, hl⟩ := hz
      exact ⟨hy.tail (isPart_first hl), h _ _ hy ⟨rest, hl⟩⟩
    | tail _ hz ih =>
      obtain ⟨rest, hl⟩ := hz
      have := h _ _ ih.1 ⟨rest, hl⟩
      exact ⟨ih.1.tail (isPart_first hl), by omega⟩
  intro hc
  exact Nat.lt_irrefl _ (lower y hc).2

end

section Values

theorem height_item {items : List Value} {v : Value} (h : v ∈ items) :
    v.height ≤ Value.itemsHeight items := by
  induction items with
  | nil => cases h
  | cons u rest ih =>
    simp only [Value.itemsHeight]
    rcases List.mem_cons.mp h with rfl | h
    · exact Nat.le_max_left _ _
    · exact (ih h).trans (Nat.le_max_right _ _)

theorem height_entry {entries : List (Scalar × Value)} {v : Value} (h : v ∈ entries.map Prod.snd) :
    v.height ≤ Value.entriesHeight entries := by
  induction entries with
  | nil => cases h
  | cons e rest ih =>
    obtain ⟨key, u⟩ := e
    simp only [Value.entriesHeight]
    rcases List.mem_cons.mp h with rfl | h
    · exact Nat.le_max_left _ _
    · exact (ih h).trans (Nat.le_max_right _ _)

theorem height_part {x y : Value} (h : IsPart x y) : y.height < x.height := by
  cases x with
  | list items => exact Nat.lt_succ_of_le (height_item h)
  | map entries => exact Nat.lt_succ_of_le (height_entry h)
  | pair a b =>
    simp only [Value.height]
    rcases List.mem_cons.mp h with rfl | h
    · omega
    · obtain rfl := List.mem_singleton.mp h
      omega
  | scalar s => cases h
  | set members => cases h
  | again isMap => cases h

theorem value_nestsWithin (v : Value) : NestsWithin v.height v := by
  suffices h : ∀ n, ∀ v : Value, v.height ≤ n → NestsWithin n v from h _ v (Nat.le_refl _)
  intro n
  induction n with
  | zero =>
    intro v hv
    refine List.eq_nil_iff_forall_not_mem.mpr fun y hy => ?_
    have := height_part hy
    omega
  | succ n ih =>
    intro v hv y hy
    apply ih
    have := height_part hy
    omega

end Values

namespace Place

variable {p q : Place}

/-- A place with a part is a pair or a node of the graph, and only such a node has a pair as a part. -/
theorem part_cases (h : IsPart p q) :
    q.graph = p.graph ∧
      ((∃ a b, p.item = .pair a b ∧ ∃ id, q.item = .node id) ∨
        ∃ id < p.graph.size, p = ofNode p.graph id) := by
  obtain ⟨graph, item⟩ := p
  cases item with
  | pair a b =>
    rcases List.mem_cons.mp h with rfl | h
    · exact ⟨rfl, Or.inl ⟨a, b, rfl, a, rfl⟩⟩
    · obtain rfl := List.mem_singleton.mp h
      exact ⟨rfl, Or.inl ⟨a, b, rfl, b, rfl⟩⟩
  | node id =>
    have hl : Sampled.layer (⟨graph, .node id⟩ : Place) = layer ⟨graph, .node id⟩ := rfl
    rw [IsPart, parts, hl] at h
    have hid : id < graph.size := by
      by_contra hid
      simp [layer, node_outside hid, Layer.parts] at h
    refine ⟨?_, Or.inr ⟨id, hid, rfl⟩⟩
    cases hn : node graph id with
    | scalar s => simp [layer, hn, Layer.parts] at h
    | set members => simp [layer, hn, Layer.parts] at h
    | list items =>
      simp only [layer, hn, Layer.parts, List.mem_map] at h
      obtain ⟨i, -, rfl⟩ := h
      rfl
    | map entries =>
      simp only [layer, hn, Layer.parts, List.map_map, List.mem_map] at h
      obtain ⟨e, -, rfl⟩ := h
      rfl

theorem parts_graph (h : IsPart p q) : q.graph = p.graph := (part_cases h).1

theorem reached_graph (h : Reaches p q) : q.graph = p.graph := by
  induction h with
  | refl => rfl
  | tail _ hs ih => exact (parts_graph hs).trans ih

def nearby (p : Place) : List Place := parts p ++ (parts p).flatMap parts

/-- Between two nodes there is at most a pair, so whatever is reached is near the start or a node. -/
theorem reached_nearby (h : Reaches p q) :
    q = p ∨ q ∈ nearby p ∨ ∃ id < p.graph.size, q ∈ nearby (ofNode p.graph id) := by
  rcases Relation.ReflTransGen.cases_tail h with rfl | ⟨r, hr, hs⟩
  · exact Or.inl rfl
  · have hg := reached_graph hr
    rcases (part_cases hs).2 with ⟨a, b, hp, -⟩ | ⟨id, hid, hn⟩
    · rcases Relation.ReflTransGen.cases_tail hr with rfl | ⟨o, ho, ht⟩
      · exact Or.inr (Or.inl (List.mem_append_left _ hs))
      · rcases (part_cases ht).2 with ⟨_, _, -, id, hi⟩ | ⟨id, hid, hn⟩
        · rw [hp] at hi
          cases hi
        · rw [reached_graph ho] at hid hn
          rw [hn] at ht
          exact Or.inr (Or.inr ⟨id, hid, List.mem_append_right _ (List.mem_flatMap.mpr ⟨r, ht, hs⟩)⟩)
    · rw [hg] at hid hn
      rw [hn] at hs
      exact Or.inr (Or.inr ⟨id, hid, List.mem_append_left _ hs⟩)

theorem reached_finite (p : Place) : {q | Reaches p q}.Finite := by
  let cover := p :: (nearby p ++
    (List.range p.graph.size).flatMap fun id => nearby (ofNode p.graph id))
  refine (List.finite_toSet cover).subset fun q hq => ?_
  rcases reached_nearby hq with rfl | hq | ⟨id, hid, hq⟩
  · exact List.mem_cons_self
  · exact List.mem_cons_of_mem _ (List.mem_append_left _ hq)
  · apply List.mem_cons_of_mem
    apply List.mem_append_right
    exact List.mem_flatMap.mpr ⟨id, List.mem_range.mpr hid, hq⟩

end Place

end SampleTypes
