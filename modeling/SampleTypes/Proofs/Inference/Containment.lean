import SampleTypes.Proofs.Inference.Exploration

/-!
Circular samples. Between two new records a call follows a chain of first items, and every new record
binds a signature that was unbound. In a finite graph both come to an end, so a call on a circular
sample ends unless it comes to a list that leads back to itself by first items alone.
-/

namespace SampleTypes.Inference

section

variable {α τ : Type} [Sampled α]

/-- Every chain of first items in the sample comes to an end. -/
def ChainsEnd (x : α) : Prop := ∀ y, Reaches x y → ∃ n, FirstItems y n

theorem ChainsEnd.part {x y : α} (h : ChainsEnd x) (hy : IsPart x y) : ChainsEnd y :=
  fun z hz => h z (.head hy hz)

/-- From this bound on a call always ends in the same way, and not by its bound if the chains end. -/
structure Contained (refs : Matcher τ) (x : α) (hint : String) (depth : Int) (ctx : Context)
    (n : Nat) : Prop where
  settles : Settles refs x hint depth ctx n
  answered : ChainsEnd x → (courseWithin refs n x hint depth ctx).answer ≠ .error .endless

variable {refs : Matcher τ} {x : α} {hint : String} {depth : Int} {ctx : Context}

theorem Contained.of_answered {n : Nat}
    (h : (courseWithin refs n x hint depth ctx).answer ≠ .error .endless) :
    Contained refs x hint depth ctx n :=
  ⟨.of_answered h, fun _ => h⟩

theorem Contained.mono {m n : Nat} (h : Contained refs x hint depth ctx m) (hn : m ≤ n) :
    Contained refs x hint depth ctx n := by
  constructor
  · exact h.settles.mono hn
  · intro hx
    rw [(h.settles n hn).answer]
    exact h.answered hx

theorem endless_chain (refs : Matcher τ) (h : ¬ ∃ n, FirstItems x n) (hint : String) (depth : Int)
    (hc : ctx.maxDepth = none) (fuel : Nat) :
    (courseWithin refs fuel x hint depth ctx).answer = .error .endless ∧
      (courseWithin refs fuel x hint depth ctx).context = ctx := by
  induction fuel generalizing x hint depth with
  | zero => exact ⟨rfl, rfl⟩
  | succ fuel ih =>
    have hl : ∃ first rest, Sampled.layer x = .list (first :: rest) := by
      by_contra hl
      exact h ⟨0, .stop fun first rest he => hl ⟨first, rest, he⟩⟩
    obtain ⟨first, rest, hl⟩ := hl
    have hf : ¬ ∃ n, FirstItems first n := by
      rintro ⟨n, hn⟩
      exact h ⟨n + 1, .step hl hn⟩
    have hi := ih hf (itemHint hint) (depth + 1)
    rw [course_list fuel hint (unlimited_isTooDeep hc depth) hl]
    constructor
    · simp only [called, hi.1, Except.map]
    · exact hi.2

theorem Contained.of_endless (h : ¬ ∃ n, FirstItems x n) (hc : ctx.maxDepth = none) (n : Nat) :
    Contained refs x hint depth ctx n := by
  constructor
  · intro fuel _
    have hf := endless_chain refs h hint depth hc fuel
    have hn := endless_chain refs h hint depth hc n
    exact ⟨hf.1.trans hn.1.symm, hf.2.trans hn.2.symm⟩
  · intro hx
    exact absurd (hx x .refl) h

theorem Contained.list {n : Nat} {first : α} {rest : List α} (hd : ctx.isTooDeep depth = false)
    (hl : Sampled.layer x = .list (first :: rest))
    (h : Contained refs first (itemHint hint) (depth + 1) ctx n) :
    Contained refs x hint depth ctx (n + 1) := by
  constructor
  · intro fuel hn
    obtain ⟨k, rfl⟩ : ∃ k, fuel = k + 1 := ⟨fuel - 1, by omega⟩
    have hk := h.settles k (by omega)
    rw [course_list k hint hd hl, course_list n hint hd hl]
    constructor
    · exact congrArg (Except.map (· ++ arrayMark)) hk.answer
    · exact hk.context
  · intro hx
    exact list_avoids hd hl (h.answered (hx.part (isPart_first hl)))

theorem fields_settle (Kept : Context → Prop) (hk : ∀ old new, Grows old new → Kept old → Kept new)
    {n : Nat} {entries : List (Scalar × α)}
    (calls : ∀ e ∈ entries, ∀ hint ctx, Kept ctx → Settles refs e.2 hint depth ctx n)
    (h : Kept ctx) {fuel : Nat} (hn : n ≤ fuel) :
    SameEnd (fieldsWithin refs fuel depth entries ctx) (fieldsWithin refs n depth entries ctx) := by
  induction entries generalizing ctx with
  | nil => exact ⟨rfl, rfl⟩
  | cons entry rest ih =>
    have hc := calls entry List.mem_cons_self (fieldHint entry.1) ctx h fuel hn
    have hg := course_grows refs n entry.2 (fieldHint entry.1) depth ctx
    rw [fields_cons, fields_cons, hc.answer, hc.context]
    generalize courseWithin refs n entry.2 (fieldHint entry.1) depth ctx = c at hg
    have hr := ih (fun e he => calls e (List.mem_cons_of_mem _ he)) (hk _ _ hg h)
    cases c.answer with
    | error e => exact ⟨rfl, rfl⟩
    | ok typeRef =>
      constructor
      · exact congrArg (Except.map (fieldOf entry typeRef :: ·)) hr.answer
      · exact hr.context

theorem Contained.record (Kept : Context → Prop) (hk : ∀ old new, Grows old new → Kept old → Kept new)
    {n : Nat} {entries : List (Scalar × α)} (hd : ctx.isTooDeep depth = false)
    (hu : Unpinned refs x entries) (hs : valueOf? (fingerprint entries) ctx.seen = none)
    (calls : ∀ e ∈ entries, ∀ hint ctx, Kept ctx → Contained refs e.2 hint (depth + 1) ctx n)
    (h : Kept (ctx.bind (fingerprint entries) hint).2) :
    Contained refs x hint depth ctx (n + 1) := by
  constructor
  · intro fuel hn
    obtain ⟨k, rfl⟩ : ∃ k, fuel = k + 1 := ⟨fuel - 1, by omega⟩
    have hf := fields_settle Kept hk (fun e he hint' ctx' hc => (calls e he hint' ctx' hc).settles) h
      (show n ≤ k by omega)
    rw [course_new k hint hd hu hs, course_new n hint hd hu hs, hf.answer, hf.context]
    generalize fieldsWithin refs n (depth + 1) entries _ = c
    cases c.answer with
    | error e => exact ⟨rfl, rfl⟩
    | ok fields => exact ⟨rfl, rfl⟩
  · intro hx
    apply new_avoids hd hu hs
    apply fields_avoid Kept hk _ h
    intro e he hint' ctx' hc
    exact (calls e he hint' ctx' hc).answered (hx.part (isPart_entry hu.layer he))

/-- A chain of first items adds its length to the bound of the sample where it stops. -/
theorem Contained.chain {k n : Nat} (hx : FirstItems x k) (hc : ctx.maxDepth = none)
    (stops : ∀ y hint depth, Reaches x y → FirstItems y 0 → Contained refs y hint depth ctx n) :
    Contained refs x hint depth ctx (n + k) := by
  induction hx generalizing hint depth with
  | stop h => exact stops _ hint depth .refl (.stop h)
  | step hl _ ih =>
    apply Contained.list (unlimited_isTooDeep hc _) hl
    apply ih
    intro y hint' depth' hy hs
    exact stops y hint' depth' (.head (isPart_first hl) hy) hs

end

section Budget

variable {graph : Graph} {ctx : Context}

def nodeSignature? (graph : Graph) (id : Nat) : Option String :=
  match Sampled.layer (Place.ofNode graph id) with
  | .record entries => some (fingerprint entries)
  | _ => none

def nodeSignatures (graph : Graph) : Finset String :=
  ((List.range graph.size).filterMap (nodeSignature? graph)).toFinset

def unbound (graph : Graph) (ctx : Context) : Finset String :=
  (nodeSignatures graph).filter fun signature => signature ∉ ctx.signatures

theorem unbound_le_size (graph : Graph) (ctx : Context) : (unbound graph ctx).card ≤ graph.size :=
  calc (unbound graph ctx).card ≤ (nodeSignatures graph).card := Finset.card_filter_le _ _
    _ ≤ ((List.range graph.size).filterMap (nodeSignature? graph)).length :=
      List.toFinset_card_le _
    _ ≤ (List.range graph.size).length := List.length_filterMap_le _ _
    _ = graph.size := List.length_range

theorem unbound_grows {old new : Context} (h : Grows old new) :
    (unbound graph new).card ≤ (unbound graph old).card := by
  apply Finset.card_le_card
  intro signature hs
  rw [unbound, Finset.mem_filter] at hs ⊢
  exact ⟨hs.1, fun ho => hs.2 ((h.seen.map Prod.fst).subset ho)⟩

theorem record_node {p : Place} {entries : List (Scalar × Place)}
    (hl : Sampled.layer p = .record entries) :
    ∃ id < p.graph.size, p = Place.ofNode p.graph id := by
  obtain ⟨graph, item⟩ := p
  cases item with
  | pair a b => cases hl
  | node id =>
    refine ⟨id, ?_, rfl⟩
    by_contra hid
    simp [Sampled.layer, Place.layer, Place.node_outside hid] at hl

theorem record_signature {p : Place} {entries : List (Scalar × Place)}
    (hl : Sampled.layer p = .record entries) : fingerprint entries ∈ nodeSignatures p.graph := by
  obtain ⟨id, hid, hp⟩ := record_node hl
  rw [nodeSignatures, List.mem_toFinset, List.mem_filterMap]
  refine ⟨id, List.mem_range.mpr hid, ?_⟩
  rw [nodeSignature?, ← hp, hl]

/-- Binding the name of a record uses up one of the signatures. -/
theorem unbound_bind {p : Place} {entries : List (Scalar × Place)}
    (hl : Sampled.layer p = .record entries) (hs : valueOf? (fingerprint entries) ctx.seen = none)
    (hint : String) :
    (unbound p.graph (ctx.bind (fingerprint entries) hint).2).card < (unbound p.graph ctx).card := by
  apply Finset.card_lt_card
  rw [Finset.ssubset_iff_of_subset]
  · refine ⟨fingerprint entries, ?_, ?_⟩
    · rw [unbound, Finset.mem_filter]
      exact ⟨record_signature hl, valueOf_eq_none.mp hs⟩
    · rw [unbound, Finset.mem_filter, bind_signatures]
      exact fun h => h.2 (List.mem_append_right _ (List.mem_singleton_self _))
  · intro signature hm
    rw [unbound, Finset.mem_filter, bind_signatures, List.mem_append, not_or] at hm
    rw [unbound, Finset.mem_filter]
    exact ⟨hm.1, hm.2.1⟩

end Budget

variable {τ : Type}

/-- By induction on the number of signatures that are still unbound: each allows one chain more. -/
theorem place_contained (refs : Matcher τ) (unboundSignatures : Nat) (p : Place) (hint : String)
    (depth : Int) {ctx : Context} (hc : ctx.maxDepth = none)
    (hu : (unbound p.graph ctx).card ≤ unboundSignatures) :
    Contained refs p hint depth ctx ((unboundSignatures + 1) * (2 * p.graph.size + 2)) := by
  induction unboundSignatures using Nat.strong_induction_on generalizing p hint depth ctx with
  | _ u ih =>
    by_cases hk : ∃ k, FirstItems p k
    · obtain ⟨k, hk⟩ := hk
      have hle := Place.chain_le hk
      have stops : ∀ y hint depth, Reaches p y → FirstItems y 0 →
          Contained refs y hint depth ctx (u * (2 * p.graph.size + 2) + 1) := by
        intro y hint depth hy hs
        have hg := Place.reached_graph hy
        cases callWay refs y depth ctx with
        | atOnce answer ha hf =>
          apply Contained.of_answered
          rw [ha]
          exact fun he => by cases hf hint _ he
        | list hd hl =>
          cases hs with
          | stop hs => exact absurd hl (hs _ _)
        | @new entries hd hu' hs' =>
          have hb := unbound_bind hu'.layer hs' hint
          rw [hg] at hb
          obtain ⟨v, rfl⟩ : ∃ v, u = v + 1 := ⟨u - 1, by omega⟩
          apply Contained.record
            (fun c => c.maxDepth = none ∧ (unbound p.graph c).card ≤ v) _ hd hu' hs'
          · intro e he hint' ctx' hkept
            have hge := (Place.parts_graph (isPart_entry hu'.layer he)).trans hg
            have h := ih v (Nat.lt_succ_self v) e.2 hint' (depth + 1) hkept.1 (by
              rw [hge]
              exact hkept.2)
            rwa [hge] at h
          · exact ⟨hc, by omega⟩
          · intro old new hgrow hkept
            exact ⟨hgrow.limit.trans hkept.1, (unbound_grows hgrow).trans hkept.2⟩
      apply (Contained.chain hk hc stops).mono
      rw [Nat.add_mul]
      omega
    · exact .of_endless hk hc _

instance : AmpleSample Place where
  bound_pos _ := Nat.mul_pos (Nat.succ_pos _) (Nat.succ_pos _)
  settles refs p hint depth ctx hc :=
    (place_contained refs p.graph.size p hint depth hc (unbound_le_size p.graph ctx)).settles

theorem signatures_finite (p : Place) : (signaturesOf p).Finite := by
  apply (nodeSignatures p.graph).finite_toSet.subset
  rintro signature ⟨y, entries, hy, hl, rfl⟩
  rw [← Place.reached_graph hy]
  exact record_signature hl

/-- A call on a finite graph without a cycle of first items ends. It explores the records whose names it
binds, no signature twice, and registers no more types than there are signatures of maps. -/
theorem circular_contained (refs : Matcher τ) (p : Place) (hint : String) (depth : Int)
    {ctx : Context} (hc : ctx.maxDepth = none)
    (hp : ∀ q, Reaches p q → ¬ Relation.TransGen IsFirst q q) :
    (infer refs p hint depth ctx).result ≠ .error .endless ∧
      (∀ fuel, Sampled.bound p ≤ fuel →
        courseWithin refs fuel p hint depth ctx = course refs p hint depth ctx) ∧
      (infer refs p hint depth ctx).context.signatures =
        ctx.signatures ++ (explored refs p hint depth ctx).map fingerprint ∧
      ((explored refs p hint depth ctx).map fingerprint).Nodup ∧
      (signaturesOf p).Finite ∧
      (infer refs p hint depth ctx).context.catalog.length ≤
        ctx.catalog.length + (signaturesOf p).ncard := by
  have ends : ChainsEnd p := fun q hq => chains_end (Place.reached_finite p) hp hq
  have contained := place_contained refs p.graph.size p hint depth hc (unbound_le_size p.graph ctx)
  have same : ∀ fuel, Sampled.bound p ≤ fuel →
      courseWithin refs fuel p hint depth ctx =
        courseWithin refs (Sampled.bound p) p hint depth ctx := by
    intro fuel hf
    exact (course_longer refs hf p hint depth ctx).same (contained.answered ends)
  have whole : Sampled.bound p ≤ callBound p depth ctx := by
    simp only [callBound]
    omega
  have trace := call_explored refs (callBound p depth ctx) p hint depth ctx
  refine ⟨?_, ?_, trace.signatures, trace.distinct, signatures_finite p, ?_⟩
  · show (courseWithin refs (callBound p depth ctx) p hint depth ctx).answer ≠ .error .endless
    rw [same _ whole]
    exact contained.answered ends
  · intro fuel hf
    exact (same fuel hf).trans (same _ whole).symm
  · have := trace.length_le (signatures_finite p)
    have := trace.registered
    show (courseWithin refs (callBound p depth ctx) p hint depth ctx).context.catalog.length ≤ _
    omega

def selfHolding : Graph := #[.map [(.text "self", 0), (.text "items", 1)], .list [.node 0]]

theorem selfHolding_acyclic {q : Place} (h : Reaches (Place.ofNode selfHolding 0) q) :
    ¬ Relation.TransGen IsFirst q q := by
  apply no_cycle_of_rank
    (fun q => match q.item with | .pair _ _ => 2 | .node 1 => 1 | .node _ => 0) _ h
  intro y z hy hz
  obtain ⟨graph, item⟩ := y
  obtain rfl : graph = selfHolding := Place.reached_graph hy
  obtain ⟨rest, hl⟩ := hz
  cases item with
  | pair a b =>
    obtain ⟨rfl, -⟩ := List.cons.inj (Layer.list.inj hl)
    simp only [Place.ofNode]
    split <;> simp_all
  | node id =>
    match id with
    | 0 => cases hl
    | 1 =>
      obtain ⟨rfl, -⟩ := List.cons.inj (Layer.list.inj hl)
      exact Nat.zero_lt_one
    | id + 2 => cases hl

theorem selfHolding_contained :
    (∀ q, Reaches (Place.ofNode selfHolding 0) q → ¬ Relation.TransGen IsFirst q q) ∧
      (infer ([] : Matcher String) (Place.ofNode selfHolding 0) "Node" 0 {}).result ≠
        .error .endless := by
  have acyclic : ∀ q, Reaches (Place.ofNode selfHolding 0) q → ¬ Relation.TransGen IsFirst q q :=
    fun q hq => selfHolding_acyclic hq
  exact ⟨acyclic, (circular_contained [] (Place.ofNode selfHolding 0) "Node" 0 rfl acyclic).1⟩

end SampleTypes.Inference
