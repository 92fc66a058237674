import SampleTypes.Yaml.Document

/-!
What putting nodes together leaves alone. Whatever the tokens are, nodes are only added, and a fault
after the tokens stays and is met in the end.
-/

namespace SampleTypes.Yaml

section

variable {σ ε α β : Type} {s t u : σ}

def Gives (m : StateT σ (Except ε) α) (s : σ) (x : α) (t : σ) : Prop := m.run s = .ok (x, t)

theorem Gives.bind {m : StateT σ (Except ε) α} {f : α → StateT σ (Except ε) β} {y : β}
    (h : Gives (m >>= f) s y u) : ∃ x t, Gives m s x t ∧ Gives (f x) t y u := by
  simp only [Gives, StateT.run_bind] at h
  cases hm : m.run s with
  | error e =>
    rw [hm] at h
    cases h
  | ok r =>
    rw [hm] at h
    exact ⟨r.1, r.2, hm, h⟩

/-- Where the first part is known, the rest goes on from there. -/
theorem gives_bind {m : StateT σ (Except ε) α} {f : α → StateT σ (Except ε) β} {x : α} {y : β}
    (hm : Gives m s x t) : Gives (m >>= f) s y u ↔ Gives (f x) t y u := by
  simp only [Gives, StateT.run_bind] at hm ⊢
  rw [hm]
  rfl

theorem Gives.pure {x y : α} (h : Gives (pure x : StateT σ (Except ε) α) s y t) : y = x ∧ t = s := by
  cases h
  exact ⟨rfl, rfl⟩

theorem Gives.map {m : StateT σ (Except ε) α} {f : α → β} {y : β} (h : Gives (f <$> m) s y t) :
    ∃ x, Gives m s x t ∧ y = f x := by
  simp only [Gives, StateT.run_map] at h
  cases hm : m.run s with
  | error e =>
    rw [hm] at h
    cases h
  | ok r =>
    rw [hm] at h
    cases h
    exact ⟨r.1, hm, rfl⟩

theorem gives_get : Gives (get : StateT σ (Except ε) σ) s s s := rfl

theorem Gives.lift {e : Except ε α} {x : α} (h : Gives (liftM e : StateT σ (Except ε) α) s x t) :
    e = .ok x ∧ t = s := by
  cases e with
  | error f => cases h
  | ok y =>
    cases h
    exact ⟨rfl, rfl⟩

theorem not_gives_throw {x : α} {e : ε} : ¬ Gives (throw e : StateT σ (Except ε) α) s x t := nofun

def Preserves (p : σ → Prop) (m : StateT σ (Except ε) α) : Prop := ∀ s x t, Gives m s x t → p s → p t

variable {p : σ → Prop} {m n : StateT σ (Except ε) α} {f : α → StateT σ (Except ε) β}

theorem preserves_pure (x : α) : Preserves p (pure x : StateT σ (Except ε) α) := by
  intro s y t h hs
  cases h
  exact hs

theorem preserves_throw (e : ε) : Preserves p (throw e : StateT σ (Except ε) α) :=
  fun _ _ _ h => (not_gives_throw h).elim

theorem preserves_get : Preserves p (get : StateT σ (Except ε) σ) := by
  intro s y t h hs
  cases h
  exact hs

theorem preserves_lift (e : Except ε α) : Preserves p (liftM e : StateT σ (Except ε) α) := by
  intro s x t h hs
  rw [h.lift.2]
  exact hs

theorem preserves_modify {g : σ → σ} (hg : ∀ s, p s → p (g s)) :
    Preserves p (modify g : StateT σ (Except ε) Unit) := by
  intro s y t h hs
  cases h
  exact hg s hs

theorem Preserves.bind (hm : Preserves p m) (hf : ∀ x, Preserves p (f x)) : Preserves p (m >>= f) := by
  intro s y u h hs
  obtain ⟨x, t, hx, hy⟩ := h.bind
  exact hf x t y u hy (hm s x t hx hs)

theorem Preserves.map (hm : Preserves p m) (g : α → β) : Preserves p (g <$> m) := by
  intro s y t h hs
  obtain ⟨x, hx, -⟩ := h.map
  exact hm s x t hx hs

theorem Preserves.ite {c : Prop} [Decidable c] (hm : Preserves p m) (hn : Preserves p n) :
    Preserves p (if c then m else n) := by
  split
  · exact hm
  · exact hn

end

structure Assembly.Grown (a b : Assembly) : Prop where
  fault : b.fault = a.fault
  size : a.nodes.size ≤ b.nodes.size
  kept : ∀ id < a.nodes.size, b.nodes[id]? = a.nodes[id]?

namespace Assembly

variable {a b : Assembly}

theorem Grown.refl (a : Assembly) : a.Grown a := ⟨rfl, Nat.le_refl _, fun _ _ => rfl⟩

theorem Grown.get (h : a.Grown b) {id : Nat} {n : Node} (hn : a.nodes[id]? = some n) :
    b.nodes[id]? = some n :=
  (h.kept id (Array.getElem?_eq_some_iff.mp hn).1).trans hn

theorem Grown.push (h : a.Grown b) (n : Node) : a.Grown { b with nodes := b.nodes.push n } where
  fault := h.fault
  size := Nat.le_trans h.size (by simp)
  kept id hid := by
    have hne : id ≠ b.nodes.size := Nat.ne_of_lt (Nat.lt_of_lt_of_le hid h.size)
    simp only [Array.getElem?_push, hne, if_false, h.kept id hid]

theorem Grown.set (h : a.Grown b) {id : Nat} (hid : a.nodes.size ≤ id) (n : Node) :
    a.Grown { b with nodes := b.nodes.setIfInBounds id n } where
  fault := h.fault
  size := Nat.le_trans h.size (by simp)
  kept k hk := by
    rw [Array.getElem?_setIfInBounds_ne (Nat.ne_of_gt (Nat.lt_of_lt_of_le hk hid))]
    exact h.kept k hk

end Assembly

namespace Assemble

variable {α : Type} {a b c : Assembly}

/-- The end of the tokens is found only where no fault is waiting. -/
theorem next_gives {x : Option Token} (h : Gives next a x b) :
    x = a.tokens.head? ∧ b = a ∧ (x = none → a.fault = none) := by
  rw [next, gives_bind gives_get, gives_bind gives_get] at h
  cases ht : a.tokens with
  | cons t ts =>
    rw [ht] at h
    obtain ⟨rfl, rfl⟩ := h.pure
    exact ⟨rfl, rfl, nofun⟩
  | nil =>
    cases hf : a.fault with
    | none =>
      rw [ht, hf] at h
      obtain ⟨rfl, rfl⟩ := h.pure
      exact ⟨rfl, rfl, fun _ => rfl⟩
    | some fault =>
      rw [ht, hf] at h
      exact (not_gives_throw h).elim

/-- What a container comes to: it is filled after its place has been taken. -/
theorem container_gives {p : Properties} {make : List α → Node} {fill : Assemble (List α)} {id : Nat}
    (h : Gives (container p make fill) a id c) :
    id = a.nodes.size ∧ ∃ s xs b, Gives (name p.anchor id) { a with nodes := a.nodes.push (make []) } () s ∧
      Gives fill s xs b ∧ c = { b with nodes := b.nodes.setIfInBounds id (make xs) } := by
  obtain ⟨_, _, hadd, h⟩ := h.bind
  cases hadd
  obtain ⟨_, s, hname, h⟩ := h.bind
  obtain ⟨xs, b, hfill, h⟩ := h.bind
  obtain ⟨_, _, hset, h⟩ := h.bind
  cases hset
  obtain ⟨rfl, rfl⟩ := h.pure
  exact ⟨rfl, s, xs, b, hname, hfill, rfl⟩

/-! Every part of the work only adds nodes. -/

theorem grows_next : Preserves a.Grown next := by
  intro s x t h hs
  rw [(next_gives h).2.1]
  exact hs

theorem grows_take : Preserves a.Grown take :=
  preserves_modify fun _ hs => ⟨hs.fault, hs.size, hs.kept⟩

theorem grows_refuse (what : String) : Preserves a.Grown (refuse what : Assemble α) :=
  preserves_throw _

theorem grows_add (n : Node) : Preserves a.Grown (add n) := by
  intro s x t h hs
  cases h
  exact hs.push n

theorem grows_name (anchor : Option String) (id : Nat) : Preserves a.Grown (name anchor id) := by
  cases anchor with
  | none => exact preserves_pure ()
  | some a => exact preserves_modify fun _ hs => ⟨hs.fault, hs.size, hs.kept⟩

theorem grows_container (p : Properties) (make : List α → Node) {fill : Assemble (List α)}
    (hf : Preserves a.Grown fill) : Preserves a.Grown (container p make fill) := by
  intro b id c h hb
  obtain ⟨rfl, s, xs, t, hname, hfill, rfl⟩ := container_gives h
  exact (hf _ _ _ hfill (grows_name _ _ _ _ _ hname (hb.push _))).set hb.size _

theorem grows_takeAnchor : Preserves a.Grown takeAnchor :=
  grows_next.bind fun t => by
    split
    · exact grows_take.bind fun _ => preserves_pure _
    · exact preserves_pure _

theorem grows_takeTag : Preserves a.Grown takeTag :=
  grows_next.bind fun t => by
    split
    · exact grows_take.bind fun _ => preserves_pure _
    · exact preserves_pure _

theorem grows_tagName (t : TagText) : Preserves a.Grown (tagName t) := by
  unfold tagName
  split
  · exact preserves_pure _
  · refine preserves_get.bind fun _ => ?_
    split
    · exact preserves_pure _
    · exact grows_refuse _

theorem grows_tagNames (t : Option TagText) : Preserves a.Grown (t.mapM tagName) := by
  cases t with
  | none => exact preserves_pure none
  | some t => exact (grows_tagName t).bind fun _ => preserves_pure _

theorem grows_takeProperties : Preserves a.Grown takeProperties := by
  refine grows_takeAnchor.bind fun _ => grows_takeTag.bind fun tag => ?_
  have hrest : ∀ anchor : Option String,
      Preserves a.Grown (do return (⟨anchor, ← tag.mapM tagName⟩ : Properties)) :=
    fun _ => (grows_tagNames tag).bind fun _ => preserves_pure _
  exact .ite (grows_takeAnchor.bind hrest) ((preserves_pure _).bind hrest)

theorem grows_checkAnchor (p : Properties) : Preserves a.Grown (checkAnchor p) := by
  unfold checkAnchor
  split
  · exact preserves_get.bind fun _ => .ite (grows_refuse _) (preserves_pure _)
  · exact preserves_pure _

theorem grows_scalarNode (p : Properties) (text : String) (plain : Bool) :
    Preserves a.Grown (scalarNode p text plain) := by
  have htag : Preserves a.Grown (scalarTag p text plain) :=
    .ite (preserves_get.bind fun _ => preserves_pure _) (preserves_pure _)
  exact htag.bind fun _ => (grows_add _).bind fun _ => (grows_name _ _).bind fun _ => preserves_pure _

theorem grows_named (anchor : String) : Preserves a.Grown (named anchor) := by
  refine preserves_get.bind fun _ => ?_
  split
  · exact preserves_pure _
  · exact grows_refuse _

theorem grows_nextIsIn (tokens : List Token) : Preserves a.Grown (nextIsIn tokens) :=
  grows_next.bind fun _ => preserves_pure _

structure NodesGrow (a : Assembly) (fuel : Nat) : Prop where
  node : ∀ block indentless, Preserves a.Grown (node block indentless fuel)
  nodeUnless : ∀ stops block indentless, Preserves a.Grown (nodeUnless stops block indentless fuel)
  blockItems : Preserves a.Grown (blockItems fuel)
  looseItems : Preserves a.Grown (looseItems fuel)
  blockEntries : Preserves a.Grown (blockEntries fuel)
  blockValue : Preserves a.Grown (blockValue fuel)
  flowValue : ∀ stop, Preserves a.Grown (flowValue stop fuel)
  flowItems : ∀ first, Preserves a.Grown (flowItems first fuel)
  flowEntries : ∀ first, Preserves a.Grown (flowEntries first fuel)

namespace NodesGrow

variable {fuel : Nat}

theorem zero (a : Assembly) : NodesGrow a 0 := by
  constructor
  all_goals intros; exact grows_refuse _

theorem succ_node (h : NodesGrow a fuel) (block indentless : Bool) :
    Preserves a.Grown (Assemble.node block indentless (fuel + 1)) := by
  rw [Assemble.node]
  refine grows_next.bind fun t => ?_
  split
  · exact grows_take.bind fun _ => grows_named _
  · refine grows_takeProperties.bind fun p => grows_next.bind fun content =>
      (grows_checkAnchor p).bind fun _ => ?_
    split
    · exact grows_take.bind fun _ => grows_scalarNode _ _ _
    · exact grows_take.bind fun _ => grows_container _ _ (h.flowItems true)
    · exact grows_take.bind fun _ => grows_container _ _ (h.flowEntries true)
    · exact .ite (grows_take.bind fun _ => grows_container _ _ h.blockItems) <|
        .ite (grows_take.bind fun _ => grows_container _ _ h.blockEntries) <|
        .ite (grows_container _ _ h.looseItems) <|
        .ite (grows_scalarNode _ _ _) (grows_refuse _)

theorem succ_nodeUnless (h : NodesGrow a fuel) (stops : List Token) (block indentless : Bool) :
    Preserves a.Grown (Assemble.nodeUnless stops block indentless (fuel + 1)) :=
  (grows_nextIsIn stops).bind fun _ => .ite (grows_add _) (h.node block indentless)

theorem more {β : Type} {x : Assemble β} {xs : Assemble (List β)} (hx : Preserves a.Grown x)
    (hxs : Preserves a.Grown xs) :
    Preserves a.Grown (do let y ← x; return y :: (← xs)) :=
  hx.bind fun _ => hxs.bind fun _ => preserves_pure _

theorem succ_blockItems (h : NodesGrow a fuel) :
    Preserves a.Grown (Assemble.blockItems (fuel + 1)) := by
  rw [Assemble.blockItems]
  refine grows_next.bind fun t => ?_
  split
  · exact grows_take.bind fun _ => more (h.nodeUnless _ _ _) h.blockItems
  · exact grows_take.bind fun _ => preserves_pure _
  · exact grows_refuse _

theorem succ_looseItems (h : NodesGrow a fuel) :
    Preserves a.Grown (Assemble.looseItems (fuel + 1)) := by
  rw [Assemble.looseItems]
  refine grows_next.bind fun t => ?_
  split
  · exact grows_take.bind fun _ => more (h.nodeUnless _ _ _) h.looseItems
  · exact preserves_pure _

theorem succ_blockEntries (h : NodesGrow a fuel) :
    Preserves a.Grown (Assemble.blockEntries (fuel + 1)) := by
  rw [Assemble.blockEntries]
  refine grows_next.bind fun t => ?_
  split
  · exact grows_take.bind fun _ => preserves_pure _
  · exact grows_take.bind fun _ => (h.nodeUnless _ _ _).bind fun _ => h.blockValue.bind fun _ =>
      h.blockEntries.bind fun _ => preserves_pure _
  · exact grows_refuse _

theorem succ_blockValue (h : NodesGrow a fuel) :
    Preserves a.Grown (Assemble.blockValue (fuel + 1)) := by
  rw [Assemble.blockValue]
  refine grows_next.bind fun t => ?_
  split
  · exact grows_take.bind fun _ => h.nodeUnless _ _ _
  · exact grows_add _

theorem succ_flowValue (h : NodesGrow a fuel) (stop : Token) :
    Preserves a.Grown (Assemble.flowValue stop (fuel + 1)) := by
  rw [Assemble.flowValue]
  refine grows_next.bind fun t => ?_
  split
  · exact grows_take.bind fun _ => h.nodeUnless _ _ _
  · exact grows_add _

theorem afterComma {β : Type} {first : Bool} {what : String} {go : Unit → Assemble β}
    (hg : Preserves a.Grown (go ())) :
    Preserves a.Grown (if (!first) = true then do
      if ← nextIsIn [.comma] then do let u ← take; go u else do let u ← refuse what; go u
      else go ()) :=
  .ite ((grows_nextIsIn _).bind fun _ => .ite (grows_take.bind fun _ => hg)
    ((grows_refuse what).bind fun _ => hg)) hg

theorem succ_flowItems (h : NodesGrow a fuel) (first : Bool) :
    Preserves a.Grown (Assemble.flowItems first (fuel + 1)) := by
  rw [Assemble.flowItems]
  refine (grows_nextIsIn _).bind fun _ => .ite (grows_take.bind fun _ => preserves_pure _) ?_
  refine afterComma (grows_next.bind fun t => ?_)
  split
  · exact grows_take.bind fun _ => preserves_pure _
  · refine more (grows_container _ _ ?_) (h.flowItems false)
    exact grows_take.bind fun _ => (h.nodeUnless _ _ _).bind fun _ => (h.flowValue _).bind fun _ =>
      preserves_pure _
  · exact more (h.node _ _) (h.flowItems false)

theorem succ_flowEntries (h : NodesGrow a fuel) (first : Bool) :
    Preserves a.Grown (Assemble.flowEntries first (fuel + 1)) := by
  rw [Assemble.flowEntries]
  refine (grows_nextIsIn _).bind fun _ => .ite (grows_take.bind fun _ => preserves_pure _) ?_
  refine afterComma (grows_next.bind fun t => ?_)
  split
  · exact grows_take.bind fun _ => preserves_pure _
  · exact grows_take.bind fun _ => (h.nodeUnless _ _ _).bind fun _ => (h.flowValue _).bind fun _ =>
      (h.flowEntries false).bind fun _ => preserves_pure _
  · exact (h.node _ _).bind fun _ => (grows_add _).bind fun _ =>
      (h.flowEntries false).bind fun _ => preserves_pure _

/-- Nodes are only added, by induction on the fuel that all parts share. -/
theorem all (a : Assembly) (fuel : Nat) : NodesGrow a fuel := by
  induction fuel with
  | zero => exact zero a
  | succ fuel ih =>
    exact ⟨ih.succ_node, ih.succ_nodeUnless, ih.succ_blockItems, ih.succ_looseItems,
      ih.succ_blockEntries, ih.succ_blockValue, ih.succ_flowValue, ih.succ_flowItems,
      ih.succ_flowEntries⟩

end NodesGrow

/-! Documents. -/

theorem grows_bound : Preserves a.Grown bound := preserves_get.bind fun _ => preserves_pure _

theorem grows_rootNode : Preserves a.Grown rootNode :=
  grows_bound.bind fun _ => (NodesGrow.all a _).node true false

theorem grows_skipDocumentEnds (fuel : Nat) : Preserves a.Grown (skipDocumentEnds fuel) := by
  induction fuel with
  | zero => exact preserves_pure ()
  | succ fuel ih =>
    exact (grows_nextIsIn _).bind fun _ => .ite (grows_take.bind fun _ => ih) (preserves_pure ())

theorem grows_declared (declared : Declared) (d : Directive) : Preserves a.Grown (declared.add d) := by
  cases d with
  | version major minor =>
    exact .ite ((grows_refuse _).bind fun _ => .ite ((grows_refuse _).bind fun _ => preserves_pure _)
      (preserves_pure _)) (.ite ((grows_refuse _).bind fun _ => preserves_pure _) (preserves_pure _))
  | handle name stem =>
    exact .ite ((grows_refuse _).bind fun _ => preserves_pure _) (preserves_pure _)
  | other name => exact preserves_pure _

theorem grows_takeDirectives (fuel : Nat) (declared : Declared) :
    Preserves a.Grown (takeDirectives fuel declared) := by
  induction fuel generalizing declared with
  | zero => exact preserves_pure ()
  | succ fuel ih =>
    rw [takeDirectives]
    refine grows_next.bind fun t => ?_
    split
    · exact grows_take.bind fun _ => (grows_declared _ _).bind fun _ => ih _
    · exact preserves_modify fun _ hs => ⟨hs.fault, hs.size, hs.kept⟩

theorem grows_markedDocument : Preserves a.Grown markedDocument := by
  refine grows_bound.bind fun _ => (grows_takeDirectives _ _).bind fun _ => grows_next.bind fun t => ?_
  split
  · refine grows_take.bind fun _ => grows_next.bind fun t => ?_
    split
    · exact grows_add _
    · exact grows_add _
    · exact grows_add _
    · exact grows_add _
    · exact grows_rootNode
  · exact grows_refuse _

end Assemble

end SampleTypes.Yaml
