import SampleTypes.Proofs.Yaml.Assembly
import SampleTypes.Yaml.Sample

/-!
The sample of a JSON text. Texts and sequences of the usual tags come to texts and lists, whatever
else is in the document, and a mapping with distinct texts for keys comes to a record.
-/

namespace SampleTypes.Yaml

def Node.Firm : Node → Prop
  | .scalar tag _ => tag = .text
  | .sequence tag _ => tag = .sequence
  | .mapping _ _ => False

def Node.ComesTo (n : Node) (g : GraphNode) : Prop :=
  match n with
  | .scalar _ text => g = .scalar (.text text)
  | _ => ∃ items, g = .list items

namespace Document

/-! Flattening. -/

def Keeps (nodes nodes' : Nodes) : Prop :=
  ∀ (id : Nat) (n : Node), nodes[id]? = some n → n.Firm → nodes'[id]? = some n

variable {nodes nodes' nodes'' : Nodes}

theorem Keeps.refl (nodes : Nodes) : Keeps nodes nodes := fun _ _ h _ => h

theorem Keeps.trans (h : Keeps nodes nodes') (k : Keeps nodes' nodes'') : Keeps nodes nodes'' :=
  fun id n hn hf => k id n (h id n hn hf) hf

theorem keeps_setEntries (nodes : Nodes) (id : Nat) (entries : List (Nat × Nat)) :
    Keeps nodes (setEntries nodes id entries) := by
  intro k n hn hf
  unfold setEntries
  split
  · rename_i tag old ho
    have hne : id ≠ k := by
      rintro rfl
      cases ho.symm.trans hn
      exact hf
    exact (Array.getElem?_setIfInBounds_ne hne).trans hn
  · exact hn

theorem keeps_withTag {id : Nat} (hd : tagOf nodes id = .default) :
    Keeps nodes (nodes.modify id (Node.withTag .text)) := by
  intro k n hn hf
  have hne : id ≠ k := by
    rintro rfl
    simp only [tagOf, hn] at hd
    cases n <;> simp_all [Node.tag, Node.Firm]
  rw [Array.getElem?_modify, if_neg hne, hn]

theorem keeps_plainKeys (nodes : Nodes) (entries : List (Nat × Nat)) :
    Keeps nodes (plainKeys nodes entries) := by
  induction entries generalizing nodes with
  | nil => exact .refl nodes
  | cons e rest ih =>
    rw [plainKeys, List.foldl_cons]
    split
    · rename_i hd
      exact (keeps_withTag hd).trans (ih _)
    · exact ih nodes

theorem keeps_foldlM {f : Nodes → Nat → Except Fault Nodes}
    (hf : ∀ {nodes nodes' t}, f nodes t = .ok nodes' → Keeps nodes nodes') {targets : List Nat}
    (h : targets.foldlM f nodes = .ok nodes') : Keeps nodes nodes' := by
  induction targets generalizing nodes with
  | nil =>
    cases h
    exact .refl _
  | cons t rest ih =>
    rw [List.foldlM_cons] at h
    cases ht : f nodes t with
    | error e =>
      rw [ht] at h
      cases h
    | ok next =>
      rw [ht] at h
      exact (hf ht).trans (ih h)

theorem keeps_flatten {fuel id : Nat} {merged : List (Nat × Nat)}
    (h : flatten fuel id merged nodes = .ok nodes') : Keeps nodes nodes' := by
  induction fuel generalizing id merged nodes nodes' with
  | zero =>
    cases h
    exact .refl nodes
  | succ fuel ih =>
    rw [flatten] at h
    split at h
    · cases h
      split
      · exact keeps_plainKeys _ _
      · exact (keeps_plainKeys _ _).trans (keeps_setEntries _ _ _)
    · rename_i i hi
      cases ht : mergeTargets nodes (((entriesOf nodes id)[i]?.map Prod.snd).getD 0) with
      | error e =>
        rw [ht] at h
        cases h
      | ok targets =>
        simp only [ht, bind, Except.bind] at h
        cases hm : targets.reverse.foldlM (fun nodes t => flatten fuel t [] nodes)
            (setEntries nodes id ((entriesOf nodes id).eraseIdx i)) with
        | error e =>
          rw [hm] at h
          cases h
        | ok middle =>
          rw [hm] at h
          exact ((keeps_setEntries _ _ _).trans (keeps_foldlM ih hm)).trans (ih h)

theorem flattened_self {id : Nat} {entries : List (Nat × Nat)}
    (hid : nodes[id]? = some (.mapping .mapping entries))
    (hk : ∀ e ∈ entries, tagOf nodes e.1 = .text) : flattened id nodes = .ok nodes := by
  have hentries : entriesOf nodes id = entries := by rw [entriesOf, hid]
  have hmerge : entries.findIdx? (fun e => tagOf nodes e.1 = .merge) = none := by
    refine List.findIdx?_eq_none_iff.mpr fun e he => ?_
    simp [hk e he]
  have hplain : plainKeys nodes entries = nodes := by
    clear hid hentries hmerge
    induction entries with
    | nil => rfl
    | cons e rest ih =>
      obtain ⟨he, hr⟩ := List.forall_mem_cons.mp hk
      rw [plainKeys, List.foldl_cons, he, if_neg (by decide)]
      exact ih hr
  simp [flattened, flatten, hentries, hmerge, hplain]

/-! What is known of a sample while it is put together. -/

structure Known (nodes : Nodes) (root : Nat) (top : GraphNode) (b : Build) : Prop where
  keeps : Keeps nodes b.nodes
  comes : ∀ {id : Nat} {n : Node} {g : GraphNode}, nodes[id]? = some n → n.Firm →
    b.built[id]? = some (some g) → n.ComesTo g
  top : b.built[root]? = some (some top)
  idle : root ∉ b.pending

namespace Building

variable {b c : Build} {id root : Nat} {g top : GraphNode}

theorem tagOf_firm {n : Node} (hn : nodes[id]? = some n) : tagOf nodes id = n.tag := by
  rw [tagOf, hn]

/-- A firm node that is read as a scalar is a text, and comes to itself. -/
theorem firm_read {n : Node} (hn : nodes[id]? = some n) (hf : n.Firm)
    {read : String → Except Fault Scalar} (hread : scalarOf? (tagOf nodes id) = some read) {fuel : Nat}
    {text : String} (ht : textOf nodes (fuel + 1) id = .ok text) {s : Scalar} (hs : read text = .ok s) :
    n.ComesTo (.scalar s) := by
  rw [tagOf_firm hn] at hread
  cases n with
  | mapping tag entries => exact hf.elim
  | sequence tag items =>
    obtain rfl : tag = .sequence := hf
    cases hread
  | scalar tag text' =>
    obtain rfl : tag = .text := hf
    simp only [textOf, hn] at ht
    cases ht
    cases hread
    cases hs
    rfl

theorem firm_collection {n : Node} (hn : nodes[id]? = some n) (hf : n.Firm) {empty : GraphNode}
    (hscalar : scalarOf? (tagOf nodes id) = none) (hempty : collection? (tagOf nodes id) = some empty) :
    n.ComesTo empty := by
  rw [tagOf_firm hn] at hscalar hempty
  cases n with
  | mapping tag entries => exact hf.elim
  | scalar tag text =>
    obtain rfl : tag = .text := hf
    cases hscalar
  | sequence tag items =>
    obtain rfl : tag = .sequence := hf
    cases hempty
    exact ⟨[], rfl⟩

/-- A node that is visited has come to something before, or does now. -/
theorem visit_gives (h : Gives (visit id) b g c) :
    (b.built[id]?.join = some g ∧ c = b) ∨
      (b.built[id]?.join = none ∧ c.nodes = b.nodes ∧
        c.built = b.built.setIfInBounds id (some g) ∧ (∀ k ∈ c.pending, k ∈ b.pending ∨ k = id) ∧
        ∀ n : Node, b.nodes[id]? = some n → n.Firm → n.ComesTo g) := by
  rw [visit, gives_bind gives_get] at h
  split at h
  · rename_i hb
    obtain ⟨rfl, rfl⟩ := h.pure
    exact .inl ⟨hb, rfl⟩
  · rename_i hb
    refine .inr ⟨hb, ?_⟩
    dsimp only at h
    split at h
    · rename_i read hread
      obtain ⟨text, u, ht, h⟩ := h.bind
      obtain ⟨ht, hu⟩ := ht.lift
      rw [hu] at h
      split at h
      · obtain ⟨_, _, hthrow, -⟩ := h.bind
        exact (not_gives_throw hthrow).elim
      · obtain ⟨s, u, hs, h⟩ := h.bind
        obtain ⟨hs, hu⟩ := hs.lift
        rw [hu] at h
        cases h
        exact ⟨rfl, rfl, fun k hk => .inl hk, fun n hn hf => firm_read hn hf hread ht hs⟩
    · rename_i empty hscalar hempty
      cases h
      exact ⟨rfl, rfl, fun k hk => by simpa using hk, fun n hn hf => firm_collection hn hf hscalar hempty⟩
    · exact (not_gives_throw h).elim

theorem getElem_stored {built : Array (Option GraphNode)} {k : Nat}
    (h : (built.setIfInBounds id (some g))[k]? = some (some top)) :
    (k = id ∧ top = g) ∨ built[k]? = some (some top) := by
  by_cases hk : id = k
  · subst hk
    rw [Array.getElem?_setIfInBounds_self] at h
    split at h
    · exact .inl ⟨rfl, (Option.some.inj (Option.some.inj h)).symm⟩
    · cases h
  · rw [Array.getElem?_setIfInBounds_ne hk] at h
    exact .inr h

theorem Known.visited (hb : Known nodes root top b) (h : Gives (visit id) b g c) :
    Known nodes root top c ∧ ∀ n : Node, nodes[id]? = some n → n.Firm → n.ComesTo g := by
  rcases visit_gives h with ⟨hbuilt, rfl⟩ | ⟨hbuilt, hn, hc, hp, hcomes⟩
  · refine ⟨hb, fun n hn hf => hb.comes hn hf ?_⟩
    cases hg : c.built[id]? with
    | none =>
      rw [hg] at hbuilt
      cases hbuilt
    | some o =>
      rw [hg] at hbuilt
      exact congrArg some hbuilt
  · have hfirm : ∀ n : Node, nodes[id]? = some n → n.Firm → n.ComesTo g :=
      fun n hn hf => hcomes n (hb.keeps id n hn hf) hf
    have hne : id ≠ root := by
      rintro rfl
      rw [hb.top] at hbuilt
      cases hbuilt
    refine ⟨⟨hn ▸ hb.keeps, fun {k n g'} hk hf hg => ?_, ?_, fun hr => ?_⟩, hfirm⟩
    · rw [hc] at hg
      rcases getElem_stored hg with ⟨rfl, rfl⟩ | hg
      · exact hfirm n hk hf
      · exact hb.comes hk hf hg
    · rw [hc, Array.getElem?_setIfInBounds_ne hne]
      exact hb.top
    · exact (hp root hr).elim hb.idle fun he => hne he.symm

/-! What every visit preserves, all that is made of visits preserves. -/

section

variable {p : Build → Prop}

theorem preserves_visits (hv : ∀ id, Preserves p (visit id)) (items : List Nat) :
    Preserves p (items.forM fun i => do let _ ← visit i) := by
  induction items with
  | nil => exact preserves_pure ()
  | cons i rest ih => exact ((hv i).bind fun _ => preserves_pure _).bind fun _ => ih

theorem preserves_visitKey (hv : ∀ id, Preserves p (visit id)) (id : Nat) :
    Preserves p (visitKey id) := by
  refine (hv id).bind fun g => ?_
  split
  · exact preserves_get.bind fun _ => (preserves_lift _).bind fun _ => preserves_pure _
  · exact preserves_throw _

theorem preserves_entriesFrom (hv : ∀ id, Preserves p (visit id)) (entries : List (Nat × Nat))
    (found : List (Key × Nat)) : Preserves p (entriesFrom found entries) := by
  induction entries generalizing found with
  | nil => exact preserves_pure found
  | cons e rest ih =>
    exact (preserves_visitKey hv e.1).bind fun _ => (hv e.2).bind fun _ => ih _

theorem preserves_sequenceItems (id : Nat) : Preserves p (sequenceItems id) := by
  refine preserves_get.bind fun b => ?_
  split
  · exact preserves_pure _
  · exact preserves_throw _

theorem preserves_pairItem (hv : ∀ id, Preserves p (visit id)) (id : Nat) :
    Preserves p (pairItem id) := by
  refine preserves_get.bind fun b => ?_
  split
  · exact (hv _).bind fun _ => (hv _).bind fun _ => preserves_pure _
  · exact preserves_throw _

theorem preserves_pairItems (hv : ∀ id, Preserves p (visit id)) (items : List Nat) :
    Preserves p (items.mapM pairItem) := by
  induction items with
  | nil => exact preserves_pure []
  | cons i rest ih =>
    rw [List.mapM_cons]
    exact (preserves_pairItem hv i).bind fun _ => ih.bind fun _ => preserves_pure _

end

theorem known_visit (id : Nat) : Preserves (Known nodes root top) (visit id) :=
  fun _ _ _ h hb => (Known.visited hb h).1

theorem mapEntries_gives {entries : List (Scalar × Nat)} (h : Gives (mapEntries id) b entries c) :
    ∃ nodes' found, flattened id b.nodes = .ok nodes' ∧
      Gives (entriesFrom [] (entriesOf nodes' id)) { b with nodes := nodes' } found c ∧
      entries = found.map fun e => (e.1.scalar, e.2) := by
  rw [mapEntries, gives_bind gives_get] at h
  split at h
  · obtain ⟨_, _, ht, -⟩ := h.bind
    exact (not_gives_throw ht).elim
  · obtain ⟨nodes', u, hf, h⟩ := h.bind
    obtain ⟨hf, hu⟩ := hf.lift
    rw [hu] at h
    obtain ⟨_, _, hset, h⟩ := h.bind
    cases hset
    obtain ⟨found, _, hfound, h⟩ := h.bind
    obtain ⟨rfl, rfl⟩ := h.pure
    exact ⟨nodes', found, hf, hfound, rfl⟩

theorem Known.flattened (hb : Known nodes root top b) (h : flattened id b.nodes = .ok nodes') :
    Known nodes root top { b with nodes := nodes' } :=
  { hb with keeps := hb.keeps.trans (keeps_flatten h) }

theorem known_mapEntries (id : Nat) : Preserves (Known nodes root top) (mapEntries id) := by
  intro b entries c h hb
  obtain ⟨nodes', found, hf, hfound, -⟩ := mapEntries_gives h
  exact preserves_entriesFrom known_visit _ _ _ _ _ hfound (Known.flattened hb hf)

theorem Known.store (hb : Known nodes root top b) (hne : id ≠ root)
    (hg : ∀ n : Node, nodes[id]? = some n → n.Firm → n.ComesTo g) :
    Known nodes root top { b with built := b.built.setIfInBounds id (some g) } where
  keeps := hb.keeps
  comes hn hf ho := by
    rcases getElem_stored ho with ⟨rfl, rfl⟩ | ho
    · exact hg _ hn hf
    · exact hb.comes hn hf ho
  top := (Array.getElem?_setIfInBounds_ne hne).trans hb.top
  idle := hb.idle

theorem firm_sequence {n : Node} (hn : nodes[id]? = some n) (hf : n.Firm)
    (ht : tagOf nodes id ≠ .text) : tagOf nodes id = .sequence ∧ ∀ items, n.ComesTo (.list items) := by
  rw [tagOf_firm hn] at ht ⊢
  cases n with
  | mapping tag entries => exact hf.elim
  | sequence tag items' => exact ⟨hf, fun items => ⟨items, rfl⟩⟩
  | scalar tag text => exact absurd hf ht

theorem known_fill (hne : id ≠ root) : Preserves (Known nodes root top) (fill id) := by
  intro b u c h hb
  rw [fill, gives_bind gives_get] at h
  have hfirm : tagOf b.nodes id ≠ .text → ∀ n : Node, nodes[id]? = some n → n.Firm →
      tagOf b.nodes id = .sequence ∧ ∀ items, n.ComesTo (.list items) :=
    fun ht n hn hf => firm_sequence (hb.keeps id n hn hf) hf ht
  have hother : ∀ {g : GraphNode}, tagOf b.nodes id ≠ .text → tagOf b.nodes id ≠ .sequence →
      ∀ n : Node, nodes[id]? = some n → n.Firm → n.ComesTo g :=
    fun ht hs n hn hf => absurd (hfirm ht n hn hf).1 hs
  split at h
  · rename_i ht
    obtain ⟨items, _, hitems, h⟩ := h.bind
    have hb := preserves_sequenceItems id _ _ _ hitems hb
    obtain ⟨_, _, hvisits, h⟩ := h.bind
    have hb := preserves_visits known_visit items _ _ _ hvisits hb
    cases h
    exact Known.store hb hne fun n hn hf => (hfirm (by simp [ht]) n hn hf).2 _
  · rename_i ht
    obtain ⟨entries, _, hentries, h⟩ := h.bind
    have hb := known_mapEntries id _ _ _ hentries hb
    cases h
    exact Known.store hb hne (hother (by simp [ht]) (by simp [ht]))
  · rename_i ht
    obtain ⟨entries, _, hentries, h⟩ := h.bind
    have hb := known_mapEntries id _ _ _ hentries hb
    cases h
    exact Known.store hb hne (hother (by simp [ht]) (by simp [ht]))
  · obtain ⟨ids, s, hids, h⟩ := h.bind
    have hb' := preserves_sequenceItems id _ _ _ hids hb
    obtain ⟨items, _, hitems, h⟩ := h.bind
    have hb' := preserves_pairItems known_visit ids _ _ _ hitems hb'
    cases h
    refine Known.store hb' hne fun n hn hf => ?_
    cases n with
    | mapping tag entries => exact hf.elim
    | sequence tag items' => exact ⟨items, rfl⟩
    | scalar tag text =>
      rw [sequenceItems, gives_bind gives_get, hb.keeps id _ hn hf] at hids
      exact (not_gives_throw hids).elim

theorem known_fillAll (fuel : Nat) : Preserves (Known nodes root top) (fillAll fuel) := by
  induction fuel with
  | zero => exact preserves_pure ()
  | succ fuel ih =>
    intro b u c h hb
    rw [fillAll, gives_bind gives_get] at h
    split at h
    · obtain ⟨rfl, rfl⟩ := h.pure
      exact hb
    · rename_i id rest hp
      obtain ⟨_, s, hpop, h⟩ := h.bind
      cases hpop
      obtain ⟨_, t, hfill, h⟩ := h.bind
      have hidle := hb.idle
      rw [hp, List.mem_cons, not_or] at hidle
      exact ih _ _ _ h (known_fill (Ne.symm hidle.1) _ _ _ hfill { hb with idle := hidle.2 })

/-! The root. -/

theorem Known.key (hb : Known nodes root top b) {name : String} {key : Key}
    (hn : nodes[id]? = some (.scalar .text name)) (h : Gives (visitKey id) b key c) :
    Known nodes root top c ∧ key.scalar = .text name := by
  refine ⟨preserves_visitKey known_visit id _ _ _ h hb, ?_⟩
  obtain ⟨g, d, hv, h⟩ := h.bind
  obtain rfl : g = .scalar (.text name) := (Known.visited hb hv).2 _ hn rfl
  rw [gives_bind gives_get] at h
  obtain ⟨_, _, -, h⟩ := h.bind
  rw [h.pure.1]

theorem putEntry_new {key : Key} {value : Nat} {found : List (Key × Nat)}
    (h : ∀ f ∈ found, f.1.same key = false) : putEntry key value found = found ++ [(key, value)] := by
  induction found with
  | nil => rfl
  | cons f rest ih =>
    obtain ⟨hf, hr⟩ := List.forall_mem_cons.mp h
    simp only [putEntry, hf, Bool.false_eq_true, if_false, ih hr, List.cons_append]

theorem same_texts {key key' : Key} {s t : String} (h : key.scalar = .text s)
    (h' : key'.scalar = .text t) : key.same key' = decide (s = t) := by
  simp [Key.same, h, h', Scalar.same, Scalar.isNotANumber]

/-- The entries of a mapping with distinct texts for keys, each key with its value. -/
theorem entriesFrom_gives {entries : List (Nat × Nat)} {members : List (String × Shape)}
    {found all : List (Key × Nat)} (hm : List.Forall₂ (HasEntry nodes) entries members)
    (hd : (members.map Prod.fst).Nodup)
    (hf : ∀ f ∈ found, ∃ s, f.1.scalar = .text s ∧ s ∉ members.map Prod.fst)
    (hb : Known nodes root top b) (h : Gives (entriesFrom found entries) b all c) :
    ∃ more : List (Key × Nat), all = found ++ more ∧
      List.Forall₂ (fun e m => e.1.scalar = .text m.1 ∧ HasShape nodes e.2 m.2) more members := by
  induction hm generalizing found b with
  | nil =>
    obtain ⟨rfl, -⟩ := h.pure
    exact ⟨[], (List.append_nil _).symm, .nil⟩
  | @cons e m entries members he hm ih =>
    rw [List.map_cons, List.nodup_cons] at hd
    obtain ⟨key, d, hkey, h⟩ := h.bind
    obtain ⟨hb, hs⟩ := Known.key hb he.key hkey
    obtain ⟨_, d, hvalue, h⟩ := h.bind
    have hb := known_visit _ _ _ _ hvalue hb
    have hnew : putEntry key e.2 found = found ++ [(key, e.2)] := by
      refine putEntry_new fun f hmem => ?_
      obtain ⟨s, hfs, hns⟩ := hf f hmem
      rw [same_texts hfs hs, decide_eq_false_iff_not]
      rintro rfl
      exact hns (by simp)
    rw [hnew] at h
    have hf' : ∀ f ∈ found ++ [(key, e.2)], ∃ s, f.1.scalar = .text s ∧ s ∉ members.map Prod.fst := by
      intro f hmem
      rcases List.mem_append.mp hmem with hmem | hmem
      · obtain ⟨s, hfs, hns⟩ := hf f hmem
        exact ⟨s, hfs, fun hin => hns (List.mem_cons_of_mem _ hin)⟩
      · rw [List.mem_singleton.mp hmem]
        exact ⟨m.1, hs, hd.1⟩
    obtain ⟨more, rfl, hmore⟩ := ih hd.2 hf' hb h
    exact ⟨(key, e.2) :: more, by simp, .cons ⟨hs, he.value⟩ hmore⟩

theorem tagOf_keys {entries : List (Nat × Nat)} {members : List (String × Shape)}
    (hm : List.Forall₂ (HasEntry nodes) entries members) :
    ∀ e ∈ entries, tagOf nodes e.1 = .text := by
  induction hm with
  | nil => exact nofun
  | cons he _ ih => exact List.forall_mem_cons.mpr ⟨tagOf_firm he.key, ih⟩

theorem Known.filled (hb : Known nodes root top b) {entries : List (Nat × Nat)}
    (hn : nodes[root]? = some (.mapping .mapping entries)) (g : GraphNode) :
    Known nodes root g { b with built := b.built.setIfInBounds root (some g) } where
  keeps := hb.keeps
  comes hn' hf ho := by
    rcases getElem_stored ho with ⟨rfl, -⟩ | ho
    · cases hn.symm.trans hn'
      exact hf.elim
    · exact hb.comes hn' hf ho
  top := by rw [Array.getElem?_setIfInBounds_self, if_pos (Array.getElem?_eq_some_iff.mp hb.top).1]
  idle := hb.idle

theorem known_root {members : List (String × Shape)} {entries : List (Nat × Nat)} {u : Unit}
    (hn : nodes[root]? = some (.mapping .mapping entries))
    (hm : List.Forall₂ (HasEntry nodes) entries members) (hd : (members.map Prod.fst).Nodup)
    (hb : Known nodes root top b) (hs : b.nodes = nodes) (h : Gives (fill root) b u c) :
    ∃ parts, Known nodes root (.map parts) c ∧
      List.Forall₂ (fun e m => e.1 = .text m.1 ∧ HasShape nodes e.2 m.2) parts members := by
  rw [fill, gives_bind gives_get, hs, tagOf_firm hn] at h
  obtain ⟨parts, d, hparts, h⟩ := h.bind
  have hknown := known_mapEntries root _ _ _ hparts hb
  obtain ⟨nodes', found, hflat, hfound, rfl⟩ := mapEntries_gives hparts
  rw [hs, flattened_self hn (tagOf_keys hm)] at hflat
  cases hflat
  have hentries : entriesOf nodes root = entries := by rw [entriesOf, hn]
  rw [hentries] at hfound
  obtain ⟨more, rfl, hmore⟩ := entriesFrom_gives hm hd (by simp)
    (hs ▸ hb : Known nodes root top { b with nodes := nodes }) hfound
  cases h
  exact ⟨_, Known.filled hknown hn _, List.forall₂_map_left_iff.mpr hmore⟩

theorem visit_root {entries : List (Nat × Nat)}
    (hn : b.nodes[root]? = some (.mapping .mapping entries)) (hb : b.built[root]?.join = none) :
    Gives (visit root) b (.map [])
      { b with
        built := b.built.setIfInBounds root (some (.map []))
        pending := b.pending ++ [root] } := by
  rw [visit, gives_bind gives_get, hb, tagOf_firm hn]
  rfl

end Building

/-- A firm node is no record, even if it has not come to anything. -/
theorem layer_firm {b : Build} {root : Nat} {top : GraphNode} (hb : Known nodes root top b) {id : Nat}
    {n : Node} (hn : nodes[id]? = some n) (hf : n.Firm) (entries : List (Scalar × Place)) :
    Sampled.layer (Place.ofNode (b.built.map fun n => n.getD (.scalar .null)) id) ≠ .record entries := by
  have hnode : ∀ {g : GraphNode}, b.built[id]? = some (some g) →
      ∀ es : List (Scalar × Nat), g ≠ .map es := by
    rintro g hg es rfl
    have hcomes := hb.comes hn hf hg
    cases n with
    | mapping tag entries => exact hf
    | scalar tag text => cases hcomes
    | sequence tag items =>
      obtain ⟨items, hcomes⟩ := hcomes
      cases hcomes
  intro h
  simp only [Sampled.layer, Place.layer, Place.ofNode, Place.node, Array.getElem?_map] at h
  cases hbuilt : b.built[id]? with
  | none =>
    rw [hbuilt] at h
    cases h
  | some o =>
    cases o with
    | none =>
      rw [hbuilt] at h
      cases h
    | some g =>
      rw [hbuilt] at h
      cases g with
      | map es => exact hnode hbuilt es rfl
      | _ => cases h

def start (d : Document) : Build := { nodes := d.nodes, built := d.nodes.map fun _ => none }

theorem sample_gives {d : Document} {place : Place} (h : d.sample = .ok place) :
    ∃ (g : GraphNode) (s b : Build), Gives (Building.visit d.root) d.start g s ∧
      Gives (Building.fillAll (d.nodes.size + 1)) s () b ∧
      place = .ofNode (b.built.map fun n => n.getD (.scalar .null)) d.root := by
  unfold sample at h
  dsimp only at h
  cases hr : (do let _ ← Building.visit d.root; Building.fillAll (d.nodes.size + 1) :
      Building Unit).run d.start with
  | error e =>
    rw [start] at hr
    rw [hr] at h
    cases h
  | ok result =>
    obtain ⟨_, b⟩ := result
    obtain ⟨g, s, hv, hf⟩ := Gives.bind hr
    rw [start] at hr
    rw [hr] at h
    cases h
    exact ⟨g, s, b, hv, hf, rfl⟩

/-- A document that is a mapping with distinct texts for keys comes to a record, whose sequences are
no records. -/
theorem sample_record {d : Document} {place : Place} {members : List (String × Shape)}
    (hd : (members.map Prod.fst).Nodup) (ho : HasOutline d.nodes d.root (.mapping members))
    (h : d.sample = .ok place) :
    ∃ parts : List (Scalar × Place), Sampled.layer place = .record parts ∧
      List.Forall₂ (fun p m => p.1 = .text m.1 ∧
        (m.2 = .sequence → ∀ entries, Sampled.layer p.2 ≠ .record entries)) parts members := by
  obtain ⟨entries, hn, hm⟩ := ho
  obtain ⟨g, s, b, hv, hf, rfl⟩ := sample_gives h
  have hunbuilt : ∀ id : Nat, d.start.built[id]?.join = none := by
    intro id
    rw [start, Array.getElem?_map]
    cases d.nodes[id]? <;> rfl
  obtain ⟨-, rfl⟩ := Prod.mk.inj (Except.ok.inj (hv.symm.trans (Building.visit_root hn (hunbuilt _))))
  rw [Building.fillAll, gives_bind gives_get] at hf
  obtain ⟨_, popped, hpop, hf⟩ := hf.bind
  obtain ⟨_, filled, hfill, hf⟩ := hf.bind
  have hpopped : Known d.nodes d.root (.map []) popped := by
    cases hpop
    refine ⟨.refl _, fun {id n g} hn' hfirm ho => ?_, ?_, List.not_mem_nil⟩
    · rcases Building.getElem_stored ho with ⟨rfl, -⟩ | ho
      · cases hn.symm.trans hn'
        exact hfirm.elim
      · have hnone := hunbuilt id
        rw [ho] at hnone
        cases hnone
    · have hlt : d.root < d.start.built.size := by
        simpa [start] using (Array.getElem?_eq_some_iff.mp hn).1
      exact Array.getElem?_setIfInBounds_self.trans (if_pos hlt)
  have hnodes : popped.nodes = d.nodes := by
    cases hpop
    rfl
  obtain ⟨parts, hroot, hparts⟩ := Building.known_root hn hm hd hpopped hnodes hfill
  have hend := Building.known_fillAll _ _ _ _ hf hroot
  refine ⟨parts.map fun e => (e.1, .ofNode (b.built.map fun n => n.getD (.scalar .null)) e.2), ?_, ?_⟩
  · simp [Sampled.layer, Place.layer, Place.ofNode, Place.node, hend.top]
  · refine List.forall₂_map_left_iff.mpr (hparts.imp fun e m hem => ⟨hem.1, fun hm entries => ?_⟩)
    have hshape := hem.2
    rw [hm] at hshape
    obtain ⟨items, hitems⟩ := hshape
    exact layer_firm hend hitems rfl entries

end Document

end SampleTypes.Yaml
