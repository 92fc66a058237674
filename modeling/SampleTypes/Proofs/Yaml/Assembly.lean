import Mathlib.Data.List.Forall2
import SampleTypes.Proofs.Yaml.Growth
import SampleTypes.Proofs.Yaml.JsonTokens

/-!
The nodes of a JSON text. Its tokens, if they can be put together, give the nodes that the outline of
the document tells.
-/

namespace SampleTypes.Yaml

def HasShape (nodes : Array Node) (id : Nat) : Shape → Prop
  | .scalar => ∃ tag text, nodes[id]? = some (.scalar tag text)
  | .sequence => ∃ items, nodes[id]? = some (.sequence .sequence items)
  | .mapping => ∃ entries, nodes[id]? = some (.mapping .mapping entries)

structure HasEntry (nodes : Array Node) (entry : Nat × Nat) (member : String × Shape) : Prop where
  key : nodes[entry.1]? = some (.scalar .text member.1)
  value : HasShape nodes entry.2 member.2

def HasOutline (nodes : Array Node) (id : Nat) : Outline → Prop
  | .scalar => HasShape nodes id .scalar
  | .sequence => HasShape nodes id .sequence
  | .mapping members => ∃ entries, nodes[id]? = some (.mapping .mapping entries) ∧
      List.Forall₂ (HasEntry nodes) entries members

section

variable {a b : Assembly} {nodes : Array Node} {id k : Nat} {e : Nat × Nat} {m : String × Shape}

theorem HasOutline.shape {o : Outline} (h : HasOutline nodes id o) : HasShape nodes id o.shape := by
  cases o with
  | scalar => exact h
  | sequence => exact h
  | mapping members =>
    obtain ⟨entries, he, -⟩ := h
    exact ⟨entries, he⟩

theorem HasShape.grown {s : Shape} (h : HasShape a.nodes id s) (hg : a.Grown b) :
    HasShape b.nodes id s := by
  cases s with
  | scalar =>
    obtain ⟨tag, text, h⟩ := h
    exact ⟨tag, text, hg.get h⟩
  | sequence =>
    obtain ⟨items, h⟩ := h
    exact ⟨items, hg.get h⟩
  | mapping =>
    obtain ⟨entries, h⟩ := h
    exact ⟨entries, hg.get h⟩

theorem HasEntry.grown (h : HasEntry a.nodes e m) (hg : a.Grown b) : HasEntry b.nodes e m :=
  ⟨hg.get h.key, h.value.grown hg⟩

theorem HasOutline.grown {o : Outline} (h : HasOutline a.nodes id o) (hg : a.Grown b) :
    HasOutline b.nodes id o := by
  cases o with
  | scalar => exact HasShape.grown (s := .scalar) h hg
  | sequence => exact HasShape.grown (s := .sequence) h hg
  | mapping members =>
    obtain ⟨entries, he, hall⟩ := h
    exact ⟨entries, hg.get he, hall.imp fun _ _ hm => hm.grown hg⟩

variable {entries more : List (Nat × Nat)}

theorem get_filled (hid : nodes[id]? = some (.mapping .mapping entries)) (n : Node) :
    (nodes.setIfInBounds id n)[id]? = some n := by
  rw [Array.getElem?_setIfInBounds_self, if_pos (Array.getElem?_eq_some_iff.mp hid).1]

theorem HasShape.filled (hid : nodes[id]? = some (.mapping .mapping entries)) {s : Shape}
    (h : HasShape nodes k s) :
    HasShape (nodes.setIfInBounds id (.mapping .mapping more)) k s := by
  by_cases hk : id = k
  · subst hk
    cases s with
    | mapping => exact ⟨more, get_filled hid _⟩
    | scalar =>
      obtain ⟨tag, text, h⟩ := h
      cases hid.symm.trans h
    | sequence =>
      obtain ⟨items, h⟩ := h
      cases hid.symm.trans h
  · cases s <;> simpa only [HasShape, Array.getElem?_setIfInBounds_ne hk] using h

theorem HasEntry.filled (hid : nodes[id]? = some (.mapping .mapping entries)) (h : HasEntry nodes e m) :
    HasEntry (nodes.setIfInBounds id (.mapping .mapping more)) e m := by
  have hne : id ≠ e.1 := by
    rintro rfl
    cases hid.symm.trans h.key
  exact ⟨(Array.getElem?_setIfInBounds_ne hne).trans h.key, h.value.filled hid⟩

end

def Token.startsNode : Token → Bool
  | .scalar _ _ => true
  | .openBracket => true
  | .openBrace => true
  | _ => false

theorem Token.startsNode_not_stop {t : Token} (ht : t.startsNode = true) {stops : List Token}
    (hs : ∀ s ∈ stops, s.startsNode = false) : stops.contains t = false := by
  cases hc : stops.contains t with
  | false => rfl
  | true => cases ht.symm.trans (hs t (List.contains_iff_mem.mp hc))

theorem Flow.starts {o : Outline} {ts : List Token} (h : Flow (.node o) ts) :
    ∃ t more, ts = t :: more ∧ t.startsNode = true := by
  cases h with
  | scalar text plain => exact ⟨_, _, rfl, rfl⟩
  | sequence h => exact ⟨_, _, rfl, rfl⟩
  | mapping h => exact ⟨_, _, rfl, rfl⟩

namespace Assemble

variable {a c : Assembly} {t : Token} {more rest : List Token} {fuel id : Nat} {block indentless : Bool}

theorem next_cons (ht : a.tokens = t :: more) : Gives next a (some t) a := by
  rw [next, gives_bind gives_get, gives_bind gives_get, ht]
  rfl

theorem take_gives (ht : a.tokens = t :: more) : Gives take a () { a with tokens := more } := by
  rw [show more = a.tokens.tail by rw [ht]; rfl]
  rfl

theorem nextIsIn_cons (ht : a.tokens = t :: more) (stops : List Token) :
    Gives (nextIsIn stops) a (stops.contains t) a :=
  (gives_bind (next_cons ht)).mpr rfl

theorem takeProperties_none (ht : a.tokens = t :: more) (hs : t.startsNode = true) :
    Gives takeProperties a {} a := by
  have hanchor : Gives takeAnchor a none a := by
    refine (gives_bind (next_cons ht)).mpr ?_
    cases t with
    | scalar text plain | openBracket | openBrace => rfl
    | _ => cases hs
  have htag : Gives takeTag a none a := by
    refine (gives_bind (next_cons ht)).mpr ?_
    cases t with
    | scalar text plain | openBracket | openBrace => rfl
    | _ => cases hs
  exact (gives_bind hanchor).mpr ((gives_bind htag).mpr rfl)

def nodeFrom (fuel : Nat) : Token → Assemble Nat
  | .scalar text plain => scalarNode {} text plain
  | .openBracket => container {} (.sequence .sequence) (flowItems true fuel)
  | _ => container {} (.mapping .mapping) (flowEntries true fuel)

theorem node_gives (ht : a.tokens = t :: more) (hs : t.startsNode = true)
    (h : Gives (node block indentless fuel) a id c) :
    ∃ fuel, Gives (nodeFrom fuel t) { a with tokens := more } id c := by
  cases fuel with
  | zero => exact (not_gives_throw h).elim
  | succ fuel =>
    have hcheck : Gives (checkAnchor {}) a () a := rfl
    refine ⟨fuel, ?_⟩
    rw [node, gives_bind (next_cons ht)] at h
    cases t with
    | scalar text plain | openBracket | openBrace =>
      rw [gives_bind (takeProperties_none ht hs), gives_bind (next_cons ht), gives_bind hcheck,
        gives_bind (take_gives ht)] at h
      exact h
    | _ => cases hs

theorem scalarNode_gives {text : String} {plain : Bool} (h : Gives (scalarNode {} text plain) a id c) :
    ∃ tag, c = { a with nodes := a.nodes.push (.scalar tag text) } ∧ id = a.nodes.size ∧
      (plain = false → tag = .text) := by
  cases plain with
  | false =>
    cases h
    exact ⟨.text, rfl, rfl, fun _ => rfl⟩
  | true =>
    cases h
    exact ⟨_, rfl, rfl, nofun⟩

def Assembled : Part → List Token → Prop
  | .node o, ts => ∀ {a c : Assembly} {rest : List Token} {block indentless : Bool} {fuel id : Nat},
      a.tokens = ts ++ rest → Gives (node block indentless fuel) a id c →
      c.tokens = rest ∧ HasOutline c.nodes id o
  | .items first, ts => ∀ {a c : Assembly} {rest : List Token} {fuel : Nat} {items : List Nat},
      a.tokens = ts ++ rest → Gives (flowItems first fuel) a items c → c.tokens = rest
  | .entries first members, ts =>
      ∀ {a c : Assembly} {rest : List Token} {fuel : Nat} {entries : List (Nat × Nat)},
      a.tokens = ts ++ rest → Gives (flowEntries first fuel) a entries c →
      c.tokens = rest ∧ List.Forall₂ (HasEntry c.nodes) entries members

theorem assembled_scalar (text : String) (plain : Bool) :
    Assembled (.node .scalar) [.scalar text plain] := by
  intro a c rest block indentless fuel id ht h
  obtain ⟨fuel, h⟩ := node_gives ht rfl h
  obtain ⟨tag, rfl, rfl, -⟩ := scalarNode_gives h
  exact ⟨rfl, tag, text, by simp⟩

theorem name_none {s : Assembly} {u : Unit} (h : Gives (name none id) a u s) : s = a := h.pure.2

theorem assembled_sequence {ts : List Token} (hi : Assembled (.items true) ts) :
    Assembled (.node .sequence) (.openBracket :: ts) := by
  intro a c rest block indentless fuel id ht h
  obtain ⟨fuel, h⟩ := node_gives ht rfl h
  obtain ⟨rfl, s, items, b, hname, hfill, rfl⟩ := container_gives h
  obtain rfl := name_none hname
  have hg := (NodesGrow.all _ fuel).flowItems true _ _ _ hfill (.refl _)
  have hrest : b.tokens = rest := hi rfl hfill
  refine ⟨hrest, items, ?_⟩
  have hsize : a.nodes.size < b.nodes.size := Nat.lt_of_lt_of_le (by simp) hg.size
  rw [Array.getElem?_setIfInBounds_self, if_pos hsize]

theorem assembled_mapping {members : List (String × Shape)} {ts : List Token}
    (he : Assembled (.entries true members) ts) :
    Assembled (.node (.mapping members)) (.openBrace :: ts) := by
  intro a c rest block indentless fuel id ht h
  obtain ⟨fuel, h⟩ := node_gives ht rfl h
  obtain ⟨rfl, s, entries, b, hname, hfill, rfl⟩ := container_gives h
  obtain rfl := name_none hname
  have hg := (NodesGrow.all _ fuel).flowEntries true _ _ _ hfill (.refl _)
  obtain ⟨hrest, hentries⟩ := he rfl hfill
  have hid : b.nodes[a.nodes.size]? = some (.mapping .mapping []) := hg.get (by simp)
  exact ⟨hrest, entries, get_filled hid _, hentries.imp fun _ _ h => h.filled hid⟩

/-! Items and entries. -/

theorem flowItems_closed {first : Bool} {items : List Nat} (ht : a.tokens = .closeBracket :: more)
    (h : Gives (flowItems first fuel) a items c) : c.tokens = more := by
  cases fuel with
  | zero => exact (not_gives_throw h).elim
  | succ fuel =>
    rw [flowItems, gives_bind (nextIsIn_cons ht _), if_pos (by decide), gives_bind (take_gives ht)] at h
    obtain ⟨-, rfl⟩ := h.pure
    rfl

theorem flowEntries_closed {first : Bool} {entries : List (Nat × Nat)}
    (ht : a.tokens = .closeBrace :: more) (h : Gives (flowEntries first fuel) a entries c) :
    c.tokens = more ∧ entries = [] := by
  cases fuel with
  | zero => exact (not_gives_throw h).elim
  | succ fuel =>
    rw [flowEntries, gives_bind (nextIsIn_cons ht _), if_pos (by decide), gives_bind (take_gives ht)] at h
    obtain ⟨rfl, rfl⟩ := h.pure
    exact ⟨rfl, rfl⟩

theorem flowItems_part {first : Bool} {items : List Nat} (ht : a.tokens = lead first ++ t :: more)
    (hs : t.startsNode = true) (h : Gives (flowItems first fuel) a items c) :
    ∃ fuel b, b.tokens = t :: more ∧
      Gives (do let item ← node false false fuel; return item :: (← flowItems false fuel)) b items c := by
  cases fuel with
  | zero => exact (not_gives_throw h).elim
  | succ fuel =>
    rw [flowItems] at h
    cases first with
    | true =>
      have hne : List.contains [Token.closeBracket] t = false :=
        Token.startsNode_not_stop hs (by decide)
      rw [gives_bind (nextIsIn_cons ht _)] at h
      simp only [hne, Bool.not_true, Bool.false_eq_true, if_false] at h
      rw [gives_bind (next_cons ht)] at h
      refine ⟨fuel, a, ht, ?_⟩
      cases t with
      | scalar text plain | openBracket | openBrace => exact h
      | _ => cases hs
    | false =>
      rw [gives_bind (nextIsIn_cons ht _), if_neg (by decide)] at h
      simp only [Bool.not_false, if_true] at h
      rw [gives_bind (nextIsIn_cons ht _), if_pos (by decide), gives_bind (take_gives ht),
        gives_bind (next_cons rfl)] at h
      refine ⟨fuel, { a with tokens := t :: more }, rfl, ?_⟩
      cases t with
      | scalar text plain | openBracket | openBrace => exact h
      | _ => cases hs

def entryFrom (fuel : Nat) : Assemble (List (Nat × Nat)) := do
  let key ← nodeUnless [.value, .comma, .closeBrace] false false fuel
  let value ← flowValue .closeBrace fuel
  return (key, value) :: (← flowEntries false fuel)

theorem flowEntries_part {first : Bool} {entries : List (Nat × Nat)}
    (ht : a.tokens = lead first ++ .key :: more) (h : Gives (flowEntries first fuel) a entries c) :
    ∃ fuel, Gives (entryFrom fuel) { a with tokens := more } entries c := by
  cases fuel with
  | zero => exact (not_gives_throw h).elim
  | succ fuel =>
    refine ⟨fuel, ?_⟩
    rw [flowEntries] at h
    cases first with
    | true =>
      rw [gives_bind (nextIsIn_cons ht _), if_neg (by decide)] at h
      simp only [Bool.not_true, Bool.false_eq_true, if_false] at h
      rw [gives_bind (next_cons ht)] at h
      exact (gives_bind (take_gives ht)).mp h
    | false =>
      rw [gives_bind (nextIsIn_cons ht _), if_neg (by decide)] at h
      simp only [Bool.not_false, if_true] at h
      rw [gives_bind (nextIsIn_cons ht _), if_pos (by decide), gives_bind (take_gives ht),
        gives_bind (next_cons rfl)] at h
      exact (gives_bind (take_gives (a := { a with tokens := .key :: more }) rfl)).mp h

theorem nodeUnless_gives {stops : List Token} (ht : a.tokens = t :: more) (hs : t.startsNode = true)
    (hstops : ∀ s ∈ stops, s.startsNode = false)
    (h : Gives (nodeUnless stops block indentless fuel) a id c) :
    ∃ fuel, Gives (node block indentless fuel) a id c := by
  cases fuel with
  | zero => exact (not_gives_throw h).elim
  | succ fuel =>
    rw [nodeUnless, gives_bind (nextIsIn_cons ht _), Token.startsNode_not_stop hs hstops] at h
    exact ⟨fuel, h⟩

theorem flowValue_gives (ht : a.tokens = .value :: t :: more) (hs : t.startsNode = true)
    (h : Gives (flowValue .closeBrace fuel) a id c) :
    ∃ fuel, Gives (node false false fuel) { a with tokens := t :: more } id c := by
  cases fuel with
  | zero => exact (not_gives_throw h).elim
  | succ fuel =>
    rw [flowValue, gives_bind (next_cons ht)] at h
    have h := (gives_bind (take_gives ht)).mp h
    exact nodeUnless_gives rfl hs (by decide) h

theorem assembled_item {first : Bool} {o : Outline} {ts us : List Token}
    (hs : ∃ t more, ts = t :: more ∧ t.startsNode = true) (hn : Assembled (.node o) ts)
    (hi : Assembled (.items false) us) : Assembled (.items first) (lead first ++ (ts ++ us)) := by
  intro a c rest fuel items ht h
  obtain ⟨t, more, rfl, ht'⟩ := hs
  simp only [List.append_assoc, List.cons_append] at ht
  obtain ⟨fuel, b, hb, h⟩ := flowItems_part ht ht' h
  obtain ⟨id, d, hnode, h⟩ := h.bind
  have hb : b.tokens = t :: more ++ (us ++ rest) := hb
  obtain ⟨hd, -⟩ := hn hb hnode
  obtain ⟨others, e, hitems, h⟩ := h.bind
  obtain ⟨-, rfl⟩ := h.pure
  exact hi hd hitems

theorem assembled_entry {first : Bool} {name : String} {o : Outline} {ts us : List Token}
    {members : List (String × Shape)} (hs : ∃ t more, ts = t :: more ∧ t.startsNode = true)
    (hn : Assembled (.node o) ts) (he : Assembled (.entries false members) us) :
    Assembled (.entries first ((name, o.shape) :: members))
      (lead first ++ .key :: .scalar name false :: .value :: (ts ++ us)) := by
  intro a c rest fuel entries ht h
  obtain ⟨t, more, rfl, ht'⟩ := hs
  simp only [List.append_assoc, List.cons_append] at ht
  obtain ⟨fuel, h⟩ := flowEntries_part ht h
  obtain ⟨key, b, hkey, h⟩ := h.bind
  obtain ⟨value, d, hvalue, h⟩ := h.bind
  obtain ⟨others, e, hothers, h⟩ := h.bind
  obtain ⟨rfl, rfl⟩ := h.pure
  obtain ⟨_, hkey⟩ := nodeUnless_gives rfl rfl (by decide) hkey
  obtain ⟨_, hkey⟩ := node_gives rfl rfl hkey
  obtain ⟨tag, rfl, rfl, htag⟩ := scalarNode_gives hkey
  obtain rfl := htag rfl
  have hbefore := (NodesGrow.all _ _).flowValue _ _ _ _ hvalue (.refl _)
  obtain ⟨_, hvalue⟩ := flowValue_gives rfl ht' hvalue
  have htokens : t :: (more ++ (us ++ rest)) = t :: more ++ (us ++ rest) := rfl
  obtain ⟨hd, hnode⟩ := hn htokens hvalue
  have hafter := (NodesGrow.all _ _).flowEntries _ _ _ _ hothers (.refl _)
  obtain ⟨hrest, hmembers⟩ := he hd hothers
  have hentry : HasEntry d.nodes (a.nodes.size, value) (name, o.shape) :=
    ⟨hbefore.get (by simp), hnode.shape⟩
  exact ⟨hrest, .cons (hentry.grown hafter) hmembers⟩

/-- The tokens of a part are put together to what it says, by induction on the part. -/
theorem assembled {part : Part} {ts : List Token} (h : Flow part ts) : Assembled part ts := by
  induction h with
  | scalar text plain => exact assembled_scalar text plain
  | sequence _ ih => exact assembled_sequence ih
  | mapping _ ih => exact assembled_mapping ih
  | noItem first => exact fun ht h => flowItems_closed ht h
  | item first hn _ ihn ihi => exact assembled_item hn.starts ihn ihi
  | noEntry first =>
    intro a c rest fuel entries ht h
    obtain ⟨hrest, rfl⟩ := flowEntries_closed ht h
    exact ⟨hrest, .nil⟩
  | entry first name hn _ ihn ihe => exact assembled_entry hn.starts ihn ihe

/-! Documents. -/

def endDocument (root : Option Nat) : Assemble (Option Nat) := do
  skipDocumentEnds (← bound)
  match ← next with
  | none => return root
  | some _ => do
    takeDirectives (← bound) {}
    let _ ← next
    refuse "expected a single document in the stream"

theorem endDocument_gives {root root' : Option Nat} (h : Gives (endDocument root) a root' c) :
    root' = root ∧ a.Grown c ∧ c.fault = none := by
  obtain ⟨_, _, hbound, h⟩ := h.bind
  have hb := grows_bound _ _ _ hbound (.refl a)
  obtain ⟨_, b, hskip, h⟩ := h.bind
  have hb := grows_skipDocumentEnds _ _ _ _ hskip hb
  obtain ⟨t, _, hnext, h⟩ := h.bind
  obtain ⟨-, rfl, hfault⟩ := next_gives hnext
  cases t with
  | none =>
    obtain ⟨rfl, rfl⟩ := h.pure
    exact ⟨rfl, hb, hfault rfl⟩
  | some t =>
    obtain ⟨_, _, -, h⟩ := h.bind
    obtain ⟨_, _, -, h⟩ := h.bind
    obtain ⟨_, _, -, h⟩ := h.bind
    exact (not_gives_throw h).elim

/-- A document comes to an end only where no fault is waiting. -/
theorem root_fault {root : Option Nat} (h : Gives root? a root c) : a.fault = none := by
  obtain ⟨t, b, hnext, h⟩ := h.bind
  rw [(next_gives hnext).2.1] at h
  have hend : ∀ {m : Assemble (Option Nat)}, Preserves a.Grown m →
      Gives (m >>= endDocument) a root c → a.fault = none := by
    intro m hm h
    obtain ⟨root, b, hroot, h⟩ := h.bind
    obtain ⟨-, hg, hfault⟩ := endDocument_gives h
    exact (hm _ _ _ hroot (.refl a)).fault.symm.trans (hg.fault.symm.trans hfault)
  split at h
  · exact hend (preserves_pure none) h
  · exact hend (grows_markedDocument.map some) h
  · exact hend (grows_markedDocument.map some) h
  · exact hend (((grows_takeDirectives 1 {}).bind fun _ => grows_rootNode).map some) h

/-- A token that a node begins with is the first one of the root. -/
theorem root_node {root : Option Nat} (h : Gives root? a root c) (ht : a.tokens = t :: more)
    (hs : t.startsNode = true) :
    ∃ id s b, s.tokens = a.tokens ∧ Gives rootNode s id b ∧ b.Grown c ∧ root = some id := by
  have hdirectives : Gives (takeDirectives 1 {}) a () { a with handles := standardHandles } := by
    rw [takeDirectives, gives_bind (next_cons ht)]
    cases t with
    | scalar text plain | openBracket | openBrace => rfl
    | _ => cases hs
  rw [root?, gives_bind (next_cons ht)] at h
  have h : Gives (some <$> (do takeDirectives 1 {}; rootNode) >>= endDocument) a root c := by
    cases t with
    | scalar text plain | openBracket | openBrace => exact h
    | _ => cases hs
  obtain ⟨_, b, hsome, h⟩ := h.bind
  obtain ⟨id, hroot, rfl⟩ := hsome.map
  obtain ⟨hid, hg, -⟩ := endDocument_gives h
  exact ⟨id, { a with handles := standardHandles }, b, rfl, (gives_bind hdirectives).mp hroot, hg, hid⟩

theorem root_assembled {o : Outline} {root : Option Nat} (ho : Flow (.node o) a.tokens)
    (h : Gives root? a root c) : ∃ id, root = some id ∧ HasOutline c.nodes id o := by
  obtain ⟨t, more, ht, hs⟩ := ho.starts
  obtain ⟨id, s, b, hsame, hroot, hg, rfl⟩ := root_node h ht hs
  have hbound : Gives bound s (s.tokens.length + 1) s := rfl
  have hnode := (gives_bind hbound).mp hroot
  have hall : s.tokens = a.tokens ++ [] := hsame.trans (List.append_nil _).symm
  obtain ⟨-, houtline⟩ := assembled ho hall hnode
  exact ⟨id, rfl, houtline.grown hg⟩

end Assemble

/-- The document of the text of an array or an object, if it can be read. -/
theorem Document.read_write {j : Json} (hj : Terse j) (hc : j.isContainer = true)
    {indent : Option Nat} {timestamps : Bool} {d : Option Document}
    (h : Document.read? timestamps ⟨Json.write indent 0 j, none⟩ = .ok d) :
    ∃ doc, d = some doc ∧ HasOutline doc.nodes doc.root (outlineOf j) := by
  have hscan : ∀ scan : Scan, Input.scan ⟨Json.write indent 0 j, none⟩ = scan → scan.fault = none →
      Flow (.node (outlineOf j)) scan.tokens := by
    rintro ⟨tokens, fault⟩ hs rfl
    exact Input.scan_write hj hc hs
  generalize hs : Input.scan ⟨Json.write indent 0 j, none⟩ = scan at hscan
  simp only [Document.read?, hs] at h
  cases hr : Assemble.root?.run { tokens := scan.tokens, fault := scan.fault, timestamps } with
  | error e =>
    rw [hr] at h
    cases h
  | ok result =>
    obtain ⟨root, a⟩ := result
    rw [hr] at h
    cases h
    obtain ⟨id, rfl, houtline⟩ :=
      Assemble.root_assembled (hscan scan rfl (Assemble.root_fault hr)) hr
    exact ⟨⟨a.nodes, id⟩, rfl, houtline⟩

end SampleTypes.Yaml
