import SampleTypes.Decimal.Reading
import SampleTypes.Sample
import SampleTypes.Text.Lowercase
import SampleTypes.Text.Utf8
import SampleTypes.Value
import SampleTypes.Yaml.Document
import SampleTypes.Yaml.Resolution

/-!
The sample that a document stands for, with the values of its numbers, booleans and timestamps. Only nodes
that can be reached from the root count. The entries of merged mappings come before a mapping's own ones,
so that the latter prevail.
-/

namespace SampleTypes.Yaml

def wholeOf (base : Nat) (text : List Char) : Except Fault Int :=
  (Decimal.readWhole base text).mapError fun
    | .noNumber => .notWhole base (String.ofList text)
    | .tooManyDigits count => .tooManyDigits count

/-- The parts of a number to the base sixty, the first of them the most significant. -/
def sexagesimal (parts : List Int) : Int :=
  parts.foldl (fun n d => n * 60 + d) 0

def wholeFrom (cs : List Char) : Except Fault Int :=
  match cs with
  | [] => .error .emptyNumber
  | ['0'] => .ok 0
  | '0' :: 'b' :: digits => wholeOf 2 digits
  | '0' :: 'x' :: digits => wholeOf 16 digits
  | '0' :: _ => wholeOf 8 cs
  | _ =>
    if cs.contains ':' then ((cs.splitOn ':').mapM (wholeOf 10)).map sexagesimal
    else wholeOf 10 cs

def wholeValue (text : String) : Except Fault Int :=
  match text.toList.filter (· != '_') with
  | [] => .error .emptyNumber
  | cs =>
    let (negative, rest) := Decimal.splitSign cs
    (wholeFrom rest).map fun n => if negative then -n else n

def floatOf (text : List Char) : Except Fault Float :=
  match Decimal.readFloat? text with
  | some x => .ok x
  | none => .error (.notFloat (String.ofList text))

/-- The parts, the last of them first, added to a sum. The first of them counts as often as the
weight says, each part after it sixty times as much. -/
def weighed (sum : Float) (weight : Nat) : List Float → Except Fault Float
  | [] => .ok sum
  | part :: rest =>
    let w := Decimal.toFloat weight 0
    if w.isInf then .error .weightTooLarge else weighed (sum + part * w) (weight * 60) rest

def sexagesimalFloat (parts : List Float) : Except Fault Float := weighed 0.0 1 parts.reverse

def notANumberText : List Char := ['.', 'n', 'a', 'n']

def floatFrom (cs : List Char) : Except Fault Float :=
  if cs = ['.', 'i', 'n', 'f'] then .ok (1.0 / 0.0)
  else if cs = notANumberText then .ok (0.0 / 0.0)
  else if cs.contains ':' then (cs.splitOn ':').mapM floatOf >>= sexagesimalFloat
  else floatOf cs

def floatText (text : String) : List Char := Text.lower (text.toList.filter (· != '_'))

def isNotANumberText (text : String) : Bool :=
  (Decimal.splitSign (floatText text)).2 = notANumberText

def floatValue (text : String) : Except Fault Float :=
  match floatText text with
  | [] => .error .emptyNumber
  | cs =>
    let (negative, rest) := Decimal.splitSign cs
    (floatFrom rest).map fun x => if negative && rest != notANumberText then -x else x

def boolValue (text : String) : Except Fault Bool :=
  let word := String.ofList (text.toList.map Char.toLower)
  if ["yes", "true", "on"].contains word then .ok true
  else if ["no", "false", "off"].contains word then .ok false
  else .error (.notBoolean word)

def timestampValue (text : String) : Except Fault Scalar :=
  let cs := dropFinalBreak text.toList
  match dayText? 1 cs, momentText? cs with
  | some d, _ => (d.check.map fun _ => Scalar.date d).mapError .notInCalendar
  | none, some m => (m.check.map fun _ => Scalar.moment m).mapError .notInCalendar
  | none, none => .error .notTimestamp

namespace Document

abbrev Nodes := Array Node

def entriesOf (nodes : Nodes) (id : Nat) : List (Nat × Nat) :=
  match nodes[id]? with
  | some (.mapping _ entries) => entries
  | _ => []

def setEntries (nodes : Nodes) (id : Nat) (entries : List (Nat × Nat)) : Nodes :=
  match nodes[id]? with
  | some (.mapping tag _) => nodes.setIfInBounds id (.mapping tag entries)
  | _ => nodes

def tagOf (nodes : Nodes) (id : Nat) : Tag :=
  match nodes[id]? with
  | some n => n.tag
  | none => .null

def isMapping (nodes : Nodes) (id : Nat) : Bool :=
  match nodes[id]? with
  | some (.mapping _ _) => true
  | _ => false

def plainKeys (nodes : Nodes) (entries : List (Nat × Nat)) : Nodes :=
  entries.foldl (fun nodes e =>
    if tagOf nodes e.1 = .default then nodes.modify e.1 (Node.withTag .text) else nodes) nodes

/-- The mappings that a merge key refers to, in the order of their entries. -/
def mergeTargets (nodes : Nodes) (id : Nat) : Except Fault (List Nat) :=
  match nodes[id]? with
  | some (.mapping _ _) => .ok [id]
  | some (.sequence _ items) =>
    if items.all (isMapping nodes) then .ok items.reverse
    else .error (.malformed "expected a mapping for merging")
  | _ => .error (.malformed "expected a mapping or list of mappings for merging")

/-- The entries of a mapping are put in front of it for each of its merge keys, which are taken out
one by one. The first argument bounds the work; every step takes out a merge key. -/
def flatten : Nat → Nat → List (Nat × Nat) → Nodes → Except Fault Nodes
  | 0, _, _, nodes => .ok nodes
  | fuel + 1, id, merged, nodes =>
    let entries := entriesOf nodes id
    match entries.findIdx? fun e => tagOf nodes e.1 = .merge with
    | none =>
      let nodes := plainKeys nodes entries
      .ok (if merged.isEmpty then nodes else setEntries nodes id (merged ++ entries))
    | some i => do
      let targets ← mergeTargets nodes ((entries[i]?.map Prod.snd).getD 0)
      let nodes := setEntries nodes id (entries.eraseIdx i)
      let nodes ← targets.reverse.foldlM (fun nodes t => flatten fuel t [] nodes) nodes
      flatten fuel id (merged ++ targets.flatMap (entriesOf nodes)) nodes

def mergeKeys (nodes : Nodes) : Nat :=
  nodes.foldl (fun n node => match node with
    | .mapping _ entries => n + (entries.countP fun e => tagOf nodes e.1 = .merge)
    | _ => n) 0

def flattened (id : Nat) (nodes : Nodes) : Except Fault Nodes :=
  flatten (mergeKeys nodes + 1) id [] nodes

/-- The text of a scalar, or of the default of a mapping. The first argument bounds the nesting. -/
def textOf (nodes : Nodes) : Nat → Nat → Except Fault String
  | 0, _ => .error .endless
  | fuel + 1, id =>
    match nodes[id]? with
    | some (.scalar _ text) => .ok text
    | some (.mapping _ entries) =>
      match entries.find? fun e => tagOf nodes e.1 = .default with
      | some (_, value) => textOf nodes fuel value
      | none => .error (.malformed "expected a scalar node, but found mapping")
    | _ => .error (.malformed "expected a scalar node, but found sequence")

def bytesOf (text : String) : Except Fault Scalar :=
  if text.toList.any (0x7F < ·.toNat) then
    .error (.malformed "failed to convert base64 data into ascii")
  else
    match Text.decodeBase64? text.toList with
    | some bytes => .ok (.bytes bytes)
    | none => .error (.malformed "failed to decode base64 data")

def scalarOf? : Tag → Option (String → Except Fault Scalar)
  | .null => some fun _ => .ok .null
  | .bool => some fun t => (boolValue t).map .bool
  | .int => some fun t => (wholeValue t).map .int
  | .float => some fun t => (floatValue t).map .float
  | .binary => some bytesOf
  | .timestamp => some timestampValue
  | .text => some fun t => .ok (.text t)
  | _ => none

def collection? : Tag → Option GraphNode
  | .sequence => some (.list [])
  | .pairs => some (.list [])
  | .orderedMap => some (.list [])
  | .mapping => some (.map [])
  | .set => some (.set [])
  | _ => none

/-- The work on a sample: the nodes of the document, what they stand for as far as it is known, and
the collections that are still to be filled, in order. -/
structure Build where
  nodes : Nodes
  built : Array (Option GraphNode)
  pending : List Nat := []

abbrev Building := StateT Build (Except Fault)

namespace Building

def store (id : Nat) (n : GraphNode) : Building Unit :=
  modify fun b => { b with built := b.built.setIfInBounds id (some n) }

def visit (id : Nat) : Building GraphNode := do
  let b ← get
  match (b.built[id]?).join with
  | some n => return n
  | none =>
    let tag := tagOf b.nodes id
    match scalarOf? tag, collection? tag with
    | some read, _ =>
      let text ← textOf b.nodes (b.nodes.size + 1) id
      if tag = .timestamp && isMapping b.nodes id then throw .timestampMapping
      let s ← read text
      store id (.scalar s)
      return .scalar s
    | none, some n =>
      store id n
      modify fun b => { b with pending := b.pending ++ [id] }
      return n
    | none, none => throw (.malformed "could not determine a constructor for the tag")

/-- A key with the node that it comes from; the usual text for no number always gives the same. -/
structure Key where
  scalar : Scalar
  origin : Option Nat

/-- Whether two keys are one. No number is like no other, but like itself. -/
def Key.same (a b : Key) : Bool :=
  a.scalar.same b.scalar || (a.scalar.isNotANumber && b.scalar.isNotANumber && a.origin = b.origin)

def visitKey (id : Nat) : Building Key := do
  match ← visit id with
  | .scalar s =>
    let nodes := (← get).nodes
    let text ← textOf nodes (nodes.size + 1) id
    return ⟨s, if isNotANumberText text then none else some id⟩
  | _ => throw (.malformed "found unhashable key")

def putEntry (key : Key) (value : Nat) : List (Key × Nat) → List (Key × Nat)
  | [] => [(key, value)]
  | (k, v) :: rest => if k.same key then (k, value) :: rest else (k, v) :: putEntry key value rest

def entriesFrom (found : List (Key × Nat)) : List (Nat × Nat) → Building (List (Key × Nat))
  | [] => return found
  | (k, v) :: rest => do
    let key ← visitKey k
    let _ ← visit v
    entriesFrom (putEntry key v found) rest

def mapEntries (id : Nat) : Building (List (Scalar × Nat)) := do
  let b ← get
  if !isMapping b.nodes id then throw (.malformed "expected a mapping node")
  let nodes ← flattened id b.nodes
  set { b with nodes := nodes }
  return (← entriesFrom [] (entriesOf nodes id)).map fun e => (e.1.scalar, e.2)

def sequenceItems (id : Nat) : Building (List Nat) := do
  match (← get).nodes[id]? with
  | some (.sequence _ items) => return items
  | _ => throw (.malformed "expected a sequence node")

def pairItem (id : Nat) : Building GraphItem := do
  match (← get).nodes[id]? with
  | some (.mapping _ [(k, v)]) => do
    let _ ← visit k
    let _ ← visit v
    return .pair k v
  | _ => throw (.malformed "expected a single mapping item")

def fill (id : Nat) : Building Unit := do
  match tagOf (← get).nodes id with
  | .sequence => do
    let items ← sequenceItems id
    items.forM fun i => do let _ ← visit i
    store id (.list (items.map .node))
  | .mapping => do store id (.map (← mapEntries id))
  | .set => do store id (.set ((← mapEntries id).map Prod.fst))
  | _ => do store id (.list (← (← sequenceItems id).mapM pairItem))

/-- The collections that are waiting, first come, first served. Each node waits at most once, which
bounds the work. -/
def fillAll : Nat → Building Unit
  | 0 => return
  | fuel + 1 => do
    match (← get).pending with
    | [] => return
    | id :: rest => do
      modify fun b => { b with pending := rest }
      fill id
      fillAll fuel

end Building

def sample (d : Document) : Except Fault Place := do
  let work : Building Unit := do
    let _ ← Building.visit d.root
    Building.fillAll (d.nodes.size + 1)
  let (_, b) ← work.run { nodes := d.nodes, built := d.nodes.map fun _ => none }
  return .ofNode (b.built.map fun n => n.getD (.scalar .null)) d.root

end Document

def read (timestamps : Bool) (bytes : List UInt8) : Except Fault Place := do
  match ← Document.read? timestamps (.ofBytes bytes) with
  | some d => d.sample
  | none => return .ofNode #[.scalar .null] 0

end SampleTypes.Yaml
