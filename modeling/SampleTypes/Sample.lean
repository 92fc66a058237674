import SampleTypes.Text.Word
import SampleTypes.Value

/-!
Samples, one layer at a time. Inference and the matching of reference schemas look at a sample only
through its layers, so they serve trees and graphs alike: in a graph lists and maps may share parts and
contain themselves, and refer to what they hold by number. The signature of a record are its field names
with the kinds of their values, in ascending order. Texts that are dates with a time of day and a zone
are told from others.
-/

namespace SampleTypes

inductive Kind where
  | null
  | string
  | number
  | boolean
  | array
  | object
  | unknown
  deriving DecidableEq, Repr

def Kind.label : Kind → String
  | .null => "null"
  | .string => "string"
  | .number => "number"
  | .boolean => "boolean"
  | .array => "array"
  | .object => "object"
  | .unknown => "unknown"

def Kind.coarse : List Kind := [.null, .string, .number, .boolean, .array, .object]

def Kind.isCoarseLabel (label : String) : Bool :=
  Kind.coarse.any fun k => k.label = label

inductive Layer (α : Type) where
  | scalar (s : Scalar)
  | list (items : List α)
  | record (entries : List (Scalar × α))
  | other (typeName : String)

def Scalar.kind : Scalar → Kind
  | .null => .null
  | .bool _ => .boolean
  | .int _ => .number
  | .float _ => .number
  | .text _ => .string
  | .date _ => .unknown
  | .moment _ => .unknown
  | .bytes _ => .unknown

def Layer.kind {α : Type} : Layer α → Kind
  | .scalar s => s.kind
  | .list _ => .array
  | .record _ => .object
  | .other _ => .unknown

class Sampled (α : Type) where
  layer : α → Layer α
  /-- A number of nested steps that no chain of first items, from one record to the next, exceeds
  unless it never ends. -/
  bound : α → Nat
  toValue : α → Value

def kindOf {α : Type} [Sampled α] (x : α) : Kind := (Sampled.layer x).kind

def Value.layer : Value → Layer Value
  | .scalar s => .scalar s
  | .list items => .list items
  | .pair a b => .list [a, b]
  | .map entries => .record entries
  | .set _ => .other "set"
  | .again isMap => .other (if isMap then "dict" else "list")

instance : Sampled Value := ⟨Value.layer, fun v => v.height + 1, id⟩

def underText? {α : Type} (name : String) : List (Scalar × α) → Option α
  | [] => none
  | (.text k, v) :: rest => if k = name then some v else underText? name rest
  | _ :: rest => underText? name rest

def textLe (a b : String) : Bool := !(b < a)

def sortTexts (texts : List String) : List String := texts.mergeSort textLe

def signaturePart {α : Type} [Sampled α] (entry : Scalar × α) : String :=
  entry.1.toText ++ ":" ++ (kindOf entry.2).label

def fingerprint {α : Type} [Sampled α] (entries : List (Scalar × α)) : String :=
  "\x7b" ++ joinTexts "|" (sortTexts (entries.map signaturePart)) ++ "\x7d"

/-- What a list of a graph holds: a node, or two of them as a pair. -/
inductive GraphItem where
  | node (id : Nat)
  | pair (first second : Nat)
  deriving DecidableEq, Repr

inductive GraphNode where
  | scalar (s : Scalar)
  | list (items : List GraphItem)
  | map (entries : List (Scalar × Nat))
  | set (members : List Scalar)
  deriving Inhabited

abbrev Graph := Array GraphNode

/-- A place in a graph. -/
structure Place where
  graph : Graph
  item : GraphItem

namespace Place

def ofNode (graph : Graph) (id : Nat) : Place := ⟨graph, .node id⟩

def node (graph : Graph) (id : Nat) : GraphNode :=
  (graph[id]?).getD (.scalar .null)

def layer (p : Place) : Layer Place :=
  match p.item with
  | .pair a b => .list [Place.ofNode p.graph a, Place.ofNode p.graph b]
  | .node id =>
    match node p.graph id with
    | .scalar s => .scalar s
    | .list items => .list (items.map fun i => ⟨p.graph, i⟩)
    | .map entries => .record (entries.map fun e => (e.1, Place.ofNode p.graph e.2))
    | .set _ => .other "set"

/-- Between two maps a chain of first items passes each list at most once with its pairs, unless it
never ends, and no more maps than there are nodes lie on it. -/
def bound (p : Place) : Nat :=
  (p.graph.size + 1) * (2 * p.graph.size + 2)

/-- The tree under a place, in which a node inside itself is only marked. The first argument bounds
the depth. -/
def expand (graph : Graph) : Nat → List Nat → GraphItem → Value
  | 0, _, _ => .scalar .null
  | fuel + 1, path, .pair a b =>
    .pair (expand graph fuel path (.node a)) (expand graph fuel path (.node b))
  | fuel + 1, path, .node id =>
    match node graph id with
    | .scalar s => .scalar s
    | .list items =>
      if path.contains id then .again false
      else .list (items.map (expand graph fuel (id :: path)))
    | .map entries =>
      if path.contains id then .again true
      else .map (entries.map fun e => (e.1, expand graph fuel (id :: path) (.node e.2)))
    | .set members => .set members

def toValue (p : Place) : Value :=
  expand p.graph (2 * p.graph.size + 2) [] p.item

end Place

instance : Sampled Place := ⟨Place.layer, Place.bound, Place.toValue⟩

/-- What is left after a text that begins with the shape, in which `none` stands for a digit. -/
def dropShape? : List (Option Char) → List Char → Option (List Char)
  | [], cs => some cs
  | _ :: _, [] => none
  | none :: shape, c :: cs => if Text.isDigit c then dropShape? shape cs else none
  | some d :: shape, c :: cs => if c = d then dropShape? shape cs else none

def dateTimeShape : List (Option Char) :=
  [none, none, none, none, some '-', none, none, some '-', none, none, some 'T',
    none, none, some ':', none, none, some ':', none, none]

def offsetShape : List (Option Char) := [none, none, some ':', none, none]

def dropFraction? : List Char → Option (List Char)
  | '.' :: cs =>
    match cs with
    | c :: rest => if Text.isDigit c then some (rest.dropWhile Text.isDigit) else none
    | [] => none
  | cs => some cs

def dropZone? : List Char → Option (List Char)
  | 'Z' :: cs => some cs
  | '+' :: cs => dropShape? offsetShape cs
  | '-' :: cs => dropShape? offsetShape cs
  | _ => none

def isTemporal (s : String) : Bool :=
  match ((dropShape? dateTimeShape s.toList).bind dropFraction?).bind dropZone? with
  | some [] => true
  | some ['\n'] => true
  | _ => false

end SampleTypes
