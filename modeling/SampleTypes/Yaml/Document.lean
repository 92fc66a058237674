import SampleTypes.Json
import SampleTypes.Yaml.Resolution

/-!
From tokens to the nodes of a document. A text holds at most one document; aliases refer to anchors
that come before them.
-/

namespace SampleTypes.Yaml

/-- The work on a document: the tokens to come, the fault after them and what has been found so
far. -/
structure Assembly where
  tokens : List Token
  fault : Option Fault := none
  timestamps : Bool
  nodes : Array Node := #[]
  anchors : List (String × Nat) := []
  handles : List (String × String) := []

abbrev Assemble := StateT Assembly (Except Fault)

namespace Assemble

def next : Assemble (Option Token) := do
  match (← get).tokens, (← get).fault with
  | t :: _, _ => return some t
  | [], some fault => throw fault
  | [], none => return none

def take : Assemble Unit := modify fun a => { a with tokens := a.tokens.tail }

def refuse {α : Type} (what : String) : Assemble α := throw (.malformed what)

def add (n : Node) : Assemble Nat := do
  let a ← get
  set { a with nodes := a.nodes.push n }
  return a.nodes.size

def replace (id : Nat) (n : Node) : Assemble Unit :=
  modify fun a => { a with nodes := a.nodes.setIfInBounds id n }

def emptyNode : Assemble Nat := add (.scalar .null "")

def name (anchor : Option String) (id : Nat) : Assemble Unit :=
  match anchor with
  | some a => modify fun s => { s with anchors := s.anchors ++ [(a, id)] }
  | none => pure ()

def named (anchor : String) : Assemble Nat := do
  match valueOf? anchor (← get).anchors with
  | some id => return id
  | none => refuse "found undefined alias"

def tagName (t : TagText) : Assemble String := do
  match t.handle with
  | none => return t.text
  | some h =>
    match valueOf? h (← get).handles with
    | some stem => return stem ++ t.text
    | none => refuse "found undefined tag handle"

structure Properties where
  anchor : Option String := none
  tag : Option String := none

def takeAnchor : Assemble (Option String) := do
  match ← next with
  | some (.anchor a) => do take; return some a
  | _ => return none

def takeTag : Assemble (Option TagText) := do
  match ← next with
  | some (.tag t) => do take; return some t
  | _ => return none

def takeProperties : Assemble Properties := do
  let before ← takeAnchor
  let tag ← takeTag
  let anchor ← if before.isNone && tag.isSome then takeAnchor else pure before
  return ⟨anchor, ← tag.mapM tagName⟩

def checkAnchor (p : Properties) : Assemble Unit := do
  match p.anchor with
  | some a => if (valueOf? a (← get).anchors).isSome then refuse "found duplicate anchor"
  | none => pure ()

/-- The tag given, unless there is none or it is the one that asks for the usual tag. -/
def Properties.tagOr (p : Properties) (usual : Tag) : Tag :=
  match p.tag with
  | some t => if t = "!" then usual else .ofName t
  | none => usual

def scalarTag (p : Properties) (text : String) (plain : Bool) : Assemble Tag := do
  if plain || p.tag = some "!" then return p.tagOr (plainTag (← get).timestamps text)
  else return p.tagOr .text

/-- A node that is filled after it has got its number, since it may contain itself. -/
def container {α : Type} (p : Properties) (make : List α → Node) (fill : Assemble (List α)) :
    Assemble Nat := do
  let id ← add (make [])
  name p.anchor id
  replace id (make (← fill))
  return id

def scalarNode (p : Properties) (text : String) (plain : Bool) : Assemble Nat := do
  let id ← add (.scalar (← scalarTag p text plain) text)
  name p.anchor id
  return id

def nextIsIn (tokens : List Token) : Assemble Bool :=
  return (← next).any tokens.contains

mutual

/-- A node. Blocks may stand only where a block may, and a sequence without indentation only as the
value of a key. The first argument bounds the work. -/
def node (block indentless : Bool) : Nat → Assemble Nat
  | 0 => refuse "the document is too deep"
  | fuel + 1 => do
    match ← next with
    | some (.alias a) => do take; named a
    | _ => do
      let p ← takeProperties
      let content ← next
      checkAnchor p
      match content with
      | some (.scalar text plain) => do take; scalarNode p text plain
      | some .openBracket => do
        take
        container p (.sequence (p.tagOr .sequence)) (flowItems true fuel)
      | some .openBrace => do
        take
        container p (.mapping (p.tagOr .mapping)) (flowEntries true fuel)
      | t =>
        if block && t = some .sequenceStart then do
          take
          container p (.sequence (p.tagOr .sequence)) (blockItems fuel)
        else if block && t = some .mappingStart then do
          take
          container p (.mapping (p.tagOr .mapping)) (blockEntries fuel)
        else if indentless && t = some .entry then
          container p (.sequence (p.tagOr .sequence)) (looseItems fuel)
        else if p.anchor.isSome || p.tag.isSome then scalarNode p "" true
        else refuse "expected the node content"

def nodeUnless (stops : List Token) (block indentless : Bool) : Nat → Assemble Nat
  | 0 => refuse "the document is too deep"
  | fuel + 1 => do
    if ← nextIsIn stops then emptyNode else node block indentless fuel

def blockItems : Nat → Assemble (List Nat)
  | 0 => refuse "the document is too deep"
  | fuel + 1 => do
    match ← next with
    | some .entry => do
      take
      let item ← nodeUnless [.entry, .blockEnd] true false fuel
      return item :: (← blockItems fuel)
    | some .blockEnd => do take; return []
    | _ => refuse "expected <block end>"

def looseItems : Nat → Assemble (List Nat)
  | 0 => refuse "the document is too deep"
  | fuel + 1 => do
    match ← next with
    | some .entry => do
      take
      let item ← nodeUnless [.entry, .key, .value, .blockEnd] true false fuel
      return item :: (← looseItems fuel)
    | _ => return []

def blockEntries : Nat → Assemble (List (Nat × Nat))
  | 0 => refuse "the document is too deep"
  | fuel + 1 => do
    match ← next with
    | some .blockEnd => do take; return []
    | some .key => do
      take
      let key ← nodeUnless [.key, .value, .blockEnd] true true fuel
      let value ← blockValue fuel
      return (key, value) :: (← blockEntries fuel)
    | _ => refuse "expected <block end>"

def blockValue : Nat → Assemble Nat
  | 0 => refuse "the document is too deep"
  | fuel + 1 => do
    match ← next with
    | some .value => do
      take
      nodeUnless [.key, .value, .blockEnd] true true fuel
    | _ => emptyNode

def flowValue (stop : Token) : Nat → Assemble Nat
  | 0 => refuse "the document is too deep"
  | fuel + 1 => do
    match ← next with
    | some .value => do
      take
      nodeUnless [.comma, stop] false false fuel
    | _ => emptyNode

/-- The items of a sequence in brackets. A key in it is a mapping of one entry. -/
def flowItems (first : Bool) : Nat → Assemble (List Nat)
  | 0 => refuse "the document is too deep"
  | fuel + 1 => do
    if ← nextIsIn [.closeBracket] then do take; return []
    else do
      if !first then
        if ← nextIsIn [.comma] then take else refuse "expected ',' or ']'"
      match ← next with
      | some .closeBracket => do take; return []
      | some .key => do
        let item ← container {} (.mapping .mapping) do
          take
          let key ← nodeUnless [.value, .comma, .closeBracket] false false fuel
          let value ← flowValue .closeBracket fuel
          return [(key, value)]
        return item :: (← flowItems false fuel)
      | _ => do
        let item ← node false false fuel
        return item :: (← flowItems false fuel)

/-- The entries of a mapping in braces. A node without a colon is a key with an empty value. -/
def flowEntries (first : Bool) : Nat → Assemble (List (Nat × Nat))
  | 0 => refuse "the document is too deep"
  | fuel + 1 => do
    if ← nextIsIn [.closeBrace] then do take; return []
    else do
      if !first then
        if ← nextIsIn [.comma] then take else refuse "expected ',' or a closing brace"
      match ← next with
      | some .closeBrace => do take; return []
      | some .key => do
        take
        let key ← nodeUnless [.value, .comma, .closeBrace] false false fuel
        let value ← flowValue .closeBrace fuel
        return (key, value) :: (← flowEntries false fuel)
      | _ => do
        let key ← node false false fuel
        let value ← emptyNode
        return (key, value) :: (← flowEntries false fuel)

end

def bound : Assemble Nat := return (← get).tokens.length + 1

def skipDocumentEnds : Nat → Assemble Unit
  | 0 => return
  | fuel + 1 => do
    if ← nextIsIn [.documentEnd] then
      take
      skipDocumentEnds fuel

def standardHandles : List (String × String) := [("!", "!"), ("!!", standardStem)]

structure Declared where
  hasVersion : Bool := false
  handles : List (String × String) := []

def Declared.add (declared : Declared) : Directive → Assemble Declared
  | .version major _ => do
    if declared.hasVersion then refuse "found duplicate YAML directive"
    if major != 1 then refuse "found incompatible YAML document (version 1.* is required)"
    return { declared with hasVersion := true }
  | .handle name stem => do
    if (valueOf? name declared.handles).isSome then refuse "duplicate tag handle"
    return { declared with handles := declared.handles ++ [(name, stem)] }
  | .other _ => return declared

def takeDirectives : Nat → Declared → Assemble Unit
  | 0, _ => return
  | fuel + 1, declared => do
    match ← next with
    | some (.directive d) => do
      take
      takeDirectives fuel (← declared.add d)
    | _ => modify fun a => { a with handles := declared.handles ++ standardHandles }

def rootNode : Assemble Nat := do
  node true false (4 * (← bound))

/-- The content of a document that begins with a mark, which may be empty. -/
def markedDocument : Assemble Nat := do
  takeDirectives (← bound) {}
  match ← next with
  | some .documentStart => do
    take
    match ← next with
    | none => emptyNode
    | some (.directive _) => emptyNode
    | some .documentStart => emptyNode
    | some .documentEnd => emptyNode
    | some _ => rootNode
  | _ => refuse "expected '<document start>'"

def root? : Assemble (Option Nat) := do
  let id? ← match ← next with
    | none => pure none
    | some (.directive _) => some <$> markedDocument
    | some .documentStart => some <$> markedDocument
    | some _ => some <$> (do takeDirectives 1 {}; rootNode)
  skipDocumentEnds (← bound)
  match ← next with
  | none => return id?
  | some _ => do
    takeDirectives (← bound) {}
    let _ ← next
    refuse "expected a single document in the stream"

end Assemble

def Document.read? (timestamps : Bool) (input : Input) : Except Fault (Option Document) := do
  let scan := input.scan
  let (id?, a) ← Assemble.root?.run
    { tokens := scan.tokens, fault := scan.fault, timestamps := timestamps }
  return id?.map fun id => ⟨a.nodes, id⟩

end SampleTypes.Yaml
