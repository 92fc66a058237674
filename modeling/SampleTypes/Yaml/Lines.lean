import SampleTypes.Text.Utf8
import SampleTypes.Yaml.Fault
import SampleTypes.Yaml.Property
import SampleTypes.Yaml.Scalar

/-!
From text to tokens. The text of a file is read page by page; what comes before a page that cannot be read
is a text that breaks off, and the fault in the page is met only where the text is needed that far. A token
that may be a key is remembered with its place; when a colon follows it on its line, the key and, if the
column is new, the start of a mapping are put in before it. Where a fault ends the reading, the tokens
before it count as far as nothing can be put in before them any more.
-/

namespace SampleTypes.Yaml

def isAllowed (c : Char) : Bool :=
  let n := c.toNat
  n = 0x09 || n = 0x0A || n = 0x0D || (0x20 ≤ n && n ≤ 0x7E) || n = 0x85 ||
    (0xA0 ≤ n && n ≤ 0xD7FF) || (0xE000 ≤ n && n ≤ 0xFFFD) || 0x10000 ≤ n

structure Input where
  text : List Char
  fault : Option Fault
  deriving DecidableEq, Repr

namespace Input

def pageSize : Nat := 4096

abbrev Page := Except Text.Utf8Fault (List Char × Text.Stream)

def firstPage (s : Text.Stream) : Page := do
  let (front, s) ← s.read pageSize
  let (back, s) ← s.read pageSize
  return (front ++ back, s)

/-- The text from a page on; an empty page is the end. The first argument bounds the number of
pages. -/
def fromPage : Nat → Page → Input
  | 0, _ => ⟨[], none⟩
  | _, .error fault => ⟨[], some (.undecodable fault)⟩
  | _, .ok ([], _) => ⟨[], none⟩
  | fuel + 1, .ok (page, s) =>
    if page.all isAllowed then
      let more := fromPage fuel (s.read pageSize)
      ⟨page ++ more.text, more.fault⟩
    else ⟨[], some (.malformed "special characters are not allowed")⟩

def ofBytes (bytes : List UInt8) : Input :=
  fromPage (bytes.length + 1) (firstPage { bytes := bytes })

end Input

structure PossibleKey where
  position : Nat
  required : Bool
  index : Nat
  line : Nat
  column : Nat

def longestKey : Nat := 1024

def PossibleKey.isStale (k : PossibleKey) (c : Cursor) : Bool :=
  k.line != c.line || k.index + longestKey < c.index

structure Scan where
  tokens : List Token
  fault : Option Fault

structure Reader where
  cursor : Cursor
  found : List Token := []
  count : Nat := 0
  depth : Nat := 0
  indent : Int := -1
  outerIndents : List Int := []
  keyAllowed : Bool := true
  keys : List (Nat × PossibleKey) := []

namespace Reader

abbrev Result := Except Fault Reader

def inFlow (r : Reader) : Bool := r.depth != 0

def push (t : Token) (r : Reader) : Reader := { r with found := t :: r.found, count := r.count + 1 }

def insert (position : Nat) (t : Token) (r : Reader) : Reader :=
  let after := r.count - position
  { r with found := r.found.take after ++ t :: r.found.drop after, count := r.count + 1 }

def moveTo (c : Cursor) (r : Reader) : Reader := { r with cursor := c }

def allow (keyAllowed : Bool) (r : Reader) : Reader := { r with keyAllowed := keyAllowed }

def missingColon : Fault := .malformed "could not find expected ':'"

def dropStaleKeys (r : Reader) : Result :=
  if r.keys.any fun k => k.2.isStale r.cursor && k.2.required then .error missingColon
  else .ok { r with keys := r.keys.filter fun k => !k.2.isStale r.cursor }

def dropKey (r : Reader) : Result :=
  if r.keys.any fun k => k.1 = r.depth && k.2.required then .error missingColon
  else .ok { r with keys := r.keys.filter fun k => k.1 != r.depth }

def noteKey (r : Reader) : Result :=
  if r.keyAllowed then do
    let c := r.cursor
    let key : PossibleKey :=
      ⟨r.count, !r.inFlow && r.indent = (c.column : Int), c.index, c.line, c.column⟩
    let r ← r.dropKey
    return { r with keys := r.keys ++ [(r.depth, key)] }
  else .ok r

def unwindTo (column : Int) (r : Reader) : Reader :=
  if r.inFlow then r
  else
    let closed := (r.indent :: r.outerIndents).takeWhile (column < ·)
    match (r.indent :: r.outerIndents).drop closed.length with
    | indent :: outer =>
      closed.foldl (fun r _ => r.push .blockEnd) { r with indent := indent, outerIndents := outer }
    | [] => r

/-- Whether a column is further in than the block, with that column as the new indentation. -/
def deepen (column : Nat) (r : Reader) : Bool × Reader :=
  if r.indent < column then
    (true, { r with indent := column, outerIndents := r.indent :: r.outerIndents })
  else (false, r)

def startBlock (start : Token) (r : Reader) : Reader :=
  match r.deepen r.cursor.column with
  | (true, r) => r.push start
  | (false, r) => r

def skipToToken : Nat → Reader → Reader
  | 0, r => r
  | fuel + 1, r =>
    let c := r.cursor.skipBlanks.skipComment
    match c.lineBreak? with
    | some (_, next) => skipToToken fuel ((r.moveTo next).allow (r.keyAllowed || !r.inFlow))
    | none => r.moveTo c

def skipByteOrderMark (r : Reader) : Reader :=
  if r.cursor.index = 0 && r.cursor.peek = some byteOrderMark then r.moveTo r.cursor.forward else r

def betweenDocuments (r : Reader) : Result :=
  (r.unwindTo (-1)).dropKey.map (·.allow false)

def readDirective (r : Reader) : Result := do
  let r ← r.betweenDocuments
  let (d, c) ← directive r.cursor
  return (r.push (.directive d)).moveTo c

def readDocumentMark (t : Token) (r : Reader) : Result := do
  let r ← r.betweenDocuments
  return (r.push t).moveTo (r.cursor.skip 3)

def readOpening (t : Token) (r : Reader) : Result := do
  let r ← r.noteKey
  return { (r.push t).moveTo r.cursor.forward with depth := r.depth + 1, keyAllowed := true }

def readClosing (t : Token) (r : Reader) : Result := do
  let r ← r.dropKey
  if r.depth = 0 then
    throw (r.cursor.forward.malformed "found a closing bracket without an opening one")
  return { (r.push t).moveTo r.cursor.forward with depth := r.depth - 1, keyAllowed := false }

def readComma (r : Reader) : Result := do
  let r ← (r.allow true).dropKey
  return (r.push .comma).moveTo r.cursor.forward

def readEntry (r : Reader) : Result := do
  if !r.inFlow && !r.keyAllowed then throw (.malformed "sequence entries are not allowed here")
  let r := if r.inFlow then r else r.startBlock .sequenceStart
  let r ← (r.allow true).dropKey
  return (r.push .entry).moveTo r.cursor.forward

def readKey (r : Reader) : Result := do
  if !r.inFlow && !r.keyAllowed then throw (.malformed "mapping keys are not allowed here")
  let r := if r.inFlow then r else r.startBlock .mappingStart
  let r ← (r.allow !r.inFlow).dropKey
  return (r.push .key).moveTo r.cursor.forward

def confirmKey (k : PossibleKey) (r : Reader) : Reader :=
  let r := { r with keys := r.keys.filter fun p => p.1 != r.depth }.insert k.position .key
  let r := if r.inFlow then r
    else match r.deepen k.column with
      | (true, r) => r.insert k.position .mappingStart
      | (false, r) => r
  r.allow false

def openValue (r : Reader) : Result := do
  if !r.inFlow && !r.keyAllowed then throw (.malformed "mapping values are not allowed here")
  let r := if r.inFlow then r else r.startBlock .mappingStart
  (r.allow !r.inFlow).dropKey

def readValue (r : Reader) : Result := do
  let r ← match r.keys.find? fun k => k.1 = r.depth with
    | some (_, k) => pure (r.confirmKey k)
    | none => r.openValue
  return (r.push .value).moveTo r.cursor.forward

def readName (make : String → Token) (r : Reader) : Result := do
  let r ← r.noteKey
  let (name, c) ← anchorName r.cursor
  return ((r.allow false).push (make name)).moveTo c

def readTag (r : Reader) : Result := do
  let r ← r.noteKey
  let (t, c) ← tagText r.cursor
  return ((r.allow false).push (.tag t)).moveTo c

def readBlock (folded : Bool) (r : Reader) : Result := do
  let r ← (r.allow true).dropKey
  let (text, c) ← blockText folded r.indent r.cursor
  return (r.push (.scalar (String.ofList text) false)).moveTo c

def readQuoted (double : Bool) (r : Reader) : Result := do
  let r ← r.noteKey
  let (text, c) ← quotedText double r.cursor
  return ((r.allow false).push (.scalar (String.ofList text) false)).moveTo c

def readPlain (r : Reader) : Result := do
  let r ← r.noteKey
  let p := plainText r.inFlow (r.indent + 1) r.cursor
  return ((r.allow p.hasBreak).push (.scalar (String.ofList p.text) true)).moveTo p.after

/-- The characters that begin no plain scalar, unless what follows them makes them do so. -/
def indicators : List Char := "-?:,[]\x7b\x7d#&*!|>'\"%@\x60".toList

def startsPlain (r : Reader) (x : Char) : Bool :=
  !(isBlankOrTab x || indicators.contains x) ||
    (!endsWord (r.cursor.peekAt 1) && (x = '-' || (!r.inFlow && (x = '?' || x = ':'))))

def readToken (x : Char) (r : Reader) : Result :=
  let c := r.cursor
  if c.column = 0 && x = '%' then r.readDirective
  else if c.column = 0 && c.atMark Cursor.documentStart then r.readDocumentMark .documentStart
  else if c.column = 0 && c.atMark Cursor.documentEnd then r.readDocumentMark .documentEnd
  else if x = '[' then r.readOpening .openBracket
  else if x = '\x7b' then r.readOpening .openBrace
  else if x = ']' then r.readClosing .closeBracket
  else if x = '\x7d' then r.readClosing .closeBrace
  else if x = ',' then r.readComma
  else if x = '-' && endsWord (c.peekAt 1) then r.readEntry
  else if x = '?' && (r.inFlow || endsWord (c.peekAt 1)) then r.readKey
  else if x = ':' && (r.inFlow || endsWord (c.peekAt 1)) then r.readValue
  else if x = '*' then r.readName .alias
  else if x = '&' then r.readName .anchor
  else if x = '!' then r.readTag
  else if x = '|' && !r.inFlow then r.readBlock false
  else if x = '>' && !r.inFlow then r.readBlock true
  else if x = '\'' then r.readQuoted false
  else if x = '"' then r.readQuoted true
  else if r.startsPlain x then r.readPlain
  else .error (.malformed "found character that cannot start any token")

def goOn (r : Reader) : Result :=
  match r.cursor.ending? with
  | some fault => .error fault
  | none => .ok r

/-- The next token with what comes before it, or at the end of the text the ends of all blocks. -/
def step (r : Reader) : Except Fault (Bool × Reader) := do
  let r ← (r.skipByteOrderMark.skipToToken r.cursor.rest.length).goOn
  let r ← r.dropStaleKeys
  let r := r.unwindTo r.cursor.column
  match r.cursor.peek with
  | none => return (true, ← (r.unwindTo (-1)).dropKey)
  | some x => return (false, ← (← (← r.readToken x).goOn).dropStaleKeys)

def settled (r : Reader) : Nat := r.keys.foldl (fun n k => min n k.2.position) r.count

/-- All tokens from here on. The first argument bounds the work; each token takes a character. -/
def readAll : Nat → Reader → Scan
  | 0, r => ⟨r.found.reverse, some (.malformed "the text is too long")⟩
  | fuel + 1, r =>
    match r.step with
    | .error fault => ⟨r.found.reverse.take r.settled, some fault⟩
    | .ok (true, r) => ⟨r.found.reverse, none⟩
    | .ok (false, r) => readAll fuel r

end Reader

def Input.scan (i : Input) : Scan :=
  Reader.readAll (i.text.length + 1) { cursor := { rest := i.text, ending := i.fault } }

end SampleTypes.Yaml
