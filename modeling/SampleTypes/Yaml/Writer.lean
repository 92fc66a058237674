import SampleTypes.Catalog.Registry
import SampleTypes.Sample
import SampleTypes.Yaml.Cursor
import SampleTypes.Yaml.Resolution

/-!
Documents written as YAML blocks in ASCII. The items of a list stand below their key without
indentation. A text is written without quotes if it reads back as the same text, else in single quotes if
they can hold it, else in double quotes. Long scalars are broken at blanks.
-/

namespace SampleTypes.Yaml

inductive ScalarStyle where
  | plain
  | single
  | double
  deriving DecidableEq, Repr

def bestWidth : Nat := 80

def isSpecial (c : Char) : Bool :=
  c != '\n' && !(0x20 ≤ c.toNat && c.toNat ≤ 0x7E)

def hasBlankBeforeBreak : List Char → Bool
  | ' ' :: '\n' :: _ => true
  | _ :: cs => hasBlankBeforeBreak cs
  | [] => false

def hasBlankAfterBreak : List Char → Bool
  | '\n' :: ' ' :: _ => true
  | _ :: cs => hasBlankAfterBreak cs
  | [] => false

def isMarkedStart (cs : List Char) : Bool :=
  Cursor.documentStart.isPrefixOf cs || Cursor.documentEnd.isPrefixOf cs ||
    (match cs with
      | [] => false
      | c :: rest =>
        "#,[]\x7b\x7d&*!|>'\"%@\x60".toList.contains c ||
          ((c = '?' || c = ':' || c = '-') && endsWord rest.head?))

/-- Whether a colon before a blank or a number sign after one would be read as a mark. -/
def hasMark (previous : Char) : List Char → Bool
  | [] => false
  | c :: rest =>
    (c = ':' && endsWord rest.head?) || (c = '#' && endsWord (some previous)) || hasMark c rest

def hasMarkInside : List Char → Bool
  | [] => false
  | c :: rest => hasMark c rest

def touchesEdge (cs : List Char) : Bool :=
  let isEdge (c : Char) : Bool := c = ' ' || c = '\n'
  cs.head?.any isEdge || cs.getLast?.any isEdge

def scalarStyle (text : String) : ScalarStyle :=
  let cs := text.toList
  if cs.any isSpecial || hasBlankBeforeBreak cs || hasBlankAfterBreak cs then .double
  else if plainTag true text = .text && !touchesEdge cs && !cs.contains '\n' &&
      !isMarkedStart cs && !hasMarkInside cs then .plain
  else .single

def newLine (indent : Nat) : List Char := '\n' :: List.replicate indent ' '

/-- The words of a text with the blanks and line ends between them, as runs of one kind. -/
def runs (cs : List Char) : List (List Char) :=
  cs.splitBy fun a b => (a == ' ') == (b == ' ') && (a == '\n') == (b == '\n')

/-- Runs written one after another from a column on; a single blank past the best width that is not
at an end is a line break. The flag says that a run is the first. -/
def writeRuns (indent : Nat) : Bool → Nat → List (List Char) → List Char
  | _, _, [] => []
  | isFirst, column, run :: rest =>
    if run.head? = some '\n' then
      List.replicate (run.length + 1) '\n' ++ List.replicate indent ' ' ++
        writeRuns indent false indent rest
    else if run = [' '] && bestWidth < column && !isFirst && !rest.isEmpty then
      newLine indent ++ writeRuns indent false indent rest
    else run ++ writeRuns indent false (column + run.length) rest

def doubleQuotes (cs : List Char) : List Char :=
  cs.flatMap fun c => if c = '\'' then ['\'', '\''] else [c]

def writeSingle (indent column : Nat) (cs : List Char) : List Char :=
  '\'' :: (writeRuns indent true (column + 1) ((runs cs).map doubleQuotes) ++ ['\''])

def escapeLetter? (c : Char) : Option Char :=
  match c with
  | '\x00' => some '0'
  | '\x07' => some 'a'
  | '\x08' => some 'b'
  | '\t' => some 't'
  | '\n' => some 'n'
  | '\x0b' => some 'v'
  | '\x0c' => some 'f'
  | '\r' => some 'r'
  | '\x1b' => some 'e'
  | '"' => some '"'
  | '\\' => some '\\'
  | '\x85' => some 'N'
  | '\xa0' => some '_'
  | '\u2028' => some 'L'
  | '\u2029' => some 'P'
  | _ => none

/-- The escape for a character that cannot stand for itself in double quotes. -/
def escape? (c : Char) : Option (List Char) :=
  match escapeLetter? c with
  | some x => some ['\\', x]
  | none =>
    if 0x20 ≤ c.toNat && c.toNat ≤ 0x7E then none
    else if c.toNat ≤ 0xFF then some ('\\' :: 'x' :: Text.hexDigits true 2 c.toNat)
    else if c.toNat ≤ 0xFFFF then some ('\\' :: 'u' :: Text.hexDigits true 4 c.toNat)
    else some ('\\' :: 'U' :: Text.hexDigits true 8 c.toNat)

/-- The text in double quotes from a column on. `held` characters stand before the next one that have
not been counted in the column yet; `inner` is false before the first character. A line is broken
after an escape or before a blank, if it is too long and a character but the last follows. -/
def writeDouble (indent : Nat) : Bool → Nat → Nat → List Char → List Char
  | _, _, _, [] => []
  | inner, column, held, c :: rest =>
    let mayBreak := inner && !rest.isEmpty
    match escape? c with
    | some e =>
      let column := column + held + e.length
      if mayBreak && bestWidth + 1 < column then
        if rest.head? = some ' ' then
          e ++ '\\' :: (newLine indent ++ '\\' :: writeDouble indent true (indent + 1) 0 rest)
        else e ++ '\\' :: (newLine indent ++ writeDouble indent true indent 0 rest)
      else e ++ writeDouble indent true column 0 rest
    | none =>
      if mayBreak && (c = ' ' || held = 0) && bestWidth < column + held then
        if c = ' ' then
          '\\' :: (newLine indent ++ '\\' :: c :: writeDouble indent true (indent + 1) 1 rest)
        else '\\' :: (newLine indent ++ c :: writeDouble indent true indent 1 rest)
      else c :: writeDouble indent true column (held + 1) rest

def scalarText (indent column : Nat) (text : String) : List Char :=
  let cs := text.toList
  match scalarStyle text with
  | .plain => writeRuns indent true column (runs cs)
  | .single => writeSingle indent column cs
  | .double => '"' :: (writeDouble indent false (column + 1) 0 cs ++ ['"'])

end SampleTypes.Yaml

namespace SampleTypes

namespace Yaml

/-- A document to be written. Its keys are plain words. -/
inductive Block where
  | text (s : String)
  | flag (b : Bool)
  | items (values : List Block)
  | entries (values : List (String × Block))

namespace Block

def keyText (indent : Nat) (key : String) : List Char :=
  List.replicate indent ' ' ++ key.toList ++ [':']

mutual

/-- What stands after a key or after the dash of an item, which ends at `column`, in a block of the
given indentation. A block after a dash begins on the same line. -/
def write (afterDash : Bool) (indent column : Nat) : Block → List Char
  | .text s => ' ' :: (scalarText (indent + 2) (column + 1) s ++ ['\n'])
  | .flag b => (if b then " true\n" else " false\n").toList
  | .items [] => " []\n".toList
  | .items (v :: vs) =>
    let inner := if afterDash then indent + 2 else indent
    (if afterDash then [' '] else newLine indent) ++ '-' :: write true inner (inner + 1) v ++
      writeItems inner vs
  | .entries [] => " \x7b\x7d\n".toList
  | .entries ((key, v) :: rest) =>
    (if afterDash then [' '] else newLine (indent + 2)) ++ keyText 0 key ++
      write false (indent + 2) (indent + 2 + key.length + 1) v ++ writeEntries (indent + 2) rest

def writeItems (indent : Nat) : List Block → List Char
  | [] => []
  | v :: vs =>
    List.replicate indent ' ' ++ '-' :: write true indent (indent + 1) v ++ writeItems indent vs

def writeEntries (indent : Nat) : List (String × Block) → List Char
  | [] => []
  | (key, v) :: rest =>
    keyText indent key ++ write false indent (indent + key.length + 1) v ++ writeEntries indent rest

end

def document (entries : List (String × Block)) : String :=
  String.ofList (writeEntries 0 entries)

end Block

def descriptionEntry (description : Option String) : List (String × Block) :=
  match description with
  | some d => if d = "" then [] else [("description", .text d)]
  | none => []

end Yaml

def Field.block (f : Field String) : Yaml.Block :=
  .entries ([("name", .text f.name), ("type", .text f.typeRef), ("required", .flag f.required)] ++
    Yaml.descriptionEntry f.description)

def TypeDecl.block (t : TypeDecl String) : Yaml.Block :=
  .entries ([("name", .text t.name), ("kind", .text t.kind.keyword)] ++
    (if t.kind = .record then [("fields", .items (t.fields.map Field.block))]
      else [("values", .items (t.alternatives.map .text))]) ++
    (if t.parents.isEmpty then [] else [("extends", .items ((sortTexts t.parents).map .text))]) ++
    Yaml.descriptionEntry t.description)

def Report.toYamlText (r : Report String) : String :=
  Yaml.Block.document [("types", .items (r.types.map TypeDecl.block)),
    ("metadata", .entries [("source", .text r.source), ("timestamp", .text r.timestamp),
      ("rootType", .text r.rootType)])]

end SampleTypes
