import SampleTypes.Yaml.Cursor

/-!
Scalars without quotes, in quotes, and given by the lines of a block. Those without quotes go on over line
ends as long as the lines are indented, and end before a comment and before a colon that marks a key. In
quotes line ends are folded, and in double quotes a backslash starts an escape. In a block line ends are
kept in literal style; in folded style a single line end between two lines that do not begin with a blank
is a blank.
-/

namespace SampleTypes.Yaml

def flowMarks : List Char := [',', '?', '[', ']', '\x7b', '\x7d']

def marksKey (inFlow : Bool) (next : Option Char) : Bool :=
  endsWord next || (inFlow && next.any fun c => [',', '[', ']', '\x7b', '\x7d'].contains c)

def plainRun (inFlow : Bool) : List Char → Nat
  | [] => 0
  | c :: cs =>
    if isBlankOrTab c || isBreak c || (c = ':' && marksKey inFlow cs.head?) ||
        (inFlow && flowMarks.contains c) then 0
    else plainRun inFlow cs + 1

/-- Line ends folded: a single one is a blank, of more the first is left out. -/
def fold (first : Char) (more : List Char) : List Char :=
  if first != '\n' then first :: more
  else if more.isEmpty then [' ']
  else more

/-- The line ends after the first one, with the blanks between them; nothing if a mark of a document
follows. The first argument bounds the work. -/
def moreBreaks : Nat → List Char → Cursor → Option (List Char) × Cursor
  | 0, breaks, c => (some breaks, c)
  | fuel + 1, breaks, c =>
    match c.lineBreak? with
    | some (b, next) =>
      if next.atDocumentMark then (none, next) else moreBreaks fuel (breaks ++ [b]) next
    | none => if c.peek = some ' ' then moreBreaks fuel breaks c.forward else (some breaks, c)

structure Gap where
  text : List Char
  hasBreak : Bool
  after : Cursor

def gap (c : Cursor) : Gap :=
  let (blanks, c) := c.span (· = ' ')
  match c.lineBreak? with
  | none => ⟨blanks, false, c⟩
  | some (first, c) =>
    if c.atDocumentMark then ⟨[], true, c⟩
    else
      match moreBreaks c.rest.length [] c with
      | (none, c) => ⟨[], true, c⟩
      | (some more, c) => ⟨fold first more, true, c⟩

/-- A plain scalar, whether it ran over a line end at last, and the place after it. -/
structure PlainText where
  text : List Char
  hasBreak : Bool
  after : Cursor

def plainFrom (inFlow : Bool) (indent : Int) : Nat → List Char → Gap → PlainText
  | 0, text, g => ⟨text, g.hasBreak, g.after⟩
  | fuel + 1, text, g =>
    let n := plainRun inFlow g.after.rest
    if n = 0 then ⟨text, g.hasBreak, g.after⟩
    else
      let text := text ++ g.text ++ g.after.rest.take n
      let g := gap (g.after.skip n)
      if g.text.isEmpty || g.after.peek = some '#' || (!inFlow && (g.after.column : Int) < indent) then
        ⟨text, g.hasBreak, g.after⟩
      else plainFrom inFlow indent fuel text g

def plainText (inFlow : Bool) (indent : Int) (c : Cursor) : PlainText :=
  plainFrom inFlow indent c.rest.length [] ⟨[], false, c⟩

def escaped? : Char → Option Char
  | '0' => some '\x00'
  | 'a' => some '\x07'
  | 'b' => some '\x08'
  | 't' => some '\t'
  | '\t' => some '\t'
  | 'n' => some '\n'
  | 'v' => some '\x0b'
  | 'f' => some '\x0c'
  | 'r' => some '\r'
  | 'e' => some '\x1b'
  | ' ' => some ' '
  | '"' => some '"'
  | '\\' => some '\\'
  | '/' => some '/'
  | 'N' => some '\x85'
  | '_' => some '\xa0'
  | 'L' => some '\u2028'
  | 'P' => some '\u2029'
  | _ => none

def escapeWidth? : Char → Option Nat
  | 'x' => some 2
  | 'u' => some 4
  | 'U' => some 8
  | _ => none

def hexDigit? (c : Char) : Option Nat :=
  if '0' ≤ c && c ≤ '9' then some (c.toNat - 0x30)
  else if 'a' ≤ c && c ≤ 'f' then some (c.toNat - 0x57)
  else if 'A' ≤ c && c ≤ 'F' then some (c.toNat - 0x37)
  else none

/-- The number that so many hexadecimal digits give, after what the digits before them do. -/
def hexNumber (fault : String) : Nat → Nat → Cursor → Except Fault Nat
  | 0, n, _ => .ok n
  | width + 1, n, c =>
    match c.peek.bind hexDigit? with
    | some d => hexNumber fault width (n * 16 + d) c.forward
    | none => .error (c.malformed fault)

def quotedBreaks : Nat → List Char → Cursor → Except Fault (List Char × Cursor)
  | 0, breaks, c => .ok (breaks, c)
  | fuel + 1, breaks, c =>
    if c.atDocumentMark then .error ((c.skip 3).malformed "found unexpected document separator")
    else
      let c := (c.span isBlankOrTab).2
      match c.lineBreak? with
      | some (b, next) => quotedBreaks fuel (breaks ++ [b]) next
      | none => .ok (breaks, c)

/-- The text of an escape whose backslash has been passed, and the place after it. For a surrogate,
which is no character, U+0000 is read. -/
def readEscape (c : Cursor) : Except Fault (List Char × Cursor) :=
  match c.peek with
  | none => .error (c.malformed "found unexpected end of stream")
  | some x =>
    match escaped? x, escapeWidth? x with
    | some y, _ => .ok ([y], c.forward)
    | none, some width => do
      let code ← hexNumber "expected escape sequence of hexadecimal numbers" width 0 c.forward
      if code < 0x110000 then return ([Char.ofNat code], c.forward.skip width)
      else throw (.notCodePoint code)
    | none, none =>
      if isBreak x then quotedBreaks c.rest.length [] c.forward
      else .error (c.malformed "found unknown escape character")

def quotedSpaces (c : Cursor) : Except Fault (List Char × Cursor) :=
  let (blanks, c) := c.span isBlankOrTab
  match c.peek with
  | none => .error (c.malformed "found unexpected end of stream")
  | some _ =>
    match c.lineBreak? with
    | none => .ok (blanks, c)
    | some (first, c) =>
      (quotedBreaks c.rest.length [] c).map fun (more, c) => (fold first more, c)

/-- The rest of a scalar after its opening quote, up to the closing one. The first argument bounds
the work. -/
def quotedFrom (double : Bool) : Nat → List Char → Cursor → Except Fault (List Char × Cursor)
  | 0, _, c => .error (c.malformed "found unexpected end of stream")
  | fuel + 1, text, c =>
    match c.peek with
    | none => .error (c.malformed "found unexpected end of stream")
    | some x =>
      if isBlankOrTab x || isBreak x then do
        let (spaces, c) ← quotedSpaces c
        quotedFrom double fuel (text ++ spaces) c
      else if double && x = '\\' then do
        let (more, c) ← readEscape c.forward
        quotedFrom double fuel (text ++ more) c
      else if x = (if double then '"' else '\'') then
        if !double && c.peekAt 1 = some '\'' then quotedFrom double fuel (text ++ ['\'']) (c.skip 2)
        else .ok (text, c.forward)
      else
        let (run, c) := c.span fun y =>
          !(y = '\'' || y = '"' || y = '\\' || isBlankOrTab y || isBreak y)
        if run.isEmpty then quotedFrom double fuel (text ++ [x]) c.forward
        else quotedFrom double fuel (text ++ run) c

def quotedText (double : Bool) (c : Cursor) : Except Fault (List Char × Cursor) :=
  quotedFrom double (c.rest.length + 1) [] c.forward

inductive Chomping where
  | clip
  | strip
  | keep
  deriving DecidableEq, Repr

structure BlockHeader where
  chomping : Chomping := .clip
  indent : Option Nat := none

def chomping? (c : Cursor) : Option Chomping × Cursor :=
  match c.peek with
  | some '+' => (some .keep, c.forward)
  | some '-' => (some .strip, c.forward)
  | _ => (none, c)

def blockIndent? (c : Cursor) : Except Fault (Option Nat × Cursor) :=
  match c.peek with
  | some x =>
    if x = '0' then .error (c.malformed "expected indentation indicator in the range 1-9, but found 0")
    else if x.isDigit then .ok (some (x.toNat - 0x30), c.forward)
    else .ok (none, c)
  | none => .ok (none, c)

def blockHeader (c : Cursor) : Except Fault (BlockHeader × Cursor) := do
  let (before, c) := chomping? c
  let (indent, c) ← blockIndent? c
  let (after, c) := if before.isNone && indent.isSome then chomping? c else (none, c)
  if endsItem c.peek then return (⟨(before <|> after).getD .clip, indent⟩, c)
  else throw (c.malformed "expected chomping or indentation indicators")

/-- Empty lines at the start of a block: their line ends, the widest indentation met and the place
after them. -/
def leadingLines : Nat → List Char → Nat → Cursor → List Char × Nat × Cursor
  | 0, breaks, widest, c => (breaks, widest, c)
  | fuel + 1, breaks, widest, c =>
    match c.lineBreak? with
    | some (b, next) => leadingLines fuel (breaks ++ [b]) widest next
    | none =>
      if c.peek = some ' ' then leadingLines fuel breaks (max widest c.forward.column) c.forward
      else (breaks, widest, c)

def skipIndent (indent : Nat) (c : Cursor) : Cursor :=
  c.skip (min (c.rest.takeWhile (· = ' ')).length (indent - c.column))

/-- Empty lines inside a block, with the indentation of the line after them. -/
def blockBreaks (indent : Nat) : Nat → List Char → Cursor → List Char × Cursor
  | 0, breaks, c => (breaks, c)
  | fuel + 1, breaks, c =>
    let c := skipIndent indent c
    match c.lineBreak? with
    | some (b, next) => blockBreaks indent fuel (breaks ++ [b]) next
    | none => (breaks, c)

def continuesBlock (indent : Nat) (c : Cursor) : Bool :=
  c.column = indent && c.peek.isSome

def startsBlank (c : Cursor) : Bool := c.peek.any isBlankOrTab

def lineEnd (c : Cursor) : List Char × Cursor :=
  match c.lineBreak? with
  | some (b, next) => ([b], next)
  | none => ([], c)

/-- The lines of a block, after the line ends that stand before them, and what is kept of the line
ends after them. The first argument bounds the work. -/
def blockLines (folded : Bool) (chomping : Chomping) (indent : Nat) :
    Nat → List Char → List Char → Cursor → List Char × Cursor
  | 0, text, _, c => (text, c)
  | fuel + 1, text, breaks, c =>
    let (line, next) := c.span fun x => !isBreak x
    let text := text ++ breaks ++ line
    let (lineBreak, next) := lineEnd next
    let (breaks, next) := blockBreaks indent next.rest.length [] next
    if continuesBlock indent next then
      let glue := if folded && lineBreak = ['\n'] && !startsBlank c && !startsBlank next then
          if breaks.isEmpty then [' '] else []
        else lineBreak
      blockLines folded chomping indent fuel (text ++ glue) breaks next
    else
      match chomping with
      | .strip => (text, next)
      | .clip => (text ++ lineBreak, next)
      | .keep => (text ++ lineBreak ++ breaks, next)

/-- The text of a block whose indicator is here, inside a block of the given indentation. -/
def blockText (folded : Bool) (outer : Int) (c : Cursor) : Except Fault (List Char × Cursor) := do
  let (header, c) ← blockHeader c.forward
  let c ← c.finishLine "block scalar"
  let least := (max (outer + 1) 1).toNat
  let (breaks, indent, c) := match header.indent with
    | none =>
      let (breaks, widest, c) := leadingLines c.rest.length [] 0 c
      (breaks, max least widest, c)
    | some n =>
      let indent := least + n - 1
      let (breaks, c) := blockBreaks indent c.rest.length [] c
      (breaks, indent, c)
  if continuesBlock indent c then
    return blockLines folded header.chomping indent c.rest.length [] breaks c
  else if header.chomping = .keep then return (breaks, c)
  else return ([], c)

end SampleTypes.Yaml
