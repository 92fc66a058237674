import SampleTypes.Yaml.Fault

/-!
A place in a YAML text, and the tokens of the text. Line ends are line feeds, next-line characters and the
line and paragraph separators; a byte order mark takes no column. Indentation and the keys that are marked
only by a colon after them show in the tokens as starts and ends of blocks and as keys.
-/

namespace SampleTypes.Yaml

def isBreak (c : Char) : Bool :=
  c = '\n' || c = '\x85' || c = '\u2028' || c = '\u2029'

def isBlankOrTab (c : Char) : Bool := c = ' ' || c = '\t'

def byteOrderMark : Char := '\ufeff'

/-- Whether a word ends before this character: at the end of the text, a blank, a tab or a line
end. -/
def endsWord (next : Option Char) : Bool :=
  next.all fun c => isBlankOrTab c || isBreak c

def endsItem (next : Option Char) : Bool :=
  next.all fun c => c = ' ' || isBreak c

def endsLine (next : Option Char) : Bool := next.all isBreak

structure Cursor where
  rest : List Char
  index : Nat := 0
  line : Nat := 0
  column : Nat := 0
  ending : Option Fault := none

namespace Cursor

def peek (c : Cursor) : Option Char := c.rest.head?

def peekAt (c : Cursor) (n : Nat) : Option Char := (c.rest.drop n).head?

def forward (c : Cursor) : Cursor :=
  match c.rest with
  | [] => c
  | x :: rest =>
    let column := if isBreak x then 0 else if x = byteOrderMark then c.column else c.column + 1
    { c with
      rest := rest
      index := c.index + 1
      line := if isBreak x then c.line + 1 else c.line
      column := column }

def ending? (c : Cursor) : Option Fault := if c.rest.isEmpty then c.ending else none

/-- What is wrong with the text here, unless the rest of it could not be read. -/
def malformed (c : Cursor) (what : String) : Fault := c.ending?.getD (.malformed what)

def skip : Nat → Cursor → Cursor
  | 0, c => c
  | n + 1, c => skip n c.forward

def span (p : Char → Bool) (c : Cursor) : List Char × Cursor :=
  let run := c.rest.takeWhile p
  (run, c.skip run.length)

def skipBlanks (c : Cursor) : Cursor := (c.span (· = ' ')).2

def skipComment (c : Cursor) : Cursor :=
  if c.peek = some '#' then (c.span fun x => !isBreak x).2 else c

/-- The line end that is here, a next-line character counting as a line feed. -/
def lineBreak? (c : Cursor) : Option (Char × Cursor) :=
  match c.peek with
  | some x => if isBreak x then some (if x = '\x85' then '\n' else x, c.forward) else none
  | none => none

def skipBreak (c : Cursor) : Cursor :=
  match c.lineBreak? with
  | some (_, next) => next
  | none => c

def atMark (mark : List Char) (c : Cursor) : Bool :=
  mark.isPrefixOf c.rest && endsWord (c.peekAt 3)

def documentStart : List Char := ['-', '-', '-']
def documentEnd : List Char := ['.', '.', '.']

def atDocumentMark (c : Cursor) : Bool := c.atMark documentStart || c.atMark documentEnd

def finishLine (what : String) (c : Cursor) : Except Fault Cursor :=
  let c := c.skipBlanks.skipComment
  if endsLine c.peek then .ok c.skipBreak
  else .error (c.malformed ("expected a comment or a line break after " ++ what))

end Cursor

inductive Directive where
  | version (major minor : Nat)
  | handle (name stem : String)
  | other (name : String)
  deriving DecidableEq, Repr

structure TagText where
  handle : Option String
  text : String
  deriving DecidableEq, Repr

inductive Token where
  | directive (d : Directive)
  | documentStart
  | documentEnd
  | sequenceStart
  | mappingStart
  | blockEnd
  | openBracket
  | closeBracket
  | openBrace
  | closeBrace
  | key
  | value
  | entry
  | comma
  | alias (name : String)
  | anchor (name : String)
  | tag (t : TagText)
  | scalar (text : String) (plain : Bool)
  deriving DecidableEq, Repr

end SampleTypes.Yaml
