import SampleTypes.Console.Emoji
import SampleTypes.Console.Literal
import SampleTypes.Console.Style
import SampleTypes.Text.Word

/-!
Text with markup for a console without colors. A tag is a group in brackets that begins with a small
letter, a number sign, a slash or an at sign; it only says where a style begins or ends, and leaves no
trace. A backslash before a tag makes it plain text, and one before any other bracket vanishes. A tag
that closes what is not open is a fault. Tags that begin with an at sign carry values for a program.
-/

namespace SampleTypes.Console

inductive MarkupFault where
  | unmatched (name : String)
  | nothingOpen
  | notLiteral (text : String)
  | badColor (text : String) (fault : Decimal.WholeFault)
  deriving DecidableEq, Repr

structure Tag where
  name : List Char
  parameters : Option (List Char) := none
  deriving DecidableEq, Repr

inductive Piece where
  | text (cs : List Char)
  | tag (t : Tag)
  deriving DecidableEq, Repr

def startsTag (c : Char) : Bool :=
  ('a' ≤ c && c ≤ 'z') || c = '#' || c = '/' || c = '@'

def tagInside? (cs : List Char) : Option (List Char) :=
  match cs with
  | [] => none
  | c :: rest =>
    if startsTag c then
      let more := rest.takeWhile fun d => d != ']' && d != '['
      if (rest.drop more.length).head? = some ']' then some (c :: more) else none
    else none

def Tag.ofInside (inside : List Char) : Tag :=
  let name := inside.takeWhile (· != '=')
  match inside.drop name.length with
  | [] => ⟨name, none⟩
  | _ :: parameters => ⟨name, some parameters⟩

def plainPiece (cs : List Char) : Piece :=
  .text (withPictures (Text.replaceAll ['\\', '['] ['['] cs))

/-- A tag after plain characters, the last of them first. Of the backslashes right before it two stand
for one, and one left over makes the tag plain text. -/
def tagPieces (before inside : List Char) : List Piece :=
  let slashes := (before.takeWhile (· = '\\')).length
  [plainPiece (before.drop slashes).reverse, .text (List.replicate (slashes / 2) '\\'),
    if slashes % 2 = 1 then plainPiece ('[' :: (inside ++ [']'])) else .tag (.ofInside inside)]

/-- The pieces of a text after the plain characters given, the last of them first, and without `skip`
characters that belong to a tag. -/
def piecesFrom : Nat → List Char → List Char → List Piece
  | _, before, [] => [plainPiece before.reverse]
  | skip + 1, before, _ :: cs => piecesFrom skip before cs
  | 0, before, c :: cs =>
    match if c = '[' then tagInside? cs else none with
    | some inside => tagPieces before inside ++ piecesFrom (inside.length + 1) [] cs
    | none => piecesFrom 0 (c :: before) cs

def pieces (text : String) : List Piece := piecesFrom 0 [] text.toList

structure OpenTag where
  name : String
  parameters : Option (List Char)
  deriving DecidableEq, Repr

/-- The open tags, the last one first, without the last one of a name, and that one. -/
def closeNamed? (name : String) : List OpenTag → Option (OpenTag × List OpenTag)
  | [] => none
  | top :: rest =>
    if top.name = name then some (top, rest)
    else (closeNamed? name rest).map fun (t, rest) => (t, top :: rest)

def normalName (name : List Char) : Except MarkupFault String :=
  match normalStyle name with
  | .ok s => .ok s
  | .error (.badPart text fault) => .error (.badColor text fault)
  | .error .notColor => .ok (String.ofList name)

/-- The expression in the parameters of a tag: what stands in parentheses after a name, and an empty
tuple if there is but a name. -/
def carried (parameters : List Char) : List Char :=
  let parameters := Text.trim parameters
  match parameters.dropWhile fun c => Text.isWordChar c || c = '.' with
  | [] => "()".toList
  | '(' :: rest =>
    if rest.getLast? = some ')' && !rest.contains '\n' then '(' :: rest else parameters
  | _ => parameters

def OpenTag.isCarrier (t : OpenTag) : Bool := t.name.toList.head? = some '@'

def OpenTag.checkCarried (t : OpenTag) : Except MarkupFault Unit :=
  match t.parameters with
  | some parameters =>
    if t.isCarrier && !parameters.isEmpty && !isLiteral (carried parameters) then
      .error (.notLiteral (String.ofList parameters))
    else .ok ()
  | none => .ok ()

/-- The parameters of a tag count as words of its style, unless they are carried. -/
def OpenTag.checkStyle (t : OpenTag) : Except MarkupFault Unit :=
  match t.parameters with
  | some parameters =>
    if t.isCarrier then .ok () else (normalName (t.name.toList ++ ' ' :: parameters)).map fun _ => ()
  | none => .ok ()

def closeTag (name : List Char) (opened : List OpenTag) :
    Except MarkupFault (OpenTag × List OpenTag) := do
  let name := Text.trim name
  if name.isEmpty then
    match opened with
    | [] => throw .nothingOpen
    | t :: rest => return (t, rest)
  else
    let name ← normalName name
    match closeNamed? name opened with
    | some r => return r
    | none => throw (.unmatched name)

structure Plain where
  text : List Char := []
  tags : List OpenTag := []

def plainFrom (opened : List OpenTag) : List Piece → Except MarkupFault Plain
  | [] => .ok {}
  | .text cs :: rest => (plainFrom opened rest).map fun p => { p with text := cs ++ p.text }
  | .tag t :: rest =>
    match t.name with
    | '/' :: name => do
      let (closed, opened) ← closeTag name opened
      closed.checkCarried
      plainFrom opened rest
    | name => do
      let t : OpenTag := ⟨← normalName name, t.parameters⟩
      (plainFrom (t :: opened) rest).map fun p => { p with tags := t :: p.tags }

def isStripped (c : Char) : Bool :=
  let n := c.toNat
  n = 7 || n = 8 || n = 11 || n = 12 || n = 13

/-- The number of characters that a control sequence takes after its escape character. -/
def sequenceLength? : List Char → Option Nat
  | '[' :: cs =>
    let parameters := (cs.takeWhile fun c => c.isDigit || c = ';' || c = '?').length
    match cs.drop parameters with
    | c :: _ => if c.isAlpha then some (parameters + 2) else none
    | [] => none
  | _ => none

/-- A text without the control sequences of a terminal, after leaving out `skip` characters of one. -/
def withoutSequences : Nat → List Char → List Char
  | _, [] => []
  | skip + 1, _ :: cs => withoutSequences skip cs
  | 0, c :: cs =>
    match if c = '\x1b' then sequenceLength? cs else none with
    | some length => withoutSequences length cs
    | none => c :: withoutSequences 0 cs

def plainText (text : String) : Except MarkupFault (List Char) := do
  let p ← plainFrom [] (pieces text)
  p.tags.forM OpenTag.checkStyle
  return p.text.filter fun c => !isStripped c

end SampleTypes.Console
