import SampleTypes.Decimal
import SampleTypes.Json

/-!
Reading JSON text. The first fault is reported with its place; besides the standard grammar the words
`NaN`, `Infinity` and `-Infinity` are read as numbers. Of two members with one name the later value
counts, in the place of the first.
-/

namespace SampleTypes.Json

inductive Expectation where
  | value
  | propertyName
  | colon
  | comma
  | endOfText
  | closingQuote
  | printableCharacter
  | escape
  | unicodeEscape
  | noByteOrderMark
  deriving DecidableEq, Repr

def Expectation.message : Expectation → String
  | .value => "Expecting value"
  | .propertyName => "Expecting property name enclosed in double quotes"
  | .colon => "Expecting ':' delimiter"
  | .comma => "Expecting ',' delimiter"
  | .endOfText => "Extra data"
  | .closingQuote => "Unterminated string starting at"
  | .printableCharacter => "Invalid control character at"
  | .escape => "Invalid \\escape"
  | .unicodeEscape => "Invalid \\uXXXX escape"
  | .noByteOrderMark => "Unexpected UTF-8 BOM (decode using utf-8-sig)"

inductive ReadFault where
  | unmet (what : Expectation) (offset : Nat)
  | tooManyDigits (count : Nat)
  deriving DecidableEq, Repr

def lineOf (text : List Char) (offset : Nat) : Nat :=
  (text.take offset).count '\n' + 1

def columnOf (text : List Char) (offset : Nat) : Nat :=
  ((text.take offset).reverse.takeWhile (· != '\n')).length + 1

def ReadFault.message (text : List Char) : ReadFault → String
  | .unmet what offset =>
    what.message ++ ": line " ++ Decimal.natText (lineOf text offset) ++ " column " ++
      Decimal.natText (columnOf text offset) ++ " (char " ++ Decimal.natText offset ++ ")"
  | .tooManyDigits count => Decimal.limitMessage (some count)

structure Read (α : Type) where
  value : α
  offset : Nat
  rest : List Char

def isSpace (c : Char) : Bool :=
  c = ' ' || c = '\t' || c = '\n' || c = '\r'

def skipSpace (offset : Nat) (cs : List Char) : Nat × List Char :=
  let blanks := (cs.takeWhile isSpace).length
  (offset + blanks, cs.drop blanks)

def hexValue (c : Char) : Option Nat :=
  if '0' ≤ c && c ≤ '9' then some (c.toNat - 0x30)
  else if 'a' ≤ c && c ≤ 'f' then some (c.toNat - 0x57)
  else if 'A' ≤ c && c ≤ 'F' then some (c.toNat - 0x37)
  else none

/-- The number that four hexadecimal digits in front of a further character give. -/
def fourHex? : List Char → Option Nat
  | a :: b :: c :: d :: _ :: _ =>
    match hexValue a, hexValue b, hexValue c, hexValue d with
    | some a, some b, some c, some d => some (((a * 16 + b) * 16 + c) * 16 + d)
    | _, _, _, _ => none
  | _ => none

def simpleEscape? : Char → Option Char
  | '"' => some '"'
  | '\\' => some '\\'
  | '/' => some '/'
  | 'b' => some '\x08'
  | 'f' => some '\x0c'
  | 'n' => some '\n'
  | 'r' => some '\r'
  | 't' => some '\t'
  | _ => none

/-- Half of a pair of surrogates, which alone is no character. -/
def isSurrogate (u : Nat) : Bool :=
  0xD800 ≤ u && u ≤ 0xDFFF

/-- The code point for the code unit `u` of an escape and the number of characters taken after the
first escape, which a second escape adds to when the two form a surrogate pair. -/
def pairUp (u offset : Nat) (rest : List Char) : Except ReadFault (Nat × Nat) :=
  if 0xD800 ≤ u && u ≤ 0xDBFF then
    match rest with
    | '\\' :: 'u' :: more =>
      if more.length < 5 then .ok (u, 0)
      else
        match fourHex? more with
        | none => .error (.unmet .unicodeEscape (offset + 7))
        | some l =>
          if 0xDC00 ≤ l && l ≤ 0xDFFF then .ok (0x10000 + (u - 0xD800) * 0x400 + (l - 0xDC00), 6)
          else .ok (u, 0)
    | _ => .ok (u, 0)
  else .ok (u, 0)

/-- The code point that an escape stands for and how many characters follow its backslash, which is
at `offset`, in a text that starts at `start`. -/
def readEscape (start offset : Nat) : List Char → Except ReadFault (Nat × Nat)
  | [] => .error (.unmet .closingQuote start)
  | 'u' :: cs =>
    match fourHex? cs with
    | none => .error (.unmet .unicodeEscape (offset + 1))
    | some u => (pairUp u offset (cs.drop 4)).map fun (u, more) => (u, 5 + more)
  | c :: _ =>
    match simpleEscape? c with
    | some d => .ok (d.toNat, 1)
    | none => .error (.unmet .escape offset)

/-- Whether some escape in a text stands for half of a pair alone, after leaving out `skip` characters
that an escape has used up. -/
def namesHalf : Nat → List Char → Bool
  | _, [] => false
  | skip + 1, _ :: cs => namesHalf skip cs
  | 0, c :: cs =>
    if c = '\\' then
      match readEscape 0 0 cs with
      | .error _ => namesHalf 0 cs
      | .ok (u, used) => isSurrogate u || namesHalf used cs
    else namesHalf 0 cs

/-- The rest of a string whose opening quote is at `start`, after leaving out `skip` characters that
an escape has used up. As half of a pair is no character, U+0000 is read for it. -/
def readString (start : Nat) : Nat → Nat → List Char → Except ReadFault (Read (List Char))
  | _, _, [] => .error (.unmet .closingQuote start)
  | skip + 1, offset, _ :: cs => readString start skip (offset + 1) cs
  | 0, offset, c :: cs =>
    if c = '"' then .ok ⟨[], offset + 1, cs⟩
    else if c = '\\' then
      match readEscape start offset cs with
      | .error e => .error e
      | .ok (u, used) =>
        (readString start used (offset + 1) cs).map fun r => { r with value := Char.ofNat u :: r.value }
    else if c.toNat < 0x20 then .error (.unmet .printableCharacter offset)
    else (readString start 0 (offset + 1) cs).map fun r => { r with value := c :: r.value }

def natOfDigits (cs : List Char) : Nat :=
  cs.foldl (fun n c => n * 10 + (c.toNat - 0x30)) 0

/-- The digits after a point, if the text starts with a point and a digit. -/
def fraction? : List Char → Option (List Char)
  | '.' :: cs =>
    let ds := cs.takeWhile Char.isDigit
    if ds.isEmpty then none else some ds
  | _ => none

def exponent? : List Char → Option (Int × Nat)
  | [] => none
  | c :: cs =>
    if c = 'e' || c = 'E' then
      let (sign, digits) := match cs with
        | '-' :: more => (some '-', more)
        | '+' :: more => (some '+', more)
        | _ => (none, cs)
      let ds := digits.takeWhile Char.isDigit
      if ds.isEmpty then none
      else
        let n : Int := natOfDigits ds
        some (if sign = some '-' then -n else n, 1 + (if sign.isSome then 1 else 0) + ds.length)
    else none

def readNumber (offset : Nat) (cs : List Char) : Except ReadFault (Read Json) :=
  let (negative, body) := match cs with
    | '-' :: more => (true, more)
    | _ => (false, cs)
  let whole := match body with
    | '0' :: _ => ['0']
    | _ => body.takeWhile Char.isDigit
  if whole.isEmpty then .error (.unmet .value offset)
  else
    let afterWhole := body.drop whole.length
    let decimals := (fraction? afterWhole).getD []
    let afterFraction := if decimals.isEmpty then afterWhole else afterWhole.drop (decimals.length + 1)
    let (exponent, used) := (exponent? afterFraction).getD (0, 0)
    let rest := afterFraction.drop used
    let point := if decimals.isEmpty then 0 else 1
    let sign := if negative then 1 else 0
    let offset' := offset + (sign + whole.length + point + decimals.length + used)
    if decimals.isEmpty && used = 0 then
      if Decimal.digitLimit < whole.length then .error (.tooManyDigits whole.length)
      else
        let n : Int := natOfDigits whole
        .ok ⟨.int (if negative then -n else n), offset', rest⟩
    else
      let x := Decimal.toFloat (natOfDigits (whole ++ decimals)) (exponent - decimals.length)
      .ok ⟨.float (if negative then -x else x), offset', rest⟩

def words : List (List Char × Json) :=
  [("null".toList, .null), ("true".toList, .bool true), ("false".toList, .bool false),
    ("NaN".toList, .float (0.0 / 0.0)), ("Infinity".toList, .float (1.0 / 0.0)),
    ("-Infinity".toList, .float (-1.0 / 0.0))]

def readWord? (offset : Nat) (cs : List Char) : Option (Read Json) :=
  (words.find? fun w => w.1.isPrefixOf cs).map fun w =>
    ⟨w.2, offset + w.1.length, cs.drop w.1.length⟩

mutual

/-- A value at the start of the text. The first argument bounds the work; twice the length of the
text is enough. -/
def readValue : Nat → Nat → List Char → Except ReadFault (Read Json)
  | 0, offset, _ => .error (.unmet .value offset)
  | _ + 1, offset, [] => .error (.unmet .value offset)
  | fuel + 1, offset, c :: cs =>
    if c = '"' then
      (readString offset 0 (offset + 1) cs).map fun r =>
        ⟨.str (String.ofList r.value), r.offset, r.rest⟩
    else if c = '\x7b' then
      match skipSpace (offset + 1) cs with
      | (offset, '\x7d' :: rest) => .ok ⟨.obj [], offset + 1, rest⟩
      | (offset, rest) =>
        (readMembers fuel [] offset rest).map fun r => ⟨.obj r.value, r.offset, r.rest⟩
    else if c = '[' then
      match skipSpace (offset + 1) cs with
      | (offset, ']' :: rest) => .ok ⟨.arr [], offset + 1, rest⟩
      | (offset, rest) => (readItems fuel offset rest).map fun r => ⟨.arr r.value, r.offset, r.rest⟩
    else
      match readWord? offset (c :: cs) with
      | some r => .ok r
      | none => readNumber offset (c :: cs)

def readItems : Nat → Nat → List Char → Except ReadFault (Read (List Json))
  | 0, offset, _ => .error (.unmet .value offset)
  | fuel + 1, offset, cs =>
    match readValue fuel offset cs with
    | .error e => .error e
    | .ok r =>
      match skipSpace r.offset r.rest with
      | (offset, ']' :: rest) => .ok ⟨[r.value], offset + 1, rest⟩
      | (offset, ',' :: rest) =>
        let (offset, rest) := skipSpace (offset + 1) rest
        (readItems fuel offset rest).map fun more => { more with value := r.value :: more.value }
      | (offset, _) => .error (.unmet .comma offset)

/-- One or more members up to the closing brace, added to those read before. -/
def readMembers : Nat → List (String × Json) → Nat → List Char →
    Except ReadFault (Read (List (String × Json)))
  | 0, _, offset, _ => .error (.unmet .value offset)
  | fuel + 1, before, offset, cs =>
    match cs with
    | '"' :: cs =>
      match readString offset 0 (offset + 1) cs with
      | .error e => .error e
      | .ok name =>
        match skipSpace name.offset name.rest with
        | (offset, ':' :: rest) =>
          let (offset, rest) := skipSpace (offset + 1) rest
          match readValue fuel offset rest with
          | .error e => .error e
          | .ok r =>
            let members := putValue (String.ofList name.value) r.value before
            match skipSpace r.offset r.rest with
            | (offset, '\x7d' :: rest) => .ok ⟨members, offset + 1, rest⟩
            | (offset, ',' :: rest) =>
              let (offset, rest) := skipSpace (offset + 1) rest
              readMembers fuel members offset rest
            | (offset, _) => .error (.unmet .comma offset)
        | (offset, _) => .error (.unmet .colon offset)
    | _ => .error (.unmet .propertyName offset)

end

def read (text : List Char) : Except ReadFault Json :=
  if text.head? = some (Char.ofNat 0xFEFF) then .error (.unmet .noByteOrderMark 0)
  else
    let (offset, rest) := skipSpace 0 text
    match readValue (2 * text.length + 2) offset rest with
    | .error e => .error e
    | .ok r =>
      match skipSpace r.offset r.rest with
      | (_, []) => .ok r.value
      | (offset, _) => .error (.unmet .endOfText offset)

end SampleTypes.Json
