import SampleTypes.Decimal
import SampleTypes.Text.Utf8

/-!
Expressions that give a value without any computing: numbers, texts and byte strings in quotes, a few
words, and tuples, maps and sets of them. Only whether a text is one of them is of interest.
-/

namespace SampleTypes.Console

namespace Literal

inductive Token where
  | number (imaginary : Bool)
  | text (isBytes : Bool)
  | word (w : String)
  | mark (c : Char)
  | dots
  | lineEnd
  deriving DecidableEq, Repr

def isNameStart (c : Char) : Bool := c.isAlpha || c = '_' || 0x80 ≤ c.toNat

def isNameChar (c : Char) : Bool := isNameStart c || c.isDigit

/-- Digits with single underscores between them at the start of a text: their number, underscores
included. -/
def digitRun (isDigit : Char → Bool) : List Char → Nat
  | [] => 0
  | c :: cs =>
    if isDigit c then digitRun isDigit cs + 1
    else
      match c, cs with
      | '_', d :: _ => if isDigit d then digitRun isDigit cs + 1 else 0
      | _, _ => 0

def digitsLength (isDigit : Char → Bool) (cs : List Char) : Nat :=
  if cs.head?.any isDigit then digitRun isDigit cs else 0

def isBaseDigit (letter c : Char) : Bool :=
  if letter = 'x' || letter = 'X' then c.isDigit || ('a' ≤ c && c ≤ 'f') || ('A' ≤ c && c ≤ 'F')
  else if letter = 'o' || letter = 'O' then '0' ≤ c && c ≤ '7'
  else c = '0' || c = '1'

def pointLength (cs : List Char) : Nat :=
  match cs with
  | '.' :: rest => digitsLength Char.isDigit rest + 1
  | _ => 0

def exponentLength (cs : List Char) : Nat :=
  match cs with
  | e :: rest =>
    if e = 'e' || e = 'E' then
      let signed := rest.head?.any fun c => c = '+' || c = '-'
      let n := digitsLength Char.isDigit (if signed then rest.drop 1 else rest)
      if n = 0 then 0 else n + (if signed then 2 else 1)
    else 0
  | [] => 0

def isWholeText (cs : List Char) : Bool :=
  let digits := cs.filter (· != '_')
  (digits.head? != some '0' || digits.all (· = '0')) && digits.length ≤ Decimal.digitLimit

/-- The length of the number that a text begins with, and whether it is imaginary. -/
def number? (cs : List Char) : Option (Nat × Bool) :=
  let based :=
    match cs with
    | '0' :: letter :: rest =>
      if "xXoObB".toList.contains letter then
        let mark := if rest.head? = some '_' then 1 else 0
        some (digitsLength (isBaseDigit letter) (rest.drop mark), mark + 2)
      else none
    | _ => none
  match based with
  | some (0, _) => none
  | some (n, mark) => some (n + mark, false)
  | none =>
    let whole := digitsLength Char.isDigit cs
    let point := pointLength (cs.drop whole)
    if whole = 0 && point < 2 then none
    else
      let exponent := exponentLength (cs.drop (whole + point))
      let n := whole + point + exponent
      let imaginary := (cs.drop n).head?.any fun c => c = 'j' || c = 'J'
      if imaginary then some (n + 1, true)
      else if point + exponent = 0 && !isWholeText (cs.take whole) then none
      else some (n, false)

structure Quoting where
  isBytes : Bool
  isRaw : Bool

def quoting? (letters : List Char) : Option Quoting :=
  match String.ofList (letters.map Char.toLower) with
  | "" => some ⟨false, false⟩
  | "u" => some ⟨false, false⟩
  | "r" => some ⟨false, true⟩
  | "b" => some ⟨true, false⟩
  | "br" => some ⟨true, true⟩
  | "rb" => some ⟨true, true⟩
  | _ => none

def hexOf (cs : List Char) : Option Nat :=
  cs.foldl (fun n c => n.bind fun n =>
    if c.isDigit then some (n * 16 + (c.toNat - 0x30))
    else if 'a' ≤ c && c ≤ 'f' then some (n * 16 + (c.toNat - 0x57))
    else if 'A' ≤ c && c ≤ 'F' then some (n * 16 + (c.toNat - 0x37))
    else none) (some 0)

/-- Whether the next characters are so many hexadecimal digits of a code point. -/
def hasCode (width : Nat) (cs : List Char) : Bool :=
  width ≤ cs.length && (hexOf (cs.take width)).any (· < 0x110000)

/-- Whether an escape may stand in a text, given what follows its backslash. -/
def isEscape (q : Quoting) : List Char → Bool
  | [] => false
  | c :: cs =>
    if q.isBytes && 0x7F < c.toNat then false
    else if q.isRaw then true
    else if c = 'x' then hasCode 2 cs
    else if q.isBytes then true
    else if c = 'u' then hasCode 4 cs
    else if c = 'U' then hasCode 8 cs
    else if c = 'N' then
      cs.head? = some '\x7b' && (cs.drop 1).head? != some '\x7d' && cs.contains '\x7d'
    else true

def afterQuotes? (q : Quoting) (quotes : List Char) : Nat → List Char → Option (List Char)
  | _, [] => none
  | skip + 1, _ :: cs => afterQuotes? q quotes skip cs
  | 0, c :: cs =>
    if quotes.isPrefixOf (c :: cs) then some ((c :: cs).drop quotes.length)
    else if q.isBytes && 0x7F < c.toNat then none
    else if c = '\\' then if isEscape q cs then afterQuotes? q quotes 1 cs else none
    else if c = '\n' && quotes.length = 1 then none
    else afterQuotes? q quotes 0 cs

def quoted? (q : Quoting) (cs : List Char) : Option (List Char) :=
  match cs with
  | c :: rest =>
    let triple := [c, c, c]
    if triple.isPrefixOf cs then afterQuotes? q triple 0 (cs.drop 3) else afterQuotes? q [c] 0 rest
  | [] => none

def isQuote (c : Char) : Bool := c = '\'' || c = '"'

def wordOrText? (cs : List Char) : Option (Token × List Char) :=
  let letters := cs.takeWhile isNameChar
  let rest := cs.drop letters.length
  if rest.head?.any isQuote then
    match quoting? letters with
    | some q => (quoted? q rest).map fun rest => (.text q.isBytes, rest)
    | none => none
  else if letters.isEmpty then none
  else some (.word (String.ofList letters), rest)

/-- The next token and what follows it. A number is followed by no letter. -/
def token? (cs : List Char) : Option (Token × List Char) :=
  match cs with
  | [] => none
  | c :: rest =>
    match number? cs with
    | some (n, imaginary) =>
      if (cs.drop n).head?.any isNameChar then none else some (.number imaginary, cs.drop n)
    | none =>
      if ['.', '.', '.'].isPrefixOf cs then some (.dots, cs.drop 3)
      else if "(),:+-\x7b\x7d".toList.contains c then some (.mark c, rest)
      else if c.isDigit then none
      else wordOrText? cs

/-- The tokens of a text, without blanks and comments. Line ends count only outside of brackets. The
first argument bounds the work. -/
def tokens? : Nat → Nat → List Char → Option (List Token)
  | 0, _, _ => none
  | _, _, [] => some []
  | fuel + 1, depth, c :: cs =>
    if c = ' ' || c = '\t' || c = '\x0c' then tokens? fuel depth cs
    else if c = '#' then tokens? fuel depth (cs.dropWhile (· != '\n'))
    else if c = '\n' then
      if depth = 0 then (tokens? fuel depth cs).map (Token.lineEnd :: ·) else tokens? fuel depth cs
    else if c = '\\' then if cs.head? = some '\n' then tokens? fuel depth (cs.drop 1) else none
    else
      match token? (c :: cs) with
      | none => none
      | some (t, rest) =>
        let depth := if t = .mark '(' || t = .mark '\x7b' then depth + 1
          else if t = .mark ')' || t = .mark '\x7d' then depth - 1 else depth
        (tokens? fuel depth rest).map (t :: ·)

/-- What an expression gives, as far as it matters to the expression around it. -/
inductive Outcome where
  | real
  | imaginary
  | signed
  | other (isKey : Bool)
  deriving DecidableEq, Repr

def Outcome.isKey : Outcome → Bool
  | .other k => k
  | _ => true

def joinedTexts? (isBytes : Bool) : List Token → Option (List Token)
  | .text b :: rest => if b = isBytes then joinedTexts? isBytes rest else none
  | rest => some rest

def constantWords : List String := ["None", "True", "False"]

mutual

/-- An expression and the tokens after it. The first argument bounds the depth. -/
def expression? : Nat → List Token → Option (Outcome × List Token)
  | 0, _ => none
  | fuel + 1, ts => do
    let (left, ts) ← signed? fuel ts
    match ts with
    | .mark c :: rest =>
      if c = '+' || c = '-' then
        if left = .real || left = .signed then do
          let (right, rest) ← atom? fuel rest
          let again := rest.head? = some (.mark '+') || rest.head? = some (.mark '-')
          if right = .imaginary && !again then some (.other true, rest) else none
        else none
      else some (left, ts)
    | _ => some (left, ts)

def signed? : Nat → List Token → Option (Outcome × List Token)
  | 0, _ => none
  | fuel + 1, ts =>
    match ts with
    | .mark c :: rest =>
      if c = '+' || c = '-' then
        match atom? fuel rest with
        | some (.real, rest) => some (.signed, rest)
        | some (.imaginary, rest) => some (.other true, rest)
        | _ => none
      else atom? fuel ts
    | _ => atom? fuel ts

def atom? : Nat → List Token → Option (Outcome × List Token)
  | 0, _ => none
  | fuel + 1, ts =>
    match ts with
    | .number imaginary :: rest => some (if imaginary then .imaginary else .real, rest)
    | .text isBytes :: rest => (joinedTexts? isBytes rest).map fun rest => (.other true, rest)
    | .dots :: rest => some (.other true, rest)
    | .word "set" :: .mark '(' :: .mark ')' :: rest => some (.other false, rest)
    | .word w :: rest => if constantWords.contains w then some (.other true, rest) else none
    | .mark '(' :: .mark ')' :: rest => some (.other true, rest)
    | .mark '(' :: rest => group? fuel rest
    | .mark '\x7b' :: .mark '\x7d' :: rest => some (.other false, rest)
    | .mark '\x7b' :: rest => do
      let (first, rest) ← expression? fuel rest
      let rest ← if rest.head? = some (.mark ':') then mapRest? fuel first rest
        else setRest? fuel first rest
      return (.other false, rest)
    | _ => none

def group? : Nat → List Token → Option (Outcome × List Token)
  | 0, _ => none
  | fuel + 1, ts => do
    let (first, ts) ← expression? fuel ts
    match ts with
    | .mark ')' :: rest => some (first, rest)
    | _ => tupleRest? fuel (some (.mark ')')) first.isKey ts

/-- What comes after the first part of a tuple, up to the token that closes it. -/
def tupleRest? : Nat → Option Token → Bool → List Token → Option (Outcome × List Token)
  | 0, _, _, _ => none
  | fuel + 1, close, isKey, ts =>
    match ts with
    | .mark ',' :: rest =>
      if rest.head? = close || (close.isNone && rest.head? = some .lineEnd) then
        some (.other isKey, rest.drop (if close.isSome then 1 else 0))
      else do
        let (next, rest) ← expression? fuel rest
        tupleRest? fuel close (isKey && next.isKey) rest
    | ts =>
      if ts.head? = close || (close.isNone && ts.head? = some .lineEnd) then
        some (.other isKey, ts.drop (if close.isSome then 1 else 0))
      else none

def setRest? : Nat → Outcome → List Token → Option (List Token)
  | 0, _, _ => none
  | fuel + 1, last, ts =>
    if !last.isKey then none
    else
      match ts with
      | .mark '\x7d' :: rest => some rest
      | .mark ',' :: .mark '\x7d' :: rest => some rest
      | .mark ',' :: rest => do
        let (next, rest) ← expression? fuel rest
        setRest? fuel next rest
      | _ => none

def mapRest? : Nat → Outcome → List Token → Option (List Token)
  | 0, _, _ => none
  | fuel + 1, key, ts =>
    match ts with
    | .mark ':' :: rest =>
      if !key.isKey then none
      else do
        let (_, rest) ← expression? fuel rest
        match rest with
        | .mark '\x7d' :: rest => some rest
        | .mark ',' :: .mark '\x7d' :: rest => some rest
        | .mark ',' :: rest => do
          let (next, rest) ← expression? fuel rest
          mapRest? fuel next rest
        | _ => none
    | _ => none

end

/-- Whether tokens are one expression, or several with commas between them. -/
def areLiteral (ts : List Token) : Bool :=
  let fuel := 8 * (ts.length + 1)
  let ts := ts.dropWhile (· = .lineEnd)
  match expression? fuel ts with
  | none => false
  | some (first, rest) =>
    match if rest.head? = some (.mark ',') then tupleRest? fuel none first.isKey rest
      else some (first, rest) with
    | some (_, rest) => rest.all (· = .lineEnd)
    | none => false

end Literal

def isLiteral (cs : List Char) : Bool :=
  let cs := Text.normalizeLines (cs.dropWhile fun c => c = ' ' || c = '\t')
  !cs.contains '\x00' &&
  match Literal.tokens? (cs.length + 1) 0 cs with
  | some ts => Literal.areLiteral ts
  | none => false

end SampleTypes.Console
