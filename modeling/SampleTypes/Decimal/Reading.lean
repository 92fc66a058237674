import SampleTypes.Decimal
import SampleTypes.Text.Basic
import SampleTypes.Text.Quoted
import SampleTypes.Text.Word

/-!
Numbers read from a text. Digits of every script count, and blanks may stand around a number. Whole
numbers may have single underscores between their digits.
-/

namespace SampleTypes.Decimal

inductive WholeFault where
  | noNumber
  | tooManyDigits (count : Nat)
  deriving DecidableEq, Repr

/-- What to say about a text that is no whole number to a base; a long text is cut off. -/
def WholeFault.message (base : Nat) (text : String) : WholeFault → String
  | .noNumber =>
    "invalid literal for int() with base " ++ natText base ++ ": " ++
      String.ofList ((Text.quoted text).toList.take 200)
  | .tooManyDigits count => limitMessage (some count)

def isNumberBlank (c : Char) : Bool :=
  Text.isBlank c && !(0x1C ≤ c.toNat && c.toNat ≤ 0x1F)

def trimNumber (cs : List Char) : List Char :=
  ((cs.dropWhile isNumberBlank).reverse.dropWhile isNumberBlank).reverse

def splitSign : List Char → Bool × List Char
  | '-' :: cs => (true, cs)
  | '+' :: cs => (false, cs)
  | cs => (false, cs)

def plainDigit (c : Char) : Char :=
  match Text.digitValue? c with
  | some d => Char.ofNat (0x30 + d)
  | none => c

def digitOf? (base : Nat) (c : Char) : Option Nat :=
  let n :=
    if c.isDigit then some (c.toNat - 0x30)
    else if 'a' ≤ c && c ≤ 'z' then some (c.toNat - 0x57)
    else if 'A' ≤ c && c ≤ 'Z' then some (c.toNat - 0x37)
    else none
  n.filter (· < base)

def baseLetters (base : Nat) : List Char :=
  if base = 2 then ['b', 'B'] else if base = 8 then ['o', 'O'] else if base = 16 then ['x', 'X'] else []

/-- What follows the mark of the base, with the underscore that may come after it. -/
def dropBaseMark (base : Nat) (cs : List Char) : List Char :=
  match cs with
  | '0' :: letter :: rest =>
    if (baseLetters base).contains letter then
      (match rest with
        | '_' :: more => more
        | _ => rest)
    else cs
  | _ => cs

def ofDigits (base : Nat) (digits : List Nat) : Nat :=
  digits.foldl (fun n d => n * base + d) 0

/-- A whole number with an optional sign. Only decimal numbers are limited, and the limit is looked at
before what follows the digits. -/
def readWhole (base : Nat) (text : List Char) : Except WholeFault Int :=
  let (negative, cs) := splitSign ((trimNumber text).map plainDigit)
  let cs := dropBaseMark base cs
  let run := cs.takeWhile fun c => c = '_' || (digitOf? base c).isSome
  if (run.splitOn '_').any List.isEmpty then .error .noNumber
  else
    let digits := run.filterMap (digitOf? base)
    if base = 10 && digitLimit < digits.length then .error (.tooManyDigits digits.length)
    else if run.length < cs.length then .error .noNumber
    else
      let n : Int := ofDigits base digits
      .ok (if negative then -n else n)

def exponent? : List Char → Option Int
  | [] => some 0
  | e :: rest =>
    if e = 'e' || e = 'E' then
      let (negative, cs) := splitSign rest
      match cs.mapM (digitOf? 10) with
      | some (d :: ds) =>
        let n : Int := ofDigits 10 (d :: ds)
        some (if negative then -n else n)
      | _ => none
    else none

def decimal? (cs : List Char) : Option Decimal := do
  let whole := cs.takeWhile Char.isDigit
  let rest := cs.drop whole.length
  let (fraction, rest) := match rest with
    | '.' :: more => (more.takeWhile Char.isDigit, more.dropWhile Char.isDigit)
    | _ => ([], rest)
  let digits := (whole ++ fraction).filterMap (digitOf? 10)
  if digits.isEmpty then none
  else return ⟨ofDigits 10 digits, (← exponent? rest) - fraction.length⟩

def infinityWords : List String := ["inf", "infinity"]

/-- A double with an optional sign; words in any case stand for infinity and for no number. -/
def readFloat? (text : List Char) : Option Float :=
  let (negative, cs) := splitSign ((trimNumber text).map plainDigit)
  let word := String.ofList (cs.map Char.toLower)
  let magnitude? :=
    if infinityWords.contains word then some (1.0 / 0.0)
    else if word = "nan" then some (0.0 / 0.0)
    else (decimal? cs).map fun d => toFloat d.digits d.exponent
  magnitude?.map fun x => if negative then -x else x

end SampleTypes.Decimal
