/-!
Numbers in decimal: the shortest decimal that reads back as a given binary floating-point number, how
numbers are written, and the limit on the digits of a whole number as text.

A positive finite number is `m * 2 ^ q`. The reals that round to it form an interval around it, whose
ends belong to it exactly when `m` is even. For one digit, two digits and so on, the two neighbours
of the number on that decimal grid are tried: the first grid with a neighbour inside the interval
wins, of two the nearer, and of two equally near the one with the even last digit.
-/

namespace SampleTypes

structure Decimal where
  digits : Nat
  exponent : Int
  deriving DecidableEq, Repr

namespace Decimal

structure Ratio where
  num : Nat
  den : Nat
  deriving DecidableEq, Repr

def Ratio.le (a b : Ratio) : Bool := a.num * b.den ≤ b.num * a.den
def Ratio.lt (a b : Ratio) : Bool := a.num * b.den < b.num * a.den

def Ratio.scaled (n base : Nat) (e : Int) : Ratio :=
  ⟨n * base.pow e.toNat, base.pow (-e).toNat⟩

def value (d : Decimal) : Ratio := .scaled d.digits 10 d.exponent

structure Parts where
  negative : Bool
  mantissa : Nat
  exponent : Int
  deriving DecidableEq, Repr

inductive Class where
  | finite (parts : Parts)
  | infinite (negative : Bool)
  | notANumber
  deriving DecidableEq, Repr

def classOfBits (bits : Nat) : Class :=
  let negative : Bool := bits / Nat.pow 2 63 = 1
  let biased : Nat := bits / Nat.pow 2 52 % Nat.pow 2 11
  let fraction := bits % Nat.pow 2 52
  if biased = 2047 then (if fraction = 0 then .infinite negative else .notANumber)
  else if biased = 0 then .finite ⟨negative, fraction, -1074⟩
  else .finite ⟨negative, Nat.pow 2 52 + fraction, (biased : Int) - 1075⟩

def classOf (x : Float) : Class := classOfBits x.toBits.toNat

/-- The ends of the interval of reals that round to `m * 2 ^ q`. Below a power of two the spacing
is half of that above, except at the smallest exponent. -/
def lowerEnd (m : Nat) (q : Int) : Ratio :=
  if m = Nat.pow 2 52 && q != -1074 then .scaled (4 * m - 1) 2 (q - 2) else .scaled (4 * m - 2) 2 (q - 2)

def upperEnd (m : Nat) (q : Int) : Ratio := .scaled (4 * m + 2) 2 (q - 2)

def roundsTo (m : Nat) (q : Int) (d : Decimal) : Bool :=
  let x := d.value
  if m % 2 = 0 then (lowerEnd m q).le x && x.le (upperEnd m q)
  else (lowerEnd m q).lt x && x.lt (upperEnd m q)

/-- How many of the places `10 ^ 1, 10 ^ 2, …` up to the bound the number reaches. -/
def placesAbove (x : Ratio) : Nat → Nat
  | 0 => 0
  | n + 1 => if (Ratio.scaled 1 10 (n + 1)).le x then n + 1 else placesAbove x n

/-- How many times a number below one has to be multiplied by ten to reach one. -/
def placesBelow (x : Ratio) : Nat → Nat → Nat
  | 0, j => j
  | fuel + 1, j => if x.den ≤ x.num then j else placesBelow ⟨x.num * 10, x.den⟩ fuel (j + 1)

def magnitude (x : Ratio) : Int :=
  if x.den ≤ x.num then placesAbove x 309 + 1 else 1 - (placesBelow x 330 0 : Int)

def neighbours (x : Ratio) (e : Int) : Decimal × Decimal :=
  let n := x.num * Nat.pow 10 (-e).toNat / (x.den * Nat.pow 10 e.toNat)
  (⟨n, e⟩, ⟨n + 1, e⟩)

/-- Of two neighbours `a < x < b` the nearer, the even one when `x` is half way. -/
def nearer (x : Ratio) (a b : Decimal) : Decimal :=
  let sum := Ratio.scaled (a.digits + b.digits) 10 a.exponent
  let twice : Ratio := ⟨2 * x.num, x.den⟩
  if twice.lt sum then a else if sum.lt twice then b else if a.digits % 2 = 0 then a else b

def onGrid (m : Nat) (q : Int) (x : Ratio) (e : Int) : Option Decimal :=
  let (a, b) := neighbours x e
  match roundsTo m q a, roundsTo m q b with
  | true, true => some (nearer x a b)
  | true, false => some a
  | false, true => some b
  | false, false => none

def search (m : Nat) (q : Int) (x : Ratio) : Nat → Int → Decimal
  | 0, e => (neighbours x e).1
  | fuel + 1, e =>
    match onGrid m q x e with
    | some d => d
    | none => search m q x fuel (e - 1)

def dropZeros : Nat → Decimal → Decimal
  | 0, d => d
  | fuel + 1, d =>
    if d.digits % 10 = 0 && d.digits != 0 then
      dropZeros fuel ⟨d.digits / 10, d.exponent + 1⟩
    else d

def shortest (m : Nat) (q : Int) : Decimal :=
  let x := Ratio.scaled m 2 q
  (search m q x 17 (magnitude x - 1)).dropZeros 20

def natText (n : Nat) : String := String.ofList (Nat.toDigits 10 n)

def intText (n : Int) : String :=
  if n < 0 then "-" ++ natText n.natAbs else natText n.natAbs

structure Format where
  mostWhole : Int
  mostZeros : Int
  exponentWidth : Nat
  infinity : String
  notANumber : String

def padded (width : Nat) (n : Nat) : List Char :=
  let ds := Nat.toDigits 10 n
  List.replicate (width - ds.length) '0' ++ ds

/-- A positive decimal. A number without a fraction is written with the fraction `0`, unless it has
an exponent. -/
def Format.write (f : Format) (d : Decimal) : List Char :=
  let ds := Nat.toDigits 10 d.digits
  let point := (ds.length : Int) + d.exponent
  if -f.mostZeros ≤ point && point ≤ f.mostWhole then
    if point ≤ 0 then '0' :: '.' :: (List.replicate (-point).toNat '0' ++ ds)
    else if (ds.length : Int) ≤ point then
      ds ++ List.replicate (point.toNat - ds.length) '0' ++ ['.', '0']
    else ds.take point.toNat ++ '.' :: ds.drop point.toNat
  else
    let e := point - 1
    let head := match ds with
      | [] => []
      | [c] => [c]
      | c :: rest => c :: '.' :: rest
    head ++ 'e' :: (if e < 0 then '-' else '+') :: padded f.exponentWidth e.natAbs

def Format.text (f : Format) (x : Float) : String :=
  match classOf x with
  | .notANumber => f.notANumber
  | .infinite negative => (if negative then "-" else "") ++ f.infinity
  | .finite p =>
    (if p.negative then "-" else "") ++
      (if p.mantissa = 0 then "0.0" else String.ofList (f.write (shortest p.mantissa p.exponent)))

/-- The number `digits * 10 ^ exponent` as a double, far exponents cut short. -/
def toFloat (digits : Nat) (exponent : Int) : Float :=
  let size := (Nat.toDigits 10 digits).length
  if digits = 0 then 0.0
  else if exponent + size > 400 then 1.0 / 0.0
  else if exponent + size < -400 then 0.0
  else if exponent < 0 then Float.ofScientific digits true exponent.natAbs
  else Float.ofScientific digits false exponent.natAbs

def digitLimit : Nat := 4300

def unwritable : Nat := Nat.pow 10 digitLimit

def isWritable (n : Int) : Bool := n.natAbs < unwritable

/-- What to say about a number that is too long; its digits are counted where it is read. -/
def limitMessage (count : Option Nat) : String :=
  "Exceeds the limit (" ++ natText digitLimit ++ " digits) for integer string conversion" ++
    (match count with
      | some n => ": value has " ++ natText n ++ " digits"
      | none => "") ++
    "; use sys.set_int_max_str_digits() to increase the limit"

end Decimal

inductive Number where
  | int (n : Int)
  | float (x : Float)

namespace Number

def compareParts (n : Int) (p : Decimal.Parts) : Ordering :=
  let m : Int := if p.negative then -(p.mantissa : Int) else p.mantissa
  compare (n * (Nat.pow 2 (-p.exponent).toNat : Nat)) (m * (Nat.pow 2 p.exponent.toNat : Nat))

def compareFloat (n : Int) (x : Float) : Option Ordering :=
  match Decimal.classOf x with
  | .notANumber => none
  | .infinite negative => some (if negative then .gt else .lt)
  | .finite p => some (compareParts n p)

def compare? : Number → Number → Option Ordering
  | .int a, .int b => some (compare a b)
  | .int a, .float y => compareFloat a y
  | .float x, .int b => (compareFloat b x).map Ordering.swap
  | .float x, .float y =>
    if x == y then some .eq else if x < y then some .lt else if y < x then some .gt else none

def same (a b : Number) : Bool := a.compare? b = some .eq

def notAfter (a b : Number) : Bool := b.compare? a != some .lt

end Number

end SampleTypes
