import SampleTypes.Decimal
import SampleTypes.Json
import SampleTypes.Text.Basic
import SampleTypes.Text.Quoted
import SampleTypes.Value.Calendar

/-!
Sampled values: what a JSON or YAML document holds. Keys of a map are scalars of any sort.
-/

namespace SampleTypes

inductive Scalar where
  | null
  | bool (b : Bool)
  | int (n : Int)
  | float (x : Float)
  | text (s : String)
  | date (d : Date)
  | moment (m : Moment)
  | bytes (bs : List UInt8)
  deriving Inhabited

inductive Value where
  | scalar (s : Scalar)
  | list (items : List Value)
  | pair (first second : Value)
  | map (entries : List (Scalar × Value))
  | set (members : List Scalar)
  | again (isMap : Bool)
  deriving Inhabited

namespace Scalar

def number? : Scalar → Option Number
  | .bool b => some (.int (if b then 1 else 0))
  | .int n => some (.int n)
  | .float x => some (.float x)
  | _ => none

/-- Equality as a key: numbers and booleans by value. -/
def same : Scalar → Scalar → Bool
  | .null, .null => true
  | .text a, .text b => a = b
  | .date a, .date b => a = b
  | .moment a, .moment b => a.same b
  | .bytes a, .bytes b => a = b
  | a, b =>
    match a.number?, b.number? with
    | some x, some y => x.same y
    | _, _ => false

def isNotANumber : Scalar → Bool
  | .float x => !(x == x)
  | _ => false

def typeName : Scalar → String
  | .null => "NoneType"
  | .bool _ => "bool"
  | .int _ => "int"
  | .float _ => "float"
  | .text _ => "str"
  | .date _ => "date"
  | .moment _ => "datetime"
  | .bytes _ => "bytes"

/-- Numbers are written with a point up to sixteen whole digits and up to three zeros after it. -/
def floatFormat : Decimal.Format := ⟨16, 3, 2, "inf", "nan"⟩

def zoneLiteral (minutes : Int) : String :=
  if minutes = 0 then "datetime.timezone.utc"
  else "datetime.timezone(" ++ spanLiteral (minutes * 60) ++ ")"

def dateFields (d : Date) : List String :=
  [Decimal.natText d.year, Decimal.natText d.month, Decimal.natText d.day]

def momentFields (m : Moment) : List String :=
  dateFields m.date ++ [Decimal.natText m.hour, Decimal.natText m.minute] ++
    (if m.second = 0 && m.microsecond = 0 then [] else [Decimal.natText m.second]) ++
    (if m.microsecond = 0 then [] else [Decimal.natText m.microsecond]) ++
    (match m.offset with
      | some minutes => ["tzinfo=" ++ zoneLiteral minutes]
      | none => [])

def literal : Scalar → String
  | .null => "None"
  | .bool b => if b then "True" else "False"
  | .int n => Decimal.intText n
  | .float x => floatFormat.text x
  | .text s => Text.quoted s
  | .date d => "datetime.date(" ++ joinTexts ", " (dateFields d) ++ ")"
  | .moment m => "datetime.datetime(" ++ joinTexts ", " (momentFields m) ++ ")"
  | .bytes bs => Text.quotedBytes bs

def isWritable : Scalar → Bool
  | .int n => Decimal.isWritable n
  | _ => true

def toText : Scalar → String
  | .text s => s
  | .date d => d.text
  | .moment m => m.text
  | s => s.literal

end Scalar

namespace Value

mutual

def literal : Value → String
  | .scalar s => s.literal
  | .list items => "[" ++ joinTexts ", " (literals items) ++ "]"
  | .pair a b => "(" ++ literal a ++ ", " ++ literal b ++ ")"
  | .map entries => "\x7b" ++ joinTexts ", " (entryLiterals entries) ++ "\x7d"
  | .set [] => "set()"
  | .set members => "\x7b" ++ joinTexts ", " (members.map Scalar.literal) ++ "\x7d"
  | .again isMap => if isMap then "\x7b...\x7d" else "[...]"

def literals : List Value → List String
  | [] => []
  | v :: vs => literal v :: literals vs

def entryLiterals : List (Scalar × Value) → List String
  | [] => []
  | (k, v) :: rest => (k.literal ++ ": " ++ literal v) :: entryLiterals rest

end

mutual

def isWritable : Value → Bool
  | .scalar s => s.isWritable
  | .list items => areWritable items
  | .pair a b => isWritable a && isWritable b
  | .map entries => entriesAreWritable entries
  | .set members => members.all Scalar.isWritable
  | .again _ => true

def areWritable : List Value → Bool
  | [] => true
  | v :: vs => isWritable v && areWritable vs

def entriesAreWritable : List (Scalar × Value) → Bool
  | [] => true
  | (k, v) :: rest => k.isWritable && isWritable v && entriesAreWritable rest

end

/-- A text stands for itself; all else is written as an expression. -/
def toText : Value → String
  | .scalar s => s.toText
  | v => v.literal

def truthy : Value → Bool
  | .scalar .null => false
  | .scalar (.bool b) => b
  | .scalar (.int n) => n != 0
  | .scalar (.float x) => !(x == 0.0)
  | .scalar (.text s) => s != ""
  | .scalar (.bytes bs) => !bs.isEmpty
  | .scalar _ => true
  | .list items => !items.isEmpty
  | .pair _ _ => true
  | .map entries => !entries.isEmpty
  | .set members => !members.isEmpty
  | .again _ => true

def text? : Value → Option String
  | .scalar (.text s) => some s
  | _ => none

def typeName : Value → String
  | .scalar s => s.typeName
  | .list _ => "list"
  | .pair _ _ => "tuple"
  | .map _ => "dict"
  | .set _ => "set"
  | .again isMap => if isMap then "dict" else "list"

mutual

def height : Value → Nat
  | .scalar _ => 0
  | .list items => itemsHeight items + 1
  | .pair a b => max (height a) (height b) + 1
  | .map entries => entriesHeight entries + 1
  | .set _ => 0
  | .again _ => 0

def itemsHeight : List Value → Nat
  | [] => 0
  | v :: vs => max (height v) (itemsHeight vs)

def entriesHeight : List (Scalar × Value) → Nat
  | [] => 0
  | (_, v) :: rest => max (height v) (entriesHeight rest)

end

end Value

namespace Json

mutual

def toValue : Json → Value
  | .null => .scalar .null
  | .bool b => .scalar (.bool b)
  | .int n => .scalar (.int n)
  | .float x => .scalar (.float x)
  | .str s => .scalar (.text s)
  | .arr items => .list (itemValues items)
  | .obj members => .map (memberValues members)

def itemValues : List Json → List Value
  | [] => []
  | v :: vs => toValue v :: itemValues vs

def memberValues : List (String × Json) → List (Scalar × Value)
  | [] => []
  | (k, v) :: rest => (.text k, toValue v) :: memberValues rest

end

def toText (j : Json) : String := j.toValue.toText
def literal (j : Json) : String := j.toValue.literal
def typeName (j : Json) : String := j.toValue.typeName

end Json

end SampleTypes
