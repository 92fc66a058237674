import SampleTypes.Decimal
import SampleTypes.Text.Quoted

/-!
JSON documents and their text in ASCII. The members of an object keep their order and have distinct
names. With an indentation every item and member stands on a line of its own; without one the text is a
single line.
-/

namespace SampleTypes

inductive Json where
  | null
  | bool (b : Bool)
  | int (n : Int)
  | float (x : Float)
  | str (s : String)
  | arr (items : List Json)
  | obj (members : List (String × Json))
  deriving Inhabited

def valueOf? {α : Type} (name : String) : List (String × α) → Option α
  | [] => none
  | (k, v) :: rest => if k = name then some v else valueOf? name rest

/-- A later value for a name takes the place of the earlier one. -/
def putValue {α : Type} (name : String) (value : α) : List (String × α) → List (String × α)
  | [] => [(name, value)]
  | (k, v) :: rest => if k = name then (k, value) :: rest else (k, v) :: putValue name value rest

namespace Json

/-- Everything counts as true but null, false, zero and the empty text, array and object. -/
def truthy : Json → Bool
  | .null => false
  | .bool b => b
  | .int n => n != 0
  | .float x => !(x == 0.0)
  | .str s => s != ""
  | .arr items => !items.isEmpty
  | .obj members => !members.isEmpty

def member? (name : String) : Json → Option Json
  | .obj members => valueOf? name members
  | _ => none

def str? : Json → Option String
  | .str s => some s
  | _ => none

def number? : Json → Option Number
  | .bool b => some (.int (if b then 1 else 0))
  | .int n => some (.int n)
  | .float x => some (.float x)
  | _ => none

def isContainer : Json → Bool
  | .arr _ => true
  | .obj _ => true
  | _ => false

mutual

/-- Equality of values: numbers by value, objects whatever the order of their members. -/
def same : Json → Json → Bool
  | .null, .null => true
  | .str a, .str b => a = b
  | .arr xs, .arr ys => sameItems xs ys
  | .obj xs, .obj ys => xs.length = ys.length && sameMembers xs ys
  | .bool a, y => sameNumber (.int (if a then 1 else 0)) y
  | .int a, y => sameNumber (.int a) y
  | .float a, y => sameNumber (.float a) y
  | _, _ => false

def sameNumber (a : Number) (y : Json) : Bool :=
  match y.number? with
  | some b => a.same b
  | none => false

def sameItems : List Json → List Json → Bool
  | [], [] => true
  | x :: xs, y :: ys => same x y && sameItems xs ys
  | _, _ => false

def sameMembers : List (String × Json) → List (String × Json) → Bool
  | [], _ => true
  | (k, x) :: xs, ys =>
    (match valueOf? k ys with
      | some y => same x y
      | none => false) && sameMembers xs ys

end

instance : BEq Json := ⟨same⟩

end Json

end SampleTypes

namespace SampleTypes.Json

/-- Numbers are written with a point up to sixteen whole digits and up to three zeros after it. -/
def numberFormat : Decimal.Format := ⟨16, 3, 2, "Infinity", "NaN"⟩

def writeUnit (u : Nat) : List Char :=
  '\\' :: 'u' :: Text.hexDigits false 4 u

def writeChar (c : Char) : List Char :=
  if c = '"' then ['\\', '"']
  else if c = '\\' then ['\\', '\\']
  else if c = '\n' then ['\\', 'n']
  else if c = '\r' then ['\\', 'r']
  else if c = '\t' then ['\\', 't']
  else if c = '\x0c' then ['\\', 'f']
  else if c = '\x08' then ['\\', 'b']
  else if 0x20 ≤ c.toNat && c.toNat ≤ 0x7E then [c]
  else if c.toNat < 0x10000 then writeUnit c.toNat
  else
    let n := c.toNat - 0x10000
    writeUnit (0xD800 + n / 0x400) ++ writeUnit (0xDC00 + n % 0x400)

def writeString (s : String) : List Char :=
  '"' :: (s.toList.flatMap writeChar ++ ['"'])

/-- What stands before an item at the given level: a line end and blanks, if there is an
indentation. -/
def lineStart : Option Nat → Nat → List Char
  | none, _ => []
  | some indent, level => '\n' :: List.replicate (indent * level) ' '

def separator (indent : Option Nat) (level : Nat) : List Char :=
  match indent with
  | none => [',', ' ']
  | some _ => ',' :: lineStart indent level

mutual

def write (indent : Option Nat) (level : Nat) : Json → List Char
  | .null => "null".toList
  | .bool b => if b then "true".toList else "false".toList
  | .int n => (Decimal.intText n).toList
  | .float x => (numberFormat.text x).toList
  | .str s => writeString s
  | .arr [] => ['[', ']']
  | .arr (v :: vs) =>
    '[' :: (lineStart indent (level + 1) ++ write indent (level + 1) v ++
      writeItems indent (level + 1) vs ++ lineStart indent level ++ [']'])
  | .obj [] => ['\x7b', '\x7d']
  | .obj ((k, v) :: rest) =>
    '\x7b' :: (lineStart indent (level + 1) ++ writeString k ++ ':' :: ' ' ::
      write indent (level + 1) v ++ writeMembers indent (level + 1) rest ++
      lineStart indent level ++ ['\x7d'])

def writeItems (indent : Option Nat) (level : Nat) : List Json → List Char
  | [] => []
  | v :: vs => separator indent level ++ write indent level v ++ writeItems indent level vs

def writeMembers (indent : Option Nat) (level : Nat) : List (String × Json) → List Char
  | [] => []
  | (k, v) :: rest =>
    separator indent level ++ writeString k ++ ':' :: ' ' :: write indent level v ++
      writeMembers indent level rest

end

/-- The text of a document; the argument is the number of blanks per level. -/
def toJsonText (indent : Option Nat) (j : Json) : String :=
  String.ofList (write indent 0 j)

end SampleTypes.Json
