import SampleTypes.Yaml.Lines

/-!
The nodes of a document and their tags. Nodes are numbered, so that an alias is the number of the node that
it stands for, and a node may contain itself. The tag of a scalar is read off its text. A line feed at the
end does not count. Numbers may hold underscores, be written to the base two, eight or sixteen, or to the
base sixty with colons.
-/

namespace SampleTypes.Yaml

inductive Tag where
  | null
  | bool
  | int
  | float
  | binary
  | timestamp
  | pairs
  | orderedMap
  | set
  | text
  | sequence
  | mapping
  | merge
  | default
  | other (name : String)
  deriving DecidableEq, Repr

def standardStem : String := "tag:yaml.org,2002:"

def Tag.names : List (String × Tag) :=
  [("null", .null), ("bool", .bool), ("int", .int), ("float", .float), ("binary", .binary),
    ("timestamp", .timestamp), ("pairs", .pairs), ("omap", .orderedMap), ("set", .set), ("str", .text),
    ("seq", .sequence), ("map", .mapping), ("merge", .merge), ("value", .default)]

def Tag.ofName (name : String) : Tag :=
  match Tag.names.find? fun p => standardStem ++ p.1 = name with
  | some (_, t) => t
  | none => .other name

inductive Node where
  | scalar (tag : Tag) (text : String)
  | sequence (tag : Tag) (items : List Nat)
  | mapping (tag : Tag) (entries : List (Nat × Nat))
  deriving DecidableEq, Repr

namespace Node

def tag : Node → Tag
  | .scalar t _ => t
  | .sequence t _ => t
  | .mapping t _ => t

def withTag (t : Tag) : Node → Node
  | .scalar _ text => .scalar t text
  | .sequence _ items => .sequence t items
  | .mapping _ entries => .mapping t entries

end Node

structure Document where
  nodes : Array Node
  root : Nat

def dropSign : List Char → List Char
  | '+' :: cs => cs
  | '-' :: cs => cs
  | cs => cs

def isDigitOrLow (c : Char) : Bool := c.isDigit || c = '_'

def booleanWords : List String :=
  ["yes", "no", "true", "false", "on", "off"]

def isCasedWord (words : List String) (text : String) : Bool :=
  words.any fun w => text = w || text = w.capitalize || text = w.toUpper

def isNullText (text : String) : Bool :=
  text = "" || text = "~" || isCasedWord ["null"] text

/-- Parts to the base sixty, each after a colon; at least one, and nothing else. -/
def isSexagesimalTail : List (List Char) → Bool
  | [] => false
  | parts => parts.all fun
    | [a] => a.isDigit
    | [a, b] => '0' ≤ a && a ≤ '5' && b.isDigit
    | _ => false

def startsWithDigit (p : Char → Bool) (cs : List Char) : Bool := cs.head?.any p

def isNonZeroDigit (c : Char) : Bool := c.isDigit && c != '0'

def isWholeText (cs : List Char) : Bool :=
  match dropSign cs with
  | '0' :: 'b' :: ds => !ds.isEmpty && ds.all fun c => c = '0' || c = '1' || c = '_'
  | '0' :: 'x' :: ds =>
    !ds.isEmpty && ds.all fun c => c.isDigit || ('a' ≤ c && c ≤ 'f') || ('A' ≤ c && c ≤ 'F') || c = '_'
  | '0' :: ds => ds.all fun c => ('0' ≤ c && c ≤ '7') || c = '_'
  | ds =>
    match ds.splitOn ':' with
    | [whole] => startsWithDigit isNonZeroDigit whole && whole.all isDigitOrLow
    | first :: more =>
      startsWithDigit isNonZeroDigit first && first.all isDigitOrLow && isSexagesimalTail more
    | [] => false

def isExponentOrEnd : List Char → Bool
  | [] => true
  | e :: sign :: ds =>
    (e = 'e' || e = 'E') && (sign = '+' || sign = '-') && !ds.isEmpty && ds.all Char.isDigit
  | _ => false

/-- Digits, a point, digits and an exponent; the digits before the point may be missing if there is
no sign and some follow it. -/
def isPointText (cs : List Char) : Bool :=
  match cs with
  | '.' :: ds =>
    startsWithDigit Char.isDigit ds && isExponentOrEnd (ds.dropWhile isDigitOrLow)
  | _ =>
    let ds := dropSign cs
    startsWithDigit Char.isDigit ds &&
      (match ds.dropWhile isDigitOrLow with
        | '.' :: rest => isExponentOrEnd (rest.dropWhile isDigitOrLow)
        | _ => false)

def isSexagesimalFloat (cs : List Char) : Bool :=
  match (dropSign cs).splitOn '.' with
  | [whole, fraction] =>
    fraction.all isDigitOrLow &&
      (match whole.splitOn ':' with
        | first :: more =>
          startsWithDigit Char.isDigit first && first.all isDigitOrLow && isSexagesimalTail more
        | [] => false)
  | _ => false

def infinityTexts : List String := [".inf", ".Inf", ".INF"]

def isFloatText (text : String) : Bool :=
  let cs := text.toList
  isPointText cs || isSexagesimalFloat cs || infinityTexts.contains (String.ofList (dropSign cs)) ||
    [".nan", ".NaN", ".NAN"].contains text

def digits? (least most : Nat) (cs : List Char) : Option (Nat × List Char) :=
  let ds := (cs.take most).takeWhile Char.isDigit
  if ds.length < least then none
  else some (ds.foldl (fun n d => n * 10 + (d.toNat - 0x30)) 0, cs.drop ds.length)

def digitsAfter? (mark : Char) (least most : Nat) : List Char → Option (Nat × List Char)
  | c :: cs => if c = mark then digits? least most cs else none
  | [] => none

def dateText? (least : Nat) (cs : List Char) : Option (Date × List Char) := do
  let (year, cs) ← digits? 4 4 cs
  let (month, cs) ← digitsAfter? '-' least 2 cs
  let (day, cs) ← digitsAfter? '-' least 2 cs
  return (⟨year, month, day⟩, cs)

def microseconds (fraction : List Char) : Nat :=
  let ds := fraction.take 6
  (ds ++ List.replicate (6 - ds.length) '0').foldl (fun n d => n * 10 + (d.toNat - 0x30)) 0

/-- A zone at the end of a text: minutes ahead of universal time, or nothing. -/
def zoneText? : List Char → Option (Option Int)
  | [] => some none
  | ['Z'] => some (some 0)
  | sign :: cs =>
    if sign = '+' || sign = '-' then do
      let (hours, cs) ← digits? 1 2 cs
      let (minutes, cs) ← if cs.isEmpty then some (0, cs) else digitsAfter? ':' 2 2 cs
      if cs.isEmpty then
        let ahead : Int := hours * 60 + minutes
        some (some (if sign = '-' then -ahead else ahead))
      else none
    else none

def timeText? (d : Date) (cs : List Char) : Option Moment := do
  let (hour, cs) ← digits? 1 2 cs
  let (minute, cs) ← digitsAfter? ':' 2 2 cs
  let (second, cs) ← digitsAfter? ':' 2 2 cs
  let (fraction, cs) := match cs with
    | '.' :: more => (more.takeWhile Char.isDigit, more.dropWhile Char.isDigit)
    | _ => ([], cs)
  let offset ←
    match cs.dropWhile isBlankOrTab with
    | [] => if cs.isEmpty then some none else none
    | zone => zoneText? zone
  return ⟨d, hour, minute, second, microseconds fraction, offset⟩

def dropTimeMark? : List Char → Option (List Char)
  | 'T' :: cs => some cs
  | 't' :: cs => some cs
  | c :: cs => if isBlankOrTab c then some (cs.dropWhile isBlankOrTab) else none
  | [] => none

def momentText? (cs : List Char) : Option Moment := do
  let (d, cs) ← dateText? 1 cs
  timeText? d (← dropTimeMark? cs)

def dayText? (least : Nat) (cs : List Char) : Option Date := do
  let (d, cs) ← dateText? least cs
  if cs.isEmpty then some d else none

def isTimestampText (cs : List Char) : Bool :=
  (dayText? 2 cs).isSome || (momentText? cs).isSome

def dropFinalBreak (cs : List Char) : List Char :=
  if 1 < cs.length && cs.getLast? = some '\n' then cs.dropLast else cs

/-- The tag of a scalar that is read off its text. Timestamps are recognised only if asked for. -/
def plainTag (timestamps : Bool) (text : String) : Tag :=
  let cs := dropFinalBreak text.toList
  let text := String.ofList cs
  if isCasedWord booleanWords text then .bool
  else if isFloatText text then .float
  else if isWholeText cs then .int
  else if text = "<<" then .merge
  else if isNullText text then .null
  else if timestamps && isTimestampText cs then .timestamp
  else if text = "=" then .default
  else .text

end SampleTypes.Yaml
