import SampleTypes.Decimal
import SampleTypes.Json

/-!
Type names from hints, unique within one run. A base is made of the ASCII letters and digits of a hint,
each run of them capitalised. The first use of a base gets the bare name and later uses get it with a
number; the number only goes up, and names that are taken are passed over.
-/

namespace SampleTypes

def anonymousName : String := "Anonymous"

/-- The runs of ASCII letters and digits one after another, the first character of each in upper
case. The flag says that a run may begin here. -/
def capitalizeRuns : Bool → List Char → List Char
  | _, [] => []
  | atStart, c :: cs =>
    if c.isAlphanum then (if atStart then c.toUpper else c) :: capitalizeRuns false cs
    else capitalizeRuns true cs

def pascalCase (hint : String) : String :=
  match capitalizeRuns true hint.toList with
  | [] => anonymousName
  | c :: cs => if c.isDigit then String.ofList ('T' :: 'y' :: 'p' :: 'e' :: c :: cs)
    else String.ofList (c :: cs)

structure Allocator where
  counters : List (String × Nat) := []
  taken : List String := []
  deriving DecidableEq, Repr

namespace Allocator

def reserving (names : List String) : Allocator := { taken := names }

def numbered (base : String) (n : Nat) : String :=
  if n = 0 then base else base ++ Decimal.natText n

/-- The first number from `n` on whose name is free. As many steps as there are taken names are
enough. -/
def firstFree (base : String) (taken : List String) : Nat → Nat → Nat
  | 0, n => n
  | fuel + 1, n => if numbered base n ∈ taken then firstFree base taken fuel (n + 1) else n

def counter (a : Allocator) (base : String) : Nat :=
  (valueOf? base a.counters).getD 0

def occurrences (a : Allocator) (hint : String) : Nat :=
  a.counter (pascalCase hint)

def allocate (a : Allocator) (hint : String) : String × Allocator :=
  let base := pascalCase hint
  let n := firstFree base a.taken a.taken.length (a.counter base)
  let name := numbered base n
  (name, { counters := putValue base (n + 1) a.counters, taken := a.taken ++ [name] })

end Allocator

end SampleTypes
