import SampleTypes.Decimal
import SampleTypes.Text.Quoted
import SampleTypes.Text.Utf8
import SampleTypes.Value.Calendar

/-!
What can be wrong with a YAML text: its form, or a scalar that does not fit the type of its tag.
-/

namespace SampleTypes.Yaml

inductive Fault where
  | malformed (what : String)
  | undecodable (fault : Text.Utf8Fault)
  | notWhole (base : Nat) (text : String)
  | tooManyDigits (count : Nat)
  | notFloat (text : String)
  | weightTooLarge
  | emptyNumber
  | notBoolean (text : String)
  | notTimestamp
  | timestampMapping
  | notInCalendar (fault : CalendarFault)
  | notCodePoint (code : Nat)
  | endless
  deriving DecidableEq, Repr

def Fault.message : Fault → String
  | .malformed what => what
  | .undecodable fault => fault.message
  | .notWhole base text =>
    "invalid literal for int() with base " ++ Decimal.natText base ++ ": " ++
      String.ofList ((Text.quoted text).toList.take 200)
  | .tooManyDigits count => Decimal.limitMessage (some count)
  | .notFloat text => "could not convert string to float: " ++ Text.quoted text
  | .weightTooLarge => "int too large to convert to float"
  | .emptyNumber => "string index out of range"
  | .notBoolean text => Text.quoted text
  | .notTimestamp => "this is no timestamp"
  | .timestampMapping => "a timestamp is no mapping"
  | .notInCalendar fault => fault.message
  | .notCodePoint _ => "chr() arg not in range(0x110000)"
  | .endless => "maximum recursion depth exceeded"

/-- The greatest code of an escape that is looked at; a larger one is no number of that kind. -/
def largestCode : Nat := 0x7FFFFFFF

/-- Whether the text or a value in it is to blame, rather than a scalar that its type does not
expect. -/
def Fault.isRejection : Fault → Bool
  | .malformed _ => true
  | .undecodable _ => true
  | .notWhole _ _ => true
  | .tooManyDigits _ => true
  | .notFloat _ => true
  | .notInCalendar _ => true
  | .notCodePoint code => code ≤ largestCode
  | .weightTooLarge => false
  | .emptyNumber => false
  | .notBoolean _ => false
  | .notTimestamp => false
  | .timestampMapping => false
  | .endless => false

end SampleTypes.Yaml
