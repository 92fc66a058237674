import SampleTypes.Decimal

/-!
What a run has to say of itself: lines for the log, and values of a sort that an operation cannot work
with. Those come from documents, which may hold any value where a text is meant.
-/

namespace SampleTypes

inductive LogLevel where
  | debug
  | info
  | warning
  deriving DecidableEq, Repr

def LogLevel.label : LogLevel → String
  | .debug => "DEBUG"
  | .info => "INFO"
  | .warning => "WARNING"

structure LogEntry where
  level : LogLevel
  source : String
  message : String
  deriving DecidableEq, Repr

def LogEntry.line (e : LogEntry) : String :=
  e.level.label ++ " " ++ e.source ++ ": " ++ e.message ++ "\n"

/-- Whether the entry is shown: all are when asked for, and warnings always. -/
def LogEntry.shown (verbose : Bool) (e : LogEntry) : Bool :=
  verbose || e.level = .warning

inductive Misuse where
  | notIterable (typeName : String)
  | unhashable (typeName : String)
  | unordered
  | notText (typeName : String)
  | notMapping (typeName : String)
  | textExpected (typeName : String)
  | numberTooLong
  | tooNested
  deriving DecidableEq, Repr

def Misuse.message : Misuse → String
  | .notIterable typeName => "'" ++ typeName ++ "' object is not iterable"
  | .unhashable typeName => "unhashable type: '" ++ typeName ++ "'"
  | .unordered => "'<' not supported between these values"
  | .notText typeName => "'" ++ typeName ++ "' object is no text"
  | .notMapping typeName => "'" ++ typeName ++ "' object has no attribute 'get'"
  | .textExpected typeName => "expected a text, got " ++ typeName
  | .numberTooLong => Decimal.limitMessage none
  | .tooNested => "maximum recursion depth exceeded"

end SampleTypes
