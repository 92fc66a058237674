import SampleTypes.Command.Files
import SampleTypes.Command.Options
import SampleTypes.Decimal.Reading
import SampleTypes.Text.Basic

/-!
Reading a command line. Options may stand before and after the input, and have their values in the
same argument or in the next. The values are checked in the order in which they are given, then the
input, then the options that are not given.
-/

namespace SampleTypes.Command

inductive UsageFault where
  | unknownOption (name : String) (similar : List String)
  | needsValue (name : String)
  | takesNoValue (name : String)
  | missingInput
  | extraArguments (arguments : List String)
  | notWhole (parameter value : String)
  | notChoice (parameter value : String) (choices : List String)
  | noInput (value : String)
  | inputIsDirectory (value : String)
  | directoryIsFile (parameter value : String)
  | missingCommand
  | unknownCommand (name : String) (similar : List String)
  deriving DecidableEq, Repr

def quotedList (texts : List String) : String := joinTexts ", " (texts.map Text.quoted)

def suggestion (what : String) (similar : List String) : String :=
  match similar with
  | [] => ""
  | [one] => " Did you mean " ++ Text.quoted one ++ "?"
  | more => " (Possible " ++ what ++ ": " ++ quotedList (sortTexts more) ++ ")"

def invalidValue (parameter : String) (why : String) : String :=
  "Invalid value for " ++ parameter ++ ": " ++ why

def UsageFault.message : UsageFault → String
  | .unknownOption name similar =>
    "No such option " ++ Text.quoted name ++ "." ++ suggestion "options" similar
  | .needsValue name => "Option " ++ Text.quoted name ++ " requires an argument."
  | .takesNoValue name => "Option " ++ Text.quoted name ++ " does not take a value."
  | .missingInput => "Missing argument 'INPUT'."
  | .extraArguments arguments =>
    "Got unexpected extra argument" ++ (if arguments.length = 1 then "" else "s") ++ " (" ++
      joinTexts " " arguments ++ ")"
  | .notWhole parameter value =>
    invalidValue parameter (Text.quoted value ++ " is not a valid integer.")
  | .notChoice parameter value choices =>
    invalidValue parameter (Text.quoted value ++ " is not one of " ++ quotedList choices ++ ".")
  | .noInput value => invalidValue "'INPUT'" ("File " ++ Text.quoted value ++ " does not exist.")
  | .inputIsDirectory value =>
    invalidValue "'INPUT'" ("File " ++ Text.quoted value ++ " is a directory.")
  | .directoryIsFile parameter value =>
    invalidValue parameter ("Directory " ++ Text.quoted value ++ " is a file.")
  | .missingCommand => "Missing command."
  | .unknownCommand name similar =>
    "No such command " ++ Text.quoted name ++ "." ++ suggestion "commands" similar

def UsageFault.isOfForm : UsageFault → Bool
  | .needsValue _ => true
  | .takesNoValue _ => true
  | _ => false

/-- The whole message. The usage of the command comes first, unless the fault is one of form. -/
def UsageFault.report (scope : Scope) (f : UsageFault) : String :=
  (if f.isOfForm then ""
    else usageLine scope ++ "Try " ++ Text.quoted (scope.path ++ " --help") ++ " for help.\n\n") ++
    "Error: " ++ f.message ++ "\n"

abbrev Given := OptionSpec × Option String

structure Split where
  given : List Given := []
  arguments : List String := []

def Split.andGiven (g : Given) (s : Split) : Split := { s with given := g :: s.given }

def Split.andArgument (a : String) (s : Split) : Split := { s with arguments := a :: s.arguments }

def longOption? (options : List OptionSpec) (name : String) : Option OptionSpec :=
  options.find? fun o => o.long = name

def shortOption? (options : List OptionSpec) (letter : Char) : Option OptionSpec :=
  options.find? fun o => o.short = some (String.ofList ['-', letter])

def cutValue (argument : List Char) : String × Option String :=
  let name := argument.takeWhile (· != '=')
  match argument.drop name.length with
  | [] => (String.ofList name, none)
  | _ :: value => (String.ofList name, some (String.ofList value))

/-- What an argument of short options comes to: options that are complete, and perhaps one whose
value is in the next argument. -/
def shortOptions (options : List OptionSpec) :
    List Char → Except UsageFault (List Given × Option OptionSpec)
  | [] => .ok ([], none)
  | c :: cs =>
    match shortOption? options c with
    | none => .error (.unknownOption (String.ofList ['-', c]) [])
    | some o =>
      if o.kind = .flag then
        (shortOptions options cs).map fun (given, waiting) => ((o, none) :: given, waiting)
      else if cs.isEmpty then .ok ([], some o)
      else .ok ([(o, some (String.ofList cs))], none)

inductive Reading where
  | argument
  | given (options : List Given)
  | waiting (options : List Given) (last : OptionSpec) (name : String)
  | endOfOptions

def readLong (options : List OptionSpec) (name : String) (value : Option String) :
    Except UsageFault Reading :=
  match longOption? options name with
  | none => .error (.unknownOption name (Text.closeMatches name (options.map OptionSpec.long)))
  | some o =>
    match o.kind, value with
    | .flag, none => .ok (.given [(o, none)])
    | .flag, some _ => .error (.takesNoValue name)
    | _, some v => .ok (.given [(o, some v)])
    | _, none => .ok (.waiting [] o name)

def readArgument (options : List OptionSpec) (argument : String) : Except UsageFault Reading :=
  match argument.toList with
  | ['-', '-'] => .ok .endOfOptions
  | '-' :: c :: cs =>
    let (name, value) := cutValue ('-' :: c :: cs)
    if c = '-' || (longOption? options name).isSome then readLong options name value
    else
      (shortOptions options (c :: cs)).map fun (given, last) =>
        match last with
        | none => .given given
        | some o => .waiting given o (o.short.getD o.long)
  | _ => .ok .argument

/-- The options and the other arguments. If options stand only in front, the first other argument ends
them. -/
def split (options : List OptionSpec) (onlyInFront : Bool) : List String → Except UsageFault Split
  | [] => .ok {}
  | [a] =>
    match readArgument options a with
    | .error e => .error e
    | .ok .argument => .ok { arguments := [a] }
    | .ok (.given given) => .ok { given := given }
    | .ok (.waiting _ _ name) => .error (.needsValue name)
    | .ok .endOfOptions => .ok {}
  | a :: b :: rest =>
    match readArgument options a with
    | .error e => .error e
    | .ok .argument =>
      if onlyInFront then .ok { arguments := a :: b :: rest }
      else (split options onlyInFront (b :: rest)).map (Split.andArgument a)
    | .ok (.given given) =>
      (split options onlyInFront (b :: rest)).map fun s => given.foldr Split.andGiven s
    | .ok (.waiting given o _) =>
      (split options onlyInFront rest).map fun s => (given ++ [(o, some b)]).foldr Split.andGiven s
    | .ok .endOfOptions => .ok { arguments := b :: rest }

inductive OptionValue where
  | flag
  | text (s : String)
  | whole (n : Int)
  deriving DecidableEq, Repr

def OptionSpec.label (o : OptionSpec) : String :=
  joinTexts " / " (o.spellings.map Text.quoted)

/-- What keeps a command line from being read: a fault of its own, or a path that cannot be looked
up. -/
inductive LineFault where
  | usage (f : UsageFault)
  | path (e : FileError)
  deriving DecidableEq, Repr

def lookUp (files : FileTree) (path : String) : Except LineFault (Option FileNode) :=
  match files.status path with
  | .ok n => .ok (some n)
  | .error .nullCharacter => .error (.path ⟨.nullCharacter, path⟩)
  | .error _ => .ok none

def OptionSpec.check (files : FileTree) (o : OptionSpec) (value : Option String) :
    Except LineFault OptionValue :=
  match o.kind, value with
  | .flag, _ => .ok .flag
  | _, none => .ok .flag
  | .text, some v => .ok (.text v)
  | .path, some v => (lookUp files v).map fun _ => .text v
  | .whole, some v =>
    match Decimal.readWhole 10 v.toList with
    | .ok n => .ok (.whole n)
    | .error _ => .error (.usage (.notWhole o.label v))
  | .choice choices, some v =>
    if choices.contains v then .ok (.text v) else .error (.usage (.notChoice o.label v choices))
  | .directory, some v =>
    match lookUp files v with
    | .ok (some (.file _)) => .error (.usage (.directoryIsFile o.label v))
    | .ok _ => .ok (.text v)
    | .error e => .error e

def checkInput (files : FileTree) (arguments : List String) : Except LineFault String :=
  match arguments with
  | [] => .error (.usage .missingInput)
  | input :: _ =>
    match lookUp files input with
    | .ok (some (.file _)) => .ok input
    | .ok (some .directory) => .error (.usage (.inputIsDirectory input))
    | .ok none => .error (.usage (.noInput input))
    | .error e => .error e

/-- A command with its input and the values of its options by their long names. -/
structure Invocation where
  name : Name
  verbose : Bool
  input : String
  values : List (String × OptionValue)

namespace Invocation

def text? (i : Invocation) (o : String) : Option String :=
  match valueOf? o i.values with
  | some (.text s) => some s
  | _ => none

def given? (i : Invocation) (o : String) : Option String := (i.text? o).filter (· != "")

def whole? (i : Invocation) (o : String) : Option Int :=
  match valueOf? o i.values with
  | some (.whole n) => some n
  | _ => none

def has (i : Invocation) (o : String) : Bool := (valueOf? o i.values).isSome

end Invocation

/-- The value that counts for each option given: the last one, in the place of the first. -/
def lastValues (given : List Given) : List (String × Given) :=
  given.foldl (fun found g => putValue g.1.long g found) []

def checkGiven (files : FileTree) (g : String × Given) : Except LineFault (String × OptionValue) :=
  (g.2.1.check files g.2.2).map fun v => (g.1, v)

/-- The value of an option that is not given: from its variable unless that is empty, or its
default. -/
def fallback (environment : List (String × String)) (o : OptionSpec) : Option String :=
  match (o.variableName.bind fun v => valueOf? v environment).filter (· != "") with
  | some v => some v
  | none => o.default

def checkFallback (files : FileTree) (environment : List (String × String)) (o : OptionSpec) :
    Except LineFault (List (String × OptionValue)) :=
  match fallback environment o with
  | some v => (o.check files (some v)).map fun v => [(o.long, v)]
  | none => .ok []

inductive Request where
  | help (scope : Scope)
  | nothing
  | invoke (i : Invocation)

abbrev Refusal := Scope × LineFault

def asksForHelp (s : Split) : Bool := s.given.any fun g => g.1 = helpOption

def checkValues (files : FileTree) (environment : List (String × String)) (name : Name) (verbose : Bool)
    (s : Split) : Except LineFault Invocation := do
  let given := lastValues s.given
  let values ← given.mapM (checkGiven files)
  let input ← checkInput files s.arguments
  let absent := name.options.filter fun o => (valueOf? o.long given).isNone
  let others ← absent.mapM (checkFallback files environment)
  if 1 < s.arguments.length then throw (.usage (.extraArguments (s.arguments.drop 1)))
  return ⟨name, verbose, input, values ++ others.flatten⟩

def readCommand (files : FileTree) (environment : List (String × String)) (name : Name)
    (verbose : Bool) (arguments : List String) : Except LineFault Request := do
  let s ← (split name.options false arguments).mapError .usage
  if asksForHelp s then return .help (some name)
  return .invoke (← checkValues files environment name verbose s)

def readLine (files : FileTree) (environment : List (String × String)) (arguments : List String) :
    Except Refusal Request :=
  if arguments.isEmpty then .ok .nothing
  else
    match split (Scope.options none) true arguments with
    | .error e => .error (none, .usage e)
    | .ok s =>
      if asksForHelp s then .ok (.help none)
      else
        match s.arguments with
        | [] => .error (none, .usage .missingCommand)
        | command :: rest =>
          match Name.ofText? command with
          | none =>
            .error (none,
              .usage (.unknownCommand command (Text.closeMatches command (Name.list.map Name.text))))
          | some name =>
            (readCommand files environment name (!s.given.isEmpty) rest).mapError fun e => (some name, e)

end SampleTypes.Command
