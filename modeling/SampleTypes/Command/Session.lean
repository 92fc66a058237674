import SampleTypes.Command.Files
import SampleTypes.Console.Markup
import SampleTypes.Console.Wrap
import SampleTypes.Diagnostics
import SampleTypes.Inference
import SampleTypes.Yaml.Fault

/-!
What a command does to the world: it changes files, prints on the console and writes a log. A command
may stop early, with an exit code or by a fault that nobody handles.
-/

namespace SampleTypes.Command

inductive Trouble where
  | file (e : FileError)
  | undecodable (f : Text.Utf8Fault)
  deriving DecidableEq, Repr

def Trouble.message : Trouble → String
  | .file e => e.message
  | .undecodable f => f.message

inductive Crash where
  | trouble (t : Trouble)
  | misuse (m : Misuse)
  | scalar (f : Yaml.Fault)
  | markup (f : Console.MarkupFault)
  | inference (f : Inference.Failure)
  deriving DecidableEq, Repr

def Crash.rejection? : Crash → Option String
  | .trouble t => some t.message
  | .misuse .numberTooLong => some Misuse.numberTooLong.message
  | .markup (.badColor text fault) => some (fault.message 10 text)
  | _ => none

inductive Stop where
  | exit (code : Nat)
  | crash (c : Crash)
  deriving DecidableEq, Repr

structure Session where
  files : FileTree
  width : Nat
  verbose : Bool := false
  out : String := ""
  err : String := ""

/-- What a run finds where it runs: the width of a console, and for the command lines that use up the
stack on some files what is there when this has happened. -/
structure Host where
  width : Nat
  width_pos : 0 < width := by decide
  exhausted : FileTree → List String → Option Session := fun _ _ => none

def Host.session (host : Host) (files : FileTree) : Session := { files := files, width := host.width }

@[simp] theorem Host.session_files (host : Host) (files : FileTree) :
    (host.session files).files = files := rfl

@[simp] theorem Host.session_width (host : Host) (files : FileTree) :
    (host.session files).width = host.width := rfl

def Host.ample : Host := { width := 200 }

abbrev Run := ExceptT Stop (StateM Session)

namespace Run

def exit {α : Type} (code : Nat) : Run α := throw (.exit code)

def crash {α : Type} (c : Crash) : Run α := throw (.crash c)

def files : Run FileTree := return (← get).files

def echo (text : String) : Run Unit :=
  modify fun s =>
    { s with out := s.out ++ String.ofList (Console.withoutSequences 0 text.toList) ++ "\n" }

def complain (text : String) : Run Unit :=
  modify fun s => { s with err := s.err ++ text }

def log (entries : List LogEntry) : Run Unit :=
  modify fun s => { s with
    err := s.err ++ String.join ((entries.filter (LogEntry.shown s.verbose)).map LogEntry.line) }

def width : Run Nat := return (← get).width

def printLines (lines : List (List Char)) : Run Unit :=
  modify fun s => { s with out := s.out ++ String.join (lines.map fun l => String.ofList (l ++ ['\n'])) }

def plain (markup : String) : Run (List Char) :=
  match Console.plainText markup with
  | .ok cs => pure cs
  | .error f => crash (.markup f)

def say (markup : String) : Run Unit := do
  let cs ← plain markup
  printLines (Console.wrap (← width) cs)

def fail {α : Type} (what why : String) : Run α := do
  say ("[red]" ++ what ++ ":[/] " ++ why)
  exit 1

/-- How trouble with files is met: it may end the command, or be left to nobody. -/
abbrev OnTrouble := Trouble → Run Unit

def failing (what : String) : OnTrouble := fun t => fail what t.message

def crashing : OnTrouble := fun t => crash (.trouble t)

def saving (onTrouble : OnTrouble) (r : Except FileError FileTree) : Run Unit :=
  match r with
  | .ok files => modify fun s => { s with files := files }
  | .error e => onTrouble (.file e)

/-- A command that ends for a reason told, where it would crash over a value. -/
def rescued (what : String) (body : Run Unit) : Run Unit :=
  tryCatch body fun
    | .crash c =>
      match c.rejection? with
      | some why => fail what why
      | none => crash c
    | .exit code => exit code

def readText (path : String) : Run (Except Trouble (List Char)) := do
  match (← files).read path with
  | .error e => return .error (.file e)
  | .ok bytes =>
    match Text.decodeUtf8 bytes with
    | .error f => return .error (.undecodable f)
    | .ok cs => return .ok (Text.normalizeLines cs)

end Run

end SampleTypes.Command
