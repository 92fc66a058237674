import Std.Time.DateTime.Timestamp
import SampleTypes.Command.Run

/-!
The program. The files that a command line may touch are looked at first; then the command runs on
that picture of them, and what it has changed is written back.
-/

namespace SampleTypes.Program

def absolutePath (l : Location) : String := "/" ++ joinTexts "/" l

def lookAlong (files : FileTree) (start : Location) : List String → IO FileTree
  | [] => return files
  | name :: rest => do
    let l :=
      if name = "" || name = "." then start
      else if name = ".." then start.dropLast
      else start ++ [name]
    if (files.get? l).isSome then lookAlong files l rest
    else
      let path := (← IO.currentDir) / absolutePath l
      if ← path.isDir then lookAlong (files.put l .directory) l rest
      else if ← path.pathExists then
        let bytes ← IO.FS.readBinFile path
        lookAlong (files.put l (.file bytes.toList)) l rest
      else lookAlong files l rest

def lookAt (files : FileTree) (path : String) : IO FileTree :=
  lookAlong files (if path.startsWith "/" then [] else files.workingDirectory) (FileTree.names path)

def outputNames : List String :=
  ["", "index.html", "generated-interfaces.ts", "parsed-types.json",
    "interfaces/generated-interfaces.ts", "docs/index.html"]

/-- Every argument may be a path, or have one after an equals sign or after a short option. -/
def pathsIn (argument : String) : List String :=
  [argument, String.ofList (argument.toList.drop 2),
    String.ofList ((argument.toList.dropWhile (· != '=')).drop 1)].filter (· != "")

def possiblePaths (arguments : List String) (environment : List (String × String)) : List String :=
  (arguments.flatMap pathsIn ++ environment.map Prod.snd ++ ["docs", "output"]).flatMap fun path =>
    outputNames.map (Path.join path)

def variableNames : List String :=
  ["TYPEATLAS_REFERENCE", "TYPEATLAS_TEMPLATE", "TYPEATLAS_ROOT_NAME"]

def readEnvironment : IO (List (String × String)) :=
  variableNames.filterMapM fun name => do return (← IO.getEnv name).map fun value => (name, value)

def currentLocation : IO Location := do
  return (FileTree.names (← IO.currentDir).toString).filter (· != "")

def writeBack (before after : FileTree) : IO Unit :=
  after.nodes.forM fun (l, n) => do
    if before.get? l != some n then
      match n with
      | .directory => IO.FS.createDirAll (absolutePath l)
      | .file bytes => IO.FS.writeBinFile (absolutePath l) ⟨bytes.toArray⟩

def readClock : IO Command.Clock := do
  let now ← Std.Time.Timestamp.now
  let microseconds := now.toNanosecondsSinceUnixEpoch.val.toNat / 1000
  return ⟨(Moment.ofMicroseconds microseconds).stamp⟩

def readHost : IO Command.Host := do
  let width := ((← IO.getEnv "COLUMNS").bind String.toNat?).getD 0
  return if h : 0 < width then { width := width, width_pos := h } else { width := 80 }

def execute (arguments : List String) : IO UInt32 := do
  let environment ← readEnvironment
  let start : FileTree := { workingDirectory := ← currentLocation }
  let files ← (possiblePaths arguments environment).foldlM lookAt start
  let outcome := Command.run (← readClock) environment files arguments (← readHost)
  writeBack files outcome.session.files
  (← IO.getStdout).putStr outcome.session.out
  (← IO.getStderr).putStr outcome.session.err
  if outcome.crash.isSome then (← IO.getStderr).putStr "The command was given up.\n"
  return outcome.exitCode.toUInt32

end SampleTypes.Program

def main (arguments : List String) : IO UInt32 := SampleTypes.Program.execute arguments
