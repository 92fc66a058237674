import SampleTypes.Decimal
import SampleTypes.Text.Basic
import SampleTypes.Text.Quoted
import SampleTypes.Text.Utf8

/-!
A tree of files. A path is names divided by slashes, read from the working directory, or from the top if
it begins with a slash; every name on the way has to be a directory.
-/

namespace SampleTypes.Path

def join (a b : String) : String :=
  if b.startsWith "/" || a = "" then b
  else if a.endsWith "/" then a ++ b
  else a ++ "/" ++ b

/-- What stands before the last slash and after it. Slashes at the end of the first part are left out
unless there is nothing else in it. -/
def split (path : String) : String × String :=
  let reversed := path.toList.reverse
  let name := (reversed.takeWhile (· != '/')).reverse
  let front := reversed.dropWhile (· != '/')
  let bare := front.dropWhile (· = '/')
  (String.ofList (if bare.isEmpty then front.reverse else bare.reverse), String.ofList name)

def parent (path : String) : String := (split path).1

def name (path : String) : String := (split path).2

def hasExtension (extension path : String) : Bool :=
  Text.endsWith extension.toList (path.toList.map Char.toLower)

end SampleTypes.Path

namespace SampleTypes

inductive FileFault where
  | notFound
  | exists
  | notDirectory
  | isDirectory
  | nameTooLong
  | nullCharacter
  deriving DecidableEq, Repr

def FileFault.code? : FileFault → Option Nat
  | .notFound => some 2
  | .exists => some 17
  | .notDirectory => some 20
  | .isDirectory => some 21
  | .nameTooLong => some 36
  | .nullCharacter => none

def FileFault.text : FileFault → String
  | .notFound => "No such file or directory"
  | .exists => "File exists"
  | .notDirectory => "Not a directory"
  | .isDirectory => "Is a directory"
  | .nameTooLong => "File name too long"
  | .nullCharacter => "embedded null byte"

structure FileError where
  fault : FileFault
  path : String
  deriving DecidableEq, Repr

def FileError.message (e : FileError) : String :=
  match e.fault.code? with
  | some n => "[Errno " ++ Decimal.natText n ++ "] " ++ e.fault.text ++ ": " ++ Text.quoted e.path
  | none => e.fault.text

inductive FileNode where
  | directory
  | file (bytes : List UInt8)
  deriving DecidableEq, Repr

abbrev Location := List String

structure FileTree where
  nodes : List (Location × FileNode) := []
  workingDirectory : Location := []

namespace FileTree

def get? (t : FileTree) (l : Location) : Option FileNode :=
  if l.isPrefixOf t.workingDirectory then some .directory
  else (t.nodes.find? fun n => n.1 = l).map Prod.snd

def put (t : FileTree) (l : Location) (n : FileNode) : FileTree :=
  { t with nodes := if t.nodes.any fun m => m.1 = l
      then t.nodes.map fun m => if m.1 = l then (l, n) else m
      else t.nodes ++ [(l, n)] }

def longestName : Nat := 255

def unusableSize : Nat := 4096

def walk (t : FileTree) (l : Location) : List String → Except FileFault Location
  | [] => .ok l
  | name :: rest =>
    match t.get? l with
    | none => .error .notFound
    | some (.file _) => .error .notDirectory
    | some .directory =>
      if name = "" || name = "." then walk t l rest
      else if name = ".." then walk t l.dropLast rest
      else if longestName < name.utf8ByteSize then .error .nameTooLong
      else walk t (l ++ [name]) rest

def names (path : String) : List String :=
  (path.toList.splitOn '/').map String.ofList

def locate (t : FileTree) (path : String) : Except FileFault Location :=
  if path.toList.contains '\x00' then .error .nullCharacter
  else if path = "" then .error .notFound
  else if unusableSize ≤ path.utf8ByteSize then .error .nameTooLong
  else t.walk (if path.startsWith "/" then [] else t.workingDirectory) (names path)

def status (t : FileTree) (path : String) : Except FileFault FileNode := do
  match t.get? (← t.locate path) with
  | some n => return n
  | none => throw .notFound

def exists? (t : FileTree) (path : String) : Bool := (t.status path).toOption.isSome

def isDirectory (t : FileTree) (path : String) : Bool :=
  (t.status path).toOption = some .directory

def atPath {α : Type} (path : String) (r : Except FileFault α) : Except FileError α :=
  r.mapError (⟨·, path⟩)

def read (t : FileTree) (path : String) : Except FileError (List UInt8) :=
  atPath path do
    match ← t.status path with
    | .file bytes => return bytes
    | .directory => throw .isDirectory

def withoutSlashes (path : String) : String :=
  match (path.toList.reverse.dropWhile (· = '/')).reverse with
  | [] => path
  | cs => String.ofList cs

/-- A file is made or replaced. A path with a slash at its end is no file. -/
def write (t : FileTree) (path : String) (bytes : List UInt8) : Except FileError FileTree :=
  atPath path do
    let l ← t.locate (withoutSlashes path)
    match t.get? l, path.endsWith "/" with
    | some .directory, _ => throw .isDirectory
    | some (.file _), true => throw .notDirectory
    | none, true => throw .isDirectory
    | _, false => return t.put l (.file bytes)

def makeDirectory (t : FileTree) (path : String) : Except FileError FileTree :=
  atPath path do
    let l ← t.locate (withoutSlashes path)
    if (t.get? l).isSome then throw .exists else return t.put l .directory

/-- The path with what has to be there before it: the parent, and so on. The first argument bounds
the number of steps. -/
def lineage (t : FileTree) : Nat → String → List String
  | 0, path => [path]
  | fuel + 1, path =>
    let (front, last) := Path.split path
    let (front, last) := if last = "" then Path.split front else (front, last)
    if front != "" && last != "" && !t.exists? front then lineage t fuel front ++ [path] else [path]

/-- A directory with all directories on the way to it; it may be there already. -/
def makeDirectories (t : FileTree) (path : String) : Except FileError FileTree :=
  (t.lineage path.length path).foldlM
    (fun t p =>
      match t.makeDirectory p with
      | .ok t => .ok t
      | .error e => if t.isDirectory p then .ok t else .error e) t

def writeText (t : FileTree) (path text : String) : Except FileError FileTree :=
  t.write path (Text.encodeUtf8 text.toList)

def writeWithParent (t : FileTree) (path text : String) : Except FileError FileTree := do
  let parent := Path.parent path
  (← if parent = "" then .ok t else t.makeDirectories parent).writeText path text

end FileTree

end SampleTypes
