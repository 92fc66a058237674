import SampleTypes.Documentation.Page
import SampleTypes.Inference

/-!
The commands of the program, their options, and the help texts: the usage, what a command does, and its
options in two columns.
-/

namespace SampleTypes.Command

inductive ValueKind where
  | flag
  | text
  | whole
  | path
  | directory
  | choice (values : List String)
  deriving DecidableEq, Repr

def ValueKind.placeholder : ValueKind → String
  | .flag => ""
  | .text => "TEXT"
  | .whole => "INTEGER"
  | .path => "PATH"
  | .directory => "DIRECTORY"
  | .choice values => "[" ++ joinTexts "|" values ++ "]"

structure OptionSpec where
  long : String
  short : Option String := none
  kind : ValueKind
  help : String := ""
  default : Option String := none
  showsDefault : Bool := false
  variableName : Option String := none
  deriving DecidableEq, Repr

def OptionSpec.spellings (o : OptionSpec) : List String := o.short.toList ++ [o.long]

inductive Name where
  | parse
  | generate
  | docs
  | all
  deriving DecidableEq, Repr

def Name.list : List Name := [.all, .docs, .generate, .parse]

def Name.text : Name → String
  | .parse => "parse"
  | .generate => "generate"
  | .docs => "docs"
  | .all => "all"

def Name.ofText? (text : String) : Option Name := Name.list.find? fun n => n.text = text

def Name.summary : Name → String
  | .parse => "Infer type definitions from a JSON/YAML sample."
  | .generate => "Generate TypeScript declarations from parser output JSON."
  | .docs => "Render HTML documentation from parser output JSON."
  | .all => "Run the full pipeline: parse, generate and document."

def programName : String := "typeatlas"

def programSummary : String := "TypeAtlas — structural type inference for API responses."

def helpOption : OptionSpec :=
  { long := "--help", kind := .flag, help := "Show this message and exit." }

def verboseOption : OptionSpec :=
  { long := "--verbose", short := some "-v", kind := .flag, help := "Enable debug logging" }

def referenceOption : OptionSpec :=
  { long := "--reference", short := some "-r", kind := .path
    help := "Reference schema YAML/JSON file", variableName := some "TYPEATLAS_REFERENCE" }

def templateOption : OptionSpec :=
  { long := "--template", short := some "-t", kind := .path, help := "Interface template file"
    variableName := some "TYPEATLAS_TEMPLATE" }

def defaultRootName : String := "ApiResponse"

def rootNameOption (help : String) : OptionSpec :=
  { long := "--root-name", short := some "-n", kind := .text, help := help
    default := some defaultRootName, showsDefault := true
    variableName := some "TYPEATLAS_ROOT_NAME" }

def titleOption : OptionSpec :=
  { long := "--title", kind := .text, help := "Documentation title"
    default := some Documentation.defaultTitle, showsDefault := true }

def formatOption : OptionSpec :=
  { long := "--format", short := some "-f", kind := .choice ["table", "yaml", "json"]
    default := some "table" }

def maxDepthOption : OptionSpec :=
  { long := "--max-depth", kind := .whole, help := "Abort on samples nested deeper than this" }

def storybookOption : OptionSpec :=
  { long := "--storybook", kind := .flag, help := "Append Storybook documentation types" }

def outputOption (help : String) : OptionSpec :=
  { long := "--output", short := some "-o", kind := .path, help := help }

def docsDirectoryOption : OptionSpec :=
  { long := "--output", short := some "-o", kind := .directory, help := "Output directory"
    default := some "docs", showsDefault := true }

def outputDirectoryOption : OptionSpec :=
  { long := "--output-dir", short := some "-d", kind := .directory
    default := some "output", showsDefault := true }

def Name.options : Name → List OptionSpec
  | .parse => [referenceOption, rootNameOption "Name of the root type", formatOption,
      outputOption "Write output to file", maxDepthOption, helpOption]
  | .generate => [templateOption, referenceOption,
      outputOption "Write TypeScript to this file or directory", storybookOption, helpOption]
  | .docs => [docsDirectoryOption, titleOption, helpOption]
  | .all => [outputDirectoryOption, referenceOption, templateOption, rootNameOption "", titleOption,
      helpOption]

abbrev Scope := Option Name

def Scope.options : Scope → List OptionSpec
  | none => [verboseOption, helpOption]
  | some name => name.options

def Scope.path : Scope → String
  | none => programName
  | some name => programName ++ " " ++ name.text

def usageLine (scope : Scope) : String :=
  "Usage: " ++ scope.path ++
    (match scope with
      | none => " [OPTIONS] COMMAND [ARGS]..."
      | some _ => " [OPTIONS] INPUT") ++ "\n"

def helpWidth : Nat := 78

def firstColumnLimit : Nat := 30

def optionHead (o : OptionSpec) : String :=
  joinTexts ", " o.spellings ++
    (if o.kind = .flag then "" else " " ++ o.kind.placeholder)

def optionBody (o : OptionSpec) : String :=
  match o.default, o.showsDefault with
  | some value, true =>
    (if o.help = "" then "" else o.help ++ "  ") ++ "[default: " ++ value ++ "]"
  | _, _ => o.help

def spacedWords (text : String) : List (List Char) :=
  text.toList.splitBy fun a b => a = ' ' || b != ' '

/-- The words on lines of a width; the blanks at the start of a line are left out. -/
def fillLines (width : Nat) : List Char → List (List Char) → List (List Char)
  | line, [] => if line.isEmpty then [] else [line]
  | line, word :: rest =>
    if line.isEmpty then fillLines width (word.dropWhile (· = ' ')) rest
    else if line.length + word.length ≤ width then fillLines width (line ++ word) rest
    else line :: fillLines width (word.dropWhile (· = ' ')) rest

def blanks (n : Nat) : String := String.ofList (List.replicate n ' ')

/-- A row of two columns, of which the second begins at `start` cells after the indentation. -/
def helpRow (start : Nat) (row : String × String) : String :=
  let lines := (fillLines (helpWidth - start) [] (spacedWords row.2)).map String.ofList
  match lines with
  | [] => "  " ++ row.1 ++ "\n"
  | first :: more =>
    "  " ++ row.1 ++
      (if row.1.length + 2 ≤ start then blanks (start - row.1.length)
        else "\n" ++ blanks (start + 2)) ++ first ++ "\n" ++
      String.join (more.map fun line => blanks (start + 2) ++ line ++ "\n")

def helpRows (rows : List (String × String)) : String :=
  let widest := (rows.map fun r => r.1.length).foldl max 0
  String.join (rows.map (helpRow (min widest firstColumnLimit + 2)))

def helpSection (heading : String) (rows : List (String × String)) : String :=
  "\n" ++ heading ++ ":\n" ++ helpRows rows

def helpText (scope : Scope) : String :=
  let summary := match scope with
    | none => programSummary
    | some name => name.summary
  usageLine scope ++ "\n  " ++ summary ++ "\n" ++
    helpSection "Options" (scope.options.map fun o => (optionHead o, optionBody o)) ++
    (match scope with
      | none => helpSection "Commands" (Name.list.map fun n => (n.text, n.summary))
      | some _ => "")

end SampleTypes.Command
