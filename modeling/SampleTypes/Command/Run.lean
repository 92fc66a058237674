import SampleTypes.Catalog.Registry
import SampleTypes.Command.Files
import SampleTypes.Command.Line
import SampleTypes.Command.Session
import SampleTypes.Console.Table
import SampleTypes.Decimal
import SampleTypes.Documentation.Unchecked
import SampleTypes.Inference
import SampleTypes.Json.Reader
import SampleTypes.Reference.Load
import SampleTypes.Sample
import SampleTypes.TypeScript.Unchecked
import SampleTypes.Yaml.Sample
import SampleTypes.Yaml.Writer

/-!
The commands: inferring types from a sample, generating declarations and documentation from a report,
and all three in a row. The name of a sample's file decides whether it holds YAML or JSON; timestamps in
YAML are read as texts, as they would be in JSON. Of a report the console shows the fields of a single
type, or a table of several.
-/

namespace SampleTypes.Command

inductive Sample where
  | tree (v : Value)
  | graph (p : Place)

inductive SampleFault where
  | undecodable (f : Text.Utf8Fault)
  | json (f : Json.ReadFault) (text : List Char)
  | yaml (f : Yaml.Fault)

def SampleFault.message : SampleFault → String
  | .undecodable f => f.message
  | .json f text => f.message text
  | .yaml f => f.message

def isYamlPath (path : String) : Bool :=
  Path.hasExtension ".yaml" path || Path.hasExtension ".yml" path

def readYaml (bytes : List UInt8) : Except SampleFault Sample :=
  match Yaml.read false bytes with
  | .ok p => .ok (.graph p)
  | .error f => .error (.yaml f)

def readJson (bytes : List UInt8) : Except SampleFault Sample :=
  match Text.decodeUtf8 bytes with
  | .error f => .error (.undecodable f)
  | .ok text =>
    let text := Text.normalizeLines text
    match Json.read text with
    | .ok j => .ok (.tree j.toValue)
    | .error f => .error (.json f text)

def Sample.read (path : String) (bytes : List UInt8) : Except SampleFault Sample :=
  if isYamlPath path then readYaml bytes else readJson bytes

def Sample.infer (refs : Matcher Value) (settings : Inference.Settings) :
    Sample → List LogEntry × Except Inference.Failure (Report String)
  | .tree v => Inference.run refs settings v
  | .graph p => Inference.run refs settings p

def withoutBrackets (typeRef : String) : String :=
  let cs := typeRef.toList
  if Text.endsWith ['[', ']'] cs then String.ofList (cs.take (cs.length - 2)) else typeRef

/-- The type expressions of a type that name another type of the report, or an array of it. -/
def knownReferences (r : Report String) (t : TypeDecl String) : List String :=
  sortTexts (t.references.filter fun ref => (r.get? (withoutBrackets ref)).isSome)

def summaryColumns : List Console.Column :=
  [{ heading := "#", fixed := some 4 }, { heading := "Type", unbroken := true },
    { heading := "Kind" }, { heading := "Fields", atRight := true }, { heading := "Optional", atRight := true },
    { heading := "References" }]

def summaryRow (r : Report String) (number : Nat) (t : TypeDecl String) : List String :=
  let refs := joinTexts ", " (knownReferences r t)
  [Decimal.natText number, if t.name = r.rootType then "[bold]" ++ t.name ++ "[/]" else t.name,
    t.kind.keyword, Decimal.natText t.fields.length,
    Decimal.natText (t.fields.countP fun f => !f.required), if refs = "" then "-" else refs]

def summaryRows (r : Report String) : List (List String) :=
  r.types.zipIdx.map fun (t, i) => summaryRow r (i + 1) t

def sayTable (r : Report String) : Run Unit := do
  let title ← Run.plain ("Inferred Types (root: " ++ r.rootType ++ ")")
  let rows ← (summaryRows r).mapM fun row => row.mapM Run.plain
  Run.printLines (Console.tableLines (← Run.width) title summaryColumns rows)

def sayField (f : Field String) : Run Unit :=
  Run.say ("    " ++ f.name ++ (if f.required then "" else "[dim]?[/]") ++ ": [green]" ++ f.typeRef ++ "[/]")

def sayDetail (t : TypeDecl String) (rootType : String) : Run Unit := do
  Run.say ("\n[bold cyan]" ++ t.name ++ "[/] (" ++ t.kind.keyword ++ ")")
  if t.name = rootType then Run.say "  Root type"
  if t.kind = .record then t.fields.forM sayField
  else Run.say ("    Values: " ++ joinTexts ", " t.alternatives)
  Run.echo ""

def saySummary (r : Report String) : Run Unit :=
  match r.types with
  | [t] => sayDetail t r.rootType
  | _ => sayTable r

open Run

/-- What a run needs to know besides its arguments: the time, which goes into reports. -/
structure Clock where
  timestamp : String

def referenceTrouble : String := "Reference schemas unavailable"

def loadReferences : Option String → Run (Matcher Value)
  | none => return []
  | some path => do
    if !(← files).exists? path then fail referenceTrouble (Reference.LoadFault.missing.message path)
    match (← files).read path with
    | .error e => fail referenceTrouble e.message
    | .ok bytes => do
      let (entries, loaded) := Reference.load path bytes
      log entries
      match loaded with
      | .ok refs => return refs
      | .error (.unreadable f) =>
        if f.isRejection then fail referenceTrouble ((Reference.LoadFault.unreadable f).message path)
        else crash (.scalar f)
      | .error f => fail referenceTrouble (f.message path)

def loadSample (path : String) : Run Sample := do
  match (← files).read path with
  | .error e => fail "Cannot read input" e.message
  | .ok bytes =>
    match Sample.read path bytes with
    | .ok s => return s
    | .error (.yaml f) =>
      if f.isRejection then fail ("Input is not valid JSON/YAML (" ++ path ++ ")") f.message
      else crash (.scalar f)
    | .error f => fail ("Input is not valid JSON/YAML (" ++ path ++ ")") f.message

def inferReport (clock : Clock) (path rootName : String) (maxDepth : Option Int)
    (refs : Matcher Value) : Run (Report String) := do
  let sample ← loadSample path
  let (entries, report) := sample.infer refs
    { rootName := rootName, source := Path.name path, timestamp := clock.timestamp, maxDepth := maxDepth }
  log entries
  match report with
  | .ok r => return r
  | .error (.tooDeep limit hint) => fail "Inference aborted" (Inference.Failure.tooDeep limit hint).message
  | .error f => crash (.inference f)

def loadReport (path : String) : Run (Report Json) := do
  let what := "Cannot read parser output " ++ path
  match ← readText path with
  | .error t => fail what t.message
  | .ok text =>
    match Report.load text with
    | .ok r => return r
    | .error (.rejected (.misuse (.notMapping typeName))) => crash (.misuse (.notMapping typeName))
    | .error f => fail what (f.message path text)

/-- A text is written to a file, whose directory is made if it is not there. -/
def writeOutput (path text : String) : Run Unit := do
  saving crashing ((← files).writeWithParent path text)
  say ("[green]Output written to " ++ path ++ "[/]")

def rootNameOf (i : Invocation) : String := (i.text? "--root-name").getD defaultRootName

def titleOf (i : Invocation) : String := (i.text? "--title").getD Documentation.defaultTitle

/-- A text goes to the output file if there is one, and else to the console. -/
def deliver (i : Invocation) (text : String) : Run Unit :=
  match i.given? "--output" with
  | some path => writeOutput path text
  | none => echo text

def runParse (clock : Clock) (i : Invocation) : Run Unit := do
  let refs ← loadReferences (i.given? "--reference")
  let report ← inferReport clock i.input (rootNameOf i) (i.whole? "--max-depth") refs
  match i.text? "--format" with
  | some "yaml" => deliver i report.toYamlText
  | some "json" => deliver i (report.toJsonText (some 2))
  | _ => do
    saySummary report
    match i.given? "--output" with
    | some path => writeOutput path (report.toJsonText (some 2))
    | none => pure ()

def missingTemplate (path : String) : LogEntry :=
  ⟨.warning, "typeatlas.generator",
    "Template " ++ path ++ " not found, using built-in interface template"⟩

def loadTemplate : Option String → Run String
  | none => return TypeScript.interfaceTemplate
  | some path => do
    if !(← files).exists? path then
      log [missingTemplate path]
      return TypeScript.builtinTemplate
    else
      match ← readText path with
      | .ok text => return TypeScript.templateText (String.ofList text)
      | .error t => crash (.trouble t)

def generateSource (settings : TypeScript.Settings) (refs : Matcher Value)
    (types : List (TypeDecl Json)) : Run TypeScript.Source := do
  match TypeScript.generateChecked settings refs types with
  | .ok source => do
    log [TypeScript.generationLog source]
    return source
  | .error m => crash (.misuse m)

def sourceName : String := "generated-interfaces.ts"

def sourcePath (files : FileTree) (path : String) : String :=
  if files.isDirectory path || path.endsWith "/" then Path.join path sourceName else path

def writeSource (files : FileTree) (path code : String) : Except FileError (String × FileTree) := do
  let path := sourcePath files path
  return (path, ← files.writeWithParent path code)

def saveSource (onTrouble : OnTrouble) (path code : String) : Run String := do
  let r := writeSource (← files) path code
  saving onTrouble (r.map Prod.snd)
  return (r.toOption.map Prod.fst).getD path

def runGenerate (i : Invocation) : Run Unit := do
  let report ← loadReport i.input
  let refs ← loadReferences (i.given? "--reference")
  let template ← loadTemplate (i.given? "--template")
  let source ← generateSource ⟨template, i.has "--storybook"⟩ refs report.types
  match i.given? "--output" with
  | some path => do
    let path ← saveSource (failing "Write failed") path source.code
    say ("[green]Generated TypeScript code: " ++ path ++ "[/]")
    say ("  Types generated: " ++ joinTexts ", " source.files)
  | none => echo source.code

def docsEntry (count : Nat) (path : String) : LogEntry :=
  ⟨.info, "typeatlas.docs",
    "Wrote documentation for " ++ Decimal.natText count ++ " types to " ++ path⟩

/-- The page of a report is written into a directory. The file is made before the page is, so an
empty one is left behind if the report cannot be shown. -/
def saveDocs (onTrouble : OnTrouble) (directory : String) (count : Nat)
    (page : Except Misuse String) : Run String := do
  let path := Path.join directory "index.html"
  saving onTrouble ((← files).makeDirectories directory)
  saving onTrouble ((← files).writeText path "")
  match page with
  | .error m => crash (.misuse m)
  | .ok html => do
    saving onTrouble ((← files).writeText path html)
    log [docsEntry count path]
    return path

def runDocs (i : Invocation) : Run Unit := do
  let report ← loadReport i.input
  let directory := (i.text? "--output").getD "docs"
  let page := Documentation.pageChecked (titleOf i) report
  let path ← saveDocs (failing "Write failed") directory report.types.length page
  say ("[green]Documentation generated:[/] " ++ path)

/-- The report of a pipeline, its source and its documentation, each in a file of the directory. -/
def writePipeline (i : Invocation) (refs : Matcher Value) (report : Report String) : Run Unit := do
  let directory := (i.text? "--output-dir").getD "output"
  writeOutput (Path.join directory "parsed-types.json") (report.toJsonText (some 2))
  say "[bold]Step 2/3:[/] generating TypeScript..."
  let template ← loadTemplate (i.given? "--template")
  let source ← generateSource ⟨template, false⟩ refs (report.types.map (TypeDecl.map .str))
  let path ← saveSource crashing (Path.join (Path.join directory "interfaces") sourceName) source.code
  say ("[green]Generated " ++ Decimal.natText source.files.length ++ " declaration(s):[/] " ++ path)
  say "[bold]Step 3/3:[/] rendering documentation..."
  let path ← saveDocs crashing (Path.join directory "docs") report.types.length
    (.ok (Documentation.page (titleOf i) report))
  say ("[green]Documentation generated:[/] " ++ path)

def runAll (clock : Clock) (i : Invocation) : Run Unit := do
  say "[bold]Step 1/3:[/] inferring types..."
  let refs ← loadReferences (i.given? "--reference")
  let report ← inferReport clock i.input (rootNameOf i) none refs
  rescued "Pipeline failed" (writePipeline i refs report)
  say ("\n[bold green]Pipeline complete[/]: root type " ++ report.rootType ++ ", " ++
    Decimal.natText report.types.length ++ " types")

def runInvocation (clock : Clock) (i : Invocation) : Run Unit := do
  modify fun s => { s with verbose := i.verbose }
  match i.name with
  | .parse => runParse clock i
  | .generate => runGenerate i
  | .docs => runDocs i
  | .all => runAll clock i

def usageCode : Nat := 2

def answer (clock : Clock) (environment : List (String × String)) (arguments : List String) :
    Run Unit := do
  match readLine (← files) environment arguments with
  | .error (scope, .usage fault) => do
    complain (fault.report scope)
    exit usageCode
  | .error (_, .path e) => crash (.trouble (.file e))
  | .ok .nothing => do
    complain (helpText none)
    exit usageCode
  | .ok (.help scope) =>
    modify fun s => { s with out := s.out ++ helpText scope }
  | .ok (.invoke i) => runInvocation clock i

structure Outcome where
  exitCode : Nat
  crash : Option Crash
  session : Session

/-- What a command line does in a tree of files. A run that uses up the stack ends there. -/
def run (clock : Clock) (environment : List (String × String)) (files : FileTree)
    (arguments : List String) (host : Host := .ample) : Outcome :=
  match host.exhausted files arguments with
  | some s => ⟨1, some (.misuse .tooNested), s⟩
  | none =>
    match (answer clock environment arguments).run.run (host.session files) with
    | (.ok (), s) => ⟨0, none, s⟩
    | (.error (.exit code), s) => ⟨code, none, s⟩
    | (.error (.crash c), s) => ⟨1, some c, s⟩

end SampleTypes.Command
