import SampleTypes.Catalog.Registry
import SampleTypes.Diagnostics
import SampleTypes.TypeScript.Declaration
import SampleTypes.TypeScript.TypeExpr

/-!
The source text for a report: imports of the reference types that declare a module, in the order of
their first use, declarations and, if asked for, a block of documentation records for Storybook.
-/

namespace SampleTypes.TypeScript

def moduleOf? (refs : Matcher String) (name : String) : Option String :=
  ((refs.get? name).bind Schema.modulePath).filter (· != "")

def namesUsed (types : List (TypeDecl String)) : List String :=
  types.flatMap fun t => t.fields.flatMap fun f => baseNames f.typeRef

def firstUses (names : List String) : List String :=
  names.foldl (fun used name => if name ∈ used then used else used ++ [name]) []

def importedNames (refs : Matcher String) (types : List (TypeDecl String)) : List String :=
  firstUses ((namesUsed types).filter fun name => (moduleOf? refs name).isSome)

def importLine (refs : Matcher String) (name : String) : String :=
  "import \x7b " ++ name ++ " \x7d from " ++ quote ((moduleOf? refs name).getD "") ++ ";"

def importsText (refs : Matcher String) (types : List (TypeDecl String)) : String :=
  match importedNames refs types with
  | [] => ""
  | names => joinTexts "\n" ("// Reference type imports" :: names.map (importLine refs))

def storybookHeader : List String :=
  ["// Auto-generated Storybook documentation types",
    "export interface StorybookTypeDoc \x7b",
    "  name: string;",
    "  description?: string;",
    "  type: string;",
    "  extends?: string[];",
    "  properties?: StorybookPropertyDoc[];",
    "  example?: any;",
    "\x7d",
    "",
    "export interface StorybookPropertyDoc \x7b",
    "  name: string;",
    "  type: string;",
    "  required: boolean;",
    "  description?: string;",
    "  example?: any;",
    "\x7d",
    "",
    "export const storybookDocs: Record<string, StorybookTypeDoc> = \x7b"]

def descriptionLine (indent : String) (description : Option String) : List String :=
  match described? description with
  | some d => [indent ++ "description: " ++ quote d ++ ","]
  | none => []

def propertyLines (f : Field String) : List String :=
  ["      \x7b", "        name: " ++ quote f.name ++ ",", "        type: " ++ quote f.typeRef ++ ",",
    "        required: " ++ (if f.required then "true" else "false") ++ ","] ++
    descriptionLine "        " f.description ++ ["      \x7d,"]

def extendsLine (t : TypeDecl String) : List String :=
  if t.parents.isEmpty then []
  else ["    extends: [" ++ joinTexts ", " ((sortTexts t.parents).map quote) ++ "],"]

def recordLines (t : TypeDecl String) : List String :=
  ["  " ++ quote t.name ++ ": \x7b", "    name: " ++ quote t.name ++ ",", "    type: 'interface',"] ++
    descriptionLine "    " t.description ++ extendsLine t ++ ["    properties: ["] ++
    t.fields.flatMap propertyLines ++ ["    ],", "  \x7d,"]

def storybookText (types : List (TypeDecl String)) : String :=
  joinTexts "\n" (storybookHeader ++
    (types.filter fun t => t.kind = .record).flatMap recordLines ++ ["\x7d;"])

structure Source where
  code : String
  files : List String
  deriving DecidableEq, Repr

structure Settings where
  template : String := interfaceTemplate
  storybook : Bool := false

def chunks (settings : Settings) (refs : Matcher String) (types : List (TypeDecl String)) :
    List (String × String) :=
  (types.map fun t => (t.name ++ ".ts", declaration settings.template refs t)).filter (·.2 != "")

def generate (settings : Settings) (refs : Matcher String) (types : List (TypeDecl String)) : Source :=
  let imports := importsText refs types
  let declared := chunks settings refs types
  let docs := if settings.storybook then
      [("storybook.types.ts", "// Storybook documentation types\n" ++ storybookText types)]
    else []
  { code := joinTexts "\n\n" ((if imports = "" then [] else [imports]) ++
      (declared ++ docs).map Prod.snd) ++ "\n"
    files := (declared ++ docs).map Prod.fst }

def generationLog (source : Source) : LogEntry :=
  ⟨.info, "typeatlas.generator",
    "Generated " ++ Decimal.natText source.files.length ++ " TypeScript declarations"⟩

end SampleTypes.TypeScript
