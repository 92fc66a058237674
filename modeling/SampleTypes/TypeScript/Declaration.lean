import SampleTypes.Catalog.Document
import SampleTypes.Text.Basic
import SampleTypes.Text.Utf8
import SampleTypes.TypeScript.TypeExpr

/-!
The declaration of one type, with its literals, property keys and comments. It is made from a template
with places marked by names in double braces. The places are filled one name after another, so a value
may bring in places for the names after its own.
-/

namespace SampleTypes.TypeScript

def escapeChar (c : Char) : List Char :=
  if c = '\\' then ['\\', '\\']
  else if c = '\'' then ['\\', '\'']
  else if c = '\n' then ['\\', 'n']
  else [c]

def quote (s : String) : String :=
  String.ofList ('\'' :: (s.toList.flatMap escapeChar ++ ['\'']))

def startsIdentifier (c : Char) : Bool :=
  c.isAlpha || c = '_' || c = '$'

def continuesIdentifier (c : Char) : Bool :=
  c.isAlphanum || c = '_' || c = '$'

/-- Whether every character continues an identifier, but for one line feed at the end. -/
def isIdentifierTail : List Char → Bool
  | [] => true
  | ['\n'] => true
  | c :: cs => continuesIdentifier c && isIdentifierTail cs

/-- An ASCII identifier, which a line feed may follow. -/
def isIdentifier : List Char → Bool
  | [] => false
  | c :: cs => startsIdentifier c && isIdentifierTail cs

def propertyKey (name : String) : String :=
  if isIdentifier name.toList then name else quote name

/-- A comment; whatever would end it inside the text is broken up. -/
def comment (text : String) : String :=
  "/** " ++ String.ofList (Text.replaceAll ['*', '/'] ['*', '\\', '/'] text.toList) ++ " */"

def placeholder (name : String) : List Char :=
  '\x7b' :: '\x7b' :: (name.toList ++ ['\x7d', '\x7d'])

def fillOne (template : List Char) (entry : String × String) : List Char :=
  Text.replaceAll (placeholder entry.1) entry.2.toList template

def fill (template : String) (values : List (String × String)) : String :=
  String.ofList (values.foldl fillOne template.toList)

def trimmed (s : String) : String := String.ofList (Text.trim s.toList)

def templateText (text : String) : String :=
  String.ofList (Text.trim (Text.normalizeLines text.toList))

def openBrace : String := "\x7b"
def closeBrace : String := "\x7d"
def place (name : String) : String := String.ofList (placeholder name)

def interfaceTemplate : String :=
  place "description" ++ "\nexport interface " ++ place "name" ++ place "extends" ++ " " ++ openBrace ++
    "\n" ++ place "fields" ++ "\n" ++ closeBrace

def builtinTemplate : String :=
  "export interface " ++ place "name" ++ place "extends" ++ " " ++ openBrace ++ "\n" ++ place "fields" ++
    "\n" ++ closeBrace

def aliasTemplate : String := "export type " ++ place "name" ++ " = " ++ place "values" ++ ";"

def enumTemplate : String :=
  "export enum " ++ place "name" ++ " " ++ openBrace ++ "\n" ++ place "values" ++ "\n" ++ closeBrace

def described? (description : Option String) : Option String :=
  description.filter (· != "")

def fieldLine (refs : Matcher String) (f : Field String) : String :=
  "  " ++ propertyKey f.name ++ (if f.required then "" else "?") ++ ": " ++ resolve refs f.typeRef ++ ";"

def fieldLines (refs : Matcher String) (f : Field String) : List String :=
  match described? f.description with
  | some d => ["  " ++ comment d, fieldLine refs f]
  | none => [fieldLine refs f]

def extendsClause (refs : Matcher String) (t : TypeDecl String) : String :=
  if t.parents.isEmpty then ""
  else " extends " ++ joinTexts ", " ((sortTexts t.parents).map (resolve refs))

def descriptionComment (t : TypeDecl String) : String :=
  match described? t.description with
  | some d => comment d
  | none => ""

def interfaceText (template : String) (refs : Matcher String) (t : TypeDecl String) : String :=
  trimmed (fill template
    [("name", t.name), ("extends", extendsClause refs t),
      ("fields", joinTexts "\n" (t.fields.flatMap (fieldLines refs))),
      ("description", descriptionComment t)])

def aliasMember (value : String) : String :=
  if value.toList.contains ' ' then quote value else value

def aliasText (t : TypeDecl String) : String :=
  let members := joinTexts " | " (t.alternatives.map aliasMember)
  fill aliasTemplate
    [("name", t.name), ("values", if members = "" then "unknown" else members)]

def enumText (t : TypeDecl String) : String :=
  fill enumTemplate
    [("name", t.name), ("values", joinTexts ",\n" (t.alternatives.map ("  " ++ ·)))]

def declaration (template : String) (refs : Matcher String) (t : TypeDecl String) : String :=
  match t.kind with
  | .record => interfaceText template refs t
  | .alias => aliasText t
  | .enumeration => enumText t

end SampleTypes.TypeScript
