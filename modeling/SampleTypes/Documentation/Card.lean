import SampleTypes.Catalog.Registry
import SampleTypes.Documentation.Html
import SampleTypes.Json
import SampleTypes.Sample
import SampleTypes.Text.Word
import SampleTypes.TypeScript.TypeExpr

/-!
The card of one type: its kind and name, what it extends, its description, a table of its fields, its
values and an example. In a type expression there are marked the words that name built-in types, the
brackets of arrays and the bars of unions. A union is shown by an example of its first member and an
array by one of a single item.
-/

namespace SampleTypes.Documentation

def bareExample (name : String) : Json :=
  if name = "string" then .str "example string"
  else if name = "number" then .int 0
  else if name = "boolean" then .bool true
  else if name = "Date" then .str "2024-01-01T00:00:00.000Z"
  else .null

def exampleReading : TypeScript.Reading Json where
  lookup _ := none
  bare := bareExample
  array item := .arr [item]
  union members := members.headD .null

def exampleValue (typeRef : String) : Json := exampleReading.read typeRef

def exampleMembers (fields : List (Field String)) : List (String × Json) :=
  (fields.filter Field.required).foldl
    (fun members f => putValue f.name (exampleValue f.typeRef) members) []

inductive Segment where
  | plain (cs : List Char)
  | keyword (cs : List Char)
  | brackets
  | bar
  deriving DecidableEq, Repr

def keywords : List String :=
  ["string", "number", "boolean", "Date", "any", "unknown", "void", "never", "object"]

def isKeyword (word : List Char) : Bool :=
  keywords.any fun k => k.toList = word

def wordSegment (word : List Char) : List Segment :=
  if word.isEmpty then [] else if isKeyword word then [.keyword word] else [.plain word]

/-- The segments of a text that begins with the word read so far, its last character first. -/
def segmentsFrom (word : List Char) : List Char → List Segment
  | [] => wordSegment word.reverse
  | '[' :: ']' :: cs => wordSegment word.reverse ++ .brackets :: segmentsFrom [] cs
  | '|' :: cs => wordSegment word.reverse ++ .bar :: segmentsFrom [] cs
  | c :: cs =>
    if Text.isWordChar c then segmentsFrom (c :: word) cs
    else wordSegment word.reverse ++ .plain [c] :: segmentsFrom [] cs

def segments (typeRef : String) : List Segment := segmentsFrom [] typeRef.toList

def Segment.text : Segment → List Char
  | .plain cs => cs
  | .keyword cs => cs
  | .brackets => ['[', ']']
  | .bar => ['|']

def Segment.toHtml (s : Segment) : Html :=
  let content := Html.text (String.ofList s.text)
  match s with
  | .plain _ => content
  | .keyword _ => .classed "span" "sb-kw" [content]
  | .brackets => .classed "span" "sb-arr" [content]
  | .bar => .classed "span" "sb-union" [content]

def highlight (typeRef : String) : List Html :=
  (segments typeRef).map Segment.toHtml

def code (s : String) : Html := .plain "code" [.text s]

def cardHeader (t : TypeDecl String) : List Html :=
  [.classed "div" "sb-type-header" (Html.onLines [
    [.classed "span" ("sb-type-badge " ++ t.kind.keyword) [.text t.kind.keyword]],
    [.classed "h2" "sb-type-name" [.text t.name]]])]

def cardParents (t : TypeDecl String) : List (List Html) :=
  if t.parents.isEmpty then []
  else [[.classed "div" "sb-type-extends"
    (.text "Extends: " :: Html.separated ", " ((sortTexts t.parents).map code))]]

def cardDescription (t : TypeDecl String) : List (List Html) :=
  match t.description with
  | some d => if d = "" then [] else [[.classed "p" "sb-type-description" [.text d]]]
  | none => []

def requiredCell (required : Bool) : Html :=
  if required then .classed "td" "sb-required" [.entity "#10003"]
  else .classed "td" "sb-optional" [.entity "#9675"]

def fieldRow (f : Field String) : List Html :=
  [.plain "tr" [.plain "td" [code f.name], .plain "td" [.plain "code" (highlight f.typeRef)],
    requiredCell f.required, .plain "td" [.text (f.description.getD "")]]]

def fieldHeadings : List String := ["Property", "Type", "Required", "Description"]

def cardFields (t : TypeDecl String) : List (List Html) :=
  if t.fields.isEmpty then []
  else [[.classed "table" "sb-properties-table"
    [.plain "thead" [.plain "tr" (fieldHeadings.map fun h => .plain "th" [.text h])],
      .plain "tbody" (Html.onLines (t.fields.map fieldRow))]]]

def cardValues (t : TypeDecl String) : List (List Html) :=
  if t.alternatives.isEmpty then []
  else [[.plain "h4" [.text "Values"],
    .classed "ul" "sb-values-list" (t.alternatives.map fun v => .plain "li" [code v])]]

/-- Only records are shown by an example, and only if they have required fields. -/
def cardExample (t : TypeDecl String) : List (List Html) :=
  let members := exampleMembers t.fields
  if t.kind = .record && !members.isEmpty then
    [[.classed "div" "sb-example"
      [.plain "p" [.plain "strong" [.text "Example:"]],
        .plain "pre" [code ((Json.obj members).toJsonText (some 2))]]]]
  else []

def card (t : TypeDecl String) : Html :=
  .element "article" [("class", "sb-type-card"), ("id", t.name)]
    (Html.onLines (cardHeader t :: (cardParents t ++ cardDescription t ++ cardFields t ++ cardValues t ++
      cardExample t)))

end SampleTypes.Documentation
