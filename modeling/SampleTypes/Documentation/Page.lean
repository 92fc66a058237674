import SampleTypes.Catalog.Registry
import SampleTypes.Documentation.Card
import SampleTypes.Documentation.Html
import SampleTypes.Sample

/-!
The page for a report: the navigation, what is known about the report, and a card for each type. In the
navigation a type that extends no type of the list stands at the top, every other one under each type
that it extends; a name that comes up a second time on a path ends it.
-/

namespace SampleTypes.Documentation

inductive Entry (τ : Type) where
  | node (type : TypeDecl τ) (entries : List (Entry τ))

section

variable {τ : Type} [BEq τ]

def isKnown (types : List (TypeDecl τ)) (name : τ) : Bool :=
  types.any fun t => t.name == name

def extendsKnown (types : List (TypeDecl τ)) (t : TypeDecl τ) : Bool :=
  t.parents.any (isKnown types)

def topLevel (types : List (TypeDecl τ)) : List (TypeDecl τ) :=
  types.filter fun t => !extendsKnown types t

def extending (le : τ → τ → Bool) (types : List (TypeDecl τ)) (name : τ) : List (TypeDecl τ) :=
  (types.filter fun t => t.parents.any (· == name)).mergeSort fun a b => le a.name b.name

def under (le : τ → τ → Bool) (types : List (TypeDecl τ)) (trail : List τ) (t : TypeDecl τ) :
    List (TypeDecl τ) :=
  if trail.any (· == t.name) then [] else extending le types t.name

/-- The entry for a type. The first argument bounds the depth; a path without a repeated name is no
longer than the list of types. -/
def entryWithin (le : τ → τ → Bool) (types : List (TypeDecl τ)) :
    Nat → List τ → TypeDecl τ → Entry τ
  | 0, _, t => .node t []
  | fuel + 1, trail, t =>
    .node t ((under le types trail t).map (entryWithin le types fuel (t.name :: trail)))

def navigation (le : τ → τ → Bool) (types : List (TypeDecl τ)) : List (Entry τ) :=
  (topLevel types).map (entryWithin le types types.length [])

end

mutual

def Entry.toHtml : Entry String → Html
  | .node t entries =>
    .plain "li" (.element "a" [("href", "#" ++ t.name), ("class", "sb-type-link")]
      [.text (t.kind.keyword ++ " " ++ t.name)] ::
      (match entries with
        | [] => []
        | e :: rest => [.plain "ul" (Entry.toHtml e :: entriesHtml rest)]))

def entriesHtml : List (Entry String) → List Html
  | [] => []
  | e :: rest => Entry.toHtml e :: entriesHtml rest

end

def navigationFrame (entries : List (Entry String)) : Html :=
  .classed "nav" "sb-hierarchy"
    [.plain "h2" [.text "Type Hierarchy"], .plain "ul" (entriesHtml entries)]

def navigationHtml (types : List (TypeDecl String)) : Html :=
  navigationFrame (navigation textLe types)

def defaultTitle : String := "API Type Documentation"

def styleRules : List (String × String) :=
  [("body", "font-family: system-ui, sans-serif; margin: 0; display: flex;"),
    (".sb-hierarchy", "width: 260px; padding: 1rem; border-right: 1px solid #ddd;"),
    (".sb-main", "flex: 1; padding: 1rem 2rem;"),
    (".sb-type-card",
      "border: 1px solid #ddd; border-radius: 6px; padding: 1rem; margin-bottom: 1.5rem;"),
    (".sb-type-badge",
      "font-size: 0.75rem; padding: 2px 6px; border-radius: 4px; background: #eef;"),
    (".sb-properties-table", "border-collapse: collapse; width: 100%;"),
    (".sb-properties-table td, .sb-properties-table th",
      "border-bottom: 1px solid #eee; padding: 4px 8px; text-align: left;"),
    (".sb-required", "color: #22863a;"),
    (".sb-optional", "color: #999;"),
    (".sb-kw", "color: #e83e8c;"),
    (".sb-arr", "color: #22863a;"),
    (".sb-union", "color: #d73a49;")]

def styleText : String :=
  "\n" ++ String.join (styleRules.map fun r => r.1 ++ " \x7b " ++ r.2 ++ " \x7d\n")

def head (title : String) : Html :=
  .plain "head" [.void "meta" [("charset", "utf-8")], .plain "title" [.text title],
    .plain "style" [.text styleText]]

def summary (r : Report String) : Html :=
  .plain "p" [.text "Root type: ", code (if r.rootType = "" then "-" else r.rootType), .text " ",
    .entity "middot", .text (" " ++ Decimal.natText r.types.length ++ " types "), .entity "middot",
    .text (" generated " ++ r.timestamp)]

/-- The cards, each on its own line; a line is left even if there are none. -/
def cards (types : List (TypeDecl String)) : List Html :=
  match types with
  | [] => [Html.newline, Html.newline]
  | types => Html.onLines (types.map fun t => [card t])

def mainPart (title : String) (r : Report String) : Html :=
  .classed "main" "sb-main" (.plain "h1" [.text title] :: summary r :: cards r.types)

def body (title : String) (r : Report String) : Html :=
  .plain "body" (Html.onLines [[navigationHtml r.types], [mainPart title r]])

def page (title : String) (r : Report String) : String :=
  "<!DOCTYPE html>\n" ++
    (Html.element "html" [("lang", "en")] [head title, Html.newline, body title r]).toText ++ "\n"

end SampleTypes.Documentation
