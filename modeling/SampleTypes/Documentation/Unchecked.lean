import SampleTypes.Catalog.Document
import SampleTypes.Documentation.Page

/-!
Documentation for reports that hold any values where texts are meant. The values are looked at in the
order in which they are needed, and the first that cannot be used is reported; then all that are left
are written as texts.
-/

namespace SampleTypes.Documentation

def checkDescription (description : Option Json) : Except Misuse Unit :=
  demandIfTruthy (description.getD .null)

def checkField (f : Field Json) : Except Misuse Unit := do
  let _ ← demandText f.name
  let _ ← demandText f.typeRef
  checkDescription f.description

def checkCard (t : TypeDecl Json) : Except Misuse Unit := do
  let _ ← demandText t.name
  let parents ← t.sortedParents
  parents.forM fun p => (demandText p).map fun _ => ()
  checkDescription t.description
  t.fields.forM checkField

def cardChecked (t : TypeDecl Json) : Except Misuse Html :=
  (checkCard t).map fun _ => card t.texts

def pageChecked (title : String) (r : Report Json) : Except Misuse String := do
  r.types.forM checkCard
  demandIfTruthy r.rootType
  demandIfTruthy r.timestamp
  return page title r.texts

def nameLe (a b : Json) : Bool :=
  match a.str?, b.str? with
  | some s, some t => textLe s t
  | _, _ =>
    match a.number?, b.number? with
    | some x, some y => x.notAfter y
    | _, _ => true

def entryNames (entries : List (Entry Json)) : List Json :=
  entries.map fun
    | .node t _ => t.name

mutual

/-- The entry with its names as texts, unless one is none or the names under it have no order. -/
def Entry.checked : Entry Json → Except Misuse (Entry String)
  | .node t entries => do
    let _ ← demandText t.name
    if (Json.sort? (entryNames entries)).isNone then throw .unordered
    return .node t.texts (← checkedEntries entries)

def checkedEntries : List (Entry Json) → Except Misuse (List (Entry String))
  | [] => .ok []
  | e :: rest => do return (← Entry.checked e) :: (← checkedEntries rest)

end

def navigationChecked (types : List (TypeDecl Json)) : Except Misuse Html := do
  let _ ← types.mapM fun t =>
    if t.name.isContainer then throw (.unhashable t.name.typeName) else pure ()
  let _ ← types.mapM TypeDecl.sortedParents
  let entries ← checkedEntries (navigation nameLe types)
  return navigationFrame entries

end SampleTypes.Documentation
