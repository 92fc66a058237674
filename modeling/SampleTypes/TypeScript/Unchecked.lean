import SampleTypes.Catalog.Document
import SampleTypes.TypeScript.Source

/-!
Source texts for reports that hold any values where texts are meant. The values are looked at in the
order in which the text is written, and the first that cannot be used is reported; then all that are
left are written as texts.
-/

namespace SampleTypes.TypeScript

def textOf? (v : Option Value) : Option String :=
  (v.filter Value.truthy).map Value.toText

def matcherTexts (refs : Matcher Value) : Matcher String :=
  refs.map fun s => {
    name := s.name
    fields := s.fields
    modulePath := textOf? s.modulePath
    typeOverride := textOf? s.typeOverride
    description := textOf? s.description }

def checkTypeRefs (types : List (TypeDecl Json)) : Except Misuse Unit :=
  types.forM fun t => t.fields.forM fun f => (demandText f.typeRef).map fun _ => ()

def checkField (refs : Matcher Value) (f : Field Json) : Except Misuse Unit := do
  let _ ← insertText f.name
  let typeRef ← demandText f.typeRef
  if !(← resolveLoosely refs typeRef).isWritable then throw .numberTooLong

def checkParents (refs : Matcher Value) (t : TypeDecl Json) : Except Misuse Unit := do
  let parents ← t.sortedParents
  let resolved ← parents.mapM fun p => do resolveLoosely refs (← demandText p)
  let _ ← unionOf (resolved.map .ok)

def checkDecl (refs : Matcher Value) (t : TypeDecl Json) : Except Misuse Unit := do
  if t.kind = .record then
    t.fields.forM (checkField refs)
    checkParents refs t
  let _ ← insertText t.name

def checkModules (refs : Matcher Value) (types : List (TypeDecl Json)) : Except Misuse Unit :=
  (importedNames (matcherTexts refs) (types.map TypeDecl.texts)).forM fun name =>
    match (refs.get? name).bind Schema.modulePath with
    | some v => if v.isWritable then .ok () else .error .numberTooLong
    | none => .ok ()

def generateChecked (settings : Settings) (refs : Matcher Value) (types : List (TypeDecl Json)) :
    Except Misuse Source := do
  checkTypeRefs types
  checkModules refs types
  types.forM (checkDecl refs)
  return generate settings (matcherTexts refs) (types.map TypeDecl.texts)

end SampleTypes.TypeScript
