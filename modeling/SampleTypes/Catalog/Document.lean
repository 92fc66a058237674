import SampleTypes.Catalog.Registry
import SampleTypes.Diagnostics
import SampleTypes.Json
import SampleTypes.Json.Reader
import SampleTypes.Sample
import SampleTypes.Value

/-!
Reports as JSON documents. Writing leaves out what does not apply to a kind of type and descriptions
that are empty, and lists parents in ascending order; reading supplies defaults, and accepts any value
as a name, a type expression or a description. What writes such a report out asks for texts where it
needs them and takes the rest as they would be shown.
-/

namespace SampleTypes

/-- What may stand in a document where a text is meant. -/
class Textual (τ : Type) where
  toJson : τ → Json
  truthy : τ → Bool
  sort : List τ → List τ

instance : Textual String := ⟨Json.str, (· != ""), sortTexts⟩

namespace Json

/-- Texts in their order, or numbers in theirs; nothing for other values unless there is but one. -/
def sort? (values : List Json) : Option (List Json) :=
  if values.length ≤ 1 then some values
  else
    match values.mapM str? with
    | some texts => some ((sortTexts texts).map .str)
    | none =>
      match values.mapM fun j => j.number?.map fun n => (n, j) with
      | some pairs => some ((pairs.mergeSort fun a b => a.1.notAfter b.1).map Prod.snd)
      | none => none

end Json

instance : Textual Json := ⟨id, Json.truthy, fun values => (Json.sort? values).getD values⟩

section Encode

variable {τ : Type} [Textual τ]

def describe (description : Option τ) : List (String × Json) :=
  match description with
  | some d => if Textual.truthy d then [("description", Textual.toJson d)] else []
  | none => []

def Field.toJson (f : Field τ) : Json :=
  .obj ([("name", Textual.toJson f.name), ("type", Textual.toJson f.typeRef),
    ("required", .bool f.required)] ++ describe f.description)

def TypeDecl.toJson (t : TypeDecl τ) : Json :=
  .obj ([("name", Textual.toJson t.name), ("kind", .str t.kind.keyword)] ++
    (if t.kind = .record then [("fields", .arr (t.fields.map Field.toJson))]
      else [("values", .arr (t.alternatives.map .str))]) ++
    (if t.parents.isEmpty then []
      else [("extends", .arr ((Textual.sort t.parents).map Textual.toJson))]) ++
    describe t.description)

def Report.toJson (r : Report τ) : Json :=
  .obj [("types", .arr (r.types.map TypeDecl.toJson)),
    ("metadata", .obj [("source", Textual.toJson r.source),
      ("timestamp", Textual.toJson r.timestamp), ("rootType", Textual.toJson r.rootType)])]

end Encode

def TypeDecl.sortedParents (t : TypeDecl Json) : Except Misuse (List Json) :=
  match Json.sort? t.parents with
  | some parents => .ok parents
  | none => .error .unordered

def TypeDecl.encode (t : TypeDecl Json) : Except Misuse Json :=
  t.sortedParents.map fun _ => t.toJson

def Report.encode (r : Report Json) : Except Misuse Json :=
  (r.types.mapM TypeDecl.sortedParents).map fun _ => r.toJson

inductive DecodeFault where
  | notReport
  | entryNotMapping (typeName : String)
  | nameless
  | unknownKind (raw : Json)
  | malformedField (raw : Json)
  | misuse (m : Misuse)

def DecodeFault.message : DecodeFault → String
  | .notReport => "Parser output must be a mapping with a 'types' list"
  | .entryNotMapping typeName => "Type entry must be a mapping, got " ++ typeName
  | .nameless => "Type entry without a name"
  | .unknownKind raw => "Unknown type kind: " ++ raw.literal
  | .malformedField raw => "Malformed field entry: " ++ raw.literal
  | .misuse m => m.message

namespace Json

def given? (name : String) (members : List (String × Json)) : Option Json :=
  match valueOf? name members with
  | some .null => none
  | v => v

/-- The members of a value: items, characters or names. What counts as false has none. -/
def iterate (j : Json) : Except Misuse (List Json) :=
  if j.truthy then
    match j with
    | .arr items => .ok items
    | .str s => .ok (s.toList.map fun c => .str (String.singleton c))
    | .obj members => .ok (members.map fun m => .str m.1)
    | _ => .error (.notIterable j.typeName)
  else .ok []

/-- Equal values count as one member of a set, and so does what is no number, which is not equal to
itself. -/
def sameMember : Json → Json → Bool
  | .float x, .float y => Number.same (.float x) (.float y) || x.isNaN && y.isNaN
  | j, k => same j k

def distinct : List Json → Except Misuse (List Json)
  | [] => .ok []
  | j :: rest =>
    if j.isContainer then .error (.unhashable j.typeName)
    else (distinct rest).map fun more => j :: more.filter fun k => !sameMember j k

end Json

def TypeKind.decode (raw : Json) : Except DecodeFault TypeKind :=
  if raw.isContainer then .error (.misuse (.unhashable raw.typeName))
  else
    match raw.str?.bind TypeKind.ofName? with
    | some kind => .ok kind
    | none => .error (.unknownKind raw)

def Field.decode (raw : Json) : Except DecodeFault (Field Json) :=
  match raw with
  | .obj members =>
    match valueOf? "name" members with
    | none => .error (.malformedField raw)
    | some name => .ok {
        name := name
        typeRef := (valueOf? "type" members).getD (.str "unknown")
        required := ((valueOf? "required" members).map Json.truthy).getD true
        description := Json.given? "description" members }
  | _ => .error (.malformedField raw)

def membersOf (name : String) (members : List (String × Json)) : Except DecodeFault (List Json) :=
  match valueOf? name members with
  | none => .ok []
  | some j => j.iterate.mapError .misuse

def TypeDecl.decode (raw : Json) : Except DecodeFault (TypeDecl Json) :=
  match raw with
  | .obj members =>
    match valueOf? "name" members with
    | none => .error .nameless
    | some name => do
      let kind ← TypeKind.decode ((valueOf? "kind" members).getD (.str "interface"))
      let fields ← (← membersOf "fields" members).mapM Field.decode
      let alternatives ← membersOf "values" members
      let parents ← (Json.distinct (← membersOf "extends" members)).mapError .misuse
      return {
        name := name
        kind := kind
        fields := fields
        alternatives := alternatives.map Json.toText
        parents := parents
        description := Json.given? "description" members }
  | _ => .error (.entryNotMapping raw.typeName)

/-- What a report says about itself; anything that counts as false says nothing. -/
def metadataOf (members : List (String × Json)) : Except DecodeFault (List (String × Json)) :=
  match valueOf? "metadata" members with
  | none => .ok []
  | some about =>
    if about.truthy then
      match about with
      | .obj entries => .ok entries
      | _ => .error (.misuse (.notMapping about.typeName))
    else .ok []

def Report.decode (raw : Json) : Except DecodeFault (Report Json) :=
  match raw with
  | .obj members =>
    match valueOf? "types" members with
    | some (.arr entries) => do
      let types ← entries.mapM TypeDecl.decode
      let about ← metadataOf members
      return {
        types := types
        rootType := (valueOf? "rootType" about).getD (.str "")
        source := (valueOf? "source" about).getD (.str "parser")
        timestamp := (valueOf? "timestamp" about).getD (.str "") }
    | _ => .error .notReport
  | _ => .error .notReport

def Report.toJsonText {τ : Type} [Textual τ] (indent : Option Nat) (r : Report τ) : String :=
  r.toJson.toJsonText indent

inductive LoadFault where
  | malformed (fault : Json.ReadFault)
  | rejected (fault : DecodeFault)

def Report.load (text : List Char) : Except LoadFault (Report Json) :=
  match Json.read text with
  | .error e => .error (.malformed e)
  | .ok j => (Report.decode j).mapError .rejected

/-- Of a fault in the text, what to say about the document of the given name. A number that is too
long is reported as such. -/
def LoadFault.message (name : String) (text : List Char) : LoadFault → String
  | .malformed (.unmet what offset) =>
    "Malformed parser output " ++ name ++ ": " ++ (Json.ReadFault.unmet what offset).message text
  | .malformed fault => fault.message text
  | .rejected fault => fault.message

def Field.same (a b : Field Json) : Bool :=
  a.name.same b.name && a.typeRef.same b.typeRef && a.required = b.required &&
    (match a.description, b.description with
      | none, none => true
      | some x, some y => x.same y
      | _, _ => false)

def TypeDecl.same (a b : TypeDecl Json) : Bool :=
  a.name.same b.name && a.kind = b.kind && a.fields.length = b.fields.length &&
    (a.fields.zip b.fields).all (fun p => p.1.same p.2) && a.alternatives = b.alternatives &&
    a.parents.length = b.parents.length &&
    a.parents.all (fun p => b.parents.any p.same) &&
    (match a.description, b.description with
      | none, none => true
      | some x, some y => x.same y
      | _, _ => false)

def Report.same (a b : Report Json) : Bool :=
  a.types.length = b.types.length && (a.types.zip b.types).all (fun p => p.1.same p.2) &&
    a.rootType.same b.rootType && a.source.same b.source && a.timestamp.same b.timestamp

def descriptionText (description : Option Json) : Option String :=
  (description.filter Json.truthy).map Json.toText

def TypeDecl.texts (t : TypeDecl Json) : TypeDecl String where
  name := t.name.toText
  kind := t.kind
  fields := t.fields.map fun f =>
    ⟨f.name.toText, f.typeRef.toText, f.required, descriptionText f.description⟩
  alternatives := t.alternatives
  parents := t.parents.map Json.toText
  description := descriptionText t.description

def textOrEmpty (j : Json) : String :=
  if j.truthy then j.toText else ""

def Report.texts (r : Report Json) : Report String :=
  ⟨r.types.map TypeDecl.texts, textOrEmpty r.rootType, textOrEmpty r.source, textOrEmpty r.timestamp⟩

def demandText (j : Json) : Except Misuse String :=
  match j.str? with
  | some s => .ok s
  | none => .error (.notText j.typeName)

def demandIfTruthy (j : Json) : Except Misuse Unit :=
  if j.truthy then (demandText j).map fun _ => () else .ok ()

def insertText (j : Json) : Except Misuse String :=
  match j.str? with
  | some s => .ok s
  | none => .error (.textExpected j.typeName)

def TypeDecl.sortedReferences (t : TypeDecl Json) : Except Misuse (List Json) :=
  match t.fields.find? fun f => f.typeRef.isContainer with
  | some f => .error (.unhashable f.typeRef.typeName)
  | none =>
    match Json.sort? t.references with
    | some refs => .ok refs
    | none => .error .unordered

/-- Names, and the type expressions that are compared with them, must not be lists or mappings. -/
def orderChecked (types : List (TypeDecl Json)) (root : Option Json) :
    Except Misuse (List (TypeDecl Json)) := do
  let _ ← types.mapM fun t =>
    if t.name.isContainer then throw (.unhashable t.name.typeName) else pure ()
  let _ ← types.mapM fun t =>
    match t.fields.find? fun f => f.typeRef.isContainer with
    | some f => if types.any fun u => !(u.name == t.name) then throw (.unhashable f.typeRef.typeName)
      else pure ()
    | none => pure ()
  return orderTypes types root

end SampleTypes
