import SampleTypes.Reference.Schema
import SampleTypes.Sample
import SampleTypes.Yaml.Sample

/-!
Reference schemas from a file. Its text is YAML, of which JSON is a part; plain timestamps are read as
dates. A document either maps names to fields, or has a block `references` that maps names to entries
with `fields` and, if wanted, `module`, `type` and `description`.
-/

namespace SampleTypes.Reference

inductive DocumentFault where
  | notMapping
  | schemaNotMapping (name : Scalar)
  | fieldsNotMapping (name : Scalar)
  | numberTooLong

def DocumentFault.message : DocumentFault → String
  | .notMapping => "Reference document must be a mapping of type names"
  | .schemaNotMapping name => "Reference schema " ++ name.literal ++ " must be a mapping"
  | .fieldsNotMapping name =>
    "Reference schema " ++ name.literal ++ ": 'fields' must be a mapping"
  | .numberTooLong => Decimal.limitMessage none

def logSource : String := "typeatlas.reference"

variable {α : Type} [Sampled α]

def record? (x : α) : Option (List (Scalar × α)) :=
  match Sampled.layer x with
  | .record entries => some entries
  | _ => none

def fieldTexts (entries : List (Scalar × α)) : Except DocumentFault (List (String × String)) :=
  entries.foldlM (fun fields (k, v) =>
    let v := Sampled.toValue v
    if k.isWritable && v.isWritable then .ok (putValue k.toText v.toText fields)
    else .error .numberTooLong) []

def optional? (name : String) (entries : List (Scalar × α)) : Option Value :=
  match (underText? name entries).map Sampled.toValue with
  | some (.scalar .null) => none
  | v => v

/-- The declared fields of a structured entry; anything that counts as false declares none. -/
def declaredFields (name : Scalar) (entries : List (Scalar × α)) :
    Except DocumentFault (List (Scalar × α)) :=
  match underText? "fields" entries with
  | none => .ok []
  | some v =>
    if (Sampled.toValue v).truthy then
      match record? v with
      | some fields => .ok fields
      | none => .error (.fieldsNotMapping name)
    else .ok []

def schemaOf (structured : Bool) (name : Scalar) (entry : α) :
    Except DocumentFault (Schema Value) := do
  if !name.isWritable then throw .numberTooLong
  match record? entry with
  | none => throw (.schemaNotMapping name)
  | some entries =>
    if structured then
      let fields ← declaredFields name entries
      return {
        name := name.toText
        fields := ← fieldTexts fields
        modulePath := optional? "module" entries
        typeOverride := optional? "type" entries
        description := optional? "description" entries }
    else return { name := name.toText, fields := ← fieldTexts entries }

def presenceOnly {τ : Type} (schema : Schema τ) : List String :=
  sortTexts ((schema.fields.map Prod.snd).filter fun k => !Kind.isCoarseLabel k).eraseDups

def presenceEntry {τ : Type} (schema : Schema τ) : List LogEntry :=
  match presenceOnly schema with
  | [] => []
  | kinds => [⟨.debug, logSource, "Reference schema " ++ schema.name ++
      " declares presence-only kinds: " ++ joinTexts ", " kinds⟩]

/-- The schemas of a document with what is logged on the way to them, or to the first fault. -/
def schemasOf (structured : Bool) :
    List (Scalar × α) → List LogEntry × Except DocumentFault (Matcher Value)
  | [] => ([], .ok [])
  | (name, entry) :: rest =>
    match schemaOf structured name entry with
    | .error e => ([], .error e)
    | .ok schema =>
      let (log, schemas) := schemasOf structured rest
      (presenceEntry schema ++ log, schemas.map (schema :: ·))

def parse (doc : α) : List LogEntry × Except DocumentFault (Matcher Value) :=
  match Sampled.layer doc with
  | .scalar .null => ([], .ok [])
  | .record entries =>
    match (underText? "references" entries).bind record? with
    | some schemas => schemasOf true schemas
    | none => schemasOf false entries
  | _ => ([], .error .notMapping)

end SampleTypes.Reference

namespace SampleTypes

def Schema.entry (schema : Schema Value) : Value :=
  let optional (name : String) (v : Option Value) : List (Scalar × Value) :=
    match v with
    | some v => if v.truthy then [(.text name, v)] else []
    | none => []
  .map ((.text "fields", .map (schema.fields.map fun f => (.text f.1, .scalar (.text f.2)))) ::
    optional "module" schema.modulePath ++ optional "type" schema.typeOverride ++
    optional "description" schema.description)

end SampleTypes

namespace SampleTypes.Reference

inductive LoadFault where
  | missing
  | unreadable (fault : Yaml.Fault)
  | rejected (fault : DocumentFault)

/-- What to say about the file of the given name. Only for a text that is malformed as a whole is the
name told. -/
def LoadFault.message (name : String) : LoadFault → String
  | .missing => "Reference file not found: " ++ name
  | .unreadable (.malformed what) => "Malformed reference file " ++ name ++ ": " ++ what
  | .unreadable fault => fault.message
  | .rejected fault => fault.message

def loadedEntry (name : String) (schemas : Matcher Value) : LogEntry :=
  ⟨.info, logSource,
    "Loaded " ++ Decimal.natText schemas.length ++ " reference schemas from " ++ name⟩

def load (name : String) (bytes : List UInt8) : List LogEntry × Except LoadFault (Matcher Value) :=
  match Yaml.read true bytes with
  | .error e => ([], .error (.unreadable e))
  | .ok doc =>
    match parse doc with
    | (log, .error e) => (log, .error (.rejected e))
    | (log, .ok schemas) => (log ++ [loadedEntry name schemas], .ok schemas)

end SampleTypes.Reference
