import SampleTypes.Catalog.Registry
import SampleTypes.Naming.Allocator
import SampleTypes.Reference.Schema
import SampleTypes.Sample

/-!
Inference of a type expression from one sampled value. A record gets the name of the first reference
schema that it matches, or else one name for all records of its signature. The name is remembered
before the fields are looked at, so that a record inside itself finds it, and the type is registered
after them. The context survives a failure.
-/

namespace SampleTypes.Inference

def unknownType : String := "unknown"
def stringType : String := "string"
def numberType : String := "number"
def booleanType : String := "boolean"
def temporalType : String := "Date"

def primitives : List String := [unknownType, stringType, numberType, booleanType, temporalType]

def arrayMark : String := "[]"

def logSource : String := "typeatlas.engine"
def catalogSource : String := "typeatlas.catalog"

inductive Failure where
  | tooDeep (limit : Int) (hint : String)
  | endless
  | keyTooLong
  deriving DecidableEq, Repr

def Failure.message : Failure → String
  | .tooDeep limit hint =>
    "Sample nests deeper than " ++ Decimal.intText limit ++ " levels at " ++ Text.quoted hint
  | .endless => "maximum recursion depth exceeded"
  | .keyTooLong => Decimal.limitMessage none

structure Context where
  catalog : Catalog String := []
  names : Allocator := {}
  seen : List (String × String) := []
  maxDepth : Option Int := none
  deriving DecidableEq, Repr

structure Step (β : Type) where
  result : Except Failure β
  context : Context
  log : List LogEntry

def Step.map {β γ : Type} (f : β → γ) (s : Step β) : Step γ :=
  ⟨s.result.map f, s.context, s.log⟩

def Step.after {β : Type} (log : List LogEntry) (s : Step β) : Step β :=
  { s with log := log ++ s.log }

def Context.isTooDeep (ctx : Context) (depth : Int) : Bool :=
  ctx.maxDepth.any (· < depth)

def Context.tooDeep {β : Type} (ctx : Context) (hint : String) : Step β :=
  ⟨.error (.tooDeep (ctx.maxDepth.getD 0) hint), ctx, []⟩

def itemHint (hint : String) : String := hint ++ "Item"

def fieldHint (key : Scalar) : String := pascalCase key.toText

def unrecognized (typeName hint : String) (ctx : Context) : Step String :=
  ⟨.ok unknownType, ctx,
    [⟨.debug, logSource, "Unrecognized value of type " ++ typeName ++ " at " ++ hint⟩]⟩

def scalarType (s : Scalar) (hint : String) (ctx : Context) : Step String :=
  match s with
  | .null => ⟨.ok unknownType, ctx, []⟩
  | .text t => ⟨.ok (if isTemporal t then temporalType else stringType), ctx, []⟩
  | .int _ => ⟨.ok numberType, ctx, []⟩
  | .float _ => ⟨.ok numberType, ctx, []⟩
  | .bool _ => ⟨.ok booleanType, ctx, []⟩
  | s => unrecognized s.typeName hint ctx

section

variable {α τ : Type} [Sampled α]

def isGiven (x : α) : Bool := kindOf x != .null

/-- The fields of a record, one after another; the first failure ends them. -/
def inferFields (visit : α → String → Context → Step String) :
    List (Scalar × α) → Context → Step (List (Field String))
  | [], ctx => ⟨.ok [], ctx, []⟩
  | (key, x) :: rest, ctx =>
    let s := visit x (fieldHint key) ctx
    match s.result with
    | .error e => ⟨.error e, s.context, s.log⟩
    | .ok typeRef =>
      ((inferFields visit rest s.context).map
        fun fields => { name := key.toText, typeRef := typeRef, required := isGiven x } :: fields).after
          s.log

def registrationLog (ctx : Context) (name : String) : LogEntry :=
  if Catalog.contains ctx.catalog name then
    ⟨.debug, catalogSource, "Type " ++ name ++ " already registered, keeping first"⟩
  else ⟨.debug, catalogSource, "Registered record " ++ name⟩

/-- The type of a finished record goes into the catalog. -/
def register (name : String) (s : Step (List (Field String))) : Step String :=
  match s.result with
  | .error e => ⟨.error e, s.context, s.log⟩
  | .ok fields =>
    ⟨.ok name,
      { s.context with
        catalog := (Catalog.register s.context.catalog { name := name, fields := fields }).2 },
      s.log ++ [registrationLog s.context name]⟩

def Context.bind (ctx : Context) (signature hint : String) : String × Context :=
  let (name, names) := ctx.names.allocate hint
  (name, { ctx with names := names, seen := ctx.seen ++ [(signature, name)] })

def inferRecord (visit : α → String → Context → Step String) (entries : List (Scalar × α))
    (hint : String) (ctx : Context) : Step String :=
  if entries.all fun e => e.1.isWritable then
    let signature := fingerprint entries
    match valueOf? signature ctx.seen with
    | some name =>
      ⟨.ok name, ctx, [⟨.debug, logSource, "Fingerprint " ++ signature ++ " already named " ++ name⟩]⟩
    | none =>
      let (name, ctx) := ctx.bind signature hint
      register name (inferFields visit entries ctx)
  else ⟨.error .keyTooLong, ctx, []⟩

def matchLog (name : String) : LogEntry :=
  ⟨.debug, "typeatlas.reference", "Record matched reference schema " ++ name⟩

/-- The type expression of a sample at some depth. The first argument bounds the nesting of calls. -/
def inferWithin (refs : Matcher τ) : Nat → α → String → Int → Context → Step String
  | 0, _, _, _, ctx => ⟨.error .endless, ctx, []⟩
  | fuel + 1, x, hint, depth, ctx =>
    if ctx.isTooDeep depth then ctx.tooDeep hint
    else
      match Sampled.layer x with
      | .scalar s => scalarType s hint ctx
      | .other typeName => unrecognized typeName hint ctx
      | .list [] => ⟨.ok (unknownType ++ arrayMark), ctx, []⟩
      | .list (first :: _) =>
        (inferWithin refs fuel first (itemHint hint) (depth + 1) ctx).map (· ++ arrayMark)
      | .record entries =>
        let visit := fun y h c => inferWithin refs fuel y h (depth + 1) c
        match refs.match? entries with
        | none => inferRecord visit entries hint ctx
        | some name =>
          if name = "" then (inferRecord visit entries hint ctx).after [matchLog name]
          else ⟨.ok name, ctx, [matchLog name]⟩

/-- Enough calls for the sample, or to go past the depth limit. -/
def callBound (x : α) (depth : Int) (ctx : Context) : Nat :=
  Sampled.bound x + ((ctx.maxDepth.map fun limit => limit - depth).getD 0).toNat + 1

def infer (refs : Matcher τ) (x : α) (hint : String) (depth : Int) (ctx : Context) : Step String :=
  inferWithin refs (callBound x depth ctx) x hint depth ctx

structure Settings where
  rootName : String := "ApiResponse"
  source : String := "parser"
  timestamp : String
  maxDepth : Option Int := none

/-- Names of reference schemas are never given to other records. -/
def initialContext (refs : Matcher τ) (maxDepth : Option Int) : Context :=
  { names := .reserving refs.names, maxDepth := maxDepth }

/-- The ordered report on a whole sample, with the log. -/
def run (refs : Matcher τ) (settings : Settings) (x : α) :
    List LogEntry × Except Failure (Report String) :=
  let s := infer refs x settings.rootName 0 (initialContext refs settings.maxDepth)
  match s.result with
  | .error e => (s.log, .error e)
  | .ok root =>
    let types := orderTypes s.context.catalog (some root)
    (s.log ++ [⟨.info, logSource, "Inferred " ++ Decimal.natText types.length ++ " types (root " ++ root ++
        ", " ++ Decimal.natText refs.length ++ " reference schemas)"⟩],
      .ok ⟨types, root, settings.source, settings.timestamp⟩)

end

end SampleTypes.Inference
