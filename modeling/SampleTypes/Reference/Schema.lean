import SampleTypes.Diagnostics
import SampleTypes.Sample

/-!
Reference schemas: known shapes with names of their own. A record matches a schema when it has every
declared field with the declared kind; other fields do not matter. A declared kind outside the coarse
kinds only asks that the field be there.
-/

namespace SampleTypes

/-- The optional entries hold what the document has there, of type `τ`. -/
structure Schema (τ : Type) where
  name : String
  fields : List (String × String) := []
  modulePath : Option τ := none
  typeOverride : Option τ := none
  description : Option τ := none

abbrev Matcher (τ : Type) := List (Schema τ)

namespace Schema

variable {τ α : Type} [Sampled α]

def fieldMatches (entries : List (Scalar × α)) (field : String × String) : Bool :=
  match underText? field.1 entries with
  | none => false
  | some v => !Kind.isCoarseLabel field.2 || (kindOf v).label = field.2

def fits (schema : Schema τ) (entries : List (Scalar × α)) : Bool :=
  schema.fields.all (fieldMatches entries)

end Schema

namespace Matcher

variable {τ α : Type} [Sampled α]

def names (m : Matcher τ) : List String := m.map Schema.name

def get? (m : Matcher τ) (name : String) : Option (Schema τ) :=
  m.find? fun s => s.name = name

/-- The name of the first schema that the record matches. -/
def match? (m : Matcher τ) (entries : List (Scalar × α)) : Option String :=
  (m.find? fun s => s.fits entries).map Schema.name

end Matcher

end SampleTypes
