import SampleTypes.Json

/-!
Named types: records with fields, aliases and enumerations with values. The texts in them are of
type `τ`: strings when inferred, any JSON value when read from a document that nobody has checked. They
are registered in the order they come in, where a name keeps the type that it was first bound to, and
written with those named like the root first, then by the number of other types that refer to a type
directly, fewest first.
-/

namespace SampleTypes

inductive TypeKind where
  | record
  | alias
  | enumeration
  deriving DecidableEq, Repr

namespace TypeKind

def keyword : TypeKind → String
  | .record => "interface"
  | .alias => "type"
  | .enumeration => "enum"

def label : TypeKind → String
  | .record => "record"
  | .alias => "alias"
  | .enumeration => "enumeration"

def all : List TypeKind := [.record, .alias, .enumeration]

def ofName? (name : String) : Option TypeKind :=
  all.find? fun k => k.keyword = name || k.label = name

end TypeKind

structure Field (τ : Type) where
  name : τ
  typeRef : τ
  required : Bool := true
  description : Option τ := none
  deriving DecidableEq, Repr

structure TypeDecl (τ : Type) where
  name : τ
  kind : TypeKind := .record
  fields : List (Field τ) := []
  alternatives : List String := []
  parents : List τ := []
  description : Option τ := none
  deriving DecidableEq, Repr

namespace TypeDecl

variable {τ σ : Type}

def references [BEq τ] (t : TypeDecl τ) : List τ :=
  (t.fields.map Field.typeRef).eraseDups

def map (f : τ → σ) (t : TypeDecl τ) : TypeDecl σ where
  name := f t.name
  kind := t.kind
  fields := t.fields.map fun x =>
    ⟨f x.name, f x.typeRef, x.required, x.description.map f⟩
  alternatives := t.alternatives
  parents := t.parents.map f
  description := t.description.map f

end TypeDecl

structure Report (τ : Type) where
  types : List (TypeDecl τ)
  rootType : τ
  source : τ
  timestamp : τ
  deriving DecidableEq, Repr

def Report.map {τ σ : Type} (f : τ → σ) (r : Report τ) : Report σ :=
  ⟨r.types.map (TypeDecl.map f), f r.rootType, f r.source, f r.timestamp⟩

def Report.get? {τ : Type} [BEq τ] (r : Report τ) (name : τ) : Option (TypeDecl τ) :=
  r.types.find? fun t => t.name == name

section Order

variable {τ : Type} [BEq τ]

/-- How many types of another name have a field whose type is exactly this name. -/
def incoming (types : List (TypeDecl τ)) (name : τ) : Nat :=
  types.countP fun other => !(other.name == name) && (other.fields.any fun f => f.typeRef == name)

structure Rank where
  root : Nat
  incoming : Nat
  deriving DecidableEq, Repr

def Rank.le (a b : Rank) : Bool :=
  a.root < b.root || (a.root = b.root && a.incoming ≤ b.incoming)

def rank (types : List (TypeDecl τ)) (root : Option τ) (t : TypeDecl τ) : Rank :=
  ⟨if root.any (t.name == ·) then 0 else 1, incoming types t.name⟩

def orderTypes (types : List (TypeDecl τ)) (root : Option τ) : List (TypeDecl τ) :=
  types.mergeSort fun a b => (rank types root a).le (rank types root b)

end Order

abbrev Catalog (τ : Type) := List (TypeDecl τ)

namespace Catalog

variable {τ : Type} [BEq τ]

def get? (c : Catalog τ) (name : τ) : Option (TypeDecl τ) :=
  c.find? fun t => t.name == name

def contains (c : Catalog τ) (name : τ) : Bool :=
  (c.get? name).isSome

def names (c : Catalog τ) : List τ := c.map TypeDecl.name

/-- The type kept under the name, and the catalog with it. -/
def register (c : Catalog τ) (t : TypeDecl τ) : TypeDecl τ × Catalog τ :=
  match c.get? t.name with
  | some kept => (kept, c)
  | none => (t, c ++ [t])

end Catalog

end SampleTypes
