import SampleTypes.Diagnostics
import SampleTypes.Reference.Schema
import SampleTypes.Text.Basic

/-!
Type expressions: names, arrays written with brackets after them, and unions written with bars.
-/

namespace SampleTypes.TypeScript

def dropArray? (cs : List Char) : Option (List Char) :=
  if Text.endsWith ['[', ']'] cs then some (cs.take (cs.length - 2)) else none

def dropArrays : Nat → List Char → List Char
  | 0, cs => cs
  | fuel + 1, cs =>
    match dropArray? cs with
    | some inner => dropArrays fuel inner
    | none => cs

def baseNames (typeRef : String) : List String :=
  (typeRef.toList.splitOn '|').map fun part =>
    String.ofList (dropArrays part.length (Text.trim part))

section

variable {ρ : Type}

/-- A reading of type expressions: a name that `lookup` knows is read as a whole, then brackets are
taken off the end, then bars are taken apart, and what is left is a bare name. -/
structure Reading (ρ : Type) where
  lookup : String → Option ρ
  bare : String → ρ
  array : ρ → ρ
  union : List ρ → ρ

/-- The first argument bounds the depth; more than the length of the text is enough. -/
def Reading.readWithin (r : Reading ρ) : Nat → List Char → ρ
  | 0, cs => r.bare (String.ofList cs)
  | fuel + 1, cs =>
    let cs := Text.trim cs
    let name := String.ofList cs
    match r.lookup name with
    | some known => known
    | none =>
      match dropArray? cs with
      | some inner => r.array (r.readWithin fuel inner)
      | none =>
        if cs.contains '|' then r.union ((cs.splitOn '|').map (r.readWithin fuel))
        else r.bare name

def Reading.read (r : Reading ρ) (typeRef : String) : ρ :=
  r.readWithin (typeRef.length + 1) typeRef.toList

end

/-- The type that a schema stands for, its own name unless it has an override. -/
def overrideOf (schema : Schema String) (name : String) : String :=
  match schema.typeOverride with
  | some t => if t = "" then name else t
  | none => name

/-- The text of a type expression with the overrides of schemas put in. -/
def resolution (refs : Matcher String) : Reading String where
  lookup name := (refs.get? name).map (overrideOf · name)
  bare name := name
  array t := t ++ "[]"
  union ts := joinTexts " | " ts

def resolve (refs : Matcher String) (typeRef : String) : String :=
  (resolution refs).read typeRef

def unionOf : List (Except Misuse Value) → Except Misuse (List String)
  | [] => .ok []
  | .error e :: _ => .error e
  | .ok v :: rest =>
    match unionOf rest, v.text? with
    | .error e, _ => .error e
    | .ok _, none => .error (.textExpected v.typeName)
    | .ok texts, some t => .ok (t :: texts)

def looseResolution (refs : Matcher Value) : Reading (Except Misuse Value) where
  lookup name := (refs.get? name).map fun schema =>
    match schema.typeOverride with
    | some t => .ok (if t.truthy then t else .scalar (.text name))
    | none => .ok (.scalar (.text name))
  bare name := .ok (.scalar (.text name))
  array t := t.bind fun v =>
    if v.isWritable then .ok (.scalar (.text (v.toText ++ "[]"))) else .error .numberTooLong
  union ts := (unionOf ts).map fun texts => .scalar (.text (joinTexts " | " texts))

def resolveLoosely (refs : Matcher Value) (typeRef : String) : Except Misuse Value :=
  (looseResolution refs).read typeRef

end SampleTypes.TypeScript
