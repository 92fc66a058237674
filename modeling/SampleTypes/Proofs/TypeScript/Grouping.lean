import SampleTypes.Proofs.TypeScript.Denotation

/-!
Overrides put into type expressions. The text of an override stands in the place of the name as it is,
without parentheses. The result denotes what the expression denotes with the type of each override in
the place of the name, if and only if every override that comes to stand before brackets takes them as
a whole.
-/

namespace SampleTypes.TypeScript

open SampleTypes.Inference (arrayOf)

mutual

def TypeForm.substitute (f : String → List TypeForm) : TypeForm → List TypeForm
  | .operand text => f text
  | .array forms => [.array (substituteAll f forms)]

def substituteAll (f : String → List TypeForm) : List TypeForm → List TypeForm
  | [] => []
  | form :: forms => form.substitute f ++ substituteAll f forms

end

section

variable {f : String → List TypeForm}

theorem substituteAll_append (xs ys : List TypeForm) :
    substituteAll f (xs ++ ys) = substituteAll f xs ++ substituteAll f ys := by
  induction xs with
  | nil => rfl
  | cons form forms ih => rw [List.cons_append, substituteAll, ih, substituteAll, List.append_assoc]

theorem substituteAll_flatMap {α : Type} (g : α → List TypeForm) (xs : List α) :
    substituteAll f (xs.flatMap g) = xs.flatMap fun x => substituteAll f (g x) := by
  induction xs with
  | nil => rfl
  | cons x xs ih => rw [List.flatMap_cons, List.flatMap_cons, substituteAll_append, ih]

theorem substituteAll_arraysOf (forms : List TypeForm) (dimensions : Nat) :
    substituteAll f (arraysOf forms dimensions) = arraysOf (substituteAll f forms) dimensions := by
  induction dimensions with
  | zero => rfl
  | succ d ih => rw [arraysOf, substituteAll, TypeForm.substitute, ih, substituteAll,
      List.append_nil, arraysOf]

theorem substituteAll_operand (text : String) : substituteAll f [.operand text] = f text := by
  rw [substituteAll, TypeForm.substitute, substituteAll, List.append_nil]

end

section

variable {α β : Type} {f g : α → List β} {xs : List α}

theorem flatMap_length_le (h : ∀ x ∈ xs, (g x).length ≤ (f x).length) :
    (xs.flatMap g).length ≤ (xs.flatMap f).length := by
  induction xs with
  | nil => exact le_rfl
  | cons x xs ih =>
    rw [List.forall_mem_cons] at h
    have hrest := ih h.2
    rw [List.flatMap_cons, List.flatMap_cons, List.length_append, List.length_append]
    omega

/-- Where no block of the one list is longer than that of the other, the lists are equal only if all
blocks are. -/
theorem flatMap_eq_iff (h : ∀ x ∈ xs, (g x).length ≤ (f x).length) :
    xs.flatMap f = xs.flatMap g ↔ ∀ x ∈ xs, f x = g x := by
  refine ⟨fun he => ?_, List.flatMap_congr⟩
  induction xs with
  | nil => simp
  | cons x xs ih =>
    rw [List.forall_mem_cons] at h ⊢
    rw [List.flatMap_cons, List.flatMap_cons] at he
    have hl := congrArg List.length he
    have hrest := flatMap_length_le h.2
    have hfirst := h.1
    rw [List.length_append, List.length_append] at hl
    have hx : (f x).length = (g x).length := by omega
    obtain ⟨hf, ht⟩ := List.append_inj he hx
    exact ⟨hf, ih h.2 ht⟩

end

section

variable {atomic : String → Bool} {base : String} {dimensions : Nat}

/-- The text is one group, or one operand that takes brackets behind it as a whole. -/
def TakesBrackets (atomic : String → Bool) (cs : List Char) : Prop :=
  ∃ p, members cs = [p] ∧ ((grouped? p.base.toList).isSome = true ∨ atomic p.base = true)

theorem denotePart_brackets (h : (grouped? base.toList).isSome = true ∨ atomic base = true)
    (more : Nat) : denotePart atomic ⟨base, dimensions + more⟩ =
      arraysOf (denotePart atomic ⟨base, dimensions⟩) more := by
  cases hg : grouped? base.toList with
  | some inner => rw [denotePart_group hg, denotePart_group hg, arraysOf_add]
  | none =>
    have ha : atomic base = true := by simpa [hg] using h
    rw [denotePart_operand hg, denotePart_operand hg, operandOf, operandOf, if_pos (.inr ha),
      if_pos (.inr ha), arraysOf_add]

theorem takes_of_denotePart_array {forms : List TypeForm} (hd : dimensions ≠ 0)
    (h : denotePart atomic ⟨base, dimensions⟩ = [.array forms]) :
    (grouped? base.toList).isSome = true ∨ atomic base = true := by
  by_contra hnot
  rw [not_or, Bool.not_eq_true, Option.isSome_eq_false_iff, Option.isNone_iff_eq_none] at hnot
  have hloose : ¬ (dimensions = 0 ∨ atomic base = true) := fun ho => ho.elim hd hnot.2
  rw [denotePart_operand hnot.1, operandOf, if_neg hloose] at h
  exact absurd (List.cons.inj h).1 TypeForm.noConfusion

theorem single_form {front : List Part} {last : Part} {form : TypeForm}
    (h : (front ++ [last]).flatMap (denotePart atomic) = [form]) :
    front = [] ∧ denotePart atomic last = [form] := by
  rw [List.flatMap_append, List.flatMap_singleton] at h
  rcases List.append_eq_singleton_iff.mp h with ⟨hfront, hlast⟩ | ⟨-, hlast⟩
  · refine ⟨?_, hlast⟩
    cases front with
    | nil => rfl
    | cons p front =>
      rw [List.flatMap_cons, List.append_eq_nil_iff] at hfront
      exact absurd hfront.1 (denotePart_ne_nil p)
  · exact absurd hlast (denotePart_ne_nil last)

theorem denote_brackets_iff {cs : List Char} :
    denote atomic (cs ++ brackets dimensions) = arraysOf (denote atomic cs) dimensions ↔
      dimensions = 0 ∨ TakesBrackets atomic cs := by
  cases dimensions with
  | zero => simp [brackets, arraysOf]
  | succ d =>
    obtain ⟨front, last, he, hm⟩ := members_brackets cs (d + 1)
    rw [or_iff_right (Nat.succ_ne_zero d), denote_eq (cs ++ _), hm]
    constructor
    · intro heq
      obtain ⟨rfl, harray⟩ := single_form heq
      exact ⟨last, he, takes_of_denotePart_array (Nat.succ_ne_zero _) harray⟩
    · rintro ⟨p, hp, ht⟩
      rw [he] at hp
      obtain ⟨rfl, hl⟩ := List.append_inj' (hp.trans (List.nil_append [p]).symm) rfl
      obtain rfl := List.singleton_inj.mp hl
      rw [denote_eq, he, List.nil_append, List.nil_append, List.flatMap_singleton,
        List.flatMap_singleton, denotePart_brackets ht]

theorem denote_brackets_length (cs : List Char) (dimensions : Nat) :
    (arraysOf (denote atomic cs) dimensions).length ≤
      (denote atomic (cs ++ brackets dimensions)).length := by
  cases dimensions with
  | zero => simp [brackets, arraysOf]
  | succ d => exact List.length_pos_iff.mpr (denote_ne_nil _)

def IsPlainText (text : String) : Prop := ∀ c ∈ text.toList, Scan.IsPlain c

instance (text : String) : Decidable (IsPlainText text) := List.decidableBAll _ _

structure IsName (atomic : String → Bool) (name : String) : Prop where
  inOnePiece : InOnePiece name
  plain : IsPlainText name
  whole : atomic name = true

theorem isName_iff {name : String} : IsName atomic name ↔
    InOnePiece name ∧ IsPlainText name ∧ atomic name = true :=
  ⟨fun h => ⟨h.inOnePiece, h.plain, h.whole⟩, fun h => ⟨h.1, h.2.1, h.2.2⟩⟩

instance (name : String) : Decidable (IsName atomic name) := decidable_of_iff _ isName_iff.symm

theorem IsName.not_grouped {name : String} (h : IsName atomic name) :
    grouped? name.toList = none := by
  cases hg : grouped? name.toList with
  | none => rfl
  | some inner =>
    have hmem : '(' ∈ name.toList := by
      rw [grouped_eq_some hg]
      exact List.mem_cons_self
    exact absurd (h.plain _ hmem) (by decide)

theorem IsName.denotePart {name : String} (h : IsName atomic name) (dimensions : Nat) :
    denotePart atomic ⟨name, dimensions⟩ = arraysOf [.operand name] dimensions := by
  rw [denotePart_operand h.not_grouped, operandOf, if_pos (.inr h.whole)]

theorem IsName.denote_arrayOf {name : String} (h : IsName atomic name) (dimensions : Nat) :
    denote atomic (arrayOf name dimensions).toList = arraysOf [.operand name] dimensions := by
  have hbar := h.inOnePiece.arrayOf_no_bar dimensions
  rw [denote_eq, members, cutFrom_whole hbar, List.map_singleton, partOf_arrayOf h.inOnePiece,
    List.flatMap_singleton, h.denotePart]

/-- The type that stands for a base: that of the override, if there is one. -/
def meaning (atomic : String → Bool) (refs : Matcher String) (base : String) : List TypeForm :=
  match override? refs base with
  | some text => denote atomic text.toList
  | none => [.operand base]

variable {refs : Matcher String} {typeRef : String}

theorem denote_expression (hn : ∀ p ∈ parts typeRef, IsName atomic p.base) :
    denote atomic typeRef.toList =
      (parts typeRef).flatMap fun p => arraysOf [.operand p.base] p.dimensions := by
  rw [denote_eq, members_parts fun p hp => (hn p hp).plain]
  exact List.flatMap_congr fun p hp => (hn p hp).denotePart p.dimensions

theorem denote_substituted (hn : ∀ p ∈ parts typeRef, IsName atomic p.base) :
    substituteAll (meaning atomic refs) (denote atomic typeRef.toList) =
      (parts typeRef).flatMap fun p => arraysOf (meaning atomic refs p.base) p.dimensions := by
  rw [denote_expression hn, substituteAll_flatMap]
  refine List.flatMap_congr fun p _ => ?_
  rw [substituteAll_arraysOf, substituteAll_operand]

theorem resolvedPart_closed {p : Part} (hn : IsName atomic p.base)
    (ht : ∀ text, override? refs p.base = some text → Closed text.toList) :
    Closed (resolvedPart refs p).toList := by
  rw [resolvedPart, arrayOf_toList]
  refine Closed.append ?_ (closed_brackets _)
  cases ho : override? refs p.base with
  | none => exact closed_plain hn.plain
  | some text => exact ht text ho

/-- Read as it comes out, the expression is the union of the texts of its parts. -/
theorem denote_resolved (hr : ∀ s ∈ refs, IsWhole s.name)
    (hn : ∀ p ∈ parts typeRef, IsName atomic p.base)
    (ht : ∀ p ∈ parts typeRef, ∀ text, override? refs p.base = some text → Closed text.toList) :
    denote atomic (resolve refs typeRef).toList =
      (parts typeRef).flatMap fun p => denote atomic (resolvedPart refs p).toList := by
  have hne : (parts typeRef).map (resolvedPart refs) ≠ [] :=
    mt List.map_eq_nil_iff.mp (parts_ne_nil typeRef)
  have hclosed : ∀ text ∈ (parts typeRef).map (resolvedPart refs), Closed text.toList := by
    intro text hm
    obtain ⟨p, hp, rfl⟩ := List.mem_map.mp hm
    exact resolvedPart_closed (hn p hp) (ht p hp)
  rw [resolve_parts hr, denote_eq, members_join hne hclosed, List.flatMap_map, List.flatMap_assoc]
  exact List.flatMap_congr fun p _ => (denote_eq _).symm

theorem denote_resolvedPart_length {p : Part} (hn : IsName atomic p.base) :
    (arraysOf (meaning atomic refs p.base) p.dimensions).length ≤
      (denote atomic (resolvedPart refs p).toList).length := by
  rw [resolvedPart, meaning]
  cases override? refs p.base with
  | none => rw [Option.getD_none, hn.denote_arrayOf]
  | some text =>
    rw [Option.getD_some, arrayOf_toList]
    exact denote_brackets_length _ _

theorem denote_resolvedPart_iff {p : Part} (hn : IsName atomic p.base) :
    denote atomic (resolvedPart refs p).toList =
        arraysOf (meaning atomic refs p.base) p.dimensions ↔
      ∀ text, override? refs p.base = some text →
        p.dimensions = 0 ∨ TakesBrackets atomic text.toList := by
  rw [resolvedPart, meaning]
  cases override? refs p.base with
  | none => simp [hn.denote_arrayOf]
  | some text =>
    rw [Option.getD_some, arrayOf_toList]
    simpa using denote_brackets_iff

theorem parts_arrayOf {name : String} (h : InOnePiece name) (dimensions : Nat) :
    parts (arrayOf name dimensions) = [⟨name, dimensions⟩] := by
  rw [parts, List.splitOn_eq_singleton (h.arrayOf_no_bar dimensions), List.map_singleton,
    partOf_arrayOf h]

/-- What comes out denotes the expression with the types of the overrides in it, if and only if every
override that stands before brackets takes them as a whole; so it is with the arrays of one name. -/
theorem overrides_grouped_iff (hr : ∀ s ∈ refs, IsWhole s.name) :
    (∀ typeRef, (∀ p ∈ parts typeRef, IsName atomic p.base) →
      (∀ p ∈ parts typeRef, ∀ text, override? refs p.base = some text → Closed text.toList) →
      (denote atomic (resolve refs typeRef).toList =
          substituteAll (meaning atomic refs) (denote atomic typeRef.toList) ↔
        ∀ p ∈ parts typeRef, ∀ text, override? refs p.base = some text →
          p.dimensions = 0 ∨ TakesBrackets atomic text.toList)) ∧
    ∀ name text, IsName atomic name → override? refs name = some text → ∀ dimensions,
      (denote atomic (resolve refs (arrayOf name dimensions)).toList =
          arraysOf (denote atomic text.toList) dimensions ↔
        dimensions = 0 ∨ TakesBrackets atomic text.toList) := by
  constructor
  · intro typeRef hn ht
    rw [denote_resolved hr hn ht, denote_substituted hn,
      flatMap_eq_iff fun p hp => denote_resolvedPart_length (hn p hp)]
    exact forall₂_congr fun p hp => denote_resolvedPart_iff (hn p hp)
  · intro name text hn ho dimensions
    have hres : (resolve refs (arrayOf name dimensions)).toList =
        text.toList ++ brackets dimensions := by
      rw [resolve_parts hr, parts_arrayOf hn.inOnePiece, List.map_singleton, joinTexts, resolvedPart,
        ho, Option.getD_some, arrayOf_toList]
    rw [hres]
    exact denote_brackets_iff

end

def noIntersection (text : String) : Bool := !text.toList.contains '&'

theorem placeSchemas_grouped : (∀ s ∈ placeSchemas, IsWhole s.name) ∧
    (∀ p ∈ parts "Money | GeoPoint[][]", IsName noIntersection p.base) ∧
    (∀ p ∈ parts "Money | GeoPoint[][]", ∀ text,
      override? placeSchemas p.base = some text → Closed text.toList) ∧
    denote noIntersection (resolve placeSchemas "Money | GeoPoint[][]").toList =
      substituteAll (meaning noIntersection placeSchemas)
        (denote noIntersection "Money | GeoPoint[][]".toList) ∧
    denote noIntersection (resolve placeSchemas (arrayOf "GeoPoint" 3)).toList =
      arraysOf (denote noIntersection "[number, number]".toList) 3 := by
  have hr : ∀ s ∈ placeSchemas, IsWhole s.name := by decide
  have hp : parts "Money | GeoPoint[][]" = [⟨"Money", 0⟩, ⟨"GeoPoint", 2⟩] := by decide +kernel
  have hmoney : override? placeSchemas "Money" = none := by decide +kernel
  have hpoint : override? placeSchemas "GeoPoint" = some "[number, number]" := by decide +kernel
  have hn : ∀ p ∈ parts "Money | GeoPoint[][]", IsName noIntersection p.base := by
    rw [hp]
    decide +kernel
  have hpair : TakesBrackets noIntersection "[number, number]".toList :=
    ⟨⟨"[number, number]", 0⟩, by decide +kernel, by decide +kernel⟩
  have htext : ∀ p ∈ parts "Money | GeoPoint[][]", ∀ text, override? placeSchemas p.base = some text →
      text = "[number, number]" := by
    intro p hm text ho
    rw [hp] at hm
    rcases List.mem_pair.mp hm with rfl | rfl
    · rw [hmoney] at ho
      exact absurd ho (by simp)
    · rw [hpoint] at ho
      exact (Option.some.inj ho).symm
  have ht : ∀ p ∈ parts "Money | GeoPoint[][]", ∀ text,
      override? placeSchemas p.base = some text → Closed text.toList := by
    intro p hm text ho
    obtain rfl := htext p hm text ho
    decide +kernel
  obtain ⟨hall, harray⟩ := overrides_grouped_iff hr
  refine ⟨hr, hn, ht, (hall _ hn ht).mpr fun p hm text ho => .inr ?_, ?_⟩
  · obtain rfl := htext p hm text ho
    exact hpair
  · exact (harray _ _ (by decide +kernel) hpoint 3).mpr (.inr hpair)

def idSchemas : Matcher String := [{ name := "Id", typeOverride := some "string | number" }]

/-- The brackets behind the name come to stand behind the last member of the union; in parentheses the
union would be kept together. -/
theorem union_override_ungrouped :
    resolve idSchemas "Id[]" = "string | number[]" ∧
    denote noIntersection (resolve idSchemas "Id[]").toList ≠
      substituteAll (meaning noIntersection idSchemas) (denote noIntersection "Id[]".toList) ∧
    denote noIntersection "(string | number)[]".toList =
      substituteAll (meaning noIntersection idSchemas) (denote noIntersection "Id[]".toList) := by
  have hres : resolve idSchemas "Id[]" = "string | number[]" := by decide +kernel
  have hsub : substituteAll (meaning noIntersection idSchemas) (denote noIntersection "Id[]".toList) =
      [.array [.operand "string", .operand "number"]] := by
    rfl
  have hread : denote noIntersection "string | number[]".toList =
      [.operand "string", .array [.operand "number"]] := by
    rfl
  refine ⟨hres, ?_, ?_⟩
  · rw [hres, hread, hsub]
    simp
  · rw [hsub]
    rfl

example : denote (fun _ => true) "Map<string, 'a|b'>[] | ((x: A) => B | C)[][]".toList =
    [.array [.operand "Map<string, 'a|b'>"], .array [.array [.operand "(x: A) => B | C"]]] := by
  rfl

end SampleTypes.TypeScript
