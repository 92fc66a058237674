import Mathlib.Data.List.Forall2
import Mathlib.Data.List.TakeWhile
import SampleTypes.Inference

/-!
The texts that are taken for moments. They are given by a grammar: a date and a time of day by a pattern
of digits, a fraction of a second that may be left out, and a zone. Main result: a text has the temporal
type exactly if it is of the grammar, with one line feed behind it at most, and is a string otherwise.
-/

namespace SampleTypes

/-- The letter `d` stands for a digit of any script and each other character for itself. -/
def Follows (pattern cs : List Char) : Prop :=
  List.Forall₂ (fun p c => if p = 'd' then Text.isDigit c = true else c = p) pattern cs

inductive IsFraction : List Char → Prop where
  | none : IsFraction []
  | digits {first : Char} {more : List Char} (h : ∀ c ∈ first :: more, Text.isDigit c = true) :
      IsFraction ('.' :: first :: more)

inductive IsZone : List Char → Prop where
  | utc : IsZone ['Z']
  | offset {sign : Char} {cs : List Char} (signed : sign = '+' ∨ sign = '-')
      (h : Follows "dd:dd".toList cs) : IsZone (sign :: cs)

inductive IsMoment : List Char → Prop where
  | intro {start fraction zone : List Char} (hs : Follows "dddd-dd-ddTdd:dd:dd".toList start)
      (hf : IsFraction fraction) (hz : IsZone zone) : IsMoment (start ++ (fraction ++ zone))

def IsMomentLine (s : String) : Prop :=
  ∃ cs, IsMoment cs ∧ (s.toList = cs ∨ s.toList = cs ++ ['\n'])

section Reading

variable {cs rest : List Char}

def shapeOf (pattern : List Char) : List (Option Char) :=
  pattern.map fun p => if p = 'd' then none else some p

theorem dropShape_eq_some {pattern : List Char} :
    dropShape? (shapeOf pattern) cs = some rest ↔
      ∃ front, Follows pattern front ∧ cs = front ++ rest := by
  induction pattern generalizing cs with
  | nil =>
    simp only [shapeOf, List.map_nil, dropShape?, Option.some.injEq, Follows,
      List.forall₂_nil_left_iff, exists_eq_left, List.nil_append]
  | cons p ps ih =>
    cases cs with
    | nil =>
      refine iff_of_false ?_ ?_
      · simp [shapeOf, dropShape?]
      · rintro ⟨front, hf, he⟩
        cases hf
        cases he
    | cons c cs =>
      have hstep : dropShape? (shapeOf (p :: ps)) (c :: cs) = some rest ↔
          (if p = 'd' then Text.isDigit c = true else c = p) ∧
            dropShape? (shapeOf ps) cs = some rest := by
        by_cases hp : p = 'd'
        · simp [shapeOf, dropShape?, hp]
        · simp [shapeOf, dropShape?, hp]
      rw [hstep, ih]
      constructor
      · rintro ⟨hc, front, hf, rfl⟩
        exact ⟨c :: front, .cons hc hf, rfl⟩
      · rintro ⟨front, hf, he⟩
        cases hf with
        | cons hc hf =>
          obtain ⟨rfl, rfl⟩ := List.cons.inj he
          exact ⟨hc, _, hf, rfl⟩

theorem dropZone_eq_some : dropZone? cs = some rest ↔ ∃ zone, IsZone zone ∧ cs = zone ++ rest := by
  have hshape : offsetShape = shapeOf "dd:dd".toList := by decide
  constructor
  · intro h
    unfold dropZone? at h
    split at h
    · exact ⟨_, .utc, congrArg _ (Option.some.inj h)⟩
    · rw [hshape] at h
      obtain ⟨front, hf, rfl⟩ := dropShape_eq_some.mp h
      exact ⟨_, .offset (Or.inl rfl) hf, rfl⟩
    · rw [hshape] at h
      obtain ⟨front, hf, rfl⟩ := dropShape_eq_some.mp h
      exact ⟨_, .offset (Or.inr rfl) hf, rfl⟩
    · cases h
  · rintro ⟨zone, hz, rfl⟩
    cases hz with
    | utc => rfl
    | @offset sign cs signed h =>
      have hd : dropShape? offsetShape (cs ++ rest) = some rest := by
        rw [hshape]
        exact dropShape_eq_some.mpr ⟨cs, h, rfl⟩
      rcases signed with rfl | rfl
      · exact hd
      · exact hd

theorem exists_fraction (h : dropFraction? cs = some rest) :
    ∃ fraction, IsFraction fraction ∧ cs = fraction ++ rest := by
  unfold dropFraction? at h
  split at h
  · split at h
    · rename_i c more
      split at h
      · rename_i hc
        obtain rfl := Option.some.inj h
        refine ⟨'.' :: c :: more.takeWhile Text.isDigit, .digits ?_, ?_⟩
        · rw [List.forall_mem_cons]
          exact ⟨hc, fun d hd => List.mem_takeWhile_imp hd⟩
        · simp [List.takeWhile_append_dropWhile]
      · cases h
    · cases h
  · exact ⟨[], .none, Option.some.inj h⟩

/-- No zone begins with a point or a digit, so the digits of a fraction end where it begins. -/
theorem IsZone.head {zone : List Char} (h : IsZone zone) :
    ∃ c cs, zone = c :: cs ∧ c ≠ '.' ∧ Text.isDigit c = false := by
  cases h with
  | utc => exact ⟨'Z', [], rfl, by decide, by decide⟩
  | offset signed =>
    refine ⟨_, _, rfl, ?_⟩
    rcases signed with rfl | rfl
    · decide
    · decide

theorem dropFraction_zone {fraction zone : List Char} (hf : IsFraction fraction) (hz : IsZone zone) :
    dropFraction? (fraction ++ (zone ++ rest)) = some (zone ++ rest) := by
  obtain ⟨c, cs, rfl, hpoint, hdigit⟩ := hz.head
  cases hf with
  | none =>
    unfold dropFraction?
    split
    · rename_i he
      exact absurd (List.cons.inj he).1 hpoint
    · rfl
  | @digits first more h =>
    rw [List.forall_mem_cons] at h
    have hread : dropFraction? ('.' :: first :: (more ++ (c :: cs ++ rest))) =
        some ((more ++ (c :: cs ++ rest)).dropWhile Text.isDigit) := if_pos h.1
    rw [List.cons_append, List.cons_append, hread, List.dropWhile_append_of_pos h.2, List.cons_append,
      List.dropWhile_cons_of_neg]
    simp [hdigit]

theorem dropParts_eq_some :
    ((dropShape? dateTimeShape cs).bind dropFraction?).bind dropZone? = some rest ↔
      ∃ front, IsMoment front ∧ cs = front ++ rest := by
  have hshape : dateTimeShape = shapeOf "dddd-dd-ddTdd:dd:dd".toList := by decide
  rw [hshape]
  constructor
  · intro h
    obtain ⟨afterFraction, h, hzone⟩ := Option.bind_eq_some_iff.mp h
    obtain ⟨afterStart, hstart, hfraction⟩ := Option.bind_eq_some_iff.mp h
    obtain ⟨start, hs, rfl⟩ := dropShape_eq_some.mp hstart
    obtain ⟨fraction, hf, rfl⟩ := exists_fraction hfraction
    obtain ⟨zone, hz, rfl⟩ := dropZone_eq_some.mp hzone
    exact ⟨_, .intro hs hf hz, by simp only [List.append_assoc]⟩
  · rintro ⟨_, @⟨start, fraction, zone, hs, hf, hz⟩, rfl⟩
    rw [List.append_assoc, List.append_assoc, dropShape_eq_some.mpr ⟨start, hs, rfl⟩,
      Option.bind_some, dropFraction_zone hf hz, Option.bind_some]
    exact dropZone_eq_some.mpr ⟨zone, hz, rfl⟩

theorem isTemporal_iff {s : String} : isTemporal s = true ↔ IsMomentLine s := by
  constructor
  · intro h
    unfold isTemporal at h
    split at h
    · rename_i hread
      obtain ⟨cs, hm, he⟩ := dropParts_eq_some.mp hread
      exact ⟨cs, hm, Or.inl (he.trans (List.append_nil cs))⟩
    · rename_i hread
      obtain ⟨cs, hm, he⟩ := dropParts_eq_some.mp hread
      exact ⟨cs, hm, Or.inr he⟩
    · cases h
  · rintro ⟨cs, hm, he | he⟩
    · unfold isTemporal
      rw [dropParts_eq_some.mpr ⟨cs, hm, he.trans (List.append_nil cs).symm⟩]
    · unfold isTemporal
      rw [dropParts_eq_some.mpr ⟨cs, hm, he⟩]
      rfl

end Reading

namespace Inference

variable {α τ : Type} [Sampled α]

/-- A text that is not nested too deep is of the temporal type if it is a moment, and else a string.
The context is not looked at but for its limit. -/
theorem text_type (refs : Matcher τ) {x : α} {s : String} (hx : Sampled.layer x = .scalar (.text s))
    (hint : String) {depth : Int} {ctx : Context} (hd : ctx.isTooDeep depth = false) :
    ∃ typeRef, infer refs x hint depth ctx = ⟨.ok typeRef, ctx, []⟩ ∧
      (typeRef = temporalType ↔ IsMomentLine s) ∧ (typeRef = stringType ↔ ¬ IsMomentLine s) := by
  refine ⟨if isTemporal s then temporalType else stringType, ?_, ?_⟩
  · simp [infer, callBound, inferWithin, hd, hx, scalarType]
  · rw [← isTemporal_iff]
    by_cases hs : isTemporal s = true
    · simp [hs, temporalType, stringType]
    · simp [hs, temporalType, stringType]

/-- The last second of a year, in Arabic digits where it is not in European ones. -/
def leapSecond : String := "٢٠١٦-12-31T23:59:60.٠+00:00\n"

theorem leapSecond_typed :
    Sampled.layer (Value.scalar (.text leapSecond)) = .scalar (.text leapSecond) ∧
    ({ maxDepth := some 3 } : Context).isTooDeep 3 = false ∧ IsMomentLine leapSecond ∧
    infer ([] : Matcher String) (Value.scalar (.text leapSecond)) "at" 3 { maxDepth := some 3 } =
      ⟨.ok temporalType, { maxDepth := some 3 }, []⟩ := by
  have hd : ({ maxDepth := some 3 } : Context).isTooDeep 3 = false := by decide
  have hm : IsMomentLine leapSecond := isTemporal_iff.mp (by decide +kernel)
  obtain ⟨typeRef, hi, ht, -⟩ :=
    text_type ([] : Matcher String) (x := Value.scalar (.text leapSecond)) rfl "at" hd
  rw [ht.mpr hm] at hi
  exact ⟨rfl, hd, hm, hi⟩

/-- A point wants digits, and one line feed is all that may follow. -/
example : isTemporal "2024-01-01T00:00:00.Z" = false ∧
    isTemporal "2024-01-01T00:00:00Z\n\n" = false := by
  decide +kernel

end Inference

end SampleTypes
