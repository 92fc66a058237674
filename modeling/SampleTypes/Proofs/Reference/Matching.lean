import Mathlib.Data.List.Find
import SampleTypes.Proofs.Basic
import SampleTypes.Proofs.Sample.Signature
import SampleTypes.Reference.Schema

/-!
Matching by shape. Whether a schema fits a record is decided by the names of the fields and the kinds
of their values, and no further field undoes it. Main result: a record that has all the fields of
another one, of the same kinds, is matched by the same schema or by one declared before it, and records
of one shape are matched alike.
-/

namespace SampleTypes

/-- Among the fields there is one of the declared name, and of the declared kind if that is coarse. -/
def Answers (shape : List (String × Kind)) (declared : String × String) : Prop :=
  ∃ k, (declared.1, k) ∈ shape ∧ (Kind.isCoarseLabel declared.2 = true → k.label = declared.2)

theorem Answers.mono {shape larger : List (String × Kind)} {declared : String × String}
    (hs : shape ⊆ larger) (h : Answers shape declared) : Answers larger declared := by
  obtain ⟨k, hk, hl⟩ := h
  exact ⟨k, hs hk, hl⟩

namespace TextRecord

variable {α : Type}

def sampled (r : TextRecord α) : List (Scalar × α) := r.entries.map fun e => (.text e.1, e.2)

theorem underText_sampled (r : TextRecord α) (name : String) :
    underText? name r.sampled = valueOf? name r.entries := by
  rw [sampled]
  induction r.entries with
  | nil => rfl
  | cons e rest ih =>
    by_cases hn : e.1 = name
    · simp [underText?, valueOf?, hn]
    · simp [underText?, valueOf?, hn, ih]

variable [Sampled α]

/-- No name stands twice in a record, so each of its fields is the one that is found. -/
theorem mem_shape_iff (r : TextRecord α) {name : String} {k : Kind} :
    (name, k) ∈ r.shape ↔ ∃ v, underText? name r.sampled = some v ∧ kindOf v = k := by
  rw [underText_sampled, shape, List.mem_map]
  constructor
  · rintro ⟨⟨n, v⟩, he, hp⟩
    obtain ⟨rfl, hk⟩ := Prod.mk.inj hp
    exact ⟨v, valueOf_of_mem r.distinct he, hk⟩
  · rintro ⟨v, hv, hk⟩
    exact ⟨(name, v), mem_of_valueOf hv, by rw [hk]⟩

end TextRecord

namespace Schema

variable {τ α β : Type} [Sampled α] [Sampled β]

theorem fieldMatches_iff (r : TextRecord α) (declared : String × String) :
    fieldMatches r.sampled declared = true ↔ Answers r.shape declared := by
  simp only [Answers, r.mem_shape_iff]
  unfold fieldMatches
  cases hu : underText? declared.1 r.sampled with
  | none => simp
  | some v => cases hc : Kind.isCoarseLabel declared.2 <;> simp

theorem fits_iff (schema : Schema τ) (r : TextRecord α) :
    schema.fits r.sampled = true ↔ ∀ declared ∈ schema.fields, Answers r.shape declared := by
  simp only [fits, List.all_eq_true, fieldMatches_iff]

theorem fits_mono {schema : Schema τ} {r : TextRecord α} {s : TextRecord β} (hs : r.shape ⊆ s.shape)
    (h : schema.fits r.sampled = true) : schema.fits s.sampled = true := by
  rw [fits_iff] at h ⊢
  intro declared hd
  exact (h declared hd).mono hs

theorem fits_eq {schema : Schema τ} {r : TextRecord α} {s : TextRecord β} (hs : r.shape ⊆ s.shape)
    (hr : s.shape ⊆ r.shape) : schema.fits r.sampled = schema.fits s.sampled := by
  rw [Bool.eq_iff_iff]
  exact ⟨fits_mono hs, fits_mono hr⟩

end Schema

namespace Matcher

variable {τ α β : Type} [Sampled α] [Sampled β]

/-- The schema at a place of the declarations fits, and none before it does. -/
structure FirstFit (m : Matcher τ) (entries : List (Scalar × α)) (place : Nat) (schema : Schema τ) :
    Prop where
  here : m[place]? = some schema
  fits : schema.fits entries = true
  earlier : ∀ j < place, ∀ other, m[j]? = some other → other.fits entries = false

section

variable {m : Matcher τ} {entries : List (Scalar × α)}

/-- Where some schema fits, one of those up to it is the first. -/
theorem exists_firstFit {place : Nat} {schema : Schema τ} (hm : m[place]? = some schema)
    (hf : schema.fits entries = true) : ∃ j ≤ place, ∃ other, FirstFit m entries j other := by
  induction place using Nat.strong_induction_on generalizing schema with
  | _ place ih =>
    by_cases he : ∃ j < place, ∃ other, m[j]? = some other ∧ other.fits entries = true
    · obtain ⟨j, hj, other, ho, hof⟩ := he
      obtain ⟨i, hi, first, hfirst⟩ := ih j hj ho hof
      exact ⟨i, by omega, first, hfirst⟩
    · refine ⟨place, le_rfl, schema, hm, hf, ?_⟩
      intro j hj other ho
      by_contra hne
      exact he ⟨j, hj, other, ho, by simpa using hne⟩

theorem match_eq_some {name : String} :
    m.match? entries = some name ↔ ∃ i schema, FirstFit m entries i schema ∧ schema.name = name := by
  rw [match?, Option.map_eq_some_iff]
  constructor
  · rintro ⟨schema, hs, rfl⟩
    obtain ⟨hf, i, hi, rfl, hj⟩ := List.find?_eq_some_iff_getElem.mp hs
    refine ⟨i, _, ⟨List.getElem?_eq_getElem hi, hf, ?_⟩, rfl⟩
    intro j hlt other ho
    obtain ⟨hl, rfl⟩ := List.getElem?_eq_some_iff.mp ho
    simpa using hj j hlt
  · rintro ⟨i, schema, h, rfl⟩
    obtain ⟨hi, he⟩ := List.getElem?_eq_some_iff.mp h.here
    refine ⟨schema, List.find?_eq_some_iff_getElem.mpr ⟨h.fits, i, hi, he, ?_⟩, rfl⟩
    intro j hlt
    have hj := h.earlier j hlt _ (List.getElem?_eq_getElem (hlt.trans hi))
    simp [hj]

theorem match_congr {r : TextRecord α} {s : TextRecord β} (hs : r.shape ⊆ s.shape)
    (hr : s.shape ⊆ r.shape) : m.match? r.sampled = m.match? s.sampled := by
  rw [match?, match?]
  exact congrArg _ (List.find?_congr fun schema _ => Schema.fits_eq hs hr)

end

/-- What is found is the name of the first schema that fits. Further fields lose no match and bring
forward the place of the first one, if they move it at all; and where the fields are the same with the
same kinds, so is the answer. -/
theorem matching_monotone (m : Matcher τ) {r : TextRecord α} {s : TextRecord β}
    (h : r.shape ⊆ s.shape) :
    (∀ i schema, FirstFit m r.sampled i schema → ∃ j ≤ i, ∃ other, FirstFit m s.sampled j other) ∧
    (s.shape ⊆ r.shape → m.match? r.sampled = m.match? s.sampled) ∧
    ∀ name, m.match? s.sampled = some name ↔
      ∃ j other, FirstFit m s.sampled j other ∧ other.name = name := by
  refine ⟨?_, match_congr h, fun name => match_eq_some⟩
  intro i schema hi
  exact exists_firstFit hi.here (Schema.fits_mono h hi.fits)

/-- A shape that asks for a field of any kind, and one that asks for numbers only. -/
def landmarks : Matcher String :=
  [{ name := "Summit", fields := [("lat", "number"), ("height", "any")] },
    { name := "Spot", fields := [("lng", "number"), ("lat", "number")] }]

def summit : TextRecord Value where
  entries := [("height", .map [(.text "m", .scalar (.int 4478))]), ("lng", .scalar (.int 8)),
    ("lat", .scalar (.int 46))]
  distinct := by decide

theorem point_matched : TextRecord.point.shape ⊆ summit.shape ∧
    (∃ spot, FirstFit landmarks TextRecord.point.sampled 1 spot) ∧
    (∃ j ≤ 1, ∃ other, FirstFit landmarks summit.sampled j other) ∧
    landmarks.match? summit.sampled = some "Summit" ∧
    landmarks.match? TextRecord.point.sampled = landmarks.match? TextRecord.turnedPoint.sampled := by
  have hs : TextRecord.point.shape ⊆ summit.shape := by decide
  obtain ⟨hmono, -, hname⟩ := matching_monotone landmarks hs
  have hspot : FirstFit landmarks TextRecord.point.sampled 1 landmarks[1] := by
    refine ⟨rfl, by decide, ?_⟩
    intro j hj other ho
    obtain rfl : j = 0 := by omega
    obtain rfl := Option.some.inj ho
    decide
  have hsummit : FirstFit landmarks summit.sampled 0 landmarks[0] := ⟨rfl, by decide, nofun⟩
  have hturned : TextRecord.point.shape ⊆ TextRecord.turnedPoint.shape := by decide
  have hpoint : TextRecord.turnedPoint.shape ⊆ TextRecord.point.shape := by decide
  exact ⟨hs, ⟨_, hspot⟩, hmono 1 _ hspot, (hname "Summit").mpr ⟨0, _, hsummit, rfl⟩,
    (matching_monotone landmarks hturned).2.1 hpoint⟩

end Matcher

end SampleTypes
