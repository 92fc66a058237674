import SampleTypes.Proofs.Catalog.CanonicalOrder
import SampleTypes.Proofs.Inference.Bookkeeping

/-!
Type expressions of a run refer to nothing that is unknown. While a record is looked at, its fields
may refer to ancestors that have no type yet, so during the run an expression refers to a bound
name; when the run has ended well, every bound name has its type.
-/

namespace SampleTypes.Inference

def arrayOf (base : String) : Nat → String
  | 0 => base
  | dimensions + 1 => arrayOf base dimensions ++ arrayMark

/-- An array of some dimensions, maybe none, of a primitive, of a record or of a schema. -/
def RefersTo (records schemas : List String) (typeRef : String) : Prop :=
  ∃ base dimensions, typeRef = arrayOf base dimensions ∧
    (base ∈ primitives ∨ base ∈ records ∨ base ∈ schemas)

theorem RefersTo.base {records schemas : List String} {base : String}
    (h : base ∈ primitives ∨ base ∈ records ∨ base ∈ schemas) : RefersTo records schemas base :=
  ⟨base, 0, rfl, h⟩

theorem RefersTo.array {records schemas : List String} {typeRef : String}
    (h : RefersTo records schemas typeRef) : RefersTo records schemas (typeRef ++ arrayMark) := by
  obtain ⟨base, dimensions, rfl, hb⟩ := h
  exact ⟨base, dimensions + 1, rfl, hb⟩

theorem RefersTo.mono {records more schemas : List String} (hs : ∀ name ∈ records, name ∈ more)
    {typeRef : String} (h : RefersTo records schemas typeRef) : RefersTo more schemas typeRef := by
  obtain ⟨base, dimensions, rfl, hb⟩ := h
  exact ⟨base, dimensions, rfl, hb.imp_right (Or.imp_left (hs base))⟩

theorem scalarExpression_primitive (s : Scalar) : scalarExpression s ∈ primitives := by
  cases s with
  | text t => by_cases ht : isTemporal t <;> simp [scalarExpression, primitives, ht]
  | _ => simp [scalarExpression, primitives]

def FieldsRefer (schemas : List String) (ctx : Context) : Prop :=
  ∀ t ∈ ctx.catalog, ∀ f ∈ t.fields, RefersTo ctx.boundNames schemas f.typeRef

section

variable {α τ : Type} [Sampled α]

theorem plain_refers {x : α} {typeRef : String} (h : plainType? x = some typeRef)
    (records schemas : List String) : RefersTo records schemas typeRef := by
  unfold plainType? at h
  split at h
  · obtain rfl := Option.some.inj h
    exact .base (Or.inl (scalarExpression_primitive _))
  · obtain rfl := Option.some.inj h
    exact .base (Or.inl (by simp [primitives]))
  · obtain rfl := Option.some.inj h
    exact .array (.base (Or.inl (by simp [primitives])))
  · cases h

theorem pinned_mem {refs : Matcher τ} {entries : List (Scalar × α)} {name : String}
    (h : pinned? refs entries = some name) : name ∈ refs.names := by
  obtain ⟨hm, -⟩ := Option.filter_eq_some_iff.mp h
  obtain ⟨schema, hf, rfl⟩ := Option.map_eq_some_iff.mp hm
  exact List.mem_map_of_mem (List.mem_of_find?_eq_some hf)

/-- What a call leaves: fields that refer to bound names, and an answer that does. The answer for a
record is a name itself. -/
structure CallRefers (refs : Matcher τ) (x : α) (c : Course α String) : Prop where
  fields : FieldsRefer refs.names c.context
  answer : ∀ typeRef, c.answer = .ok typeRef → RefersTo c.context.boundNames refs.names typeRef
  record : ∀ entries typeRef, Sampled.layer x = .record entries → c.answer = .ok typeRef →
    typeRef ∈ c.context.boundNames ∨ typeRef ∈ refs.names

structure RunRefers (refs : Matcher τ) (c : Course α (List (Field String))) : Prop where
  fields : FieldsRefer refs.names c.context
  answers : ∀ fields, c.answer = .ok fields →
    ∀ f ∈ fields, RefersTo c.context.boundNames refs.names f.typeRef

theorem CallRefers.failure {refs : Matcher τ} {x : α} {ctx : Context}
    (h : FieldsRefer refs.names ctx) (hint : String) (depth : Int) (e : Failure)
    (inner : List (Visit α)) : CallRefers refs x (called x hint depth (.error e) ctx inner) := by
  refine ⟨h, ?_, ?_⟩
  · rintro _ ⟨⟩
  · rintro _ _ _ ⟨⟩

/-- The answer for a record: a name that is bound or that of a schema. -/
theorem CallRefers.name {refs : Matcher τ} {x : α} {ctx : Context}
    (h : FieldsRefer refs.names ctx) {name : String}
    (hn : name ∈ ctx.boundNames ∨ name ∈ refs.names) (hint : String) (depth : Int)
    (inner : List (Visit α)) : CallRefers refs x (called x hint depth (.ok name) ctx inner) := by
  refine ⟨h, ?_, ?_⟩
  · rintro _ ⟨⟩
    exact .base (Or.inr hn)
  · rintro _ _ _ ⟨⟩
    exact hn

theorem closure (refs : Matcher τ) (reserved : List String) : Contract refs
    (fun (x : α) _ _ ctx c => Bookkept reserved ctx → FieldsRefer refs.names ctx →
      CallRefers refs x c)
    (fun _ _ ctx c => Bookkept reserved ctx → FieldsRefer refs.names ctx → RunRefers refs c) where
  failed _ hint depth _ e _ hf := .failure hf hint depth e []
  plain x _ _ ctx typeRef _ hp _ hf := by
    refine ⟨hf, ?_, ?_⟩
    · rintro _ ⟨⟩
      exact plain_refers hp _ _
    · intro entries _ hl
      simp [plainType?, hl] at hp
  list x first rest _ _ _ c _ hl _ hc hb hf := by
    have k := hc hb hf
    refine ⟨k.fields, fun typeRef ha => ?_, fun entries _ he => ?_⟩
    · cases hr : c.answer with
      | error e => simp [called, hr, Except.map] at ha
      | ok element =>
        have he : element ++ arrayMark = typeRef := by simpa [called, hr, Except.map] using ha
        exact he ▸ (k.answer element hr).array
    · rw [hl] at he
      cases he
  pinned _ _ hint depth _ _ _ _ hp _ hf := .name hf (Or.inr (pinned_mem hp)) hint depth []
  known _ _ hint depth _ name _ _ hs _ hf :=
    .name hf (Or.inl (List.mem_map_of_mem (mem_of_valueOf hs))) hint depth []
  described x entries hint depth ctx fields new inner _ _ hs hr hq hb hf := by
    have k := hr.advances (hb.bind hs hint)
    have l := hq (hb.bind hs hint) fun t ht f hm =>
      (hf t ht f hm).mono fun _ hn => (bind_extends ctx _ hint).boundNames hn
    refine .name (fun t ht f hm => ?_) (Or.inl ?_) hint depth inner
    · rcases Catalog.mem_register ht with ho | rfl
      · exact l.fields t ho f hm
      · exact l.answers fields rfl f hm
    · exact k.extension.boundNames (by simp [bind_boundNames])
  abandoned x _ hint depth ctx e _ inner _ _ hs hq hb hf := by
    have l := hq (hb.bind hs hint) fun t ht f hm =>
      (hf t ht f hm).mono fun _ hn => (bind_extends ctx _ hint).boundNames hn
    exact .failure l.fields hint depth e inner
  noFields _ _ _ hf := ⟨hf, by rintro _ ⟨⟩ f hm; cases hm⟩
  field entry _ _ _ typeRef _ _ c hi hp hr hq hb hf := by
    have k := hp hb hf
    have a := hi.advances hb
    have l := hq a.bookkept k.fields
    refine ⟨l.fields, fun fields ha f hm => ?_⟩
    cases hc : c.answer with
    | error e => simp [hc, Except.map] at ha
    | ok more =>
      have he : fieldOf entry typeRef :: more = fields := by simpa [hc, Except.map] using ha
      rw [← he] at hm
      rcases List.mem_cons.mp hm with rfl | hm
      · exact (k.answer typeRef rfl).mono fun _ hn =>
          (hr.advances a.bookkept).extension.boundNames hn
      · exact l.answers more hc f hm
  failedField _ _ _ _ _ _ _ hp hb hf := ⟨(hp hb hf).fields, fun _ ha => by cases ha⟩

end

end SampleTypes.Inference
