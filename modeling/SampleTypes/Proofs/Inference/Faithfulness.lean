import SampleTypes.Proofs.Inference.Description

/-!
What the types of a call that ends well say of its sample. Every record has the name of the first
schema that it matches, or the name of its signature, and every type describes the first record of
its signature, with type expressions that further calls confirm.
-/

namespace SampleTypes.Inference

section

variable {α τ : Type} [Sampled α]

/-- The name of a record: that of the first schema that it matches, or else that of its
signature. -/
def recordName? (refs : Matcher τ) (ctx : Context) (entries : List (Scalar × α)) : Option String :=
  match refs.find? fun s => s.fits entries with
  | some schema => some schema.name
  | none => valueOf? (fingerprint entries) ctx.seen

def Unmatched (refs : Matcher τ) (v : Visit α) (entries : List (Scalar × α)) : Prop :=
  Sampled.layer v.sample = .record entries ∧ (refs.find? fun s => s.fits entries) = none

def FirstUnmatched (refs : Matcher τ) (visits : List (Visit α)) (v : Visit α)
    (entries : List (Scalar × α)) : Prop :=
  Unmatched refs v entries ∧ ∃ before after, visits = before ++ v :: after ∧
    ∀ u ∈ before, ∀ others, Unmatched refs u others → fingerprint others ≠ fingerprint entries

/-- The field of an entry, whose type expression is the answer of any further call for the value at
that depth, which changes nothing. -/
structure FieldFaithful (refs : Matcher τ) (ctx : Context) (depth : Int) (f : Field String)
    (entry : Scalar × α) : Prop where
  name : f.name = entry.1.toText
  required : f.required = true ↔ Sampled.layer entry.2 ≠ .scalar .null
  typeRef : ∀ hint, (infer refs entry.2 hint depth ctx).result = .ok f.typeRef ∧
    (infer refs entry.2 hint depth ctx).context = ctx

structure Faithful (refs : Matcher τ) (visits : List (Visit α)) (ctx : Context) : Prop where
  named : ∀ v ∈ visits, ∀ entries, Sampled.layer v.sample = .record entries →
    ∃ name, v.answer = .ok name ∧ recordName? refs ctx entries = some name
  described : ∀ t ∈ ctx.catalog, ∃ v entries, FirstUnmatched refs visits v entries ∧
    valueOf? (fingerprint entries) ctx.seen = some t.name ∧
    List.Forall₂ (FieldFaithful refs ctx (v.depth + 1)) t.fields entries

theorem isGiven_iff (x : α) : isGiven x = true ↔ Sampled.layer x ≠ .scalar .null := by
  unfold isGiven kindOf
  cases hl : Sampled.layer x with
  | scalar s => cases s <;> simp [Layer.kind, Scalar.kind]
  | list items => simp [Layer.kind]
  | record entries => simp [Layer.kind]
  | other typeName => simp [Layer.kind]

theorem FieldStands.faithful [BoundedSample α] {refs : Matcher τ} {ctx : Context} {depth : Int}
    {f : Field String} {entry : Scalar × α} (h : FieldStands refs ctx depth f entry) :
    FieldFaithful refs ctx depth f entry := by
  obtain ⟨hf, hs⟩ := h
  refine ⟨?_, ?_, hs.again⟩
  · rw [hf]
    rfl
  · rw [hf]
    exact isGiven_iff entry.2

/-- When all schemas have names, a record is pinned to the first that it matches. -/
theorem pinned_of_named {refs : Matcher τ} (hr : ∀ s ∈ refs, s.name ≠ "")
    (entries : List (Scalar × α)) :
    pinned? refs entries = (refs.find? fun s => s.fits entries).map Schema.name := by
  cases hf : refs.find? fun s => s.fits entries with
  | none => simp [pinned?, Matcher.match?, hf]
  | some schema =>
    have hn : schema.name ≠ "" := hr schema (List.mem_of_find?_eq_some hf)
    simp [pinned?, Matcher.match?, hf, Option.filter, hn]

theorem unpinned_iff {refs : Matcher τ} (hr : ∀ s ∈ refs, s.name ≠ "")
    {entries : List (Scalar × α)} :
    pinned? refs entries = none ↔ (refs.find? fun s => s.fits entries) = none := by
  rw [pinned_of_named hr, Option.map_eq_none_iff]

theorem Stands.record_named {refs : Matcher τ} (hr : ∀ s ∈ refs, s.name ≠ "") {ctx : Context}
    {x : α} {depth : Int} {name : String} (h : Stands refs ctx x depth name)
    {entries : List (Scalar × α)} (hx : Sampled.layer x = .record entries) :
    recordName? refs ctx entries = some name := by
  unfold recordName?
  cases hf : refs.find? fun s => s.fits entries with
  | some schema =>
    have hp : pinned? refs entries = some schema.name := by simp [pinned_of_named hr, hf]
    rw [h.of_pinned hx hp]
  | none => exact (h.of_unpinned hx ((unpinned_iff hr).mpr hf)).2

theorem Describes.firstUnmatched {refs : Matcher τ} (hr : ∀ s ∈ refs, s.name ≠ "") {ctx : Context}
    {visits : List (Visit α)} {t : TypeDecl String} {v : Visit α} {entries : List (Scalar × α)}
    (h : Describes refs ctx visits t v entries) (hs : VisitsStand refs ctx visits) :
    FirstUnmatched refs visits v entries := by
  obtain ⟨before, after, rfl, hb⟩ := h.first
  refine ⟨⟨h.record.layer, (unpinned_iff hr).mp h.record.unpinned⟩, before, after, rfl, ?_⟩
  rintro u hu others ⟨hl, hm⟩
  obtain ⟨_, -, hk⟩ := hs u (List.mem_append_left _ hu)
  exact hb u hu others (hk.of_unpinned hl ((unpinned_iff hr).mpr hm)).1

/-- A call on a fresh context that ends well names the records of its sample by schema or signature
and describes them faithfully. -/
theorem records_faithful [BoundedSample α] {refs : Matcher τ} (hr : ∀ s ∈ refs, s.name ≠ "")
    (reserved : List String) (limit : Option Int) (x : α) (hint : String) (depth : Int)
    {root : String}
    (h : (infer refs x hint depth (freshContext reserved limit)).result = .ok root) :
    Faithful refs (course refs x hint depth (freshContext reserved limit)).visits
      (infer refs x hint depth (freshContext reserved limit)).context := by
  have hb := fresh_bookkept reserved limit
  have hc : IsCall refs x hint depth (freshContext reserved limit)
      (course refs x hint depth (freshContext reserved limit)) := ⟨_, rfl⟩
  have hv := (hc.stands hb).visits root h
  refine ⟨fun v hm entries hl => ?_, fun t ht => ?_⟩
  · obtain ⟨name, ha, hk⟩ := hv v hm
    exact ⟨name, ha, hk.record_named hr hl⟩
  · rcases hc.described hb h t ht with hi | ⟨v, entries, hd, -⟩
    · cases hi
    · exact ⟨v, entries, hd.firstUnmatched hr hv, hd.name, hd.fields.imp fun _ _ k => k.faithful⟩

/-- A tree whose nodes hold nodes of the same signature, with a leaf that a schema describes. -/
def treeSample : Value :=
  .map [(.text "left", .map [(.text "left", .map [(.text "leaf", .scalar (.int 1))])])]

def leafSchemas : Matcher String := [{ name := "Leaf", fields := [("leaf", "number")] }]

theorem tree_faithful : (∀ s ∈ leafSchemas, s.name ≠ "") ∧
    (infer leafSchemas treeSample "tree" 0 (freshContext ["Leaf"] none)).result = .ok "Tree" ∧
    Faithful leafSchemas
      (course leafSchemas treeSample "tree" 0 (freshContext ["Leaf"] none)).visits
      (infer leafSchemas treeSample "tree" 0 (freshContext ["Leaf"] none)).context := by
  have hr : ∀ s ∈ leafSchemas, s.name ≠ "" := by simp [leafSchemas]
  have ha : (infer leafSchemas treeSample "tree" 0 (freshContext ["Leaf"] none)).result =
      .ok "Tree" := by decide +kernel
  exact ⟨hr, ha, records_faithful hr ["Leaf"] none treeSample "tree" 0 ha⟩

end

end SampleTypes.Inference
