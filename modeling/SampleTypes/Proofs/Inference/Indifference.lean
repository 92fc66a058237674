import SampleTypes.Proofs.Inference.Renaming

/-!
Naming has no influence on structure: runs that differ in hints and reserved names only have the same
outcome up to a renaming. A document without keys other than texts has no other failure than to be too
deep.
-/

namespace SampleTypes.Inference

def AnsweredOrDeep {β : Type} (answer : Except Failure β) : Prop :=
  (∃ b, answer = .ok b) ∨ ∃ limit hint, answer = .error (.tooDeep limit hint)

theorem AnsweredOrDeep.map {β γ : Type} {answer : Except Failure β} (h : AnsweredOrDeep answer)
    (f : β → γ) : AnsweredOrDeep (answer.map f) := by
  rcases h with ⟨b, rfl⟩ | ⟨limit, hint, rfl⟩
  · exact Or.inl ⟨f b, rfl⟩
  · exact Or.inr ⟨limit, hint, rfl⟩

def DocumentEntry (bound : Nat) (entry : Scalar × Value) : Prop :=
  ∃ key j, entry = (.text key, Json.toValue j) ∧ (Json.toValue j).height ≤ bound

theorem memberValues_entries (members : List (String × Json)) :
    ∀ entry ∈ Json.memberValues members,
      DocumentEntry (Value.entriesHeight (Json.memberValues members)) entry := by
  induction members with
  | nil => intro entry h; cases h
  | cons m rest ih =>
    obtain ⟨key, j⟩ := m
    intro entry h
    simp only [Json.memberValues, Value.entriesHeight] at h ⊢
    rcases List.mem_cons.mp h with rfl | h
    · exact ⟨key, j, rfl, Nat.le_max_left _ _⟩
    · obtain ⟨key', j', he, hh⟩ := ih entry h
      exact ⟨key', j', he, hh.trans (Nat.le_max_right _ _)⟩

section

variable {τ : Type} {refs : Matcher τ} {fuel : Nat}

/-- The calls with so many nested ones are enough for documents that are no higher. -/
def DocumentsAnswered (refs : Matcher τ) (fuel : Nat) : Prop :=
  ∀ (j : Json) (hint : String) (depth : Int) (ctx : Context), j.toValue.height < fuel →
    AnsweredOrDeep (courseWithin refs fuel j.toValue hint depth ctx).answer

theorem document_fields (h : DocumentsAnswered refs fuel) {bound : Nat} (hb : bound < fuel)
    (depth : Int) {entries : List (Scalar × Value)} (he : ∀ e ∈ entries, DocumentEntry bound e)
    (ctx : Context) : AnsweredOrDeep (fieldsWithin refs fuel depth entries ctx).answer := by
  induction entries generalizing ctx with
  | nil => exact Or.inl ⟨[], rfl⟩
  | cons entry rest ih =>
    obtain ⟨key, j, rfl, hj⟩ := he entry List.mem_cons_self
    have hc := h j (fieldHint (.text key)) depth ctx (hj.trans_lt hb)
    rw [fields_cons]
    rcases hc with ⟨typeRef, ht⟩ | ⟨limit, hint, ht⟩
    · simp only [ht]
      exact (ih (fun e hm => he e (List.mem_cons_of_mem _ hm)) _).map _
    · simp only [ht]
      exact Or.inr ⟨limit, hint, rfl⟩

theorem document_record (h : DocumentsAnswered refs fuel) {x : Value}
    {members : List (String × Json)} (hl : Sampled.layer x = .record (Json.memberValues members))
    (hb : Value.entriesHeight (Json.memberValues members) < fuel) (hint : String) {depth : Int}
    {ctx : Context} (hd : ctx.isTooDeep depth = false) :
    AnsweredOrDeep (courseWithin refs (fuel + 1) x hint depth ctx).answer := by
  have he := memberValues_entries members
  cases hn : pinned? refs (Json.memberValues members) with
  | some name =>
    rw [course_pinned fuel hint hd hl hn]
    exact Or.inl ⟨name, rfl⟩
  | none =>
    have hw : (Json.memberValues members).all (fun e => e.1.isWritable) = true := by
      refine List.all_eq_true.mpr fun e hm => ?_
      obtain ⟨key, j, rfl, -⟩ := he e hm
      rfl
    have hu : Unpinned refs x (Json.memberValues members) := ⟨hl, hn, hw⟩
    cases hs : valueOf? (fingerprint (Json.memberValues members)) ctx.seen with
    | some name =>
      rw [course_known fuel hint hd hu hs]
      exact Or.inl ⟨name, rfl⟩
    | none =>
      have hf := document_fields h hb (depth + 1) he
        (ctx.bind (fingerprint (Json.memberValues members)) hint).2
      rw [course_new fuel hint hd hu hs]
      rcases hf with ⟨fields, hf⟩ | ⟨limit, place, hf⟩
      · simp only [hf]
        exact Or.inl ⟨_, rfl⟩
      · simp only [hf]
        exact Or.inr ⟨limit, place, rfl⟩

theorem documents_answered (refs : Matcher τ) (fuel : Nat) : DocumentsAnswered refs fuel := by
  induction fuel with
  | zero => exact fun _ _ _ _ hh => absurd hh (Nat.not_lt_zero _)
  | succ fuel ih =>
    intro j hint depth ctx hh
    cases hd : ctx.isTooDeep depth with
    | true =>
      rw [course_tooDeep fuel hint hd]
      exact Or.inr ⟨_, _, rfl⟩
    | false =>
      cases hp : plainType? j.toValue with
      | some typeRef =>
        rw [course_plain fuel hint hd hp]
        exact Or.inl ⟨typeRef, rfl⟩
      | none =>
        cases j with
        | arr items =>
          cases items with
          | nil => cases hp
          | cons first rest =>
            have hf : first.toValue.height < fuel := by
              simp only [Json.toValue, Json.itemValues, Value.height, Value.itemsHeight] at hh
              omega
            rw [course_list fuel hint hd rfl]
            exact (ih first (itemHint hint) (depth + 1) ctx hf).map _
        | obj members =>
          simp only [Json.toValue, Value.height] at hh
          exact document_record ih rfl (Nat.lt_of_succ_lt_succ hh) hint hd
        | null => cases hp
        | bool b => cases hp
        | int n => cases hp
        | float x => cases hp
        | str s => cases hp

end

section

variable {α τ : Type} [Sampled α]

theorem fresh_alike (reserved reserved' : List String) (limit : Option Int) :
    Alike (freshContext reserved limit) (freshContext reserved' limit) :=
  ⟨rfl, rfl, .nil⟩

/-- The bound for the nesting is one for both contexts, as it depends on their limit only. -/
theorem infer_inStep (refs : Matcher τ) (x : α) (hint hint' : String)
    (reserved reserved' : List String) (limit : Option Int) (depth : Int) :
    InStep RenamedType (course refs x hint depth (freshContext reserved limit))
      (course refs x hint' depth (freshContext reserved' limit)) :=
  calls_inStep refs reserved reserved' (callBound x depth (freshContext reserved limit))
    x hint hint' depth _ _ (fresh_bookkept reserved limit) (fresh_bookkept reserved' limit)
    (fresh_alike reserved reserved' limit)

/-- Two runs on one sample fail alike, or they end in contexts and with type expressions that differ
by a renaming of what is bound. No document fails but by its depth. -/
theorem naming_immaterial (refs : Matcher τ) (x : α) (hint hint' : String)
    (reserved reserved' : List String) (limit : Option Int) (depth : Int) :
    let first := infer refs x hint depth (freshContext reserved limit)
    let second := infer refs x hint' depth (freshContext reserved' limit)
    ((∃ d e, first.result = .error d ∧ second.result = .error e ∧ d.unplaced = e.unplaced) ∨
      ∃ s t f, first.result = .ok s ∧ second.result = .ok t ∧
        RenamedBy f first.context second.context ∧
        RenamedType (fun m n => m ∈ first.context.boundNames ∧ n = f m) s t) ∧
      ∀ j : Json,
        AnsweredOrDeep (infer refs j.toValue hint depth (freshContext reserved limit)).result := by
  intro first second
  constructor
  · have ka := infer_advances refs x hint depth (fresh_bookkept reserved limit)
    have kb := infer_advances refs x hint' depth (fresh_bookkept reserved' limit)
    obtain ⟨hx, hr⟩ := infer_inStep refs x hint hint' reserved reserved' limit depth
    generalize ha : (course refs x hint depth (freshContext reserved limit)).answer = a at hr
    generalize hb : (course refs x hint' depth (freshContext reserved' limit)).answer = b at hr
    cases hr with
    | @failed d e he => exact Or.inl ⟨d, e, ha, hb, he⟩
    | @done s t ht =>
      refine Or.inr ⟨s, t, nameIn first.context second.context, ha, hb,
        hx.renamedBy ka.bookkept kb.bookkept, ?_⟩
      exact ht.mono fun _ _ => hx.paired_eq ka.bookkept
  · intro j
    refine documents_answered refs _ j hint depth _ ?_
    simp only [callBound, Sampled.bound]
    omega

end

end SampleTypes.Inference
