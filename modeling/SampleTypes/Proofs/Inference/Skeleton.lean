import SampleTypes.Proofs.Inference.CallBound
import SampleTypes.Proofs.Inference.Indifference
import SampleTypes.Proofs.Inference.Report

/-!
What of a sample inference depends on: its keys, the sorts of its scalars and the first items of its
lists. Samples that have these in common have the same skeleton, whether they are trees or graphs,
and a run tells them apart in nothing.
-/

namespace SampleTypes.Inference

inductive ScalarsAlike : Scalar → Scalar → Prop where
  | same (s : Scalar) : ScalarsAlike s s
  | bools (a b : Bool) : ScalarsAlike (.bool a) (.bool b)
  | numbers {s t : Scalar} (hs : s.kind = .number) (ht : t.kind = .number) : ScalarsAlike s t
  | texts {s t : String} (h : isTemporal s = isTemporal t) : ScalarsAlike (.text s) (.text t)

theorem ScalarsAlike.kind {s t : Scalar} (h : ScalarsAlike s t) : s.kind = t.kind := by
  cases h with
  | same => rfl
  | bools a b => rfl
  | numbers hs ht => exact hs.trans ht.symm
  | texts h => rfl

theorem number_expression {s : Scalar} (h : s.kind = .number) :
    scalarExpression s = numberType := by
  cases s <;> first | rfl | cases h

theorem ScalarsAlike.expression {s t : Scalar} (h : ScalarsAlike s t) :
    scalarExpression s = scalarExpression t := by
  cases h with
  | same => rfl
  | bools a b => rfl
  | numbers hs ht => exact (number_expression hs).trans (number_expression ht).symm
  | texts h => simp only [scalarExpression, h]

section

variable {α β : Type}

def EntriesAlike (R : α → β → Prop) : List (Scalar × α) → List (Scalar × β) → Prop :=
  List.Forall₂ fun e e' => e.1 = e'.1 ∧ R e.2 e'.2

/-- Layers whose parts are related as far as they matter. Behind its first item a list may go on in
any way. -/
inductive LayersAlike (R : α → β → Prop) : Layer α → Layer β → Prop where
  | scalar {s t : Scalar} (h : ScalarsAlike s t) : LayersAlike R (.scalar s) (.scalar t)
  | other (typeName : String) : LayersAlike R (.other typeName) (.other typeName)
  | empty : LayersAlike R (.list []) (.list [])
  | list {first : α} {rest : List α} {first' : β} {rest' : List β} (h : R first first') :
      LayersAlike R (.list (first :: rest)) (.list (first' :: rest'))
  | record {entries : List (Scalar × α)} {entries' : List (Scalar × β)}
      (h : EntriesAlike R entries entries') : LayersAlike R (.record entries) (.record entries')

theorem LayersAlike.mono {R S : α → β → Prop} (h : ∀ x y, R x y → S x y) {l : Layer α}
    {m : Layer β} (k : LayersAlike R l m) : LayersAlike S l m := by
  cases k with
  | scalar hs => exact .scalar hs
  | other typeName => exact .other typeName
  | empty => exact .empty
  | list hf => exact .list (h _ _ hf)
  | record he => exact .record (he.imp fun _ _ hk => ⟨hk.1, h _ _ hk.2⟩)

theorem LayersAlike.kind {R : α → β → Prop} {l : Layer α} {m : Layer β} (h : LayersAlike R l m) :
    l.kind = m.kind := by
  cases h with
  | scalar hs => exact hs.kind
  | other typeName => rfl
  | empty => rfl
  | list hf => rfl
  | record he => rfl

end

section

variable {α β τ : Type} [Sampled α] [Sampled β]

/-- Some relation holds of the samples that passes from layer to layer, all the way down or round
and round. -/
def SameSkeleton (x : α) (y : β) : Prop :=
  ∃ R : α → β → Prop, R x y ∧
    ∀ x y, R x y → LayersAlike R (Sampled.layer x) (Sampled.layer y)

theorem SameSkeleton.layers {x : α} {y : β} (h : SameSkeleton x y) :
    LayersAlike SameSkeleton (Sampled.layer x) (Sampled.layer y) := by
  obtain ⟨R, hxy, hR⟩ := h
  exact (hR x y hxy).mono fun x y hk => ⟨R, hk, hR⟩

theorem SameSkeleton.of_layers {x : α} {y : β}
    (h : LayersAlike SameSkeleton (Sampled.layer x) (Sampled.layer y)) : SameSkeleton x y := by
  refine ⟨fun x y => LayersAlike SameSkeleton (Sampled.layer x) (Sampled.layer y), h, ?_⟩
  intro x y k
  exact k.mono fun _ _ => SameSkeleton.layers

theorem SameSkeleton.kind {x : α} {y : β} (h : SameSkeleton x y) : kindOf x = kindOf y :=
  h.layers.kind

theorem SameSkeleton.list {x : α} {y : β} (h : SameSkeleton x y) {first : α} {rest : List α}
    (hl : Sampled.layer x = .list (first :: rest)) :
    ∃ first' rest', Sampled.layer y = .list (first' :: rest') ∧ SameSkeleton first first' := by
  have k := h.layers
  rw [hl] at k
  generalize hm : Sampled.layer y = m at k
  cases k with
  | list hf => exact ⟨_, _, rfl, hf⟩

theorem SameSkeleton.record {x : α} {y : β} (h : SameSkeleton x y) {entries : List (Scalar × α)}
    (hl : Sampled.layer x = .record entries) :
    ∃ entries', Sampled.layer y = .record entries' ∧ EntriesAlike SameSkeleton entries entries' := by
  have k := h.layers
  rw [hl] at k
  generalize hm : Sampled.layer y = m at k
  cases k with
  | record he => exact ⟨_, rfl, he⟩

theorem SameSkeleton.plainType {x : α} {y : β} (h : SameSkeleton x y) :
    plainType? x = plainType? y := by
  have k := h.layers
  unfold plainType?
  generalize Sampled.layer x = l at k
  generalize Sampled.layer y = m at k
  cases k with
  | scalar hs => simp only [hs.expression]
  | other typeName => rfl
  | empty => rfl
  | list hf => rfl
  | record he => rfl

section Entries

variable {entries : List (Scalar × α)} {entries' : List (Scalar × β)}

theorem fingerprint_alike (h : EntriesAlike SameSkeleton entries entries') :
    fingerprint entries = fingerprint entries' := by
  have hp : entries.map signaturePart = entries'.map signaturePart := by
    induction h with
    | nil => rfl
    | cons hk _ ih => simp only [List.map_cons, ih, signaturePart, hk.1, hk.2.kind]
  simp only [fingerprint, hp]

theorem writable_alike (h : EntriesAlike SameSkeleton entries entries') :
    entries.all (fun e => e.1.isWritable) = entries'.all fun e => e.1.isWritable := by
  induction h with
  | nil => rfl
  | cons hk _ ih => simp only [List.all_cons, ih, hk.1]

/-- Under a text key either has nothing, or both have values of one kind. -/
theorem underText_alike (h : EntriesAlike SameSkeleton entries entries') (name : String) :
    (underText? name entries).map kindOf = (underText? name entries').map kindOf := by
  induction h with
  | nil => rfl
  | @cons e e' rest rest' hk _ ih =>
    obtain ⟨key, x⟩ := e
    obtain ⟨key', y⟩ := e'
    obtain ⟨rfl, hxy⟩ := hk
    cases key with
    | text t =>
      by_cases ht : t = name
      · simp [underText?, ht, SameSkeleton.kind hxy]
      · simpa [underText?, ht] using ih
    | _ => simpa [underText?] using ih

theorem fieldMatches_alike (h : EntriesAlike SameSkeleton entries entries')
    (field : String × String) :
    Schema.fieldMatches entries field = Schema.fieldMatches entries' field := by
  have hu := underText_alike h field.1
  unfold Schema.fieldMatches
  cases hx : underText? field.1 entries with
  | none =>
    cases hy : underText? field.1 entries' with
    | none => rfl
    | some y => simp [hx, hy] at hu
  | some x =>
    cases hy : underText? field.1 entries' with
    | none => simp [hx, hy] at hu
    | some y =>
      rw [hx, hy] at hu
      simp only [Option.some.inj hu]

theorem pinned_alike (refs : Matcher τ) (h : EntriesAlike SameSkeleton entries entries') :
    pinned? refs entries = pinned? refs entries' := by
  have hf : ∀ s : Schema τ, s.fits entries = s.fits entries' := by
    intro s
    unfold Schema.fits
    exact congrArg _ (funext fun field => fieldMatches_alike h field)
  simp only [pinned?, Matcher.match?, hf]

theorem Unpinned.alike {refs : Matcher τ} {x : α} {y : β} (hu : Unpinned refs x entries)
    (hl : Sampled.layer y = .record entries') (h : EntriesAlike SameSkeleton entries entries') :
    Unpinned refs y entries' :=
  ⟨hl, (pinned_alike refs h).symm.trans hu.unpinned, (writable_alike h).symm.trans hu.writable⟩

theorem fieldOf_alike {e : Scalar × α} {e' : Scalar × β} (hk : e.1 = e'.1)
    (h : SameSkeleton e.2 e'.2) (typeRef : String) : fieldOf e typeRef = fieldOf e' typeRef := by
  simp only [fieldOf, isGiven, hk, h.kind]

end Entries

variable {refs : Matcher τ}

theorem fields_alike {fuel : Nat}
    (calls : ∀ {x : α} {y : β}, SameSkeleton x y → ∀ hint depth ctx,
      SameEnd (courseWithin refs fuel x hint depth ctx) (courseWithin refs fuel y hint depth ctx))
    (depth : Int) {entries : List (Scalar × α)} {entries' : List (Scalar × β)}
    (h : EntriesAlike SameSkeleton entries entries') (ctx : Context) :
    SameEnd (fieldsWithin refs fuel depth entries ctx)
      (fieldsWithin refs fuel depth entries' ctx) := by
  induction h generalizing ctx with
  | nil => exact ⟨rfl, rfl⟩
  | @cons e e' rest rest' hk _ ih =>
    have hc := calls hk.2 (fieldHint e.1) depth ctx
    rw [fields_cons, fields_cons, ← hk.1, ← hc.answer, ← hc.context]
    generalize courseWithin refs fuel e.2 (fieldHint e.1) depth ctx = c
    have hr := ih c.context
    cases c.answer with
    | error e => exact ⟨rfl, rfl⟩
    | ok typeRef =>
      constructor
      · simp only [hr.answer, fieldOf_alike hk.1 hk.2]
      · exact hr.context

theorem courses_alike (refs : Matcher τ) (fuel : Nat) {x : α} {y : β} (h : SameSkeleton x y)
    (hint : String) (depth : Int) (ctx : Context) :
    SameEnd (courseWithin refs fuel x hint depth ctx)
      (courseWithin refs fuel y hint depth ctx) := by
  induction fuel generalizing x y hint depth ctx with
  | zero => exact ⟨rfl, rfl⟩
  | succ fuel ih =>
    cases callCase refs x depth ctx with
    | tooDeep hd =>
      rw [course_tooDeep fuel hint hd, course_tooDeep fuel hint hd]
      exact ⟨rfl, rfl⟩
    | plain hd hp =>
      rw [course_plain fuel hint hd hp, course_plain fuel hint hd (h.plainType.symm.trans hp)]
      exact ⟨rfl, rfl⟩
    | list hd hl =>
      obtain ⟨first', rest', hl', hf⟩ := h.list hl
      have hc := ih hf (itemHint hint) (depth + 1) ctx
      rw [course_list fuel hint hd hl, course_list fuel hint hd hl']
      constructor
      · exact congrArg (Except.map (· ++ arrayMark)) hc.answer
      · exact hc.context
    | pinned hd hl hp =>
      obtain ⟨entries', hl', he⟩ := h.record hl
      rw [course_pinned fuel hint hd hl hp,
        course_pinned fuel hint hd hl' ((pinned_alike refs he).symm.trans hp)]
      exact ⟨rfl, rfl⟩
    | unwritable hd hl hp hw =>
      obtain ⟨entries', hl', he⟩ := h.record hl
      rw [course_unwritable fuel hint hd hl hp hw,
        course_unwritable fuel hint hd hl' ((pinned_alike refs he).symm.trans hp)
          ((writable_alike he).symm.trans hw)]
      exact ⟨rfl, rfl⟩
    | known hd hu hs =>
      obtain ⟨entries', hl', he⟩ := h.record hu.layer
      rw [course_known fuel hint hd hu hs,
        course_known fuel hint hd (hu.alike hl' he) (fingerprint_alike he ▸ hs)]
      exact ⟨rfl, rfl⟩
    | @new entries hd hu hs =>
      obtain ⟨entries', hl', he⟩ := h.record hu.layer
      have hs' := hs
      rw [fingerprint_alike he] at hs'
      have hf := fields_alike ih (depth + 1) he (ctx.bind (fingerprint entries') hint).2
      rw [course_new fuel hint hd hu hs, course_new fuel hint hd (hu.alike hl' he) hs',
        fingerprint_alike he, ← hf.answer, ← hf.context]
      generalize fieldsWithin refs fuel (depth + 1) entries _ = c
      cases c.answer with
      | error e => exact ⟨rfl, rfl⟩
      | ok fields => exact ⟨rfl, rfl⟩

theorem calls_alike [AmpleSample α] [AmpleSample β] (refs : Matcher τ) {x : α} {y : β}
    (h : SameSkeleton x y) (hint : String) (depth : Int) (ctx : Context) :
    SameEnd (course refs x hint depth ctx) (course refs y hint depth ctx) := by
  have kx := call_settles refs x hint depth ctx _ (Nat.le_max_left _ (callBound y depth ctx))
  have ky := call_settles refs y hint depth ctx _ (Nat.le_max_right (callBound x depth ctx) _)
  have k := courses_alike refs (max (callBound x depth ctx) (callBound y depth ctx)) h hint depth ctx
  constructor
  · exact kx.answer.symm.trans (k.answer.trans ky.answer)
  · exact kx.context.symm.trans (k.context.trans ky.context)

theorem run_sameEnd (refs : Matcher τ) (settings : Settings) {x : α} {y : β}
    (h : SameEnd (runCourse refs settings x) (runCourse refs settings y)) :
    (run refs settings x).2 = (run refs settings y).2 := by
  have ha : (infer refs x settings.rootName 0 (initialContext refs settings.maxDepth)).result =
      (infer refs y settings.rootName 0 (initialContext refs settings.maxDepth)).result := h.answer
  have hc : (infer refs x settings.rootName 0 (initialContext refs settings.maxDepth)).context =
      (infer refs y settings.rootName 0 (initialContext refs settings.maxDepth)).context := h.context
  simp only [run, ha, hc]
  cases (infer refs y settings.rootName 0 (initialContext refs settings.maxDepth)).result with
  | error e => rfl
  | ok root => rfl

theorem run_answeredOrDeep (refs : Matcher τ) (settings : Settings) (j : Json) :
    AnsweredOrDeep (run refs settings j.toValue).2 := by
  have h : AnsweredOrDeep (runCourse refs settings j.toValue).answer := by
    apply documents_answered
    simp only [callBound, Sampled.bound]
    omega
  have hc : (infer refs j.toValue settings.rootName 0
      (initialContext refs settings.maxDepth)).result =
        (runCourse refs settings j.toValue).answer := rfl
  simp only [run, hc]
  rcases h with ⟨root, ha⟩ | ⟨limit, hint, ha⟩
  · simp only [ha]
    exact Or.inl ⟨_, rfl⟩
  · simp only [ha]
    exact Or.inr ⟨limit, hint, rfl⟩

/-- Runs on samples with the same skeleton report the same or fail in the same way, and on documents
the only failure is to be too deep. -/
theorem skeleton_decides [AmpleSample α] [AmpleSample β] (refs : Matcher τ) (settings : Settings)
    {x : α} {y : β} (h : SameSkeleton x y) :
    (run refs settings x).2 = (run refs settings y).2 ∧
      ∀ j : Json, AnsweredOrDeep (run refs settings j.toValue).2 :=
  ⟨run_sameEnd refs settings (calls_alike refs h settings.rootName 0 _),
    run_answeredOrDeep refs settings⟩

end

def orderSample : Value :=
  .map [(.text "placed", .scalar (.text "2024-01-01T00:00:00Z")), (.text "paid", .scalar (.bool true)),
    (.text "lines", .list [.map [(.text "count", .scalar (.int 2))], .map [(.text "gift", .scalar .null)]])]

def otherOrder : Value :=
  .map [(.text "placed", .scalar (.text "1999-12-31T23:59:59.5+01:00")),
    (.text "paid", .scalar (.bool false)),
    (.text "lines", .list [.map [(.text "count", .scalar (.int 700))]])]

theorem orders_alike : SameSkeleton orderSample otherOrder := by
  have placed : isTemporal "2024-01-01T00:00:00Z" = isTemporal "1999-12-31T23:59:59.5+01:00" := by
    decide +kernel
  refine .of_layers (.record (.cons ⟨rfl, .of_layers (.scalar (.texts placed))⟩
    (.cons ⟨rfl, .of_layers (.scalar (.bools _ _))⟩ (.cons ⟨rfl, .of_layers (.list ?_)⟩ .nil))))
  exact .of_layers (.record (.cons ⟨rfl, .of_layers (.scalar (.numbers rfl rfl))⟩ .nil))

theorem orders_reported_alike :
    SameSkeleton orderSample otherOrder ∧
      (run pageSchemas { timestamp := "noon", maxDepth := some 2 } orderSample).2 =
        (run pageSchemas { timestamp := "noon", maxDepth := some 2 } otherOrder).2 :=
  ⟨orders_alike, (skeleton_decides pageSchemas _ orders_alike).1⟩

end SampleTypes.Inference
