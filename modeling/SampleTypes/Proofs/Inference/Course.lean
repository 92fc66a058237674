import SampleTypes.Inference

/-!
The course of inference: the answer of a call, the context that it leaves and the calls that it is
made of. What a call can do is said once, as the cases of a contract. A contract that is kept in
every case holds of every call, whatever the sample and however the call ends.
-/

namespace SampleTypes.Inference

structure Visit (α : Type) where
  sample : α
  hint : String
  depth : Int
  answer : Except Failure String

/-- What a call leaves: its answer, the context, and all calls made, in the order of their start. -/
structure Course (α β : Type) where
  answer : Except Failure β
  context : Context
  visits : List (Visit α)

section

variable {α τ : Type} [Sampled α]

/-- The name of the schema that a record is pinned to. A schema without a name pins nothing. -/
def pinned? (refs : Matcher τ) (entries : List (Scalar × α)) : Option String :=
  (refs.match? entries).filter (· ≠ "")

def scalarExpression : Scalar → String
  | .text t => if isTemporal t then temporalType else stringType
  | .int _ => numberType
  | .float _ => numberType
  | .bool _ => booleanType
  | _ => unknownType

def plainType? (x : α) : Option String :=
  match Sampled.layer x with
  | .scalar s => some (scalarExpression s)
  | .other _ => some unknownType
  | .list [] => some (unknownType ++ arrayMark)
  | _ => none

def visitFields (visit : α → String → Context → Step String)
    (visits : α → String → Context → List (Visit α)) :
    List (Scalar × α) → Context → List (Visit α)
  | [], _ => []
  | (key, x) :: rest, ctx =>
    let s := visit x (fieldHint key) ctx
    visits x (fieldHint key) ctx ++
      match s.result with
      | .error _ => []
      | .ok _ => visitFields visit visits rest s.context

/-- The calls that a call of inference makes, the call itself first. The equations below say of each
way in which a call can go what its answer, its context and its calls are. -/
def visitsWithin (refs : Matcher τ) : Nat → α → String → Int → Context → List (Visit α)
  | 0, x, hint, depth, _ => [⟨x, hint, depth, .error .endless⟩]
  | fuel + 1, x, hint, depth, ctx =>
    ⟨x, hint, depth, (inferWithin refs (fuel + 1) x hint depth ctx).result⟩ ::
      if ctx.isTooDeep depth then []
      else
        match Sampled.layer x with
        | .list (first :: _) => visitsWithin refs fuel first (itemHint hint) (depth + 1) ctx
        | .record entries =>
          match pinned? refs entries, valueOf? (fingerprint entries) ctx.seen with
          | none, none =>
            if entries.all fun e => e.1.isWritable then
              visitFields (fun y h c => inferWithin refs fuel y h (depth + 1) c)
                (fun y h c => visitsWithin refs fuel y h (depth + 1) c) entries
                (ctx.bind (fingerprint entries) hint).2
            else []
          | _, _ => []
        | _ => []

def courseWithin (refs : Matcher τ) (fuel : Nat) (x : α) (hint : String) (depth : Int)
    (ctx : Context) : Course α String :=
  let s := inferWithin refs fuel x hint depth ctx
  ⟨s.result, s.context, visitsWithin refs fuel x hint depth ctx⟩

def fieldsWithin (refs : Matcher τ) (fuel : Nat) (depth : Int) (entries : List (Scalar × α))
    (ctx : Context) : Course α (List (Field String)) :=
  let visit := fun y h c => inferWithin refs fuel y h depth c
  let s := inferFields visit entries ctx
  ⟨s.result, s.context,
    visitFields visit (fun y h c => visitsWithin refs fuel y h depth c) entries ctx⟩

def course (refs : Matcher τ) (x : α) (hint : String) (depth : Int) (ctx : Context) :
    Course α String :=
  courseWithin refs (callBound x depth ctx) x hint depth ctx

def called (x : α) (hint : String) (depth : Int) (answer : Except Failure String) (ctx : Context)
    (inner : List (Visit α)) : Course α String :=
  ⟨answer, ctx, ⟨x, hint, depth, answer⟩ :: inner⟩

structure Unpinned (refs : Matcher τ) (x : α) (entries : List (Scalar × α)) : Prop where
  layer : Sampled.layer x = .record entries
  unpinned : pinned? refs entries = none
  writable : entries.all (fun e => e.1.isWritable) = true

def fieldOf (entry : Scalar × α) (typeRef : String) : Field String :=
  { name := entry.1.toText, typeRef := typeRef, required := isGiven entry.2 }

def IsCall (refs : Matcher τ) (x : α) (hint : String) (depth : Int) (ctx : Context)
    (c : Course α String) : Prop :=
  ∃ fuel, courseWithin refs fuel x hint depth ctx = c

def IsRun (refs : Matcher τ) (depth : Int) (entries : List (Scalar × α)) (ctx : Context)
    (c : Course α (List (Field String))) : Prop :=
  ∃ fuel, fieldsWithin refs fuel depth entries ctx = c

/-- What may be claimed of the calls of a matcher and of runs through fields, with what has to be
shown for it: one case for each way in which a call or a run ends. -/
structure Contract (refs : Matcher τ)
    (P : α → String → Int → Context → Course α String → Prop)
    (Q : Int → List (Scalar × α) → Context → Course α (List (Field String)) → Prop) : Prop where
  /-- A call that gives up before it has done anything. -/
  failed : ∀ x hint depth ctx e, P x hint depth ctx (called x hint depth (.error e) ctx [])
  plain : ∀ x hint depth ctx typeRef, ctx.isTooDeep depth = false → plainType? x = some typeRef →
    P x hint depth ctx (called x hint depth (.ok typeRef) ctx [])
  list : ∀ x first rest hint depth ctx c, ctx.isTooDeep depth = false →
    Sampled.layer x = .list (first :: rest) →
    IsCall refs first (itemHint hint) (depth + 1) ctx c →
    P first (itemHint hint) (depth + 1) ctx c →
    P x hint depth ctx (called x hint depth (c.answer.map (· ++ arrayMark)) c.context c.visits)
  pinned : ∀ x entries hint depth ctx name, ctx.isTooDeep depth = false →
    Sampled.layer x = .record entries → pinned? refs entries = some name →
    P x hint depth ctx (called x hint depth (.ok name) ctx [])
  known : ∀ x entries hint depth ctx name, ctx.isTooDeep depth = false →
    Unpinned refs x entries → valueOf? (fingerprint entries) ctx.seen = some name →
    P x hint depth ctx (called x hint depth (.ok name) ctx [])
  /-- A record of a new signature whose fields all have an answer. -/
  described : ∀ x entries hint depth ctx fields new visits, ctx.isTooDeep depth = false →
    Unpinned refs x entries → valueOf? (fingerprint entries) ctx.seen = none →
    IsRun refs (depth + 1) entries (ctx.bind (fingerprint entries) hint).2
      ⟨.ok fields, new, visits⟩ →
    Q (depth + 1) entries (ctx.bind (fingerprint entries) hint).2 ⟨.ok fields, new, visits⟩ →
    P x hint depth ctx (called x hint depth (.ok (ctx.bind (fingerprint entries) hint).1)
      { new with catalog := (Catalog.register new.catalog
          { name := (ctx.bind (fingerprint entries) hint).1, fields := fields }).2 } visits)
  /-- A record of a new signature with a field that fails: its name stays bound. -/
  abandoned : ∀ x entries hint depth ctx e new visits, ctx.isTooDeep depth = false →
    Unpinned refs x entries → valueOf? (fingerprint entries) ctx.seen = none →
    Q (depth + 1) entries (ctx.bind (fingerprint entries) hint).2 ⟨.error e, new, visits⟩ →
    P x hint depth ctx (called x hint depth (.error e) new visits)
  noFields : ∀ depth ctx, Q depth [] ctx ⟨.ok [], ctx, []⟩
  field : ∀ entry rest depth ctx typeRef new visits c,
    IsCall refs entry.2 (fieldHint entry.1) depth ctx ⟨.ok typeRef, new, visits⟩ →
    P entry.2 (fieldHint entry.1) depth ctx ⟨.ok typeRef, new, visits⟩ →
    IsRun refs depth rest new c → Q depth rest new c →
    Q depth (entry :: rest) ctx
      ⟨c.answer.map (fieldOf entry typeRef :: ·), c.context, visits ++ c.visits⟩
  failedField : ∀ entry rest depth ctx e new visits,
    P entry.2 (fieldHint entry.1) depth ctx ⟨.error e, new, visits⟩ →
    Q depth (entry :: rest) ctx ⟨.error e, new, visits⟩

/-! Each way in which a call can go, as an equation. -/

theorem scalarType_result (s : Scalar) (hint : String) (ctx : Context) :
    (scalarType s hint ctx).result = .ok (scalarExpression s) := by
  cases s <;> rfl

theorem scalarType_context (s : Scalar) (hint : String) (ctx : Context) :
    (scalarType s hint ctx).context = ctx := by
  cases s <;> rfl

section

variable {refs : Matcher τ} {x : α} {depth : Int} {ctx : Context}

theorem course_tooDeep (fuel : Nat) (hint : String) (hd : ctx.isTooDeep depth = true) :
    courseWithin refs (fuel + 1) x hint depth ctx =
      called x hint depth (.error (.tooDeep (ctx.maxDepth.getD 0) hint)) ctx [] := by
  simp [courseWithin, inferWithin, visitsWithin, called, hd, Context.tooDeep]

theorem course_plain (fuel : Nat) (hint : String) (hd : ctx.isTooDeep depth = false)
    {typeRef : String} (hp : plainType? x = some typeRef) :
    courseWithin refs (fuel + 1) x hint depth ctx = called x hint depth (.ok typeRef) ctx [] := by
  unfold plainType? at hp
  split at hp
  all_goals simp_all [courseWithin, inferWithin, visitsWithin, called, scalarType_result,
    scalarType_context, unrecognized]

theorem course_list (fuel : Nat) (hint : String) (hd : ctx.isTooDeep depth = false)
    {first : α} {rest : List α} (hl : Sampled.layer x = .list (first :: rest)) :
    courseWithin refs (fuel + 1) x hint depth ctx =
      let c := courseWithin refs fuel first (itemHint hint) (depth + 1) ctx
      called x hint depth (c.answer.map (· ++ arrayMark)) c.context c.visits := by
  simp [courseWithin, inferWithin, visitsWithin, called, hd, hl, Step.map]

theorem course_pinned (fuel : Nat) (hint : String) (hd : ctx.isTooDeep depth = false)
    {entries : List (Scalar × α)} (hl : Sampled.layer x = .record entries) {name : String}
    (hp : pinned? refs entries = some name) :
    courseWithin refs (fuel + 1) x hint depth ctx = called x hint depth (.ok name) ctx [] := by
  obtain ⟨hm, hne⟩ : refs.match? entries = some name ∧ name ≠ "" := by
    simpa [pinned?, Option.filter_eq_some_iff] using hp
  simp [courseWithin, inferWithin, visitsWithin, called, hd, hl, hm, hp, hne]

/-- Whether no schema is met or one without a name, the record is inferred on its own. -/
theorem infer_unpinned (fuel : Nat) (hint : String) (hd : ctx.isTooDeep depth = false)
    {entries : List (Scalar × α)} (hl : Sampled.layer x = .record entries)
    (hp : pinned? refs entries = none) :
    let visit := fun y h c => inferWithin refs fuel y h (depth + 1) c
    (inferWithin refs (fuel + 1) x hint depth ctx).result =
        (inferRecord visit entries hint ctx).result ∧
      (inferWithin refs (fuel + 1) x hint depth ctx).context =
        (inferRecord visit entries hint ctx).context := by
  cases hm : refs.match? entries with
  | none => simp [inferWithin, hd, hl, hm]
  | some name =>
    have hn : name = "" := by simpa [pinned?, hm, Option.filter] using hp
    simp [inferWithin, hd, hl, hm, hn, Step.after]

theorem course_unwritable (fuel : Nat) (hint : String) (hd : ctx.isTooDeep depth = false)
    {entries : List (Scalar × α)} (hl : Sampled.layer x = .record entries)
    (hp : pinned? refs entries = none)
    (hw : entries.all (fun e => e.1.isWritable) = false) :
    courseWithin refs (fuel + 1) x hint depth ctx =
      called x hint depth (.error .keyTooLong) ctx [] := by
  obtain ⟨hr, hc⟩ := infer_unpinned fuel hint hd hl hp
  cases hs : valueOf? (fingerprint entries) ctx.seen <;>
    simp [courseWithin, visitsWithin, called, hr, hc, hd, hl, hp, hw, hs, inferRecord]

theorem course_known (fuel : Nat) (hint : String) (hd : ctx.isTooDeep depth = false)
    {entries : List (Scalar × α)} (hu : Unpinned refs x entries) {name : String}
    (hs : valueOf? (fingerprint entries) ctx.seen = some name) :
    courseWithin refs (fuel + 1) x hint depth ctx = called x hint depth (.ok name) ctx [] := by
  obtain ⟨hr, hc⟩ := infer_unpinned fuel hint hd hu.layer hu.unpinned
  simp [courseWithin, visitsWithin, called, hr, hc, hd, hu.layer, hu.unpinned, hu.writable, hs,
    inferRecord]

/-- A record of a new signature: its name is bound, its fields are looked at, and the type is
registered if they all have an answer. -/
theorem course_new (fuel : Nat) (hint : String) (hd : ctx.isTooDeep depth = false)
    {entries : List (Scalar × α)} (hu : Unpinned refs x entries)
    (hs : valueOf? (fingerprint entries) ctx.seen = none) :
    let b := ctx.bind (fingerprint entries) hint
    let f := fieldsWithin refs fuel (depth + 1) entries b.2
    courseWithin refs (fuel + 1) x hint depth ctx =
      match f.answer with
      | .error e => called x hint depth (.error e) f.context f.visits
      | .ok fields => called x hint depth (.ok b.1)
          { f.context with catalog := (Catalog.register f.context.catalog
              { name := b.1, fields := fields }).2 } f.visits := by
  obtain ⟨hr, hc⟩ := infer_unpinned fuel hint hd hu.layer hu.unpinned
  intro b f
  cases hf : f.answer with
  | error e =>
    simp only [f, fieldsWithin] at hf
    simp [courseWithin, visitsWithin, called, hr, hc, hd, hu.layer, hu.unpinned, hu.writable, hs,
      inferRecord, register, f, b, fieldsWithin, hf]
  | ok fields =>
    simp only [f, fieldsWithin] at hf
    simp [courseWithin, visitsWithin, called, hr, hc, hd, hu.layer, hu.unpinned, hu.writable, hs,
      inferRecord, register, f, b, fieldsWithin, hf]

theorem fields_cons (fuel : Nat) (entry : Scalar × α) (rest : List (Scalar × α)) :
    let c := courseWithin refs fuel entry.2 (fieldHint entry.1) depth ctx
    let r := fieldsWithin refs fuel depth rest c.context
    fieldsWithin refs fuel depth (entry :: rest) ctx =
      match c.answer with
      | .error e => ⟨.error e, c.context, c.visits⟩
      | .ok typeRef =>
        ⟨r.answer.map (fieldOf entry typeRef :: ·), r.context, c.visits ++ r.visits⟩ := by
  intro c r
  cases hc : c.answer with
  | error e =>
    simp only [c, courseWithin] at hc
    simp [fieldsWithin, inferFields, visitFields, hc, c, courseWithin]
  | ok typeRef =>
    simp only [c, courseWithin] at hc
    simp [fieldsWithin, inferFields, visitFields, hc, c, r, courseWithin, Step.after, Step.map,
      fieldOf]

inductive CallCase (refs : Matcher τ) (x : α) (depth : Int) (ctx : Context) : Prop where
  | tooDeep (hd : ctx.isTooDeep depth = true)
  | plain {typeRef : String} (hd : ctx.isTooDeep depth = false) (hp : plainType? x = some typeRef)
  | list {first : α} {rest : List α} (hd : ctx.isTooDeep depth = false)
      (hl : Sampled.layer x = .list (first :: rest))
  | pinned {entries : List (Scalar × α)} {name : String} (hd : ctx.isTooDeep depth = false)
      (hl : Sampled.layer x = .record entries) (hp : pinned? refs entries = some name)
  | unwritable {entries : List (Scalar × α)} (hd : ctx.isTooDeep depth = false)
      (hl : Sampled.layer x = .record entries) (hp : pinned? refs entries = none)
      (hw : entries.all (fun e => e.1.isWritable) = false)
  | known {entries : List (Scalar × α)} {name : String} (hd : ctx.isTooDeep depth = false)
      (hu : Unpinned refs x entries) (hs : valueOf? (fingerprint entries) ctx.seen = some name)
  | new {entries : List (Scalar × α)} (hd : ctx.isTooDeep depth = false)
      (hu : Unpinned refs x entries) (hs : valueOf? (fingerprint entries) ctx.seen = none)

theorem callCase (refs : Matcher τ) (x : α) (depth : Int) (ctx : Context) :
    CallCase refs x depth ctx := by
  cases hd : ctx.isTooDeep depth with
  | true => exact .tooDeep hd
  | false =>
    cases hl : Sampled.layer x with
    | scalar s => exact .plain hd (show plainType? x = some (scalarExpression s) by simp [plainType?, hl])
    | other typeName => exact .plain hd (show plainType? x = some unknownType by simp [plainType?, hl])
    | list items =>
      cases items with
      | nil => exact .plain hd (show plainType? x = some (unknownType ++ arrayMark) by simp [plainType?, hl])
      | cons first rest => exact .list hd hl
    | record entries =>
      cases hp : pinned? refs entries with
      | some name => exact .pinned hd hl hp
      | none =>
        cases hw : entries.all (fun e => e.1.isWritable) with
        | false => exact .unwritable hd hl hp hw
        | true =>
          cases hs : valueOf? (fingerprint entries) ctx.seen with
          | some name => exact .known hd ⟨hl, hp, hw⟩ hs
          | none => exact .new hd ⟨hl, hp, hw⟩ hs

end

namespace Contract

variable {refs : Matcher τ} {P : α → String → Int → Context → Course α String → Prop}
  {Q : Int → List (Scalar × α) → Context → Course α (List (Field String)) → Prop}

theorem fields_hold (h : Contract refs P Q) {fuel : Nat}
    (calls : ∀ x hint depth ctx, P x hint depth ctx (courseWithin refs fuel x hint depth ctx))
    (depth : Int) (entries : List (Scalar × α)) (ctx : Context) :
    Q depth entries ctx (fieldsWithin refs fuel depth entries ctx) := by
  induction entries generalizing ctx with
  | nil => exact h.noFields depth ctx
  | cons entry rest ih =>
    have hp := calls entry.2 (fieldHint entry.1) depth ctx
    rw [fields_cons]
    rcases hc : courseWithin refs fuel entry.2 (fieldHint entry.1) depth ctx with
      ⟨answer, new, visits⟩
    rw [hc] at hp
    cases answer with
    | error e => exact h.failedField entry rest depth ctx e new visits hp
    | ok typeRef =>
      exact h.field entry rest depth ctx typeRef new visits _ ⟨fuel, hc⟩ hp ⟨fuel, rfl⟩ (ih new)

theorem holds (h : Contract refs P Q) (fuel : Nat) (x : α) (hint : String) (depth : Int)
    (ctx : Context) : P x hint depth ctx (courseWithin refs fuel x hint depth ctx) := by
  induction fuel generalizing x hint depth ctx with
  | zero => exact h.failed x hint depth ctx .endless
  | succ fuel ih =>
    cases callCase refs x depth ctx with
    | tooDeep hd =>
      rw [course_tooDeep fuel hint hd]
      exact h.failed x hint depth ctx _
    | plain hd hp =>
      rw [course_plain fuel hint hd hp]
      exact h.plain x hint depth ctx _ hd hp
    | list hd hl =>
      rw [course_list fuel hint hd hl]
      exact h.list x _ _ hint depth ctx _ hd hl ⟨fuel, rfl⟩ (ih _ _ _ _)
    | pinned hd hl hp =>
      rw [course_pinned fuel hint hd hl hp]
      exact h.pinned x _ hint depth ctx _ hd hl hp
    | unwritable hd hl hp hw =>
      rw [course_unwritable fuel hint hd hl hp hw]
      exact h.failed x hint depth ctx _
    | known hd hu hs =>
      rw [course_known fuel hint hd hu hs]
      exact h.known x _ hint depth ctx _ hd hu hs
    | @new entries hd hu hs =>
      have hq := h.fields_hold ih (depth + 1) entries (ctx.bind (fingerprint entries) hint).2
      rw [course_new fuel hint hd hu hs]
      rcases hf : fieldsWithin refs fuel (depth + 1) entries
        (ctx.bind (fingerprint entries) hint).2 with ⟨answer, new, visits⟩
      rw [hf] at hq
      cases answer with
      | error e => exact h.abandoned x entries hint depth ctx e new visits hd hu hs hq
      | ok fields =>
        exact h.described x entries hint depth ctx fields new visits hd hu hs ⟨fuel, hf⟩ hq

theorem call (h : Contract refs P Q) {x : α} {hint : String} {depth : Int} {ctx : Context}
    {c : Course α String} (hc : IsCall refs x hint depth ctx c) : P x hint depth ctx c := by
  obtain ⟨fuel, rfl⟩ := hc
  exact h.holds fuel x hint depth ctx

theorem run (h : Contract refs P Q) {depth : Int} {entries : List (Scalar × α)} {ctx : Context}
    {c : Course α (List (Field String))} (hr : IsRun refs depth entries ctx c) :
    Q depth entries ctx c := by
  obtain ⟨fuel, rfl⟩ := hr
  exact h.fields_hold (h.holds fuel) depth entries ctx

end Contract

end

end SampleTypes.Inference
