import SampleTypes.Proofs.Inference.Course
import SampleTypes.Proofs.Sample.Parts

/-!
The bound for the nesting of calls. A call that has ended in any other way than by its bound goes the
same way under every larger one. The bound that inference gives itself is large enough: below a
depth limit the limit is met first, and without one it is the sample that ends.
-/

namespace SampleTypes.Inference

section

variable {α β : Type}

/-- What a larger bound makes of a course: the same unless it met its bound, and no fewer calls. -/
structure Continues (c d : Course α β) : Prop where
  same : c.answer ≠ .error .endless → d = c
  calls : ∀ v ∈ c.visits, ∃ w ∈ d.visits, w.depth = v.depth

theorem Continues.refl (c : Course α β) : Continues c c :=
  ⟨fun _ => rfl, fun v hv => ⟨v, hv, rfl⟩⟩

theorem Continues.trans {a b c : Course α β} (h : Continues a b) (k : Continues b c) :
    Continues a c := by
  constructor
  · intro ha
    obtain rfl := h.same ha
    exact k.same ha
  · intro v hv
    obtain ⟨w, hw, hd⟩ := h.calls v hv
    obtain ⟨u, hu, he⟩ := k.calls w hw
    exact ⟨u, hu, he.trans hd⟩

theorem Continues.calls_cons {γ : Type} {c d : Course α β} (h : Continues c d) (x : α)
    (hint : String) (depth : Int) {answer answer' : Except Failure String} {e e' : Course α γ}
    (he : e.visits = ⟨x, hint, depth, answer⟩ :: c.visits)
    (he' : e'.visits = ⟨x, hint, depth, answer'⟩ :: d.visits) :
    ∀ v ∈ e.visits, ∃ w ∈ e'.visits, w.depth = v.depth := by
  rw [he, he']
  intro v hv
  rcases List.mem_cons.mp hv with rfl | hv
  · exact ⟨_, List.mem_cons_self, rfl⟩
  · obtain ⟨w, hw, hd⟩ := h.calls v hv
    exact ⟨w, List.mem_cons_of_mem _ hw, hd⟩

structure SameEnd {α' : Type} (c : Course α β) (d : Course α' β) : Prop where
  answer : c.answer = d.answer
  context : c.context = d.context

theorem SameEnd.refl (c : Course α β) : SameEnd c c := ⟨rfl, rfl⟩

end

section

variable {α τ : Type} [Sampled α] {refs : Matcher τ}

theorem unlimited_isTooDeep {ctx : Context} (hc : ctx.maxDepth = none) (depth : Int) :
    ctx.isTooDeep depth = false := by
  simp only [Context.isTooDeep, hc, Option.any_none]

theorem visits_head (refs : Matcher τ) (fuel : Nat) (x : α) (hint : String) (depth : Int)
    (ctx : Context) : ∃ answer rest,
      visitsWithin refs fuel x hint depth ctx = ⟨x, hint, depth, answer⟩ :: rest := by
  cases fuel with
  | zero => exact ⟨_, _, rfl⟩
  | succ fuel => exact ⟨_, _, rfl⟩

inductive FailsAtOnce (ctx : Context) : Failure → Prop where
  | tooDeep {limit : Int} (hc : ctx.maxDepth = some limit) (hint : String) :
      FailsAtOnce ctx (.tooDeep limit hint)
  | keyTooLong : FailsAtOnce ctx .keyTooLong

/-- A call ends at once under every bound, or it goes on to a first item or to the fields of a
record. -/
inductive CallWay (refs : Matcher τ) (x : α) (depth : Int) (ctx : Context) : Prop where
  | atOnce (answer : String → Except Failure String)
      (ha : ∀ fuel hint, courseWithin refs (fuel + 1) x hint depth ctx =
        called x hint depth (answer hint) ctx [])
      (hf : ∀ hint e, answer hint = .error e → FailsAtOnce ctx e)
  | list {first : α} {rest : List α} (hd : ctx.isTooDeep depth = false)
      (hl : Sampled.layer x = .list (first :: rest))
  | new {entries : List (Scalar × α)} (hd : ctx.isTooDeep depth = false)
      (hu : Unpinned refs x entries) (hs : valueOf? (fingerprint entries) ctx.seen = none)

theorem callWay (refs : Matcher τ) (x : α) (depth : Int) (ctx : Context) :
    CallWay refs x depth ctx := by
  cases callCase refs x depth ctx with
  | tooDeep hd =>
    refine .atOnce _ (fun fuel hint => course_tooDeep fuel hint hd) ?_
    intro hint e he
    cases hc : ctx.maxDepth with
    | none => cases (unlimited_isTooDeep hc depth).symm.trans hd
    | some limit =>
      obtain rfl := Except.error.inj he
      rw [hc]
      exact .tooDeep hc hint
  | plain hd hp =>
    exact .atOnce (fun _ => .ok _) (fun fuel hint => course_plain fuel hint hd hp)
      fun _ _ h => by cases h
  | list hd hl => exact .list hd hl
  | pinned hd hl hp =>
    exact .atOnce (fun _ => .ok _) (fun fuel hint => course_pinned fuel hint hd hl hp)
      fun _ _ h => by cases h
  | unwritable hd hl hp hw =>
    refine .atOnce (fun _ => .error .keyTooLong)
      (fun fuel hint => course_unwritable fuel hint hd hl hp hw) ?_
    intro hint e he
    obtain rfl := Except.error.inj he
    exact .keyTooLong
  | known hd hu hs =>
    exact .atOnce (fun _ => .ok _) (fun fuel hint => course_known fuel hint hd hu hs)
      fun _ _ h => by cases h
  | new hd hu hs => exact .new hd hu hs

theorem fields_continue {fuel : Nat}
    (calls : ∀ (x : α) hint depth ctx, Continues (courseWithin refs fuel x hint depth ctx)
      (courseWithin refs (fuel + 1) x hint depth ctx))
    (depth : Int) (entries : List (Scalar × α)) (ctx : Context) :
    Continues (fieldsWithin refs fuel depth entries ctx)
      (fieldsWithin refs (fuel + 1) depth entries ctx) := by
  induction entries generalizing ctx with
  | nil => exact .refl _
  | cons entry rest ih =>
    have hc := calls entry.2 (fieldHint entry.1) depth ctx
    rw [fields_cons, fields_cons]
    generalize courseWithin refs fuel entry.2 (fieldHint entry.1) depth ctx = c at hc
    generalize courseWithin refs (fuel + 1) entry.2 (fieldHint entry.1) depth ctx = d at hc
    by_cases he : c.answer = .error .endless
    · simp only [he]
      refine ⟨fun h => absurd rfl h, fun v hv => ?_⟩
      obtain ⟨w, hw, hd⟩ := hc.calls v hv
      cases d.answer with
      | error e => exact ⟨w, hw, hd⟩
      | ok typeRef => exact ⟨w, List.mem_append_left _ hw, hd⟩
    · obtain rfl := hc.same he
      cases d.answer with
      | error e => exact .refl _
      | ok typeRef =>
        have hr := ih d.context
        constructor
        · intro h
          have hne : (fieldsWithin refs fuel depth rest d.context).answer ≠ .error .endless := by
            intro h'
            apply h
            simp only [h', Except.map]
          simp only [hr.same hne]
        · intro v hv
          rcases List.mem_append.mp hv with hv | hv
          · exact ⟨v, List.mem_append_left _ hv, rfl⟩
          · obtain ⟨w, hw, hd⟩ := hr.calls v hv
            exact ⟨w, List.mem_append_right _ hw, hd⟩

theorem course_continues (refs : Matcher τ) (fuel : Nat) (x : α) (hint : String) (depth : Int)
    (ctx : Context) : Continues (courseWithin refs fuel x hint depth ctx)
      (courseWithin refs (fuel + 1) x hint depth ctx) := by
  induction fuel generalizing x hint depth ctx with
  | zero =>
    refine ⟨fun h => absurd rfl h, fun v hv => ?_⟩
    obtain rfl := List.mem_singleton.mp hv
    obtain ⟨answer, rest, hr⟩ := visits_head refs 1 x hint depth ctx
    exact ⟨⟨x, hint, depth, answer⟩, by simp [courseWithin, hr], rfl⟩
  | succ fuel ih =>
    cases callWay refs x depth ctx with
    | atOnce answer ha _ =>
      rw [ha, ha]
      exact .refl _
    | @list first rest hd hl =>
      have hc := ih first (itemHint hint) (depth + 1) ctx
      rw [course_list fuel hint hd hl, course_list (fuel + 1) hint hd hl]
      refine ⟨fun h => ?_, hc.calls_cons x hint depth rfl rfl⟩
      have hne : (courseWithin refs fuel first (itemHint hint) (depth + 1) ctx).answer ≠
          .error .endless := by
        intro h'
        apply h
        simp only [called, h', Except.map]
      simp only [hc.same hne]
    | @new entries hd hu hs =>
      have hf := fields_continue ih (depth + 1) entries (ctx.bind (fingerprint entries) hint).2
      rw [course_new fuel hint hd hu hs, course_new (fuel + 1) hint hd hu hs]
      generalize fieldsWithin refs fuel (depth + 1) entries _ = c at hf
      generalize fieldsWithin refs (fuel + 1) (depth + 1) entries _ = d at hf
      by_cases he : c.answer = .error .endless
      · simp only [he]
        refine ⟨fun h => absurd rfl h, ?_⟩
        cases d.answer with
        | error e => exact hf.calls_cons x hint depth rfl rfl
        | ok fields => exact hf.calls_cons x hint depth rfl rfl
      · obtain rfl := hf.same he
        exact .refl _

theorem course_longer (refs : Matcher τ) {m n : Nat} (h : m ≤ n) (x : α) (hint : String)
    (depth : Int) (ctx : Context) :
    Continues (courseWithin refs m x hint depth ctx) (courseWithin refs n x hint depth ctx) := by
  induction h with
  | refl => exact .refl _
  | step _ ih => exact ih.trans (course_continues refs _ x hint depth ctx)

structure Grows (old new : Context) : Prop where
  seen : old.seen <+: new.seen
  limit : new.maxDepth = old.maxDepth

theorem Grows.refl (ctx : Context) : Grows ctx ctx := ⟨List.prefix_rfl, rfl⟩

theorem Grows.trans {a b c : Context} (h : Grows a b) (k : Grows b c) : Grows a c :=
  ⟨h.seen.trans k.seen, k.limit.trans h.limit⟩

theorem Grows.bind (ctx : Context) (signature hint : String) :
    Grows ctx (ctx.bind signature hint).2 :=
  ⟨List.prefix_append _ _, rfl⟩

theorem growth (refs : Matcher τ) : Contract refs
    (fun (_ : α) _ _ ctx c => Grows ctx c.context) (fun _ _ ctx c => Grows ctx c.context) where
  failed _ _ _ ctx _ := .refl ctx
  plain _ _ _ ctx _ _ _ := .refl ctx
  list _ _ _ _ _ _ _ _ _ _ hc := hc
  pinned _ _ _ _ ctx _ _ _ _ := .refl ctx
  known _ _ _ _ ctx _ _ _ _ := .refl ctx
  described _ _ hint _ ctx _ _ _ _ _ _ _ hq := by
    have h := (Grows.bind ctx _ hint).trans hq
    exact ⟨h.seen, h.limit⟩
  abandoned _ _ hint _ ctx _ _ _ _ _ _ hq := (Grows.bind ctx _ hint).trans hq
  noFields _ ctx := .refl ctx
  field _ _ _ _ _ _ _ _ _ hp _ hq := hp.trans hq
  failedField _ _ _ _ _ _ _ hp := hp

theorem course_grows (refs : Matcher τ) (fuel : Nat) (x : α) (hint : String) (depth : Int)
    (ctx : Context) : Grows ctx (courseWithin refs fuel x hint depth ctx).context :=
  (growth refs).holds fuel x hint depth ctx

/-- A run through fields fails only as one of its calls does. They are made in contexts with whatever is
kept while a context grows. -/
theorem fields_avoid (Kept : Context → Prop) {fuel : Nat} {depth : Int} {failure : Failure}
    (hk : ∀ old new, Grows old new → Kept old → Kept new) {entries : List (Scalar × α)}
    (calls : ∀ e ∈ entries, ∀ hint ctx, Kept ctx →
      (courseWithin refs fuel e.2 hint depth ctx).answer ≠ .error failure)
    {ctx : Context} (h : Kept ctx) :
    (fieldsWithin refs fuel depth entries ctx).answer ≠ .error failure := by
  induction entries generalizing ctx with
  | nil => exact fun h => by cases h
  | cons entry rest ih =>
    have hc := calls entry List.mem_cons_self (fieldHint entry.1) ctx h
    have hg := course_grows refs fuel entry.2 (fieldHint entry.1) depth ctx
    rw [fields_cons]
    generalize courseWithin refs fuel entry.2 (fieldHint entry.1) depth ctx = c at hc hg
    cases ha : c.answer with
    | error e =>
      intro h'
      exact hc (ha.trans (congrArg Except.error (Except.error.inj h')))
    | ok typeRef =>
      have hr := ih (fun e he => calls e (List.mem_cons_of_mem _ he)) (hk _ _ hg h)
      intro h'
      cases hf : (fieldsWithin refs fuel depth rest c.context).answer with
      | error e =>
        simp only [hf, Except.map] at h'
        exact hr (hf.trans h')
      | ok fields =>
        simp only [hf, Except.map] at h'
        cases h'

theorem list_avoids {fuel : Nat} {x first : α} {rest : List α} {hint : String} {depth : Int}
    {ctx : Context} {failure : Failure} (hd : ctx.isTooDeep depth = false)
    (hl : Sampled.layer x = .list (first :: rest))
    (h : (courseWithin refs fuel first (itemHint hint) (depth + 1) ctx).answer ≠ .error failure) :
    (courseWithin refs (fuel + 1) x hint depth ctx).answer ≠ .error failure := by
  rw [course_list fuel hint hd hl]
  intro h'
  apply h
  cases ha : (courseWithin refs fuel first (itemHint hint) (depth + 1) ctx).answer with
  | error e =>
    simp only [called, ha, Except.map] at h'
    exact congrArg Except.error (Except.error.inj h')
  | ok typeRef =>
    simp only [called, ha, Except.map] at h'
    cases h'

theorem new_avoids {fuel : Nat} {x : α} {entries : List (Scalar × α)} {hint : String}
    {depth : Int} {ctx : Context} {failure : Failure} (hd : ctx.isTooDeep depth = false)
    (hu : Unpinned refs x entries) (hs : valueOf? (fingerprint entries) ctx.seen = none)
    (h : (fieldsWithin refs fuel (depth + 1) entries
      (ctx.bind (fingerprint entries) hint).2).answer ≠ .error failure) :
    (courseWithin refs (fuel + 1) x hint depth ctx).answer ≠ .error failure := by
  rw [course_new fuel hint hd hu hs]
  generalize fieldsWithin refs fuel (depth + 1) entries _ = c at h
  cases ha : c.answer with
  | error e =>
    intro h'
    exact h (ha.trans (congrArg Except.error (Except.error.inj h')))
  | ok fields => exact fun h' => by cases h'

/-- The bound is not met by a sample that is nested less deeply. -/
theorem nested_answered (refs : Matcher τ) {n fuel : Nat} (hn : n < fuel) {x : α}
    (h : NestsWithin n x) (hint : String) (depth : Int) (ctx : Context) :
    (courseWithin refs fuel x hint depth ctx).answer ≠ .error .endless := by
  induction fuel generalizing n x hint depth ctx with
  | zero => omega
  | succ fuel ih =>
    cases callWay refs x depth ctx with
    | atOnce answer ha hf =>
      rw [ha]
      exact fun he => by cases hf hint _ he
    | list hd hl =>
      obtain ⟨m, rfl, hm⟩ := h.part (isPart_first hl)
      exact list_avoids hd hl (ih (by omega) hm _ _ _)
    | new hd hu hs =>
      refine new_avoids hd hu hs (fields_avoid (fun _ => True) (fun _ _ _ _ => trivial)
        (fun e he hint' ctx' _ => ?_) trivial)
      obtain ⟨m, rfl, hm⟩ := h.part (isPart_entry hu.layer he)
      exact ih (by omega) hm _ _ _

/-- Below a limit the bound is not met if it is larger than the number of levels that are left. -/
theorem limited_answered (refs : Matcher τ) {limit : Int} {fuel : Nat} (hf : 0 < fuel) (x : α)
    (hint : String) {depth : Int} (hl : limit + 1 < depth + fuel) {ctx : Context}
    (hc : ctx.maxDepth = some limit) :
    (courseWithin refs fuel x hint depth ctx).answer ≠ .error .endless := by
  induction fuel generalizing x hint depth ctx with
  | zero => omega
  | succ fuel ih =>
    have deeper : ctx.isTooDeep depth = false → depth ≤ limit := by
      intro hd
      simpa [Context.isTooDeep, hc] using hd
    cases callWay refs x depth ctx with
    | atOnce answer ha hf =>
      rw [ha]
      exact fun he => by cases hf hint _ he
    | list hd hl =>
      have := deeper hd
      exact list_avoids hd hl (ih (by omega) _ _ (by omega) hc)
    | new hd hu hs =>
      have := deeper hd
      refine new_avoids hd hu hs (fields_avoid (fun c => c.maxDepth = some limit)
        (fun _ _ hg hk => hg.limit.trans hk) (fun e _ hint' ctx' hk => ?_) hc)
      exact ih (by omega) _ _ (by omega) hk

def Settles (refs : Matcher τ) (x : α) (hint : String) (depth : Int) (ctx : Context) (n : Nat) :
    Prop :=
  ∀ fuel, n ≤ fuel → SameEnd (courseWithin refs fuel x hint depth ctx)
    (courseWithin refs n x hint depth ctx)

theorem Settles.of_answered {n : Nat} {x : α} {hint : String} {depth : Int} {ctx : Context}
    (h : (courseWithin refs n x hint depth ctx).answer ≠ .error .endless) :
    Settles refs x hint depth ctx n := by
  intro fuel hn
  rw [(course_longer refs hn x hint depth ctx).same h]
  exact .refl _

theorem Settles.mono {m n : Nat} {x : α} {hint : String} {depth : Int} {ctx : Context}
    (h : Settles refs x hint depth ctx m) (hn : m ≤ n) : Settles refs x hint depth ctx n := by
  intro fuel hf
  have k := h fuel (hn.trans hf)
  have l := h n hn
  exact ⟨k.answer.trans l.answer.symm, k.context.trans l.context.symm⟩

end

/-- Samples whose bound is enough for calls without a limit, also where these never end. -/
class AmpleSample (α : Type) [Sampled α] : Prop where
  bound_pos : ∀ x : α, 0 < Sampled.bound x
  settles : ∀ {τ : Type} (refs : Matcher τ) (x : α) (hint : String) (depth : Int) (ctx : Context),
    ctx.maxDepth = none → Settles refs x hint depth ctx (Sampled.bound x)

instance : AmpleSample Value where
  bound_pos _ := Nat.succ_pos _
  settles refs v hint depth ctx _ :=
    .of_answered (nested_answered refs (Nat.lt_succ_self _) (value_nestsWithin v) hint depth ctx)

section

variable {α τ : Type} [Sampled α] [AmpleSample α]

theorem limited_call_answered (refs : Matcher τ) (x : α) (hint : String) (depth : Int)
    {ctx : Context} {limit : Int} (hc : ctx.maxDepth = some limit) :
    (course refs x hint depth ctx).answer ≠ .error .endless := by
  have hb := AmpleSample.bound_pos x
  apply limited_answered refs _ x hint _ hc
  · simp only [callBound]
    omega
  · simp only [callBound, hc, Option.map_some, Option.getD_some]
    omega

theorem call_settles (refs : Matcher τ) (x : α) (hint : String) (depth : Int) (ctx : Context) :
    Settles refs x hint depth ctx (callBound x depth ctx) := by
  cases hc : ctx.maxDepth with
  | some limit => exact .of_answered (limited_call_answered refs x hint depth hc)
  | none =>
    refine (AmpleSample.settles refs x hint depth ctx hc).mono ?_
    simp only [callBound]
    omega

end

end SampleTypes.Inference
