import SampleTypes.Proofs.Inference.CallBound

/-!
The depth limit. Step by step a call below a limit goes the way of the call without one, until that
makes a call which is too deep: there the limited call fails. So a limit either ends a call or makes
no difference to it.
-/

namespace SampleTypes.Inference

def Context.limited (ctx : Context) (limit : Option Int) : Context :=
  { ctx with maxDepth := limit }

@[simp] theorem limited_maxDepth (ctx : Context) (limit : Option Int) :
    (ctx.limited limit).maxDepth = limit := rfl

@[simp] theorem limited_seen (ctx : Context) (limit : Option Int) :
    (ctx.limited limit).seen = ctx.seen := rfl

@[simp] theorem limited_limited (ctx : Context) (first second : Option Int) :
    (ctx.limited first).limited second = ctx.limited second := rfl

theorem limited_bind (ctx : Context) (limit : Option Int) (signature hint : String) :
    (ctx.limited limit).bind signature hint =
      ((ctx.bind signature hint).1, (ctx.bind signature hint).2.limited limit) := rfl

theorem limited_isTooDeep (ctx : Context) (m depth : Int) :
    (ctx.limited (some m)).isTooDeep depth = decide (m < depth) := rfl

inductive Aborts (m : Int) : Failure → Prop where
  | tooDeep (hint : String) : Aborts m (.tooDeep m hint)
  | endless : Aborts m .endless

section

variable {α β : Type}

/-- What a limit makes of a course: the same, if none of its calls is too deep, and else a failure. -/
inductive UnderLimit (m : Int) (free limited : Course α β) : Prop where
  | unaffected (shallow : ∀ v ∈ free.visits, v.depth ≤ m) (ha : limited.answer = free.answer)
      (hc : limited.context = free.context.limited (some m))
  | aborted {e : Failure} (deep : ∃ v ∈ free.visits, m < v.depth)
      (ha : limited.answer = .error e) (he : Aborts m e)

theorem called_shallow {m depth : Int} (hd : depth ≤ m) (x : α) (hint : String)
    (answer : Except Failure String) (ctx : Context) {inner : List (Visit α)}
    (h : ∀ v ∈ inner, v.depth ≤ m) :
    ∀ v ∈ (called x hint depth answer ctx inner).visits, v.depth ≤ m := by
  intro v hv
  rcases List.mem_cons.mp hv with rfl | hv
  · exact hd
  · exact h v hv

theorem called_deep {m : Int} {inner : List (Visit α)} (h : ∃ v ∈ inner, m < v.depth) (x : α)
    (hint : String) (depth : Int) (answer : Except Failure String) (ctx : Context) :
    ∃ v ∈ (called x hint depth answer ctx inner).visits, m < v.depth := by
  obtain ⟨v, hv, hm⟩ := h
  exact ⟨v, List.mem_cons_of_mem _ hv, hm⟩

theorem underLimit_atOnce {m depth : Int} (hd : depth ≤ m) (x : α) (hint : String)
    (answer : Except Failure String) (ctx : Context) :
    UnderLimit m (called x hint depth answer ctx [])
      (called x hint depth answer (ctx.limited (some m)) []) := by
  refine .unaffected ?_ rfl rfl
  apply called_shallow hd
  exact List.forall_mem_nil _

end

section

variable {α τ : Type} [Sampled α] {refs : Matcher τ}

theorem underLimit_fields {fuel : Nat} {m : Int}
    (calls : ∀ (x : α) hint depth (ctx : Context), ctx.maxDepth = none →
      UnderLimit m (courseWithin refs fuel x hint depth ctx)
        (courseWithin refs fuel x hint depth (ctx.limited (some m))))
    (depth : Int) (entries : List (Scalar × α)) {ctx : Context} (hc : ctx.maxDepth = none) :
    UnderLimit m (fieldsWithin refs fuel depth entries ctx)
      (fieldsWithin refs fuel depth entries (ctx.limited (some m))) := by
  induction entries generalizing ctx with
  | nil => exact .unaffected (List.forall_mem_nil _) rfl rfl
  | cons entry rest ih =>
    have h := calls entry.2 (fieldHint entry.1) depth ctx hc
    have hg := (course_grows refs fuel entry.2 (fieldHint entry.1) depth ctx).limit.trans hc
    rw [fields_cons, fields_cons]
    generalize courseWithin refs fuel entry.2 (fieldHint entry.1) depth ctx = c at h hg
    generalize courseWithin refs fuel entry.2 (fieldHint entry.1) depth (ctx.limited (some m)) = d
      at h
    cases h with
    | aborted deep ha he =>
      simp only [ha]
      refine .aborted ?_ rfl he
      obtain ⟨v, hv, hm⟩ := deep
      cases c.answer with
      | error e => exact ⟨v, hv, hm⟩
      | ok typeRef => exact ⟨v, List.mem_append_left _ hv, hm⟩
    | unaffected shallow ha hn =>
      rw [ha, hn]
      cases c.answer with
      | error e => exact .unaffected shallow rfl rfl
      | ok typeRef =>
        cases ih hg with
        | aborted deep hr he =>
          obtain ⟨v, hv, hm⟩ := deep
          refine .aborted ⟨v, List.mem_append_right _ hv, hm⟩ ?_ he
          simp only [hr, Except.map]
        | unaffected deeper hr hn' =>
          refine .unaffected ?_ ?_ hn'
          · intro v hv
            rcases List.mem_append.mp hv with hv | hv
            · exact shallow v hv
            · exact deeper v hv
          · simp only [hr]

theorem underLimit_list {fuel : Nat} {m depth : Int} {ctx : Context} {x first : α} {rest : List α}
    (hint : String) (hm : depth ≤ m) (hd : ctx.isTooDeep depth = false)
    (hd' : (ctx.limited (some m)).isTooDeep depth = false)
    (hl : Sampled.layer x = .list (first :: rest))
    (h : UnderLimit m (courseWithin refs fuel first (itemHint hint) (depth + 1) ctx)
      (courseWithin refs fuel first (itemHint hint) (depth + 1) (ctx.limited (some m)))) :
    UnderLimit m (courseWithin refs (fuel + 1) x hint depth ctx)
      (courseWithin refs (fuel + 1) x hint depth (ctx.limited (some m))) := by
  rw [course_list fuel hint hd hl, course_list fuel hint hd' hl]
  cases h with
  | aborted deep ha he =>
    refine .aborted (called_deep deep x hint depth _ _) ?_ he
    simp only [called, ha, Except.map]
  | unaffected shallow ha hn =>
    refine .unaffected (called_shallow hm x hint _ _ shallow) ?_ hn
    simp only [called, ha]

theorem underLimit_new {fuel : Nat} {m depth : Int} {ctx : Context} {x : α}
    {entries : List (Scalar × α)} (hint : String) (hm : depth ≤ m)
    (hd : ctx.isTooDeep depth = false) (hd' : (ctx.limited (some m)).isTooDeep depth = false)
    (hu : Unpinned refs x entries) (hs : valueOf? (fingerprint entries) ctx.seen = none)
    (h : UnderLimit m
      (fieldsWithin refs fuel (depth + 1) entries (ctx.bind (fingerprint entries) hint).2)
      (fieldsWithin refs fuel (depth + 1) entries
        ((ctx.bind (fingerprint entries) hint).2.limited (some m)))) :
    UnderLimit m (courseWithin refs (fuel + 1) x hint depth ctx)
      (courseWithin refs (fuel + 1) x hint depth (ctx.limited (some m))) := by
  rw [course_new fuel hint hd hu hs, course_new fuel hint hd' hu hs, limited_bind]
  generalize fieldsWithin refs fuel (depth + 1) entries (ctx.bind (fingerprint entries) hint).2 = c
    at h
  generalize fieldsWithin refs fuel (depth + 1) entries
    ((ctx.bind (fingerprint entries) hint).2.limited (some m)) = d at h
  cases h with
  | aborted deep ha he =>
    simp only [ha]
    refine .aborted ?_ rfl he
    cases c.answer with
    | error e => exact called_deep deep x hint depth _ _
    | ok fields => exact called_deep deep x hint depth _ _
  | unaffected shallow ha hn =>
    simp only [ha, hn]
    cases c.answer with
    | error e => exact .unaffected (called_shallow hm x hint _ _ shallow) rfl rfl
    | ok fields => exact .unaffected (called_shallow hm x hint _ _ shallow) rfl rfl

theorem underLimit_tooDeep (refs : Matcher τ) (fuel : Nat) {m depth : Int} (hm : m < depth) (x : α)
    (hint : String) (ctx : Context) :
    UnderLimit m (courseWithin refs (fuel + 1) x hint depth ctx)
      (courseWithin refs (fuel + 1) x hint depth (ctx.limited (some m))) := by
  have hd : (ctx.limited (some m)).isTooDeep depth = true := by
    simpa only [limited_isTooDeep, decide_eq_true_eq] using hm
  obtain ⟨answer, rest, hv⟩ := visits_head refs (fuel + 1) x hint depth ctx
  rw [course_tooDeep fuel hint hd]
  refine .aborted ⟨⟨x, hint, depth, answer⟩, ?_, hm⟩ rfl (.tooDeep hint)
  simp only [courseWithin, hv, List.mem_cons_self]

theorem underLimit (refs : Matcher τ) (fuel : Nat) (m : Int) (x : α) (hint : String) (depth : Int)
    {ctx : Context} (hc : ctx.maxDepth = none) :
    UnderLimit m (courseWithin refs fuel x hint depth ctx)
      (courseWithin refs fuel x hint depth (ctx.limited (some m))) := by
  induction fuel generalizing x hint depth ctx with
  | zero =>
    by_cases hd : m < depth
    · exact .aborted ⟨_, List.mem_cons_self, hd⟩ rfl .endless
    · exact underLimit_atOnce (Int.not_lt.mp hd) x hint (.error .endless) ctx
  | succ fuel ih =>
    by_cases hm : m < depth
    · exact underLimit_tooDeep refs fuel hm x hint ctx
    · have hd : (ctx.limited (some m)).isTooDeep depth = false := by
        simpa only [limited_isTooDeep, decide_eq_false_iff_not] using hm
      rw [Int.not_lt] at hm
      cases callCase refs x depth ctx with
      | tooDeep hd' =>
        rw [unlimited_isTooDeep hc] at hd'
        cases hd'
      | plain hd' hp =>
        rw [course_plain fuel hint hd' hp, course_plain fuel hint hd hp]
        exact underLimit_atOnce hm x hint _ ctx
      | pinned hd' hl hp =>
        rw [course_pinned fuel hint hd' hl hp, course_pinned fuel hint hd hl hp]
        exact underLimit_atOnce hm x hint _ ctx
      | unwritable hd' hl hp hw =>
        rw [course_unwritable fuel hint hd' hl hp hw, course_unwritable fuel hint hd hl hp hw]
        exact underLimit_atOnce hm x hint _ ctx
      | known hd' hu hs =>
        rw [course_known fuel hint hd' hu hs, course_known fuel hint hd hu hs]
        exact underLimit_atOnce hm x hint _ ctx
      | list hd' hl =>
        exact underLimit_list hint hm hd' hd hl (ih _ (itemHint hint) (depth + 1) hc)
      | @new entries hd' hu hs =>
        have bound : (ctx.bind (fingerprint entries) hint).2.maxDepth = none := hc
        exact underLimit_new hint hm hd' hd hu hs (underLimit_fields ih (depth + 1) entries bound)

theorem unlimited_notTooDeep (refs : Matcher τ) (fuel : Nat) (x : α) (hint : String) (depth : Int)
    {ctx : Context} (hc : ctx.maxDepth = none) (m : Int) (place : String) :
    (courseWithin refs fuel x hint depth ctx).answer ≠ .error (.tooDeep m place) := by
  induction fuel generalizing x hint depth ctx with
  | zero => exact fun h => by cases h
  | succ fuel ih =>
    cases callWay refs x depth ctx with
    | atOnce answer ha hf =>
      rw [ha]
      intro he
      cases hf hint _ he with
      | tooDeep hlimit => cases hc.symm.trans hlimit
    | list hd hl => exact list_avoids hd hl (ih _ _ _ hc)
    | new hd hu hs =>
      apply new_avoids hd hu hs
      apply fields_avoid (fun c => c.maxDepth = none)
      · exact fun old new hg hk => hg.limit.trans hk
      · exact fun e _ hint' ctx' hk => ih e.2 hint' _ hk
      · exact hc

theorem fields_shallow {fuel n : Nat} {depth : Int} {entries : List (Scalar × α)}
    (calls : ∀ e ∈ entries, ∀ hint ctx,
      ∀ v ∈ visitsWithin refs fuel e.2 hint depth ctx, v.depth ≤ depth + n) (ctx : Context) :
    ∀ v ∈ (fieldsWithin refs fuel depth entries ctx).visits, v.depth ≤ depth + n := by
  induction entries generalizing ctx with
  | nil => exact List.forall_mem_nil _
  | cons entry rest ih =>
    have hc := calls entry List.mem_cons_self (fieldHint entry.1) ctx
    have hr := ih fun e he => calls e (List.mem_cons_of_mem _ he)
    rw [fields_cons]
    intro v hv
    cases ha : (courseWithin refs fuel entry.2 (fieldHint entry.1) depth ctx).answer with
    | error e =>
      simp only [ha] at hv
      exact hc v hv
    | ok typeRef =>
      simp only [ha] at hv
      rcases List.mem_append.mp hv with hv | hv
      · exact hc v hv
      · exact hr _ v hv

/-- No call is made deeper in the sample than its parts are nested. -/
theorem visits_shallow (refs : Matcher τ) (fuel : Nat) {n : Nat} {x : α} (h : NestsWithin n x)
    (hint : String) (depth : Int) (ctx : Context) :
    ∀ v ∈ visitsWithin refs fuel x hint depth ctx, v.depth ≤ depth + n := by
  show ∀ v ∈ (courseWithin refs fuel x hint depth ctx).visits, v.depth ≤ depth + n
  induction fuel generalizing n x hint depth ctx with
  | zero =>
    intro v hv
    obtain rfl := List.mem_singleton.mp hv
    show depth ≤ depth + n
    omega
  | succ fuel ih =>
    have here : depth ≤ depth + n := by omega
    cases callWay refs x depth ctx with
    | atOnce answer ha _ =>
      rw [ha]
      exact called_shallow here x hint _ ctx (List.forall_mem_nil _)
    | list hd hl =>
      obtain ⟨k, rfl, hk⟩ := h.part (isPart_first hl)
      have hf := ih hk (itemHint hint) (depth + 1) ctx
      rw [course_list fuel hint hd hl]
      apply called_shallow here
      intro v hv
      have := hf v hv
      omega
    | @new entries hd hu hs =>
      have hf : ∀ v ∈ (fieldsWithin refs fuel (depth + 1) entries
          (ctx.bind (fingerprint entries) hint).2).visits, v.depth ≤ depth + n := by
        cases n with
        | zero =>
          have hn : entries.map Prod.snd = [] := (parts_record hu.layer).symm.trans h
          obtain rfl := List.map_eq_nil_iff.mp hn
          exact List.forall_mem_nil _
        | succ k =>
          intro v hv
          have := fields_shallow (fun e he hint' ctx' =>
            ih (h e.2 (isPart_entry hu.layer he)) hint' (depth + 1) ctx') _ v hv
          omega
      rw [course_new fuel hint hd hu hs]
      generalize fieldsWithin refs fuel (depth + 1) entries _ = c at hf
      cases c.answer with
      | error e => exact called_shallow here x hint _ _ hf
      | ok fields => exact called_shallow here x hint _ _ hf

/-- Whether the calls that a call is made of reach below this depth, if it takes its course for long
enough. -/
def GoesDeeper (refs : Matcher τ) (x : α) (hint : String) (depth : Int) (ctx : Context) (m : Int) :
    Prop :=
  ∃ fuel, ∃ v ∈ visitsWithin refs fuel x hint depth ctx, m < v.depth

theorem GoesDeeper.mono {x : α} {hint : String} {depth : Int} {ctx : Context} {m m' : Int}
    (hm : m ≤ m') (h : GoesDeeper refs x hint depth ctx m') :
    GoesDeeper refs x hint depth ctx m := by
  obtain ⟨fuel, v, hv, hd⟩ := h
  exact ⟨fuel, v, hv, by omega⟩

variable [AmpleSample α] {x : α} {hint : String} {depth m : Int} {ctx : Context}

/-- Some bound is as good as both calls' own and no smaller than another. -/
theorem common_bound (refs : Matcher τ) (x : α) (hint : String) (depth : Int) (first second : Context)
    (least : Nat) :
    ∃ fuel, least ≤ fuel ∧
      SameEnd (courseWithin refs fuel x hint depth first) (course refs x hint depth first) ∧
      SameEnd (courseWithin refs fuel x hint depth second) (course refs x hint depth second) := by
  refine ⟨least + callBound x depth first + callBound x depth second, by omega, ?_, ?_⟩
  · exact call_settles refs x hint depth first _ (by omega)
  · exact call_settles refs x hint depth second _ (by omega)

theorem abort_of_deeper (hc : ctx.maxDepth = none) (h : GoesDeeper refs x hint depth ctx m) :
    ∃ place, (course refs x hint depth (ctx.limited (some m))).answer =
      .error (.tooDeep m place) := by
  obtain ⟨least, v, hv, hd⟩ := h
  obtain ⟨fuel, hl, -, hs⟩ :=
    common_bound refs x hint depth ctx (ctx.limited (some m)) least
  obtain ⟨w, hw, he⟩ := (course_longer refs hl x hint depth ctx).calls v hv
  cases underLimit refs fuel m x hint depth hc with
  | unaffected shallow _ _ =>
    have := shallow w hw
    omega
  | aborted _ ha he =>
    rw [← hs.answer, ha]
    cases he with
    | tooDeep place => exact ⟨place, rfl⟩
    | endless =>
      exact absurd (hs.answer.symm.trans ha)
        (limited_call_answered refs x hint depth (limited_maxDepth ctx _))

theorem same_of_shallow (hc : ctx.maxDepth = none) (h : ¬ GoesDeeper refs x hint depth ctx m) :
    (course refs x hint depth (ctx.limited (some m))).answer =
        (course refs x hint depth ctx).answer ∧
      (course refs x hint depth (ctx.limited (some m))).context =
        (course refs x hint depth ctx).context.limited (some m) := by
  obtain ⟨fuel, -, hf, hs⟩ := common_bound refs x hint depth ctx (ctx.limited (some m)) 0
  cases underLimit refs fuel m x hint depth hc with
  | aborted deep _ _ => exact absurd ⟨fuel, deep⟩ h
  | unaffected _ ha hn =>
    constructor
    · exact hs.answer.symm.trans (ha.trans hf.answer)
    · exact hs.context.symm.trans (hn.trans (congrArg (Context.limited · (some m)) hf.context))

/-- A limit ends exactly the calls that go deeper without it, and makes no difference to any other. -/
theorem limit_only_aborts (refs : Matcher τ) (x : α) (hint : String) (depth m : Int)
    (ctx : Context) :
    let free := infer refs x hint depth (ctx.limited none)
    let below := fun limit : Int => infer refs x hint depth (ctx.limited (some limit))
    ((∃ place, (below m).result = .error (.tooDeep m place)) ↔
        GoesDeeper refs x hint depth (ctx.limited none) m) ∧
      (¬ GoesDeeper refs x hint depth (ctx.limited none) m →
        (below m).result = free.result ∧ (below m).context = free.context.limited (some m)) ∧
      (∀ m' typeRef, m ≤ m' → (below m).result = .ok typeRef → (below m').result = .ok typeRef ∧
        (below m').context = (below m).context.limited (some m')) ∧
      ∀ n limit place, NestsWithin n x → depth + n ≤ m →
        (below m).result ≠ .error (.tooDeep limit place) := by
  intro free below
  have hc : (ctx.limited none).maxDepth = none := rfl
  have same : ∀ limit, ¬ GoesDeeper refs x hint depth (ctx.limited none) limit →
      (below limit).result = free.result ∧
        (below limit).context = free.context.limited (some limit) := fun limit h =>
    same_of_shallow hc h
  have free_result : ∀ limit place, free.result ≠ .error (.tooDeep limit place) := fun limit place =>
    unlimited_notTooDeep refs _ x hint depth hc limit place
  refine ⟨⟨?_, abort_of_deeper hc⟩, same m, ?_, ?_⟩
  · rintro ⟨place, ha⟩
    by_contra hg
    exact free_result m place ((same m hg).1.symm.trans ha)
  · intro m' typeRef hm ha
    have hg : ¬ GoesDeeper refs x hint depth (ctx.limited none) m := by
      intro hg
      obtain ⟨place, he⟩ := abort_of_deeper hc hg
      cases ha.symm.trans he
    have first := same m hg
    have second := same m' (fun h => hg (h.mono hm))
    constructor
    · exact second.1.trans (first.1.symm.trans ha)
    · rw [second.2, first.2, limited_limited]
  · intro n limit place hn hm ha
    have hg : ¬ GoesDeeper refs x hint depth (ctx.limited none) m := by
      rintro ⟨fuel, v, hv, hd⟩
      have := visits_shallow refs fuel hn hint depth _ v hv
      omega
    exact free_result limit place ((same m hg).1.symm.trans ha)

end

def shelf : Value :=
  .map [(.text "books", .list [.map [(.text "tags", .list [])]])]

theorem shelf_limited :
    (∃ place, (infer ([] : Matcher String) shelf "Shelf" 0 { maxDepth := some 2 }).result =
        .error (.tooDeep 2 place)) ∧
      (infer ([] : Matcher String) shelf "Shelf" 0 { maxDepth := some 3 }).context =
        (infer ([] : Matcher String) shelf "Shelf" 0 {}).context.limited (some 3) ∧
      (infer ([] : Matcher String) shelf "Shelf" 0 { maxDepth := some 3 }).result = .ok "Shelf" ∧
      (infer ([] : Matcher String) shelf "Shelf" 0 { maxDepth := some 9 }).result = .ok "Shelf" ∧
      ∀ limit place, (infer ([] : Matcher String) shelf "Shelf" 0 { maxDepth := some 3 }).result ≠
        .error (.tooDeep limit place) := by
  have nests : NestsWithin 3 shelf := by
    simp [NestsWithin, shelf, parts, Sampled.layer, Value.layer, Layer.parts]
  have deep : ∃ v ∈ visitsWithin ([] : Matcher String) 5 shelf "Shelf" 0 {}, 2 < v.depth := by
    decide +kernel
  have shallow : ¬ GoesDeeper ([] : Matcher String) shelf "Shelf" 0 {} 3 := by
    rintro ⟨fuel, v, hv, hd⟩
    have := visits_shallow ([] : Matcher String) fuel nests "Shelf" 0 {} v hv
    omega
  have enough : (infer ([] : Matcher String) shelf "Shelf" 0 { maxDepth := some 3 }).result =
      .ok "Shelf" := by
    decide +kernel
  have below (m : Int) := limit_only_aborts ([] : Matcher String) shelf "Shelf" 0 m {}
  refine ⟨?_, ?_, enough, ?_, ?_⟩
  · exact (below 2).1.mpr ⟨5, deep⟩
  · exact ((below 3).2.1 shallow).2
  · exact ((below 3).2.2.1 9 "Shelf" (by decide) enough).1
  · exact fun limit place => (below 3).2.2.2 3 limit place nests (by decide)

end SampleTypes.Inference
