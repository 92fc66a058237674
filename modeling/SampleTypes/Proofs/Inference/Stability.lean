import SampleTypes.Proofs.Inference.Bookkeeping
import SampleTypes.Proofs.Sample.FirstItems

/-!
Answers that stay. An answer that a call has given is the answer of every later call for the same
sample at the same depth, whatever its hint: by then the names that it needs are bound, so the later
call binds and registers nothing.
-/

namespace SampleTypes.Inference

section

variable {α τ : Type} [Sampled α]

inductive Stands (refs : Matcher τ) (ctx : Context) : α → Int → String → Prop where
  | plain {x : α} {depth : Int} {typeRef : String} (hd : ctx.isTooDeep depth = false)
      (hp : plainType? x = some typeRef) : Stands refs ctx x depth typeRef
  | list {x first : α} {rest : List α} {depth : Int} {element : String}
      (hd : ctx.isTooDeep depth = false) (hl : Sampled.layer x = .list (first :: rest))
      (k : Stands refs ctx first (depth + 1) element) :
      Stands refs ctx x depth (element ++ arrayMark)
  | pinned {x : α} {entries : List (Scalar × α)} {depth : Int} {name : String}
      (hd : ctx.isTooDeep depth = false) (hl : Sampled.layer x = .record entries)
      (hp : pinned? refs entries = some name) : Stands refs ctx x depth name
  | known {x : α} {entries : List (Scalar × α)} {depth : Int} {name : String}
      (hd : ctx.isTooDeep depth = false) (hu : Unpinned refs x entries)
      (hs : valueOf? (fingerprint entries) ctx.seen = some name) : Stands refs ctx x depth name

theorem isTooDeep_congr {ctx later : Context} (hl : later.maxDepth = ctx.maxDepth) (depth : Int) :
    later.isTooDeep depth = ctx.isTooDeep depth := by
  simp [Context.isTooDeep, hl]

variable {refs : Matcher τ} {ctx : Context} {x : α} {depth : Int} {typeRef : String}

theorem Stands.mono (h : Stands refs ctx x depth typeRef) {later : Context}
    (hs : ctx.seen <+: later.seen) (hl : later.maxDepth = ctx.maxDepth) :
    Stands refs later x depth typeRef := by
  induction h with
  | plain hd hp => exact .plain (isTooDeep_congr hl _ ▸ hd) hp
  | list hd hx _ ih => exact .list (isTooDeep_congr hl _ ▸ hd) hx ih
  | pinned hd hx hp => exact .pinned (isTooDeep_congr hl _ ▸ hd) hx hp
  | known hd hu hv => exact .known (isTooDeep_congr hl _ ▸ hd) hu (valueOf_longer hs hv)

theorem Stands.of_pinned (h : Stands refs ctx x depth typeRef) {entries : List (Scalar × α)}
    (hx : Sampled.layer x = .record entries) {name : String}
    (hp : pinned? refs entries = some name) : typeRef = name := by
  cases h with
  | plain _ hp' => simp [plainType?, hx] at hp'
  | list _ hx' _ => simp [hx] at hx'
  | pinned _ hx' hp' =>
    obtain rfl := Layer.record.inj (hx.symm.trans hx')
    exact Option.some.inj (hp'.symm.trans hp)
  | known _ hu _ =>
    obtain rfl := Layer.record.inj (hx.symm.trans hu.layer)
    simp [hu.unpinned] at hp

theorem Stands.of_unpinned (h : Stands refs ctx x depth typeRef) {entries : List (Scalar × α)}
    (hx : Sampled.layer x = .record entries) (hp : pinned? refs entries = none) :
    Unpinned refs x entries ∧ valueOf? (fingerprint entries) ctx.seen = some typeRef := by
  cases h with
  | plain _ hp' => simp [plainType?, hx] at hp'
  | list _ hx' _ => simp [hx] at hx'
  | pinned _ hx' hp' =>
    obtain rfl := Layer.record.inj (hx.symm.trans hx')
    simp [hp] at hp'
  | known _ hu hs =>
    obtain rfl := Layer.record.inj (hx.symm.trans hu.layer)
    exact ⟨hu, hs⟩

/-- Asked again, a call goes down a chain of first items and no further. -/
theorem Stands.courses (h : Stands refs ctx x depth typeRef) :
    ∃ n, FirstItems x n ∧ ∀ fuel hint, n < fuel →
      ∃ visits, courseWithin refs fuel x hint depth ctx = ⟨.ok typeRef, ctx, visits⟩ := by
  induction h with
  | @plain x depth typeRef hd hp =>
    refine ⟨0, .stop fun first rest hl => by simp [plainType?, hl] at hp, ?_⟩
    intro fuel hint hf
    obtain ⟨fuel, rfl⟩ := Nat.exists_eq_succ_of_ne_zero (Nat.ne_of_gt hf)
    exact ⟨_, course_plain fuel hint hd hp⟩
  | @list x first rest depth element hd hl _ ih =>
    obtain ⟨n, hc, ha⟩ := ih
    refine ⟨n + 1, .step hl hc, ?_⟩
    intro fuel hint hf
    obtain ⟨fuel, rfl⟩ := Nat.exists_eq_succ_of_ne_zero (Nat.ne_of_gt (Nat.zero_lt_of_lt hf))
    obtain ⟨visits, hv⟩ := ha fuel (itemHint hint) (Nat.lt_of_succ_lt_succ hf)
    refine ⟨⟨x, hint, depth, .ok (element ++ arrayMark)⟩ :: visits, ?_⟩
    rw [course_list fuel hint hd hl]
    simp only [hv, called, Except.map]
  | @pinned x entries depth name hd hl hp =>
    refine ⟨0, .stop fun first rest hx => by simp [hl] at hx, ?_⟩
    intro fuel hint hf
    obtain ⟨fuel, rfl⟩ := Nat.exists_eq_succ_of_ne_zero (Nat.ne_of_gt hf)
    exact ⟨_, course_pinned fuel hint hd hl hp⟩
  | @known x entries depth name hd hu hs =>
    refine ⟨0, .stop fun first rest hx => by simp [hu.layer] at hx, ?_⟩
    intro fuel hint hf
    obtain ⟨fuel, rfl⟩ := Nat.exists_eq_succ_of_ne_zero (Nat.ne_of_gt hf)
    exact ⟨_, course_known fuel hint hd hu hs⟩

theorem Stands.again [BoundedSample α] (h : Stands refs ctx x depth typeRef) (hint : String) :
    (infer refs x hint depth ctx).result = .ok typeRef ∧
      (infer refs x hint depth ctx).context = ctx := by
  obtain ⟨n, hc, ha⟩ := h.courses
  have hn : n < callBound x depth ctx := by
    have := BoundedSample.first_items_le hc
    unfold callBound
    omega
  obtain ⟨visits, hv⟩ := ha _ hint hn
  exact ⟨congrArg Course.answer hv, congrArg Course.context hv⟩

def VisitsStand (refs : Matcher τ) (ctx : Context) (visits : List (Visit α)) : Prop :=
  ∀ v ∈ visits, ∃ typeRef, v.answer = .ok typeRef ∧ Stands refs ctx v.sample v.depth typeRef

theorem VisitsStand.mono {visits : List (Visit α)} (h : VisitsStand refs ctx visits)
    {later : Context} (hs : ctx.seen <+: later.seen) (hl : later.maxDepth = ctx.maxDepth) :
    VisitsStand refs later visits := by
  intro v hv
  obtain ⟨typeRef, ha, hk⟩ := h v hv
  exact ⟨typeRef, ha, hk.mono hs hl⟩

/-- A call with an answer that stands, after calls with answers that stand. -/
theorem VisitsStand.called {inner : List (Visit α)} (k : VisitsStand refs ctx inner)
    (h : Stands refs ctx x depth typeRef) (hint : String) :
    VisitsStand refs ctx (called x hint depth (.ok typeRef) ctx inner).visits := by
  intro v hv
  rcases List.mem_cons.mp hv with rfl | hv
  · exact ⟨typeRef, rfl, h⟩
  · exact k v hv

def FieldStands (refs : Matcher τ) (ctx : Context) (depth : Int) (f : Field String)
    (entry : Scalar × α) : Prop :=
  f = fieldOf entry f.typeRef ∧ Stands refs ctx entry.2 depth f.typeRef

theorem FieldStands.mono {f : Field String} {entry : Scalar × α}
    (h : FieldStands refs ctx depth f entry) {later : Context} (hs : ctx.seen <+: later.seen)
    (hl : later.maxDepth = ctx.maxDepth) : FieldStands refs later depth f entry :=
  ⟨h.1, h.2.mono hs hl⟩

structure CallStands (refs : Matcher τ) (x : α) (depth : Int) (c : Course α String) : Prop where
  answer : ∀ typeRef, c.answer = .ok typeRef → Stands refs c.context x depth typeRef
  visits : ∀ typeRef, c.answer = .ok typeRef → VisitsStand refs c.context c.visits

structure RunStands (refs : Matcher τ) (depth : Int) (entries : List (Scalar × α))
    (c : Course α (List (Field String))) : Prop where
  answers : ∀ fields, c.answer = .ok fields →
    List.Forall₂ (FieldStands refs c.context depth) fields entries
  visits : ∀ fields, c.answer = .ok fields → VisitsStand refs c.context c.visits

theorem CallStands.failure (x : α) (depth : Int) {c : Course α String} {e : Failure}
    (h : c.answer = .error e) : CallStands refs x depth c := by
  constructor <;> simp [h]

theorem RunStands.failure (depth : Int) (entries : List (Scalar × α))
    {c : Course α (List (Field String))} {e : Failure} (h : c.answer = .error e) :
    RunStands refs depth entries c := by
  constructor <;> simp [h]

theorem CallStands.called (h : Stands refs ctx x depth typeRef) {inner : List (Visit α)}
    (k : VisitsStand refs ctx inner) (hint : String) :
    CallStands refs x depth (called x hint depth (.ok typeRef) ctx inner) := by
  refine ⟨?_, ?_⟩
  · rintro _ ⟨⟩
    exact h
  · rintro _ -
    exact k.called h hint

theorem stability (refs : Matcher τ) (reserved : List String) : Contract refs
    (fun (x : α) _ depth ctx c => Bookkept reserved ctx → CallStands refs x depth c)
    (fun depth entries ctx c => Bookkept reserved ctx → RunStands refs depth entries c) where
  failed x _ depth _ _ _ := .failure x depth rfl
  plain _ hint _ _ _ hd hp _ := .called (.plain hd hp) (fun _ hv => by cases hv) hint
  list x _ _ hint depth _ c hd hl hi hc hb := by
    have k := hc hb
    rcases c with ⟨answer, new, inner⟩
    cases answer with
    | error e => exact .failure x depth rfl
    | ok element =>
      have hn := (hi.advances hb).extension
      exact .called (.list (isTooDeep_congr hn.limit _ ▸ hd) hl (k.answer element rfl))
        (k.visits element rfl) hint
  pinned _ _ hint _ _ _ hd hl hp _ := .called (.pinned hd hl hp) (fun _ hv => by cases hv) hint
  known _ _ hint _ _ _ hd hu hs _ := .called (.known hd hu hs) (fun _ hv => by cases hv) hint
  described x entries hint depth ctx fields new inner hd hu hs hr hq hb := by
    have k := hq (hb.bind hs hint)
    have hn := ((bind_extends ctx _ hint).trans (hr.advances (hb.bind hs hint)).extension).limit
    have hv : valueOf? (fingerprint entries) new.seen =
        some (ctx.bind (fingerprint entries) hint).1 := by
      refine valueOf_longer (hr.advances (hb.bind hs hint)).extension.seen ?_
      exact valueOf_append_self (valueOf_eq_none.mp hs) _
    have hx : Stands refs new x depth (ctx.bind (fingerprint entries) hint).1 :=
      .known ((isTooDeep_congr hn depth).trans hd) hu hv
    apply CallStands.called
    · exact hx.mono List.prefix_rfl rfl
    · exact (k.visits fields rfl).mono List.prefix_rfl rfl
  abandoned x _ _ depth _ _ _ _ _ _ _ _ _ := .failure x depth rfl
  noFields _ _ _ := by
    refine ⟨?_, fun _ _ _ hv => by cases hv⟩
    rintro _ ⟨⟩
    exact .nil
  field entry rest depth ctx typeRef new inner c hi hp hr hq hb := by
    have a := hi.advances hb
    have e := (hr.advances a.bookkept).extension
    have k := hp hb
    have l := hq a.bookkept
    rcases c with ⟨answer, last, more⟩
    cases answer with
    | error e => exact .failure depth _ rfl
    | ok fields =>
      refine ⟨?_, fun _ _ v hv => ?_⟩
      · rintro _ ⟨⟩
        exact .cons ⟨rfl, (k.answer typeRef rfl).mono e.seen e.limit⟩ (l.answers fields rfl)
      · rcases List.mem_append.mp hv with hv | hv
        · exact (k.visits typeRef rfl).mono e.seen e.limit v hv
        · exact l.visits fields rfl v hv
  failedField _ _ depth _ _ _ _ _ _ := .failure depth _ rfl

theorem IsCall.stands {reserved : List String} {hint : String} {c : Course α String}
    (h : IsCall refs x hint depth ctx c) (hb : Bookkept reserved ctx) :
    CallStands refs x depth c :=
  (stability refs reserved).call h hb

theorem IsRun.stands {reserved : List String} {entries : List (Scalar × α)}
    {c : Course α (List (Field String))} (h : IsRun refs depth entries ctx c)
    (hb : Bookkept reserved ctx) : RunStands refs depth entries c :=
  (stability refs reserved).run h hb

end

end SampleTypes.Inference
