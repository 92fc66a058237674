import SampleTypes.Catalog.Registry
import SampleTypes.Proofs.Basic
import SampleTypes.Proofs.Inference.Course
import SampleTypes.Proofs.Naming.FirstFree

/-!
What the parts of a context have to do with each other. A name is bound to a signature before the
fields of its record are looked at, and registered after them, so between calls that have ended well
every bound name is registered, while a call that fails leaves names that are bound and not
registered. Everything else holds after every call.
-/

namespace SampleTypes.Catalog

variable {τ : Type} [BEq τ] [LawfulBEq τ]

theorem get_eq_none {c : Catalog τ} {name : τ} : c.get? name = none ↔ name ∉ c.names := by
  simp only [get?, List.find?_eq_none, names, List.mem_map, not_exists, not_and, beq_iff_eq]

theorem register_new {c : Catalog τ} {t : TypeDecl τ} (h : t.name ∉ c.names) :
    (c.register t).2 = c ++ [t] := by
  simp [register, get_eq_none.mpr h]

omit [LawfulBEq τ] in
theorem mem_register {c : Catalog τ} {t u : TypeDecl τ} (h : u ∈ (c.register t).2) :
    u ∈ c ∨ u = t := by
  unfold register at h
  split at h
  · exact Or.inl h
  · simpa using h

end SampleTypes.Catalog

namespace SampleTypes.Inference

def Context.signatures (ctx : Context) : List String := ctx.seen.map Prod.fst

def Context.boundNames (ctx : Context) : List String := ctx.seen.map Prod.snd

structure Bookkept (reserved : List String) (ctx : Context) : Prop where
  signatures_distinct : ctx.signatures.Nodup
  names_distinct : ctx.boundNames.Nodup
  unreserved : ∀ name ∈ ctx.boundNames, name ∉ reserved
  taken : ∀ name, name ∈ ctx.names.taken ↔ name ∈ reserved ∨ name ∈ ctx.boundNames
  counted : ctx.names.Counted
  registered_distinct : (Catalog.names ctx.catalog).Nodup
  registered_bound : ∀ name ∈ Catalog.names ctx.catalog, name ∈ ctx.boundNames

/-- Nothing is lost or changed, and what is registered later has a name that was bound later: the
ancestors of a record, whose names are bound, are not registered while it is looked at. -/
structure Extends (old new : Context) : Prop where
  catalog : old.catalog <+: new.catalog
  seen : old.seen <+: new.seen
  limit : new.maxDepth = old.maxDepth
  later : ∀ name ∈ Catalog.names new.catalog,
    name ∈ Catalog.names old.catalog ∨ name ∉ old.boundNames

def Settled (old new : Context) : Prop :=
  ∀ name ∈ new.boundNames, name ∈ Catalog.names new.catalog ∨ name ∈ old.boundNames

def Complete (ctx : Context) : Prop :=
  ∀ name ∈ ctx.boundNames, name ∈ Catalog.names ctx.catalog

/-- A context before the first call, whose allocator never gives the reserved names. -/
def freshContext (reserved : List String) (limit : Option Int) : Context :=
  { names := .reserving reserved, maxDepth := limit }

theorem Extends.refl (ctx : Context) : Extends ctx ctx :=
  ⟨List.prefix_rfl, List.prefix_rfl, rfl, fun _ h => Or.inl h⟩

theorem Extends.boundNames {old new : Context} (h : Extends old new) {name : String}
    (hn : name ∈ old.boundNames) : name ∈ new.boundNames :=
  (h.seen.map Prod.snd).subset hn

theorem Extends.registered {old new : Context} (h : Extends old new) {name : String}
    (hn : name ∈ Catalog.names old.catalog) : name ∈ Catalog.names new.catalog :=
  (h.catalog.map TypeDecl.name).subset hn

theorem Extends.trans {a b c : Context} (h : Extends a b) (k : Extends b c) : Extends a c := by
  refine ⟨h.catalog.trans k.catalog, h.seen.trans k.seen, k.limit.trans h.limit, ?_⟩
  intro name hn
  rcases k.later name hn with hb | hb
  · exact h.later name hb
  · exact Or.inr fun ha => hb (h.boundNames ha)

theorem Settled.refl (ctx : Context) : Settled ctx ctx := fun _ h => Or.inr h

theorem Settled.trans {a b c : Context} (h : Settled a b) (k : Settled b c)
    (e : Extends b c) : Settled a c := by
  intro name hn
  rcases k name hn with hc | hb
  · exact Or.inl hc
  · exact (h name hb).imp_left e.registered

section Bind

variable (ctx : Context) (signature hint : String)

theorem bind_seen : (ctx.bind signature hint).2.seen =
    ctx.seen ++ [(signature, (ctx.bind signature hint).1)] := rfl

theorem bind_boundNames : (ctx.bind signature hint).2.boundNames =
    ctx.boundNames ++ [(ctx.bind signature hint).1] := by
  simp [Context.boundNames, bind_seen]

theorem bind_catalog : (ctx.bind signature hint).2.catalog = ctx.catalog := rfl

theorem bind_taken : (ctx.bind signature hint).2.names.taken =
    ctx.names.taken ++ [(ctx.bind signature hint).1] :=
  Allocator.allocate_taken ctx.names hint

theorem bind_fresh : (ctx.bind signature hint).1 ∉ ctx.names.taken :=
  Allocator.allocate_fresh ctx.names hint

theorem bind_extends : Extends ctx (ctx.bind signature hint).2 :=
  ⟨List.prefix_rfl, List.prefix_append _ _, rfl, fun _ h => Or.inl h⟩

end Bind

theorem Bookkept.bind {reserved : List String} {ctx : Context} (h : Bookkept reserved ctx)
    {signature : String} (hs : valueOf? signature ctx.seen = none) (hint : String) :
    Bookkept reserved (ctx.bind signature hint).2 := by
  have hf := bind_fresh ctx signature hint
  have hname : (ctx.bind signature hint).1 ∉ ctx.boundNames :=
    fun hn => hf ((h.taken _).mpr (Or.inr hn))
  constructor
  · have hnew : signature ∉ ctx.signatures := valueOf_eq_none.mp hs
    simpa [Context.signatures, bind_seen] using List.Nodup.concat hnew h.signatures_distinct
  · simpa [bind_boundNames] using List.Nodup.concat hname h.names_distinct
  · intro name hn
    rw [bind_boundNames, List.mem_append, List.mem_singleton] at hn
    rcases hn with hn | rfl
    · exact h.unreserved name hn
    · exact fun hr => hf ((h.taken _).mpr (Or.inl hr))
  · intro name
    rw [bind_boundNames, bind_taken, List.mem_append, List.mem_append, h.taken, or_assoc]
  · exact h.counted.allocate hint
  · exact h.registered_distinct
  · intro name hn
    exact (bind_extends ctx signature hint).boundNames (h.registered_bound name hn)

theorem Bookkept.register {reserved : List String} {ctx : Context} (h : Bookkept reserved ctx)
    {t : TypeDecl String} (hb : t.name ∈ ctx.boundNames) (hn : t.name ∉ Catalog.names ctx.catalog) :
    Bookkept reserved { ctx with catalog := ctx.catalog ++ [t] } := by
  refine ⟨h.signatures_distinct, h.names_distinct, h.unreserved, h.taken, h.counted, ?_, ?_⟩
  · simpa [Catalog.names] using List.Nodup.concat hn h.registered_distinct
  · intro name hm
    simp only [Catalog.names, List.map_append, List.map_cons, List.map_nil, List.mem_append,
      List.mem_singleton] at hm
    rcases hm with hm | rfl
    · exact h.registered_bound name hm
    · exact hb

theorem Bookkept.taken_mono {reserved : List String} {old new : Context} (h : Bookkept reserved old)
    (k : Bookkept reserved new) (e : Extends old new) : old.names.taken ⊆ new.names.taken := by
  intro name hn
  rw [k.taken]
  exact ((h.taken name).mp hn).imp_right e.boundNames

structure Advances {α β : Type} (reserved : List String) (ctx : Context) (c : Course α β) :
    Prop where
  bookkept : Bookkept reserved c.context
  extension : Extends ctx c.context
  settled : ∀ a, c.answer = .ok a → Settled ctx c.context

theorem Advances.stay {α β : Type} {reserved : List String} {ctx : Context}
    (h : Bookkept reserved ctx) (answer : Except Failure β) (visits : List (Visit α)) :
    Advances reserved ctx (⟨answer, ctx, visits⟩ : Course α β) :=
  ⟨h, Extends.refl ctx, fun _ _ => Settled.refl ctx⟩

section

variable {α τ : Type} [Sampled α]

/-- The name of a record is free to be registered once its fields have been looked at. -/
theorem unregistered {reserved : List String} {ctx new : Context} {signature hint : String}
    (h : Bookkept reserved ctx) (e : Extends (ctx.bind signature hint).2 new) :
    (ctx.bind signature hint).1 ∉ Catalog.names new.catalog := by
  intro hn
  rcases e.later _ hn with hr | hb
  · rw [bind_catalog] at hr
    exact bind_fresh ctx signature hint ((h.taken _).mpr (Or.inr (h.registered_bound _ hr)))
  · simp [bind_boundNames] at hb

omit [Sampled α] in
theorem described_advances {reserved : List String} {ctx : Context} {signature hint : String}
    (h : Bookkept reserved ctx) {fields : List (Field String)} {new : Context}
    {visits inner : List (Visit α)} {answer : Except Failure String}
    (k : Advances reserved (ctx.bind signature hint).2
      (⟨.ok fields, new, inner⟩ : Course α (List (Field String)))) :
    Advances reserved ctx ⟨answer, { new with catalog := (Catalog.register new.catalog
      { name := (ctx.bind signature hint).1, fields := fields }).2 }, visits⟩ := by
  have hbound : (ctx.bind signature hint).1 ∈ new.boundNames :=
    k.extension.boundNames (by simp [bind_boundNames])
  have hfree := unregistered h k.extension
  have hext := (bind_extends ctx signature hint).trans k.extension
  rw [Catalog.register_new hfree]
  refine ⟨k.bookkept.register hbound hfree, ⟨?_, hext.seen, hext.limit, ?_⟩, ?_⟩
  · exact hext.catalog.trans (List.prefix_append _ _)
  · intro name hn
    simp only [Catalog.names, List.map_append, List.map_cons, List.map_nil, List.mem_append,
      List.mem_singleton] at hn
    rcases hn with hn | rfl
    · exact hext.later name hn
    · exact Or.inr fun hb => bind_fresh ctx signature hint ((h.taken _).mpr (Or.inr hb))
  · intro _ _ name hn
    simp only [Catalog.names, List.map_append, List.map_cons, List.map_nil, List.mem_append,
      List.mem_singleton]
    rcases k.settled fields rfl name hn with hr | hb
    · exact Or.inl (Or.inl hr)
    · rw [bind_boundNames, List.mem_append, List.mem_singleton] at hb
      rcases hb with hb | hb
      · exact Or.inr hb
      · exact Or.inl (Or.inr hb)

theorem bookkeeping (refs : Matcher τ) (reserved : List String) : Contract refs
    (fun (_ : α) _ _ ctx c => Bookkept reserved ctx → Advances reserved ctx c)
    (fun _ _ ctx c => Bookkept reserved ctx → Advances reserved ctx c) where
  failed _ _ _ _ _ h := .stay h _ _
  plain _ _ _ _ _ _ _ h := .stay h _ _
  list _ _ _ _ _ _ c _ _ _ hc h := by
    have k := hc h
    refine ⟨k.bookkept, k.extension, fun a ha => ?_⟩
    cases hr : c.answer with
    | error e => simp [called, hr, Except.map] at ha
    | ok b => exact k.settled b hr
  pinned _ _ _ _ _ _ _ _ _ h := .stay h _ _
  known _ _ _ _ _ _ _ _ _ h := .stay h _ _
  described _ _ hint _ _ _ _ _ _ _ hs _ hq h := described_advances h (hq (h.bind hs hint))
  abandoned _ _ hint _ _ _ _ _ _ _ hs hq h := by
    have k := hq (h.bind hs hint)
    exact ⟨k.bookkept, (bind_extends _ _ hint).trans k.extension, fun a ha => by cases ha⟩
  noFields _ _ h := .stay h _ _
  field _ _ _ _ _ _ _ c _ hp _ hq h := by
    have k := hp h
    have l := hq k.bookkept
    refine ⟨l.bookkept, k.extension.trans l.extension, fun a ha => ?_⟩
    cases hr : c.answer with
    | error e => simp [hr, Except.map] at ha
    | ok b => exact (k.settled _ rfl).trans (l.settled b hr) l.extension
  failedField _ _ _ _ _ _ _ hp h := by
    have k := hp h
    exact ⟨k.bookkept, k.extension, fun a ha => by cases ha⟩

theorem IsCall.advances {refs : Matcher τ} {reserved : List String} {x : α} {hint : String}
    {depth : Int} {ctx : Context} {c : Course α String} (h : IsCall refs x hint depth ctx c)
    (hb : Bookkept reserved ctx) : Advances reserved ctx c :=
  (bookkeeping refs reserved).call h hb

theorem IsRun.advances {refs : Matcher τ} {reserved : List String} {depth : Int}
    {entries : List (Scalar × α)} {ctx : Context} {c : Course α (List (Field String))}
    (h : IsRun refs depth entries ctx c) (hb : Bookkept reserved ctx) :
    Advances reserved ctx c :=
  (bookkeeping refs reserved).run h hb

theorem infer_advances {reserved : List String} (refs : Matcher τ) (x : α) (hint : String)
    (depth : Int) {ctx : Context} (h : Bookkept reserved ctx) :
    Advances reserved ctx (course refs x hint depth ctx) :=
  IsCall.advances ⟨_, rfl⟩ h

end

theorem fresh_bookkept (reserved : List String) (limit : Option Int) :
    Bookkept reserved (freshContext reserved limit) := by
  have hc : (freshContext reserved limit).names.Counted := Allocator.counted_reserving reserved
  constructor
  case counted => exact hc
  all_goals simp [freshContext, Context.signatures, Context.boundNames, Catalog.names,
    Allocator.reserving]

theorem fresh_complete (reserved : List String) (limit : Option Int) :
    Complete (freshContext reserved limit) := by
  intro name hn
  simp [freshContext, Context.boundNames] at hn

theorem Advances.complete {α β : Type} {reserved : List String} {ctx : Context} {c : Course α β}
    (h : Advances reserved ctx c) (hc : Complete ctx) {b : β} (hb : c.answer = .ok b) :
    Complete c.context := by
  intro name hn
  rcases h.settled b hb name hn with hr | ho
  · exact hr
  · exact h.extension.registered (hc name ho)

theorem Bookkept.registered_perm {reserved : List String} {ctx : Context}
    (h : Bookkept reserved ctx) (hc : Complete ctx) :
    (Catalog.names ctx.catalog).Perm ctx.boundNames := by
  refine (List.perm_ext_iff_of_nodup h.registered_distinct h.names_distinct).mpr fun name => ?_
  exact ⟨h.registered_bound name, hc name⟩

end SampleTypes.Inference
