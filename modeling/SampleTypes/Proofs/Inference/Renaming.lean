import Mathlib.Data.Set.Function
import SampleTypes.Proofs.Inference.Closure

/-!
Two runs of inference on one sample that differ in their hints and reserved names. Their allocators
part at once, but every decision is made by shape, so the runs stay in step: they fail alike, or they
bind one name each for the same signatures in the same order and register types that differ in these
names only.
-/

namespace SampleTypes.Inference

/-- Equal, or the same array over a name and the name that stands for it. -/
def RenamedType (R : String → String → Prop) (s t : String) : Prop :=
  s = t ∨ ∃ m n dimensions, R m n ∧ s = arrayOf m dimensions ∧ t = arrayOf n dimensions

structure RenamedField (R : String → String → Prop) (f g : Field String) : Prop where
  name : f.name = g.name
  required : f.required = g.required
  typeRef : RenamedType R f.typeRef g.typeRef

structure RenamedDecl (R : String → String → Prop) (t u : TypeDecl String) : Prop where
  name : R t.name u.name
  fields : List.Forall₂ (RenamedField R) t.fields u.fields

section

variable {R S : String → String → Prop}

theorem RenamedType.mono (h : ∀ m n, R m n → S m n) {s t : String} (k : RenamedType R s t) :
    RenamedType S s t :=
  k.imp_right fun ⟨m, n, d, hr, hs, ht⟩ => ⟨m, n, d, h m n hr, hs, ht⟩

theorem RenamedType.name {m n : String} (h : R m n) : RenamedType R m n :=
  Or.inr ⟨m, n, 0, h, rfl, rfl⟩

theorem RenamedType.array {s t : String} (h : RenamedType R s t) :
    RenamedType R (s ++ arrayMark) (t ++ arrayMark) := by
  rcases h with rfl | ⟨m, n, d, hr, rfl, rfl⟩
  · exact Or.inl rfl
  · exact Or.inr ⟨m, n, d + 1, hr, rfl, rfl⟩

theorem RenamedField.mono (h : ∀ m n, R m n → S m n) {f g : Field String}
    (k : RenamedField R f g) : RenamedField S f g :=
  ⟨k.name, k.required, k.typeRef.mono h⟩

theorem RenamedDecl.mono (h : ∀ m n, R m n → S m n) {t u : TypeDecl String}
    (k : RenamedDecl R t u) : RenamedDecl S t u :=
  ⟨h _ _ k.name, k.fields.imp fun _ _ => RenamedField.mono h⟩

end

def Failure.unplaced : Failure → Failure
  | .tooDeep limit _ => .tooDeep limit ""
  | e => e

inductive AnswersAlike {β : Type} (R : β → β → Prop) : Except Failure β → Except Failure β → Prop
  where
  | failed {d e : Failure} (h : d.unplaced = e.unplaced) : AnswersAlike R (.error d) (.error e)
  | done {a b : β} (h : R a b) : AnswersAlike R (.ok a) (.ok b)

theorem AnswersAlike.map {β γ : Type} {R : β → β → Prop} {S : γ → γ → Prop} {f g : β → γ}
    {a b : Except Failure β} (h : AnswersAlike R a b) (k : ∀ x y, R x y → S (f x) (g y)) :
    AnswersAlike S (a.map f) (b.map g) := by
  cases h with
  | failed h => exact .failed h
  | done h => exact .done (k _ _ h)

def Paired (a b : Context) (m n : String) : Prop := (m, n) ∈ a.boundNames.zip b.boundNames

structure Alike (a b : Context) : Prop where
  signatures : a.signatures = b.signatures
  limit : a.maxDepth = b.maxDepth
  catalog : List.Forall₂ (RenamedDecl (Paired a b)) a.catalog b.catalog

section

variable {a b a' b' : Context}

theorem Alike.bound_length (h : Alike a b) : a.boundNames.length = b.boundNames.length := by
  have hl := congrArg List.length h.signatures
  simpa [Context.signatures, Context.boundNames] using hl

theorem Alike.paired_mono (h : Alike a b) (ha : Extends a a') (hb : Extends b b') (m n : String)
    (hp : Paired a b m n) : Paired a' b' m n := by
  obtain ⟨more, hm⟩ := ha.seen.map Prod.snd
  obtain ⟨more', hm'⟩ := hb.seen.map Prod.snd
  have hz : a'.boundNames.zip b'.boundNames = a.boundNames.zip b.boundNames ++ more.zip more' := by
    rw [Context.boundNames, Context.boundNames, ← hm, ← hm']
    exact List.zip_append h.bound_length
  rw [Paired, hz]
  exact List.mem_append_left _ hp

theorem Alike.tooDeep (h : Alike a b) (depth : Int) : b.isTooDeep depth = a.isTooDeep depth := by
  rw [Context.isTooDeep, Context.isTooDeep, h.limit]

theorem Alike.unknown (h : Alike a b) {signature : String}
    (hs : valueOf? signature a.seen = none) : valueOf? signature b.seen = none := by
  have hn : signature ∉ a.signatures := valueOf_eq_none.mp hs
  rw [h.signatures] at hn
  exact valueOf_eq_none.mpr hn

theorem Alike.known (h : Alike a b) {signature m : String}
    (hs : valueOf? signature a.seen = some m) :
    ∃ n, valueOf? signature b.seen = some n ∧ Paired a b m n :=
  valueOf_zip h.signatures hs

theorem Alike.bind (h : Alike a b) (signature hint hint' : String) :
    Alike (a.bind signature hint).2 (b.bind signature hint').2 ∧
      Paired (a.bind signature hint).2 (b.bind signature hint').2
        (a.bind signature hint).1 (b.bind signature hint').1 := by
  refine ⟨⟨?_, h.limit, ?_⟩, ?_⟩
  · have hs := h.signatures
    simp only [Context.signatures] at hs
    simp [Context.signatures, bind_seen, hs]
  · rw [bind_catalog, bind_catalog]
    exact h.catalog.imp fun _ _ =>
      RenamedDecl.mono (h.paired_mono (bind_extends _ _ _) (bind_extends _ _ _))
  · rw [Paired, bind_boundNames, bind_boundNames, List.zip_append h.bound_length]
    exact List.mem_append_right _ (List.mem_singleton_self _)

/-- Types go to the ends of the catalogs, as both names are new there. -/
theorem Alike.register (h : Alike a b) {m n : String} (hp : Paired a b m n)
    (hm : m ∉ Catalog.names a.catalog) (hn : n ∉ Catalog.names b.catalog)
    {fields fields' : List (Field String)}
    (hf : List.Forall₂ (RenamedField (Paired a b)) fields fields') :
    Alike
      { a with catalog := (Catalog.register a.catalog { name := m, fields := fields }).2 }
      { b with catalog := (Catalog.register b.catalog { name := n, fields := fields' }).2 } := by
  rw [Catalog.register_new hm, Catalog.register_new hn]
  exact ⟨h.signatures, h.limit, List.rel_append h.catalog (.cons ⟨hp, hf⟩ .nil)⟩

end

structure InStep {α β : Type} (L : (String → String → Prop) → β → β → Prop) (c d : Course α β) :
    Prop where
  contexts : Alike c.context d.context
  answers : AnswersAlike (L (Paired c.context d.context)) c.answer d.answer

section

variable {α τ : Type} [Sampled α] {refs : Matcher τ} {reserved reserved' : List String}

/-- The calls with so many nested ones are in step if their contexts are. -/
def CallsInStep (α : Type) [Sampled α] (refs : Matcher τ) (reserved reserved' : List String)
    (fuel : Nat) : Prop :=
  ∀ (x : α) (hint hint' : String) (depth : Int) (a b : Context),
    Bookkept reserved a → Bookkept reserved' b → Alike a b →
      InStep RenamedType (courseWithin refs fuel x hint depth a)
        (courseWithin refs fuel x hint' depth b)

theorem fields_inStep {fuel : Nat} (calls : CallsInStep α refs reserved reserved' fuel)
    (depth : Int) (entries : List (Scalar × α)) {a b : Context} (ha : Bookkept reserved a)
    (hb : Bookkept reserved' b) (h : Alike a b) :
    InStep (fun R => List.Forall₂ (RenamedField R)) (fieldsWithin refs fuel depth entries a)
      (fieldsWithin refs fuel depth entries b) := by
  induction entries generalizing a b with
  | nil => exact ⟨h, .done .nil⟩
  | cons entry rest ih =>
    have hc := calls entry.2 (fieldHint entry.1) (fieldHint entry.1) depth a b ha hb h
    have ka : Advances reserved a (courseWithin refs fuel entry.2 (fieldHint entry.1) depth a) :=
      IsCall.advances ⟨fuel, rfl⟩ ha
    have kb : Advances reserved' b (courseWithin refs fuel entry.2 (fieldHint entry.1) depth b) :=
      IsCall.advances ⟨fuel, rfl⟩ hb
    rw [fields_cons, fields_cons]
    generalize courseWithin refs fuel entry.2 (fieldHint entry.1) depth a = c at hc ka
    generalize courseWithin refs fuel entry.2 (fieldHint entry.1) depth b = d at hc kb
    obtain ⟨answer, new, visits⟩ := c
    obtain ⟨answer', new', visits'⟩ := d
    obtain ⟨hx, hr⟩ := hc
    cases hr with
    | failed he => exact ⟨hx, .failed he⟩
    | @done typeRef typeRef' ht =>
      have hf := ih ka.bookkept kb.bookkept hx
      have la : Advances reserved _ (fieldsWithin refs fuel depth rest _) :=
        IsRun.advances ⟨fuel, rfl⟩ ka.bookkept
      have lb : Advances reserved' _ (fieldsWithin refs fuel depth rest _) :=
        IsRun.advances ⟨fuel, rfl⟩ kb.bookkept
      refine ⟨hf.contexts, hf.answers.map fun _ _ hl => .cons ⟨rfl, rfl, ?_⟩ hl⟩
      exact ht.mono (hx.paired_mono la.extension lb.extension)

/-- A record of a new signature: the names differ, and the fields are in step. -/
theorem new_inStep {fuel : Nat} (calls : CallsInStep α refs reserved reserved' fuel) {x : α}
    {entries : List (Scalar × α)} (hu : Unpinned refs x entries) (hint hint' : String)
    {depth : Int} {a b : Context} (ha : Bookkept reserved a) (hb : Bookkept reserved' b)
    (h : Alike a b) (hd : a.isTooDeep depth = false)
    (hs : valueOf? (fingerprint entries) a.seen = none) :
    InStep RenamedType (courseWithin refs (fuel + 1) x hint depth a)
      (courseWithin refs (fuel + 1) x hint' depth b) := by
  have hs' := h.unknown hs
  obtain ⟨hbind, hpair⟩ := h.bind (fingerprint entries) hint hint'
  have hf := fields_inStep calls (depth + 1) entries (ha.bind hs hint) (hb.bind hs' hint') hbind
  have ka : Advances reserved _ (fieldsWithin refs fuel (depth + 1) entries _) :=
    IsRun.advances ⟨fuel, rfl⟩ (ha.bind hs hint)
  have kb : Advances reserved' _ (fieldsWithin refs fuel (depth + 1) entries _) :=
    IsRun.advances ⟨fuel, rfl⟩ (hb.bind hs' hint')
  rw [course_new fuel hint hd hu hs, course_new fuel hint' ((h.tooDeep depth).trans hd) hu hs']
  generalize fieldsWithin refs fuel (depth + 1) entries (a.bind _ hint).2 = c at hf ka
  generalize fieldsWithin refs fuel (depth + 1) entries (b.bind _ hint').2 = d at hf kb
  obtain ⟨answer, new, visits⟩ := c
  obtain ⟨answer', new', visits'⟩ := d
  obtain ⟨hx, hr⟩ := hf
  cases hr with
  | failed he => exact ⟨hx, .failed he⟩
  | done hl =>
    have hp := hbind.paired_mono ka.extension kb.extension _ _ hpair
    have hreg := hx.register hp (unregistered ha ka.extension) (unregistered hb kb.extension) hl
    exact ⟨hreg, .done (.name hp)⟩

theorem calls_inStep (refs : Matcher τ) (reserved reserved' : List String) (fuel : Nat) :
    CallsInStep α refs reserved reserved' fuel := by
  induction fuel with
  | zero => exact fun _ _ _ _ _ _ _ _ h => ⟨h, .failed rfl⟩
  | succ fuel ih =>
    intro x hint hint' depth a b ha hb h
    have hd' := h.tooDeep depth
    cases hd : a.isTooDeep depth with
    | true =>
      rw [course_tooDeep fuel hint hd, course_tooDeep fuel hint' (hd'.trans hd), h.limit]
      exact ⟨h, .failed rfl⟩
    | false =>
      have hd' := hd'.trans hd
      cases hp : plainType? x with
      | some typeRef =>
        rw [course_plain fuel hint hd hp, course_plain fuel hint' hd' hp]
        exact ⟨h, .done (Or.inl rfl)⟩
      | none =>
        cases hl : Sampled.layer x with
        | scalar s => simp [plainType?, hl] at hp
        | other typeName => simp [plainType?, hl] at hp
        | list items =>
          cases items with
          | nil => simp [plainType?, hl] at hp
          | cons first rest =>
            have hc := ih first (itemHint hint) (itemHint hint') (depth + 1) a b ha hb h
            rw [course_list fuel hint hd hl, course_list fuel hint' hd' hl]
            exact ⟨hc.contexts, hc.answers.map fun _ _ => RenamedType.array⟩
        | record entries =>
          cases hn : pinned? refs entries with
          | some name =>
            rw [course_pinned fuel hint hd hl hn, course_pinned fuel hint' hd' hl hn]
            exact ⟨h, .done (Or.inl rfl)⟩
          | none =>
            cases hw : entries.all (fun e => e.1.isWritable) with
            | false =>
              rw [course_unwritable fuel hint hd hl hn hw, course_unwritable fuel hint' hd' hl hn hw]
              exact ⟨h, .failed rfl⟩
            | true =>
              have hu : Unpinned refs x entries := ⟨hl, hn, hw⟩
              cases hs : valueOf? (fingerprint entries) a.seen with
              | some m =>
                obtain ⟨n, hs', hm⟩ := h.known hs
                rw [course_known fuel hint hd hu hs, course_known fuel hint' hd' hu hs']
                exact ⟨h, .done (.name hm)⟩
              | none => exact new_inStep ih hu hint hint' ha hb h hd hs

end

def nameIn (a b : Context) (name : String) : String :=
  (valueOf? name (a.boundNames.zip b.boundNames)).getD name

structure RenamedBy (f : String → String) (a b : Context) : Prop where
  bijective : Set.BijOn f {name | name ∈ a.boundNames} {name | name ∈ b.boundNames}
  seen : b.seen = a.seen.map fun e => (e.1, f e.2)
  catalog : List.Forall₂ (RenamedDecl fun m n => m ∈ a.boundNames ∧ n = f m) a.catalog b.catalog

section

variable {a b : Context} {reserved reserved' : List String}

theorem Alike.paired_eq (h : Alike a b) (ha : Bookkept reserved a) {m n : String}
    (hp : Paired a b m n) : m ∈ a.boundNames ∧ n = nameIn a b m := by
  have hd : ((a.boundNames.zip b.boundNames).map Prod.fst).Nodup := by
    rw [List.map_fst_zip h.bound_length.le]
    exact ha.names_distinct
  have hv := valueOf_of_mem hd hp
  exact ⟨(List.of_mem_zip hp).1, by simp [nameIn, hv]⟩

theorem Alike.boundNames_eq (h : Alike a b) (ha : Bookkept reserved a) :
    b.boundNames = a.boundNames.map (nameIn a b) := by
  have hl := h.bound_length
  calc b.boundNames
      = (a.boundNames.zip b.boundNames).map Prod.snd := (List.map_snd_zip hl.ge).symm
    _ = (a.boundNames.zip b.boundNames).map fun p => nameIn a b p.1 :=
        List.map_congr_left fun _ hp => (h.paired_eq ha hp).2
    _ = ((a.boundNames.zip b.boundNames).map Prod.fst).map (nameIn a b) := by
        rw [List.map_map]
        rfl
    _ = a.boundNames.map (nameIn a b) := by rw [List.map_fst_zip hl.le]

theorem Alike.renamedBy (h : Alike a b) (ha : Bookkept reserved a) (hb : Bookkept reserved' b) :
    RenamedBy (nameIn a b) a b := by
  have hn := h.boundNames_eq ha
  refine ⟨⟨fun m hm => ?_, fun m hm n hm' he => ?_, fun n hm => ?_⟩, ?_, ?_⟩
  · rw [Set.mem_ofPred_eq, hn]
    exact List.mem_map_of_mem hm
  · exact List.inj_on_of_nodup_map (hn ▸ hb.names_distinct) hm hm' he
  · rw [Set.mem_ofPred_eq, hn] at hm
    exact List.mem_map.mp hm
  · have hs : b.signatures = a.signatures := h.signatures.symm
    calc b.seen
        = b.signatures.zip b.boundNames := by
          rw [Context.signatures, Context.boundNames, List.zip_map']
          simp
      _ = (a.seen.map Prod.fst).zip (a.seen.map fun e => nameIn a b e.2) := by
          rw [hs, hn, Context.signatures, Context.boundNames, List.map_map]
          rfl
      _ = a.seen.map fun e => (e.1, nameIn a b e.2) := List.zip_map'
  · exact h.catalog.imp fun _ _ => RenamedDecl.mono fun _ _ => h.paired_eq ha

end

end SampleTypes.Inference
