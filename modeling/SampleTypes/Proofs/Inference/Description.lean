import SampleTypes.Proofs.Inference.Stability
import SampleTypes.Proofs.Naming.TypeName

/-!
Which sample a type describes. A type is registered by the first call for a record of its signature
that no schema pins, with the answers for its entries, and these answers stand. Its name is made of
the hint of that call. A call for another record of the signature finds the name bound, so it
registers nothing.
-/

namespace SampleTypes.Inference

section

variable {α τ : Type} [Sampled α] {refs : Matcher τ}

/-- The call is for a record that no schema pins, and no call before it is for one of the same
signature. -/
structure Introduces (refs : Matcher τ) (visits : List (Visit α)) (v : Visit α)
    (entries : List (Scalar × α)) : Prop where
  record : Unpinned refs v.sample entries
  first : ∃ before after, visits = before ++ v :: after ∧ ∀ u ∈ before, ∀ others,
    Unpinned refs u.sample others → fingerprint others ≠ fingerprint entries

/-- The type has a field for each entry of a record, which the first call for its signature was for.
It is named by the hint of that call. -/
structure Describes (refs : Matcher τ) (ctx : Context) (visits : List (Visit α))
    (t : TypeDecl String) (v : Visit α) (entries : List (Scalar × α)) : Prop
    extends Introduces refs visits v entries where
  name : valueOf? (fingerprint entries) ctx.seen = some t.name
  fields : List.Forall₂ (FieldStands refs ctx (v.depth + 1)) t.fields entries
  numbered : ∃ n, t.name = Allocator.numbered (pascalCase v.hint) n
  taken : pascalCase v.hint ∈ ctx.names.taken

theorem Introduces.unique {visits : List (Visit α)} {v w : Visit α}
    {entries others : List (Scalar × α)} (h : Introduces refs visits v entries)
    (k : Introduces refs visits w others) (he : fingerprint entries = fingerprint others) : v = w := by
  obtain ⟨before, after, rfl, hb⟩ := h.first
  obtain ⟨before', after', hv, hb'⟩ := k.first
  rcases List.append_eq_append_iff.mp hv with ⟨more, rfl, hc⟩ | ⟨more, rfl, hc⟩
  · cases more with
    | nil => exact (List.cons.inj hc).1
    | cons u more =>
      obtain ⟨rfl, -⟩ := List.cons.inj hc
      exact absurd he (hb' v (by simp) entries h.record)
  · cases more with
    | nil => exact (List.cons.inj hc).1.symm
    | cons u more =>
      obtain ⟨rfl, -⟩ := List.cons.inj hc
      exact absurd he.symm (hb w (by simp) others k.record)

/-- The signatures of all records called for that no schema pins have names. -/
def Named (refs : Matcher τ) (ctx : Context) (visits : List (Visit α)) : Prop :=
  ∀ u ∈ visits, ∀ others, Unpinned refs u.sample others → fingerprint others ∈ ctx.signatures

theorem VisitsStand.named {ctx : Context} {visits : List (Visit α)}
    (h : VisitsStand refs ctx visits) : Named refs ctx visits := by
  intro u hu others ho
  obtain ⟨typeRef, -, hk⟩ := h u hu
  obtain ⟨-, hs⟩ := hk.of_unpinned ho.layer ho.unpinned
  exact List.mem_map_of_mem (mem_of_valueOf hs)

/-- Further calls change nothing, nor do earlier ones for other signatures. -/
theorem Introduces.among {mid : Context} {visits front : List (Visit α)} {v : Visit α}
    {entries : List (Scalar × α)} (h : Introduces refs visits v entries)
    (hf : Named refs mid front) (hn : fingerprint entries ∉ mid.signatures)
    (back : List (Visit α)) : Introduces refs (front ++ visits ++ back) v entries := by
  obtain ⟨before, after, rfl, hb⟩ := h.first
  refine ⟨h.record, front ++ before, after ++ back, by simp, fun u hu others ho => ?_⟩
  rcases List.mem_append.mp hu with hu | hu
  · exact fun he => hn (he ▸ hf u hu others ho)
  · exact hb u hu others ho

section

variable {ctx later : Context} {visits : List (Visit α)} {t : TypeDecl String} {v : Visit α}
  {entries : List (Scalar × α)}

theorem Describes.mono (h : Describes refs ctx visits t v entries) (hs : ctx.seen <+: later.seen)
    (hl : later.maxDepth = ctx.maxDepth) (ht : ctx.names.taken ⊆ later.names.taken) :
    Describes refs later visits t v entries :=
  { h with
    name := valueOf_longer hs h.name
    fields := h.fields.imp fun _ _ hf => hf.mono hs hl
    taken := ht h.taken }

theorem Describes.among (h : Describes refs ctx visits t v entries) {mid : Context}
    {front : List (Visit α)} (hf : Named refs mid front)
    (hn : fingerprint entries ∉ mid.signatures) (back : List (Visit α)) :
    Describes refs ctx (front ++ visits ++ back) t v entries :=
  { h with toIntroduces := h.toIntroduces.among hf hn back }

end

/-- Each type that is registered between two contexts describes a sample of the calls made there,
and its signature is a new one. -/
def NewDescribed (refs : Matcher τ) (old new : Context) (visits : List (Visit α)) : Prop :=
  ∀ t ∈ new.catalog, t ∈ old.catalog ∨
    ∃ v entries, Describes refs new visits t v entries ∧ fingerprint entries ∉ old.signatures

theorem NewDescribed.stay {old new : Context} (hc : new.catalog = old.catalog)
    (visits : List (Visit α)) : NewDescribed refs old new visits :=
  fun _ ht => Or.inl (hc ▸ ht)

theorem NewDescribed.append {old mid new : Context} {front back : List (Visit α)}
    (h : NewDescribed refs old mid front) (k : NewDescribed refs mid new back)
    (hf : Named refs mid front) (d : Extends old mid) (e : Extends mid new)
    (hk : mid.names.taken ⊆ new.names.taken) : NewDescribed refs old new (front ++ back) := by
  have hnil : Named refs old ([] : List (Visit α)) := fun _ hu => by cases hu
  intro t ht
  rcases k t ht with hm | ⟨v, entries, hd, hs⟩
  · rcases h t hm with ho | ⟨v, entries, hd, hs⟩
    · exact Or.inl ho
    · have ha := hd.among hnil hs back
      exact Or.inr ⟨v, entries, ha.mono e.seen e.limit hk, hs⟩
  · have ha := hd.among hf hs []
    rw [List.append_nil] at ha
    refine Or.inr ⟨v, entries, ha, fun ho => hs ?_⟩
    exact (d.seen.map Prod.fst).subset ho

theorem NewDescribed.register {old new : Context} {t : TypeDecl String} {v : Visit α}
    {entries : List (Scalar × α)} {inner : List (Visit α)}
    (hd : Describes refs new (v :: inner) t v entries) (ho : fingerprint entries ∉ old.signatures)
    (h : NewDescribed refs old new (v :: inner)) :
    NewDescribed refs old { new with catalog := (Catalog.register new.catalog t).2 } (v :: inner) := by
  intro u hm
  rcases Catalog.mem_register hm with hm | rfl
  · rcases h u hm with hi | ⟨w, others, hw, hn⟩
    · exact Or.inl hi
    · exact Or.inr ⟨w, others, hw.mono List.prefix_rfl rfl (List.Subset.refl _), hn⟩
  · exact Or.inr ⟨v, entries, hd.mono List.prefix_rfl rfl (List.Subset.refl _), ho⟩

theorem description (refs : Matcher τ) (reserved : List String) : Contract refs
    (fun (_ : α) _ _ ctx c => Bookkept reserved ctx → ∀ typeRef, c.answer = .ok typeRef →
      NewDescribed refs ctx c.context c.visits)
    (fun _ _ ctx c => Bookkept reserved ctx → ∀ fields, c.answer = .ok fields →
      NewDescribed refs ctx c.context c.visits) where
  failed _ _ _ _ _ _ _ _ := .stay rfl _
  plain _ _ _ _ _ _ _ _ _ _ := .stay rfl _
  list x _ _ hint depth ctx c _ hl hi hc hb typeRef ha := by
    rcases c with ⟨answer, new, inner⟩
    cases answer with
    | error e => cases ha
    | ok element =>
      have hn : Named refs ctx [⟨x, hint, depth, .ok (element ++ arrayMark)⟩] := by
        intro u hm others ho
        obtain rfl := List.mem_singleton.mp hm
        have := ho.layer
        simp [hl] at this
      have a := hi.advances hb
      exact .append (.stay rfl _) (hc hb element rfl) hn (Extends.refl ctx) a.extension
        (hb.taken_mono a.bookkept a.extension)
  pinned _ _ _ _ _ _ _ _ _ _ _ _ := .stay rfl _
  known _ _ _ _ _ _ _ _ _ _ _ _ := .stay rfl _
  described x entries hint depth ctx fields new inner _ hu hs hr hq hb _ _ := by
    have hbind := hb.bind hs hint
    have a := hr.advances hbind
    have ht := hbind.taken_mono a.bookkept a.extension
    have ho : fingerprint entries ∉ ctx.signatures := valueOf_eq_none.mp hs
    have hv : valueOf? (fingerprint entries) (ctx.bind (fingerprint entries) hint).2.seen =
        some (ctx.bind (fingerprint entries) hint).1 := valueOf_append_self ho _
    have hn : Named refs (ctx.bind (fingerprint entries) hint).2
        [⟨x, hint, depth, .ok (ctx.bind (fingerprint entries) hint).1⟩] := by
      intro u hm others hu'
      obtain rfl := List.mem_singleton.mp hm
      obtain rfl := Layer.record.inj (hu.layer.symm.trans hu'.layer)
      exact List.mem_map_of_mem (mem_of_valueOf hv)
    refine .register ⟨⟨hu, [], inner, rfl, nofun⟩, valueOf_longer a.extension.seen hv,
      (hr.stands hbind).answers fields rfl, ctx.names.allocate_name hint,
      ht (hb.counted.base_taken hint)⟩ ho ?_
    exact .append (.stay (bind_catalog ..) _) (hq hbind fields rfl) hn (bind_extends ctx _ hint)
      a.extension ht
  abandoned _ _ _ _ _ _ _ _ _ _ _ _ _ _ ha := by cases ha
  noFields _ _ _ _ _ := .stay rfl _
  field entry rest depth ctx typeRef new inner c hi hp hr hq hb fields ha := by
    have a := hi.advances hb
    rcases c with ⟨answer, last, more⟩
    cases answer with
    | error e => cases ha
    | ok others =>
      have k := hr.advances a.bookkept
      exact .append (hp hb typeRef rfl) (hq a.bookkept others rfl)
        ((hi.stands hb).visits typeRef rfl).named a.extension k.extension
        (a.bookkept.taken_mono k.bookkept k.extension)
  failedField _ _ _ _ _ _ _ _ _ _ ha := by cases ha

theorem IsCall.described {x : α} {hint : String} {depth : Int} {ctx : Context}
    {c : Course α String} {reserved : List String} (h : IsCall refs x hint depth ctx c)
    (hb : Bookkept reserved ctx) {typeRef : String} (ha : c.answer = .ok typeRef) :
    NewDescribed refs ctx c.context c.visits :=
  (description refs reserved).call h hb typeRef ha

end

end SampleTypes.Inference
