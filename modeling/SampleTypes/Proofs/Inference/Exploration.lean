import Mathlib.Data.Set.Card
import SampleTypes.Proofs.Inference.Bookkeeping
import SampleTypes.Proofs.Inference.CallBound

/-!
Which records have their fields looked at in a call. Each of them has a signature of its own, one that
no name was bound to before, since the name is bound before the fields are looked at. So there are
no more of them than signatures in the sample, and no more types are registered.
-/

namespace SampleTypes.Inference

section

variable {α τ : Type} [Sampled α]

def exploredFields (visit : α → String → Context → Step String)
    (explored : α → String → Context → List (List (Scalar × α))) :
    List (Scalar × α) → Context → List (List (Scalar × α))
  | [], _ => []
  | (key, x) :: rest, ctx =>
    let s := visit x (fieldHint key) ctx
    explored x (fieldHint key) ctx ++
      match s.result with
      | .error _ => []
      | .ok _ => exploredFields visit explored rest s.context

/-- The records whose fields a call of inference looks at, in the order in which it comes to them. -/
def exploredWithin (refs : Matcher τ) :
    Nat → α → String → Int → Context → List (List (Scalar × α))
  | 0, _, _, _, _ => []
  | fuel + 1, x, hint, depth, ctx =>
    if ctx.isTooDeep depth then []
    else
      match Sampled.layer x with
      | .list (first :: _) => exploredWithin refs fuel first (itemHint hint) (depth + 1) ctx
      | .record entries =>
        match pinned? refs entries, valueOf? (fingerprint entries) ctx.seen with
        | none, none =>
          if entries.all fun e => e.1.isWritable then
            entries :: exploredFields (fun y h c => inferWithin refs fuel y h (depth + 1) c)
              (fun y h c => exploredWithin refs fuel y h (depth + 1) c) entries
              (ctx.bind (fingerprint entries) hint).2
          else []
        | _, _ => []
      | _ => []

def explored (refs : Matcher τ) (x : α) (hint : String) (depth : Int) (ctx : Context) :
    List (List (Scalar × α)) :=
  exploredWithin refs (callBound x depth ctx) x hint depth ctx

def exploredIn (refs : Matcher τ) (fuel : Nat) (depth : Int) (entries : List (Scalar × α))
    (ctx : Context) : List (List (Scalar × α)) :=
  exploredFields (fun y h c => inferWithin refs fuel y h depth c)
    (fun y h c => exploredWithin refs fuel y h depth c) entries ctx

section

variable {refs : Matcher τ} {x : α} {depth : Int} {ctx : Context}

theorem explored_list (fuel : Nat) (hint : String) (hd : ctx.isTooDeep depth = false) {first : α}
    {rest : List α} (hl : Sampled.layer x = .list (first :: rest)) :
    exploredWithin refs (fuel + 1) x hint depth ctx =
      exploredWithin refs fuel first (itemHint hint) (depth + 1) ctx := by
  simp [exploredWithin, hd, hl]

theorem explored_new (fuel : Nat) (hint : String) (hd : ctx.isTooDeep depth = false)
    {entries : List (Scalar × α)} (hu : Unpinned refs x entries)
    (hs : valueOf? (fingerprint entries) ctx.seen = none) :
    exploredWithin refs (fuel + 1) x hint depth ctx =
      entries :: exploredIn refs fuel (depth + 1) entries
        (ctx.bind (fingerprint entries) hint).2 := by
  simp [exploredWithin, exploredIn, hd, hu.layer, hu.unpinned, hu.writable, hs]

theorem explored_plain (fuel : Nat) (hint : String) {typeRef : String}
    (hp : plainType? x = some typeRef) :
    exploredWithin refs (fuel + 1) x hint depth ctx = [] := by
  unfold plainType? at hp
  split at hp
  all_goals simp_all [exploredWithin]

/-- A record that is pinned, unwritable or known is not explored. -/
theorem explored_passed (fuel : Nat) (hint : String) {entries : List (Scalar × α)}
    (hl : Sampled.layer x = .record entries)
    (h : pinned? refs entries ≠ none ∨ entries.all (fun e => e.1.isWritable) = false ∨
      valueOf? (fingerprint entries) ctx.seen ≠ none) :
    exploredWithin refs (fuel + 1) x hint depth ctx = [] := by
  simp only [exploredWithin, hl]
  split
  · rfl
  · split
    · rename_i hp hs
      rcases h with h | h | h
      · exact absurd hp h
      · simp only [h, Bool.false_eq_true, if_false]
      · exact absurd hs h
    · rfl

theorem exploredIn_cons (fuel : Nat) (entry : Scalar × α) (rest : List (Scalar × α)) :
    let c := courseWithin refs fuel entry.2 (fieldHint entry.1) depth ctx
    exploredIn refs fuel depth (entry :: rest) ctx =
      exploredWithin refs fuel entry.2 (fieldHint entry.1) depth ctx ++
        match c.answer with
        | .error _ => []
        | .ok _ => exploredIn refs fuel depth rest c.context := rfl

end

structure Explores (Found : α → Prop) (old new : Context) (records : List (List (Scalar × α))) :
    Prop where
  signatures : new.signatures = old.signatures ++ records.map fingerprint
  distinct : (records.map fingerprint).Nodup
  fresh : ∀ signature ∈ records.map fingerprint, signature ∉ old.signatures
  registered : new.catalog.length ≤ old.catalog.length + records.length
  found : ∀ entries ∈ records, ∃ y, Found y ∧ Sampled.layer y = .record entries

theorem Explores.refl (Found : α → Prop) (ctx : Context) : Explores Found ctx ctx [] := by
  constructor <;> simp

theorem Explores.mono {Found Found' : α → Prop} (hf : ∀ y, Found y → Found' y)
    {old new : Context} {records : List (List (Scalar × α))} (h : Explores Found old new records) :
    Explores Found' old new records := by
  refine ⟨h.signatures, h.distinct, h.fresh, h.registered, ?_⟩
  intro entries he
  obtain ⟨y, hy, hl⟩ := h.found entries he
  exact ⟨y, hf y hy, hl⟩

theorem Explores.trans {Found : α → Prop} {a b c : Context}
    {first second : List (List (Scalar × α))} (h : Explores Found a b first)
    (k : Explores Found b c second) : Explores Found a c (first ++ second) := by
  have later : ∀ signature ∈ second.map fingerprint,
      signature ∉ a.signatures ∧ signature ∉ first.map fingerprint := by
    intro signature hs
    have hb := k.fresh signature hs
    rw [h.signatures, List.mem_append, not_or] at hb
    exact hb
  constructor
  · rw [k.signatures, h.signatures, List.map_append, List.append_assoc]
  · rw [List.map_append]
    refine h.distinct.append k.distinct ?_
    intro signature hf hs
    exact (later signature hs).2 hf
  · intro signature hs
    rw [List.map_append, List.mem_append] at hs
    rcases hs with hs | hs
    · exact h.fresh signature hs
    · exact (later signature hs).1
  · have := h.registered
    have := k.registered
    rw [List.length_append]
    omega
  · intro entries he
    rcases List.mem_append.mp he with he | he
    · exact h.found entries he
    · exact k.found entries he

theorem bind_signatures (ctx : Context) (signature hint : String) :
    (ctx.bind signature hint).2.signatures = ctx.signatures ++ [signature] := by
  simp [Context.signatures, bind_seen]

/-- Binding the name of a record before its fields are explored, and maybe registering it after. -/
theorem Explores.record {Found : α → Prop} {x : α} {entries : List (Scalar × α)} {hint : String}
    {ctx new final : Context} {records : List (List (Scalar × α))}
    (h : Explores Found (ctx.bind (fingerprint entries) hint).2 new records) (hx : Found x)
    (hl : Sampled.layer x = .record entries)
    (hs : valueOf? (fingerprint entries) ctx.seen = none) (hf : final.seen = new.seen)
    (hc : final.catalog.length ≤ new.catalog.length + 1) :
    Explores Found ctx final (entries :: records) := by
  have here : fingerprint entries ∉ ctx.signatures := valueOf_eq_none.mp hs
  have later : ∀ signature ∈ records.map fingerprint,
      signature ∉ ctx.signatures ∧ signature ≠ fingerprint entries := by
    intro signature hm
    have hb := h.fresh signature hm
    rw [bind_signatures, List.mem_append, List.mem_singleton, not_or] at hb
    exact hb
  constructor
  · have hfinal : final.signatures = new.signatures := congrArg (List.map Prod.fst) hf
    rw [hfinal, h.signatures, bind_signatures, List.append_assoc]
    rfl
  · rw [List.map_cons, List.nodup_cons]
    exact ⟨fun hm => (later _ hm).2 rfl, h.distinct⟩
  · intro signature hm
    rw [List.map_cons, List.mem_cons] at hm
    rcases hm with rfl | hm
    · exact here
    · exact (later signature hm).1
  · have := h.registered
    rw [bind_catalog] at this
    rw [List.length_cons]
    omega
  · intro other ho
    rcases List.mem_cons.mp ho with rfl | ho
    · exact ⟨x, hx, hl⟩
    · exact h.found other ho

theorem register_length (c : Catalog String) (t : TypeDecl String) :
    (Catalog.register c t).2.length ≤ c.length + 1 := by
  unfold Catalog.register
  split
  · exact Nat.le_succ _
  · simp

variable {refs : Matcher τ}

theorem fields_explored {fuel : Nat}
    (calls : ∀ (x : α) hint depth ctx, Explores (Reaches x) ctx
      (courseWithin refs fuel x hint depth ctx).context (exploredWithin refs fuel x hint depth ctx))
    (depth : Int) (entries : List (Scalar × α)) (ctx : Context) :
    Explores (fun y => ∃ e ∈ entries, Reaches e.2 y) ctx
      (fieldsWithin refs fuel depth entries ctx).context (exploredIn refs fuel depth entries ctx) := by
  induction entries generalizing ctx with
  | nil => exact .refl _ ctx
  | cons entry rest ih =>
    have h : Explores (fun y => ∃ e ∈ entry :: rest, Reaches e.2 y) ctx
        (courseWithin refs fuel entry.2 (fieldHint entry.1) depth ctx).context
        (exploredWithin refs fuel entry.2 (fieldHint entry.1) depth ctx) := by
      apply (calls entry.2 (fieldHint entry.1) depth ctx).mono
      exact fun y hy => ⟨entry, List.mem_cons_self, hy⟩
    rw [fields_cons, exploredIn_cons]
    cases (courseWithin refs fuel entry.2 (fieldHint entry.1) depth ctx).answer with
    | error e =>
      rw [List.append_nil]
      exact h
    | ok typeRef =>
      apply h.trans
      apply (ih _).mono
      rintro y ⟨e, he, hy⟩
      exact ⟨e, List.mem_cons_of_mem _ he, hy⟩

theorem call_explored (refs : Matcher τ) (fuel : Nat) (x : α) (hint : String) (depth : Int)
    (ctx : Context) : Explores (Reaches x) ctx (courseWithin refs fuel x hint depth ctx).context
      (exploredWithin refs fuel x hint depth ctx) := by
  induction fuel generalizing x hint depth ctx with
  | zero => exact .refl _ ctx
  | succ fuel ih =>
    cases callCase refs x depth ctx with
    | tooDeep hd =>
      rw [course_tooDeep fuel hint hd, exploredWithin, if_pos hd]
      exact .refl _ ctx
    | plain hd hp =>
      rw [course_plain fuel hint hd hp, explored_plain fuel hint hp]
      exact .refl _ ctx
    | pinned hd hl hp =>
      rw [course_pinned fuel hint hd hl hp, explored_passed fuel hint hl (Or.inl (by simp [hp]))]
      exact .refl _ ctx
    | unwritable hd hl hp hw =>
      rw [course_unwritable fuel hint hd hl hp hw,
        explored_passed fuel hint hl (Or.inr (Or.inl hw))]
      exact .refl _ ctx
    | known hd hu hs =>
      rw [course_known fuel hint hd hu hs,
        explored_passed fuel hint hu.layer (Or.inr (Or.inr (by simp [hs])))]
      exact .refl _ ctx
    | list hd hl =>
      rw [course_list fuel hint hd hl, explored_list fuel hint hd hl]
      exact (ih _ _ _ _).mono fun y hy => .head (isPart_first hl) hy
    | @new entries hd hu hs =>
      have found : ∀ y, (∃ e ∈ entries, Reaches e.2 y) → Reaches x y := by
        rintro y ⟨e, he, hy⟩
        exact .head (isPart_entry hu.layer he) hy
      have h := (fields_explored ih (depth + 1) entries
        (ctx.bind (fingerprint entries) hint).2).mono found
      rw [course_new fuel hint hd hu hs, explored_new fuel hint hd hu hs]
      generalize fieldsWithin refs fuel (depth + 1) entries _ = c at h
      cases c.answer with
      | error e => exact h.record .refl hu.layer hs rfl (Nat.le_succ _)
      | ok fields => exact h.record .refl hu.layer hs rfl (register_length _ _)

def signaturesOf (x : α) : Set String :=
  {signature | ∃ y entries, Reaches x y ∧ Sampled.layer y = .record entries ∧
    signature = fingerprint entries}

/-- The explored records are no more than the signatures, if these are finitely many. -/
theorem Explores.length_le {x : α} {old new : Context} {records : List (List (Scalar × α))}
    (h : Explores (Reaches x) old new records) (hf : (signaturesOf x).Finite) :
    records.length ≤ (signaturesOf x).ncard := by
  have hsub : {signature | signature ∈ records.map fingerprint} ⊆ signaturesOf x := by
    intro signature hs
    obtain ⟨entries, he, rfl⟩ := List.mem_map.mp hs
    obtain ⟨y, hy, hl⟩ := h.found entries he
    exact ⟨y, entries, hy, hl, rfl⟩
  calc records.length = (records.map fingerprint).toFinset.card := by
        rw [List.toFinset_card_of_nodup h.distinct, List.length_map]
    _ = {signature | signature ∈ records.map fingerprint}.ncard := by
        rw [← Set.ncard_coe_finset, List.coe_toFinset]
    _ ≤ (signaturesOf x).ncard := Set.ncard_le_ncard hsub hf

end

end SampleTypes.Inference
