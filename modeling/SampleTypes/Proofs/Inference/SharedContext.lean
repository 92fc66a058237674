import SampleTypes.Proofs.Inference.Bookkeeping

/-!
Calls of inference one after another on one context. The calls may differ in everything, and a call
that fails hands the context on as it left it.
-/

namespace SampleTypes.Inference

structure Call (α τ : Type) where
  refs : Matcher τ
  sample : α
  hint : String
  depth : Int := 0
  limit : Option Int := none

section

variable {α τ : Type} [Sampled α]

def Call.step (call : Call α τ) (ctx : Context) : Step String :=
  infer call.refs call.sample call.hint call.depth { ctx with maxDepth := call.limit }

def afterCalls (ctx : Context) (calls : List (Call α τ)) : Context :=
  calls.foldl (fun ctx call => (call.step ctx).context) ctx

def answers : Context → List (Call α τ) → List (Except Failure String)
  | _, [] => []
  | ctx, call :: rest => (call.step ctx).result :: answers (call.step ctx).context rest

theorem Bookkept.limited {reserved : List String} {ctx : Context} (h : Bookkept reserved ctx)
    (limit : Option Int) : Bookkept reserved { ctx with maxDepth := limit } :=
  ⟨h.signatures_distinct, h.names_distinct, h.unreserved, h.taken, h.counted, h.registered_distinct,
    h.registered_bound⟩

theorem step_bookkept {reserved : List String} {ctx : Context} (h : Bookkept reserved ctx)
    (call : Call α τ) : Bookkept reserved (call.step ctx).context :=
  (infer_advances call.refs call.sample call.hint call.depth (h.limited call.limit)).bookkept

theorem step_appends {reserved : List String} {ctx : Context} (h : Bookkept reserved ctx)
    (call : Call α τ) : ctx.catalog <+: (call.step ctx).context.catalog ∧
      ctx.seen <+: (call.step ctx).context.seen := by
  have k := infer_advances call.refs call.sample call.hint call.depth (h.limited call.limit)
  exact ⟨k.extension.catalog, k.extension.seen⟩

theorem step_complete {reserved : List String} {ctx : Context} (h : Bookkept reserved ctx)
    (hc : Complete ctx) (call : Call α τ) {typeRef : String}
    (ha : (call.step ctx).result = .ok typeRef) : Complete (call.step ctx).context := by
  have k := infer_advances call.refs call.sample call.hint call.depth (h.limited call.limit)
  exact k.complete hc ha

theorem calls_bookkept {reserved : List String} {ctx : Context} (h : Bookkept reserved ctx)
    (calls : List (Call α τ)) : Bookkept reserved (afterCalls ctx calls) := by
  induction calls generalizing ctx with
  | nil => exact h
  | cons call rest ih => exact ih (step_bookkept h call)

theorem calls_complete {reserved : List String} {ctx : Context} (h : Bookkept reserved ctx)
    (hc : Complete ctx) (calls : List (Call α τ))
    (ha : ∀ a ∈ answers ctx calls, ∃ typeRef, a = .ok typeRef) :
    Complete (afterCalls ctx calls) := by
  induction calls generalizing ctx with
  | nil => exact hc
  | cons call rest ih =>
    obtain ⟨typeRef, hr⟩ := ha _ (List.mem_cons_self ..)
    exact ih (step_bookkept h call) (step_complete h hc call hr)
      fun a hm => ha a (List.mem_cons_of_mem _ hm)

/-- The books of a context that starts out empty are in order after any calls, and each further call
only adds to them. Unless a call has failed, the types registered are those with a name bound. -/
theorem shared_context_in_order (reserved : List String) (limit : Option Int)
    (calls : List (Call α τ)) :
    let start := freshContext reserved limit
    let ctx := afterCalls start calls
    Bookkept reserved ctx ∧
      (∀ call : Call α τ, ctx.catalog <+: (call.step ctx).context.catalog ∧
        ctx.seen <+: (call.step ctx).context.seen) ∧
      ((∀ a ∈ answers start calls, ∃ typeRef, a = .ok typeRef) →
        (Catalog.names ctx.catalog).Perm ctx.boundNames) := by
  intro start ctx
  have hs : Bookkept reserved start := fresh_bookkept reserved limit
  have h : Bookkept reserved ctx := calls_bookkept hs calls
  refine ⟨h, step_appends h, fun ha => h.registered_perm ?_⟩
  exact calls_complete hs (fresh_complete reserved limit) calls ha

end

/-- A record in a record, and after it a list of the inner one, which has its name by then. -/
def addressCalls : List (Call Value String) :=
  [{ refs := [], sample := .map [(.text "address", .map [(.text "zip", .scalar .null)])],
     hint := "user" },
   { refs := [], sample := .list [.map [(.text "zip", .scalar .null)]], hint := "zips",
     limit := some 1 }]

theorem address_calls_in_order :
    answers (freshContext ["User"] none) addressCalls = [.ok "User1", .ok "Address[]"] ∧
      (Catalog.names (afterCalls (freshContext ["User"] none) addressCalls).catalog).Perm
        (afterCalls (freshContext ["User"] none) addressCalls).boundNames := by
  have ha : answers (freshContext ["User"] none) addressCalls =
      [.ok "User1", .ok "Address[]"] := by decide +kernel
  refine ⟨ha, (shared_context_in_order ["User"] none addressCalls).2.2 ?_⟩
  rw [ha]
  simp

end SampleTypes.Inference
