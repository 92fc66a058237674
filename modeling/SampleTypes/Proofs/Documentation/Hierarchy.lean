import Mathlib.Data.Finset.Card
import Mathlib.Logic.Relation
import SampleTypes.Documentation.Page

/-!
The navigation of types that may extend each other in circles. The recursion ends, because every entry
with entries under it puts a name on the trail that was not there; and the guard cuts off nothing that
is not shown higher up. Main result: the tree is the one that the recursion makes without any bound, no
name repeats on a path before its end, and a type is shown exactly if it is reached from the top.
-/

namespace SampleTypes.Documentation

def Entry.type {τ : Type} : Entry τ → TypeDecl τ
  | .node t _ => t

mutual

/-- The types of an entry and of all that are under it, in the order in which they are shown. -/
def Entry.listed {τ : Type} : Entry τ → List (TypeDecl τ)
  | .node t entries => t :: allListed entries

def allListed {τ : Type} : List (Entry τ) → List (TypeDecl τ)
  | [] => []
  | e :: rest => e.listed ++ allListed rest

end

theorem mem_allListed {τ : Type} {t : TypeDecl τ} {entries : List (Entry τ)} :
    t ∈ allListed entries ↔ ∃ e ∈ entries, t ∈ e.listed := by
  induction entries with
  | nil => simp [allListed]
  | cons e rest ih => simp [allListed, ih]

inductive IsPath {τ : Type} : Entry τ → List (TypeDecl τ) → Prop
  | leaf (t : TypeDecl τ) : IsPath (.node t []) [t]
  | down {t : TypeDecl τ} {entries : List (Entry τ)} {e : Entry τ} {path : List (TypeDecl τ)}
      (he : e ∈ entries) (h : IsPath e path) : IsPath (.node t entries) (t :: path)

theorem IsPath.ne_nil {τ : Type} {e : Entry τ} {path : List (TypeDecl τ)} (h : IsPath e path) :
    path ≠ [] := by
  cases h <;> exact List.cons_ne_nil _ _

section

variable (types : List (TypeDecl String))

/-- The recursion for one type below a trail goes on to the types under it, below its own name. -/
def Calls (inner outer : List String × TypeDecl String) : Prop :=
  inner.1 = outer.2.name :: outer.1 ∧ inner.2 ∈ under textLe types outer.1 outer.2

/-- A tree from which nothing is left out: each entry has under it all that the recursion goes on to. -/
inductive Unfolded : List String → Entry String → Prop
  | node {trail : List String} {t : TypeDecl String} {entries : List (Entry String)}
      (all : entries.map Entry.type = under textLe types trail t)
      (h : ∀ e ∈ entries, Unfolded (t.name :: trail) e) : Unfolded trail (.node t entries)

def IsTop (t : TypeDecl String) : Prop := t ∈ types ∧ ∀ u ∈ types, u.name ∉ t.parents

instance (t : TypeDecl String) : Decidable (IsTop types t) :=
  inferInstanceAs (Decidable (t ∈ types ∧ ∀ u ∈ types, u.name ∉ t.parents))

def ExtendedBy (parent t : TypeDecl String) : Prop := t ∈ types ∧ parent.name ∈ t.parents

instance (parent t : TypeDecl String) : Decidable (ExtendedBy types parent t) :=
  inferInstanceAs (Decidable (t ∈ types ∧ parent.name ∈ t.parents))

def remaining (trail : List String) : Nat :=
  ((types.map TypeDecl.name).toFinset \ trail.toFinset).card

end

section

variable {types : List (TypeDecl String)} {trail : List String} {t u : TypeDecl String}

theorem mem_topLevel : t ∈ topLevel types ↔ IsTop types t := by
  have hknown : extendsKnown types t = true ↔ ∃ u ∈ types, u.name ∈ t.parents := by
    simp only [extendsKnown, isKnown, List.any_eq_true, beq_iff_eq]
    constructor
    · rintro ⟨name, hn, u, hu, rfl⟩
      exact ⟨u, hu, hn⟩
    · rintro ⟨u, hu, hn⟩
      exact ⟨u.name, hn, u, hu, rfl⟩
  rw [topLevel, List.mem_filter, Bool.not_eq_true', ← Bool.not_eq_true, hknown]
  simp [IsTop]

theorem mem_under : u ∈ under textLe types trail t ↔ t.name ∉ trail ∧ ExtendedBy types t u := by
  by_cases h : t.name ∈ trail
  · simp [under, h]
  · simp [under, h, extending, ExtendedBy, List.mem_mergeSort]

theorem remaining_le (types : List (TypeDecl String)) : remaining types [] ≤ types.length := by
  have hcard := List.toFinset_card_le (types.map TypeDecl.name)
  simpa [remaining] using hcard

/-- A name of the list that goes onto the trail was counted before. -/
theorem remaining_lt (ht : t ∈ types) (hn : t.name ∉ trail) :
    remaining types (t.name :: trail) < remaining types trail := by
  apply Finset.card_lt_card
  rw [Finset.ssubset_iff_of_subset]
  · refine ⟨t.name, ?_, ?_⟩
    · simpa [hn] using ⟨t, ht, rfl⟩
    · simp
  · intro name hm
    simp only [Finset.mem_sdiff, List.mem_toFinset, List.mem_cons, not_or] at hm ⊢
    exact ⟨hm.1, hm.2.2⟩

theorem calls_end (types : List (TypeDecl String)) : WellFounded (Calls types) := by
  have listed : ∀ count trail t, t ∈ types → remaining types trail < count →
      Acc (Calls types) (trail, t) := by
    intro count
    induction count with
    | zero =>
      intro trail t _ hc
      omega
    | succ count ih =>
      intro trail t ht hc
      constructor
      rintro ⟨inner, u⟩ ⟨hinner, hu⟩
      obtain rfl : inner = t.name :: trail := hinner
      obtain ⟨hn, hm, -⟩ := mem_under.mp hu
      have hlt : remaining types (t.name :: trail) < remaining types trail := remaining_lt ht hn
      exact ih _ u hm (by omega)
  constructor
  intro outer
  constructor
  rintro ⟨inner, u⟩ ⟨-, hu⟩
  obtain ⟨-, hm, -⟩ := mem_under.mp hu
  exact listed _ inner u hm (Nat.lt_succ_self _)

theorem entryWithin_type (fuel : Nat) (trail : List String) (t : TypeDecl String) :
    (entryWithin textLe types fuel trail t).type = t := by
  cases fuel <;> rfl

/-- With as much fuel as there are names left, nothing is cut off. -/
theorem entryWithin_unfolded {fuel : Nat} (ht : t ∈ types) (hf : remaining types trail ≤ fuel) :
    Unfolded types trail (entryWithin textLe types fuel trail t) := by
  induction fuel generalizing trail t with
  | zero =>
    have hn : t.name ∈ trail := by
      by_contra hn
      have hlt := remaining_lt ht hn
      omega
    refine .node ?_ ?_
    · simp [under, hn]
    · simp
  | succ fuel ih =>
    refine .node ?_ ?_
    · rw [List.map_map]
      have hid : Entry.type ∘ entryWithin textLe types fuel (t.name :: trail) = id :=
        funext fun u => entryWithin_type fuel _ u
      rw [hid, List.map_id]
    · intro e he
      obtain ⟨u, hu, rfl⟩ := List.mem_map.mp he
      obtain ⟨hn, hm, -⟩ := mem_under.mp hu
      have hlt := remaining_lt ht hn
      exact ih hm (by omega)

theorem navigation_unfolded (types : List (TypeDecl String)) :
    (navigation textLe types).map Entry.type = topLevel types ∧
      ∀ e ∈ navigation textLe types, Unfolded types [] e := by
  constructor
  · rw [navigation, List.map_map]
    have hid : Entry.type ∘ entryWithin textLe types types.length [] = id :=
      funext fun t => entryWithin_type _ _ t
    rw [hid, List.map_id]
  · intro e he
    obtain ⟨t, ht, rfl⟩ := List.mem_map.mp he
    exact entryWithin_unfolded (mem_topLevel.mp ht).1 (remaining_le types)

theorem Unfolded.inside {entries : List (Entry String)} (h : Unfolded types trail (.node t entries))
    {e : Entry String} (he : e ∈ entries) :
    t.name ∉ trail ∧ ExtendedBy types t e.type ∧ Unfolded types (t.name :: trail) e := by
  cases h with
  | node all h =>
    have hu : e.type ∈ under textLe types trail t := all ▸ List.mem_map_of_mem he
    obtain ⟨hn, hx⟩ := mem_under.mp hu
    exact ⟨hn, hx, h e he⟩

/-- All names on a path but the last are new to the trail and to each other. -/
theorem Unfolded.path_names {e : Entry String} (h : Unfolded types trail e)
    {path : List (TypeDecl String)} (hp : IsPath e path) :
    (path.dropLast.map TypeDecl.name).Nodup ∧ ∀ t ∈ path.dropLast, t.name ∉ trail := by
  induction hp generalizing trail with
  | leaf t => simp
  | @down t entries e path he hp ih =>
    obtain ⟨hn, -, hin⟩ := h.inside he
    obtain ⟨hd, ho⟩ := ih hin
    rw [List.dropLast_cons_of_ne_nil hp.ne_nil, List.map_cons, List.nodup_cons]
    refine ⟨⟨?_, hd⟩, ?_⟩
    · intro hm
      obtain ⟨u, hu, hun⟩ := List.mem_map.mp hm
      exact ho u hu (hun ▸ List.mem_cons_self)
    · intro u hu
      rcases List.mem_cons.mp hu with rfl | hu
      · exact hn
      · exact fun hm => ho u hu (List.mem_cons_of_mem _ hm)

/-- No path is longer than there are names left, the last of it apart. -/
theorem Unfolded.path_length {e : Entry String} (h : Unfolded types trail e) (ht : e.type ∈ types)
    {path : List (TypeDecl String)} (hp : IsPath e path) :
    path.length ≤ remaining types trail + 1 := by
  induction hp generalizing trail with
  | leaf t => simp
  | @down t entries e path he hp ih =>
    obtain ⟨hn, hx, hin⟩ := h.inside he
    have hlt : remaining types (t.name :: trail) < remaining types trail := remaining_lt ht hn
    have hl := ih hin hx.1
    rw [List.length_cons]
    omega

/-- Whatever is listed under an entry is reached from its type. -/
theorem Unfolded.reached {e : Entry String} (h : Unfolded types trail e) (hu : u ∈ e.listed) :
    Relation.ReflTransGen (ExtendedBy types) e.type u := by
  induction h with
  | @node trail t entries all h ih =>
    rw [Entry.listed, List.mem_cons, mem_allListed] at hu
    rcases hu with rfl | ⟨e, he, hu⟩
    · exact .refl
    · obtain ⟨-, hx, -⟩ := (Unfolded.node all h).inside he
      exact .head hx (ih e he hu)

/-- A type that extends a listed one is listed too. Where the guard stops at the listed one, its name
is that of an entry above it, and under that entry the type is listed. -/
theorem Unfolded.closed {e : Entry String} (h : Unfolded types trail e) (ht : t ∈ e.listed)
    (hn : t.name ∉ trail) (hu : ExtendedBy types t u) : u ∈ e.listed := by
  induction h with
  | @node trail s entries all h ih =>
    rw [Entry.listed, List.mem_cons, mem_allListed] at ht ⊢
    have here (hs : s.name = t.name) : ∃ e ∈ entries, u ∈ e.listed := by
      have hm : u ∈ entries.map Entry.type :=
        all ▸ mem_under.mpr ⟨hs ▸ hn, hu.1, hs ▸ hu.2⟩
      obtain ⟨e, he, rfl⟩ := List.mem_map.mp hm
      refine ⟨e, he, ?_⟩
      cases e
      exact List.mem_cons_self
    right
    rcases ht with rfl | ⟨e, he, ht⟩
    · exact here rfl
    · by_cases hs : s.name = t.name
      · exact here hs
      · have hn' : t.name ∉ s.name :: trail := by
          rw [List.mem_cons, not_or]
          exact ⟨fun heq => hs heq.symm, hn⟩
        exact ⟨e, he, ih e he ht hn'⟩

theorem mem_listed_type (e : Entry String) : e.type ∈ e.listed := by
  cases e
  exact List.mem_cons_self

theorem listed_iff (types : List (TypeDecl String)) (t : TypeDecl String) :
    t ∈ allListed (navigation textLe types) ↔
      ∃ top, IsTop types top ∧ Relation.ReflTransGen (ExtendedBy types) top t := by
  obtain ⟨htop, hall⟩ := navigation_unfolded types
  rw [mem_allListed]
  constructor
  · rintro ⟨e, he, ht⟩
    have hm : e.type ∈ topLevel types := htop ▸ List.mem_map_of_mem he
    exact ⟨e.type, mem_topLevel.mp hm, (hall e he).reached ht⟩
  · rintro ⟨top, hm, hr⟩
    have hm : top ∈ (navigation textLe types).map Entry.type := htop ▸ mem_topLevel.mpr hm
    obtain ⟨e, he, rfl⟩ := List.mem_map.mp hm
    refine ⟨e, he, ?_⟩
    induction hr with
    | refl => exact mem_listed_type e
    | tail _ hx ih => exact (hall e he).closed ih List.not_mem_nil hx

end

section

mutual

def linkTargets : Html → List String
  | .element tag attributes content =>
    (if tag = "a" then (valueOf? "href" attributes).toList else []) ++ allLinkTargets content
  | _ => []

def allLinkTargets : List Html → List String
  | [] => []
  | h :: rest => linkTargets h ++ allLinkTargets rest

end

def cardTarget (t : TypeDecl String) : String := "#" ++ t.name

mutual

theorem entry_links (e : Entry String) : linkTargets e.toHtml = e.listed.map cardTarget := by
  cases e with
  | node t entries =>
    have hunder := entries_links entries
    cases entries with
    | nil => rfl
    | cons e rest =>
      rw [entriesHtml, allLinkTargets] at hunder
      simp [Entry.toHtml, Html.plain, linkTargets, allLinkTargets, valueOf?, Entry.listed, cardTarget,
        hunder]

theorem entries_links (entries : List (Entry String)) :
    allLinkTargets (entriesHtml entries) = (allListed entries).map cardTarget := by
  cases entries with
  | nil => rfl
  | cons e rest =>
    rw [entriesHtml, allLinkTargets, entry_links e, entries_links rest, allListed, List.map_append]

end

theorem navigation_links (types : List (TypeDecl String)) :
    linkTargets (navigationHtml types) = (allListed (navigation textLe types)).map cardTarget := by
  rw [← entries_links]
  simp [navigationHtml, navigationFrame, Html.classed, Html.plain, linkTargets, allLinkTargets]

end

/-- The recursion ends, and leaves nothing out of the tree but what the guard cuts off. Then a path
holds no name twice, its last apart, and the types with an entry are those that a chain of types, each
extending the one before, joins to one that extends none of the list. -/
theorem guard_hides_nothing (types : List (TypeDecl String)) :
    WellFounded (Calls types) ∧
    ((navigation textLe types).map Entry.type = topLevel types ∧
      ∀ e ∈ navigation textLe types, Unfolded types [] e) ∧
    (∀ e ∈ navigation textLe types, ∀ path, IsPath e path →
      (path.dropLast.map TypeDecl.name).Nodup ∧ path.length ≤ types.length + 1) ∧
    linkTargets (navigationHtml types) = (allListed (navigation textLe types)).map cardTarget ∧
    ∀ t, t ∈ allListed (navigation textLe types) ↔
      ∃ top, IsTop types top ∧ Relation.ReflTransGen (ExtendedBy types) top t := by
  obtain ⟨htop, hall⟩ := navigation_unfolded types
  refine ⟨calls_end types, ⟨htop, hall⟩, ?_, navigation_links types, listed_iff types⟩
  intro e he path hp
  have hm : e.type ∈ topLevel types := htop ▸ List.mem_map_of_mem he
  have hl := (hall e he).path_length (mem_topLevel.mp hm).1 hp
  have hr := remaining_le types
  exact ⟨((hall e he).path_names hp).1, by omega⟩

/-- A type below one that extends nothing known, which also extends one that extends it. -/
def itemType : TypeDecl String := { name := "Item", parents := ["Base", "Shelf"] }

def shelfType : TypeDecl String := { name := "Shelf", parents := ["Item"] }

def baseType : TypeDecl String := { name := "Base", parents := ["Missing"] }

theorem ring_navigation : navigation textLe [itemType, shelfType, baseType] =
    [.node baseType [.node itemType [.node shelfType [.node itemType []]]]] := by
  have htop : topLevel [itemType, shelfType, baseType] = [baseType] := by decide +kernel
  have hbase : extending textLe [itemType, shelfType, baseType] "Base" = [itemType] := by
    decide +kernel
  have hitem : extending textLe [itemType, shelfType, baseType] "Item" = [shelfType] := by
    decide +kernel
  have hshelf : extending textLe [itemType, shelfType, baseType] "Shelf" = [itemType] := by
    decide +kernel
  have names : baseType.name = "Base" ∧ itemType.name = "Item" ∧ shelfType.name = "Shelf" :=
    ⟨rfl, rfl, rfl⟩
  simp [navigation, htop, entryWithin, under, names, hbase, hitem, hshelf]

/-- The ring is followed until its first name comes up again. -/
theorem ring_guarded : ∃ e ∈ navigation textLe [itemType, shelfType, baseType],
    IsPath e [baseType, itemType, shelfType, itemType] ∧
    ([baseType, itemType, shelfType].map TypeDecl.name).Nodup ∧
    shelfType ∈ allListed (navigation textLe [itemType, shelfType, baseType]) := by
  obtain ⟨-, -, hpaths, -, hlisted⟩ := guard_hides_nothing [itemType, shelfType, baseType]
  have hm : Entry.node baseType [.node itemType [.node shelfType [.node itemType []]]] ∈
      navigation textLe [itemType, shelfType, baseType] := by
    rw [ring_navigation]
    exact List.mem_singleton_self _
  have hp : IsPath (.node baseType [.node itemType [.node shelfType [.node itemType []]]])
      [baseType, itemType, shelfType, itemType] :=
    .down List.mem_cons_self (.down List.mem_cons_self (.down List.mem_cons_self (.leaf _)))
  refine ⟨_, hm, hp, (hpaths _ hm _ hp).1, (hlisted shelfType).mpr ⟨baseType, by decide, ?_⟩⟩
  have hitem : ExtendedBy [itemType, shelfType, baseType] baseType itemType := by decide
  have hshelf : ExtendedBy [itemType, shelfType, baseType] itemType shelfType := by decide
  exact .tail (.single hitem) hshelf

end SampleTypes.Documentation
