import Mathlib.Data.Set.Finite.Lemmas
import Mathlib.Data.Set.Finite.List
import SampleTypes.Proofs.Documentation.Hierarchy

/-!
Types that the navigation leaves out. It starts from the types that extend nothing known, so a group of
types that extend each other and nothing outside is never come to. Main result: a type is left out
exactly if it belongs to such a group, and then it stands on a circle that is left out or below one.
-/

namespace SampleTypes.Documentation

/-- Types of the list each of which extends some type of the list, and none outside the group. -/
structure IsClosedGroup (types group : List (TypeDecl String)) : Prop where
  listed : ∀ t ∈ group, t ∈ types
  extends_some : ∀ t ∈ group, ∃ u ∈ types, ExtendedBy types u t
  inside : ∀ t ∈ group, ∀ u ∈ types, ExtendedBy types u t → u ∈ group

/-- The type extends itself, maybe through others. -/
def OnCircle (types : List (TypeDecl String)) (t : TypeDecl String) : Prop :=
  Relation.TransGen (ExtendedBy types) t t

def Above (types : List (TypeDecl String)) (upper lower : TypeDecl String) : Prop :=
  Relation.ReflTransGen (ExtendedBy types) upper lower

def Shown (types : List (TypeDecl String)) (t : TypeDecl String) : Prop :=
  t ∈ allListed (navigation textLe types)

instance (types : List (TypeDecl String)) (t : TypeDecl String) : Decidable (Shown types t) :=
  inferInstanceAs (Decidable (t ∈ allListed (navigation textLe types)))

section

variable {types group : List (TypeDecl String)} {t u : TypeDecl String}

theorem shown_iff : Shown types t ↔ ∃ top, IsTop types top ∧ Above types top t :=
  listed_iff types t

theorem Shown.extended (h : Shown types u) (hx : ExtendedBy types u t) : Shown types t := by
  obtain ⟨top, htop, ha⟩ := shown_iff.mp h
  exact shown_iff.mpr ⟨top, htop, ha.tail hx⟩

theorem IsTop.shown (h : IsTop types t) : Shown types t := shown_iff.mpr ⟨t, h, .refl⟩

/-- What is not shown extends a type that is not shown either. -/
theorem exists_hidden_parent (ht : t ∈ types) (h : ¬ Shown types t) :
    ∃ u ∈ types, ExtendedBy types u t ∧ ¬ Shown types u := by
  have hn : ¬ IsTop types t := fun htop => h htop.shown
  simp only [IsTop, not_and, not_forall, not_not] at hn
  obtain ⟨u, hu, hp⟩ := hn ht
  have hx : ExtendedBy types u t := ⟨ht, hp⟩
  exact ⟨u, hu, hx, fun hs => h (hs.extended hx)⟩

theorem IsClosedGroup.hidden (hg : IsClosedGroup types group) (ht : t ∈ group) : ¬ Shown types t := by
  intro h
  obtain ⟨top, htop, ha⟩ := shown_iff.mp h
  have outside : ∀ v, Above types top v → v ∈ types ∧ v ∉ group := by
    intro v hv
    induction hv with
    | refl =>
      refine ⟨htop.1, fun hm => ?_⟩
      obtain ⟨u, hu, hx⟩ := hg.extends_some top hm
      exact htop.2 u hu hx.2
    | tail _ hx ih => exact ⟨hx.1, fun hm => ih.2 (hg.inside _ hm _ ih.1 hx)⟩
  exact (outside t ha).2 ht

theorem hidden_closedGroup (types : List (TypeDecl String)) :
    IsClosedGroup types (types.filter fun t => ¬ Shown types t) := by
  constructor
  · intro t ht
    exact List.mem_of_mem_filter ht
  · intro t ht
    obtain ⟨hm, hs⟩ := List.mem_filter.mp ht
    obtain ⟨u, hu, hx, -⟩ := exists_hidden_parent hm (of_decide_eq_true hs)
    exact ⟨u, hu, hx⟩
  · intro t ht u hu hx
    obtain ⟨-, hs⟩ := List.mem_filter.mp ht
    have hn : ¬ Shown types u := fun hu => of_decide_eq_true hs (hu.extended hx)
    exact List.mem_filter.mpr ⟨hu, decide_eq_true hn⟩

theorem hidden_iff (ht : t ∈ types) :
    ¬ Shown types t ↔ ∃ group, IsClosedGroup types group ∧ t ∈ group := by
  constructor
  · intro h
    exact ⟨_, hidden_closedGroup types, List.mem_filter.mpr ⟨ht, decide_eq_true h⟩⟩
  · rintro ⟨group, hg, hm⟩
    exact hg.hidden hm

/-- Going up from a type that is not shown never comes to an end, and the list is finite. -/
theorem exists_hidden_circle (ht : t ∈ types) (h : ¬ Shown types t) :
    ∃ u ∈ types, ¬ Shown types u ∧ OnCircle types u ∧ Above types u t := by
  by_contra hnone
  let Hidden := {u // u ∈ types ∧ ¬ Shown types u ∧ Above types u t}
  have : Finite Hidden := ((List.finite_toSet types).subset fun u hu => hu.1).to_subtype
  have : IsTrans Hidden fun a b => Relation.TransGen (ExtendedBy types) a.1 b.1 :=
    ⟨fun _ _ _ hab hbc => hab.trans hbc⟩
  have : Std.Irrefl fun a b : Hidden => Relation.TransGen (ExtendedBy types) a.1 b.1 :=
    ⟨fun a hc => hnone ⟨a.1, a.2.1, a.2.2.1, hc, a.2.2.2⟩⟩
  have wf := Finite.wellFounded_of_trans_of_irrefl
    fun a b : Hidden => Relation.TransGen (ExtendedBy types) a.1 b.1
  obtain ⟨a, -, hmin⟩ := wf.has_min Set.univ ⟨⟨t, ht, h, .refl⟩, trivial⟩
  obtain ⟨u, hu, hx, hs⟩ := exists_hidden_parent a.2.1 a.2.2.1
  exact hmin ⟨u, hu, hs, a.2.2.2.head hx⟩ trivial (.single hx)

end

/-- A type is left out if and only if it belongs to types that extend each other and nothing else; it
then stands on a circle that is left out, or below one. So all types have an entry exactly if every
circle is below a type that extends none of the list; and the links lead to the cards of these names. -/
theorem closed_groups_left_out (types : List (TypeDecl String)) :
    (∀ t ∈ types, ¬ Shown types t ↔ ∃ group, IsClosedGroup types group ∧ t ∈ group) ∧
    (∀ t ∈ types, ¬ Shown types t →
      ∃ u ∈ types, ¬ Shown types u ∧ OnCircle types u ∧ Above types u t) ∧
    ((∀ t ∈ types, Shown types t) ↔
      ∀ u ∈ types, OnCircle types u → ∃ top, IsTop types top ∧ Above types top u) ∧
    ∀ t, cardTarget t ∈ linkTargets (navigationHtml types) ↔ ∃ u, Shown types u ∧ u.name = t.name := by
  refine ⟨fun t ht => hidden_iff ht, fun t ht => exists_hidden_circle ht, ?_, ?_⟩
  · constructor
    · intro h u hu _
      exact shown_iff.mp (h u hu)
    · intro h t ht
      by_contra hs
      obtain ⟨u, hu, hn, hc, -⟩ := exists_hidden_circle ht hs
      exact hn (shown_iff.mpr (h u hu hc))
  · intro t
    rw [navigation_links, List.mem_map]
    simp only [cardTarget, String.append_right_inj, Shown]

def hostType : TypeDecl String := { name := "Host", parents := ["Guest"] }

def guestType : TypeDecl String := { name := "Guest", parents := ["Host", "Stranger"] }

def visitorType : TypeDecl String := { name := "Visitor", parents := ["Guest"] }

/-- A circle of two types, a type below it, and one that extends nothing. -/
def guestBook : List (TypeDecl String) := [hostType, { name := "Room" }, visitorType, guestType]

theorem visitor_left_out : visitorType ∈ guestBook ∧ ¬ Shown guestBook visitorType ∧
    (∃ u ∈ guestBook, ¬ Shown guestBook u ∧ OnCircle guestBook u ∧ Above guestBook u visitorType) ∧
    ¬ (∀ u ∈ guestBook, OnCircle guestBook u → ∃ top, IsTop guestBook top ∧ Above guestBook top u) := by
  obtain ⟨hgroup, hcircle, hall, -⟩ := closed_groups_left_out guestBook
  have hm : visitorType ∈ guestBook := by decide
  have hclosed : IsClosedGroup guestBook [hostType, visitorType, guestType] :=
    ⟨by decide, by decide, by decide⟩
  have hs : ¬ Shown guestBook visitorType := (hgroup _ hm).mpr ⟨_, hclosed, by decide⟩
  exact ⟨hm, hs, hcircle _ hm hs, fun h => hs (hall.mpr h _ hm)⟩

def nodeType : TypeDecl String := { name := "Node", parents := ["Node"] }

/-- A type that extends itself is alone in the list, and no entry leads to its card. -/
theorem node_unlinked :
    nodeType ∈ [nodeType] ∧ cardTarget nodeType ∉ linkTargets (navigationHtml [nodeType]) := by
  have htop : topLevel [nodeType] = [] := by decide
  refine ⟨List.mem_singleton_self _, ?_⟩
  rw [navigation_links, navigation, htop]
  exact List.not_mem_nil

end SampleTypes.Documentation
