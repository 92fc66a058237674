import SampleTypes.Documentation.Unchecked
import SampleTypes.Proofs.Basic
import SampleTypes.Proofs.Catalog.Reloading
import SampleTypes.TypeScript.Unchecked

/-!
What the renderers ask of a report from a document. The document may hold any values where texts are
meant; source text and pages are made of it if and only if those that each of them needs are texts.
-/

namespace SampleTypes

namespace Json

def IsText (j : Json) : Prop := ∃ s, j = .str s

/-- A text, unless it counts as false. -/
def IsTextIfAny (j : Json) : Prop := j.truthy = true → j.IsText

theorem str_eq_some {j : Json} {s : String} : j.str? = some s ↔ j = .str s := by
  cases j <;> simp [str?]

end Json

theorem demandText_ok {j : Json} {s : String} : demandText j = .ok s ↔ j = .str s := by
  rw [← Json.str_eq_some, demandText]
  cases j.str? <;> simp

theorem insertText_ok {j : Json} {s : String} : insertText j = .ok s ↔ j = .str s := by
  rw [← Json.str_eq_some, insertText]
  cases j.str? <;> simp

theorem demandIfTruthy_ok {j : Json} {u : Unit} : demandIfTruthy j = .ok u ↔ j.IsTextIfAny := by
  unfold demandIfTruthy Json.IsTextIfAny
  cases j.truthy with
  | false => simp
  | true => simp [map_eq_ok, demandText_ok, Json.IsText]

/-! The order of parents. -/

theorem mapM_str {values : List Json} {texts : List String} (h : values.mapM Json.str? = some texts) :
    values = texts.map .str := by
  induction values generalizing texts with
  | nil =>
    cases h
    rfl
  | cons j values ih =>
    simp only [List.mapM_cons, Option.bind_eq_bind, Option.bind_eq_some_iff, Json.str_eq_some] at h
    obtain ⟨s, rfl, more, hm, he⟩ := h
    obtain rfl : s :: more = texts := Option.some.inj he
    rw [ih hm, List.map_cons]

theorem texts_of_all {values : List Json} (h : ∀ j ∈ values, j.IsText) :
    ∃ texts : List String, values = texts.map .str := by
  induction values with
  | nil => exact ⟨[], rfl⟩
  | cons j values ih =>
    obtain ⟨⟨s, rfl⟩, hr⟩ := List.forall_mem_cons.mp h
    obtain ⟨texts, rfl⟩ := ih hr
    exact ⟨s :: texts, rfl⟩

theorem mapM_numbered {values : List Json} {pairs : List (Number × Json)}
    (h : (values.mapM fun j => j.number?.map fun n => (n, j)) = some pairs) :
    pairs.map Prod.snd = values := by
  induction values generalizing pairs with
  | nil =>
    cases h
    rfl
  | cons j values ih =>
    simp only [List.mapM_cons, Option.bind_eq_bind, Option.bind_eq_some_iff, Option.map_eq_some_iff] at h
    obtain ⟨_, ⟨n, -, rfl⟩, more, hm, he⟩ := h
    obtain rfl : (n, j) :: more = pairs := Option.some.inj he
    rw [List.map_cons, ih hm]

theorem sort_perm {values sorted : List Json} (h : Json.sort? values = some sorted) :
    sorted.Perm values := by
  unfold Json.sort? at h
  split at h
  · rw [Option.some.inj h]
  · split at h
    · rename_i texts ht
      rw [← Option.some.inj h, mapM_str ht]
      exact (sortTexts_perm texts).map _
    · split at h
      · rename_i pairs hp
        rw [← Option.some.inj h, ← mapM_numbered hp]
        exact (List.mergeSort_perm pairs _).map _
      · cases h

/-- Parents that are texts have an order; others either have none or are still no texts in it. -/
theorem sortedParents_texts {t : TypeDecl Json} :
    (∃ sorted, t.sortedParents = .ok sorted ∧ ∀ p ∈ sorted, p.IsText) ↔ ∀ p ∈ t.parents, p.IsText := by
  constructor
  · rintro ⟨sorted, hs, ht⟩
    have hp : sorted.Perm t.parents := by
      unfold TypeDecl.sortedParents at hs
      cases ho : Json.sort? t.parents with
      | none => simp [ho] at hs
      | some found =>
        rw [ho] at hs
        obtain rfl := Except.ok.inj hs
        exact sort_perm ho
    exact fun p hm => ht p (hp.mem_iff.mpr hm)
  · intro h
    obtain ⟨texts, ht⟩ := texts_of_all h
    refine ⟨(sortTexts texts).map .str, ?_, ?_⟩
    · rw [TypeDecl.sortedParents, ht, Json.sort_texts]
    · intro p hp
      obtain ⟨s, -, rfl⟩ := List.mem_map.mp hp
      exact ⟨s, rfl⟩

/-! Pages. -/

namespace Documentation

structure Presentable (t : TypeDecl Json) : Prop where
  name : t.name.IsText
  parents : ∀ p ∈ t.parents, p.IsText
  description : (t.description.getD .null).IsTextIfAny
  fields : ∀ f ∈ t.fields,
    f.name.IsText ∧ f.typeRef.IsText ∧ (f.description.getD .null).IsTextIfAny

theorem checkField_ok {f : Field Json} : checkField f = .ok () ↔
    f.name.IsText ∧ f.typeRef.IsText ∧ (f.description.getD .null).IsTextIfAny := by
  simp only [checkField, bind_eq_ok, demandText_ok, checkDescription, demandIfTruthy_ok, Json.IsText]
  constructor
  · rintro ⟨s, hn, r, ht, hd⟩
    exact ⟨⟨s, hn⟩, ⟨r, ht⟩, hd⟩
  · rintro ⟨⟨s, hn⟩, ⟨r, ht⟩, hd⟩
    exact ⟨s, hn, r, ht, hd⟩

theorem checkCard_ok {t : TypeDecl Json} {u : Unit} : checkCard t = .ok u ↔ Presentable t := by
  have hp (sorted : List Json) : sorted.forM (fun p => (demandText p).map fun _ => ()) = .ok () ↔
      ∀ p ∈ sorted, p.IsText := by
    simp only [forM_eq_ok, map_eq_ok, demandText_ok, and_true, Json.IsText]
  simp only [checkCard, bind_eq_ok, demandText_ok, hp, checkDescription, demandIfTruthy_ok, forM_eq_ok,
    checkField_ok]
  constructor
  · rintro ⟨s, hn, sorted, hs, ⟨⟩, ht, ⟨⟩, hd, hf⟩
    exact ⟨⟨s, hn⟩, sortedParents_texts.mp ⟨sorted, hs, ht⟩, hd, hf⟩
  · rintro ⟨⟨s, hn⟩, hps, hd, hf⟩
    obtain ⟨sorted, hs, ht⟩ := sortedParents_texts.mpr hps
    exact ⟨s, hn, sorted, hs, (), ht, (), hd, hf⟩

structure IsPresentable (r : Report Json) : Prop where
  types : ∀ t ∈ r.types, Presentable t
  rootType : r.rootType.IsTextIfAny
  timestamp : r.timestamp.IsTextIfAny

theorem pageChecked_isOk (title : String) {r : Report Json} :
    (∃ html, pageChecked title r = .ok html) ↔ IsPresentable r := by
  simp only [pageChecked, bind_eq_ok, forM_eq_ok, checkCard_ok, demandIfTruthy_ok]
  constructor
  · rintro ⟨_, ⟨⟩, ht, ⟨⟩, hr, ⟨⟩, hs, -⟩
    exact ⟨ht, hr, hs⟩
  · rintro ⟨ht, hr, hs⟩
    exact ⟨_, (), ht, (), hr, (), hs, rfl⟩

end Documentation

/-! Source texts, where there are no schemas. -/

namespace TypeScript

theorem unionOf_texts {members : List (Except Misuse Value)}
    (h : ∀ m ∈ members, ∃ s, m = .ok (.scalar (.text s))) : ∃ texts, unionOf members = .ok texts := by
  induction members with
  | nil => exact ⟨[], rfl⟩
  | cons m members ih =>
    obtain ⟨⟨s, rfl⟩, hr⟩ := List.forall_mem_cons.mp h
    obtain ⟨texts, ht⟩ := ih hr
    refine ⟨s :: texts, ?_⟩
    rw [unionOf, ht]
    rfl

theorem resolveLoosely_text (typeRef : String) :
    ∃ s, resolveLoosely [] typeRef = .ok (.scalar (.text s)) := by
  have hall (fuel : Nat) (cs : List Char) :
      ∃ s, (looseResolution []).readWithin fuel cs = .ok (.scalar (.text s)) := by
    induction fuel generalizing cs with
    | zero => exact ⟨_, rfl⟩
    | succ fuel ih =>
      have hl (name : String) : (looseResolution []).lookup name = none := rfl
      simp only [Reading.readWithin, hl]
      split
      · rename_i inner _
        obtain ⟨s, hs⟩ := ih inner
        rw [hs]
        exact ⟨_, rfl⟩
      · split
        · obtain ⟨texts, ht⟩ : ∃ texts, unionOf (((Text.trim cs).splitOn '|').map
              ((looseResolution []).readWithin fuel)) = .ok texts := by
            refine unionOf_texts fun m hm => ?_
            obtain ⟨part, -, rfl⟩ := List.mem_map.mp hm
            exact ih part
          refine ⟨joinTexts " | " texts, ?_⟩
          exact congrArg (Except.map fun texts => Value.scalar (.text (joinTexts " | " texts))) ht
        · exact ⟨_, rfl⟩
  exact hall _ _

/-- What a declaration is made of are texts. Of types that are no records the name and the type
expressions are needed. -/
structure Declarable (t : TypeDecl Json) : Prop where
  name : t.name.IsText
  typeRefs : ∀ f ∈ t.fields, f.typeRef.IsText
  fields : t.kind = .record → ∀ f ∈ t.fields, f.name.IsText
  parents : t.kind = .record → ∀ p ∈ t.parents, p.IsText

theorem checkField_ok {f : Field Json} {u : Unit} :
    checkField [] f = .ok u ↔ f.name.IsText ∧ f.typeRef.IsText := by
  simp only [checkField, bind_eq_ok, insertText_ok, demandText_ok, Json.IsText]
  constructor
  · rintro ⟨s, hn, r, ht, -⟩
    exact ⟨⟨s, hn⟩, r, ht⟩
  · rintro ⟨⟨s, hn⟩, r, ht⟩
    obtain ⟨text, he⟩ := resolveLoosely_text r
    exact ⟨s, hn, r, ht, _, he, rfl⟩

theorem checkParents_ok {t : TypeDecl Json} {u : Unit} :
    checkParents [] t = .ok u ↔ ∀ p ∈ t.parents, p.IsText := by
  have hp (p : Json) (v : Value) : (demandText p >>= resolveLoosely []) = .ok v ↔
      ∃ s, p = .str s ∧ resolveLoosely [] s = .ok v := by
    simp only [bind_eq_ok, demandText_ok]
  rw [← sortedParents_texts]
  simp only [checkParents, bind_eq_ok]
  constructor
  · rintro ⟨sorted, hs, resolved, hr, -⟩
    refine ⟨sorted, hs, fun p hm => ?_⟩
    obtain ⟨v, hv⟩ := mapM_isOk.mp ⟨resolved, hr⟩ p hm
    obtain ⟨s, rfl, -⟩ := (hp p v).mp hv
    exact ⟨s, rfl⟩
  · rintro ⟨sorted, hs, ht⟩
    obtain ⟨resolved, hr⟩ : ∃ resolved,
        sorted.mapM (fun p => demandText p >>= resolveLoosely []) = .ok resolved := by
      refine mapM_isOk.mpr fun p hm => ?_
      obtain ⟨s, rfl⟩ := ht p hm
      obtain ⟨text, he⟩ := resolveLoosely_text s
      exact ⟨_, (hp _ _).mpr ⟨s, rfl, he⟩⟩
    obtain ⟨texts, hu⟩ : ∃ texts, unionOf (resolved.map .ok) = .ok texts := by
      refine unionOf_texts fun m hm => ?_
      obtain ⟨v, hv, rfl⟩ := List.mem_map.mp hm
      obtain ⟨p, -, hf⟩ := mem_of_mapM hr hv
      obtain ⟨s, -, he⟩ := (hp p v).mp hf
      obtain ⟨text, he'⟩ := resolveLoosely_text s
      obtain rfl := Except.ok.inj (he.symm.trans he')
      exact ⟨text, rfl⟩
    exact ⟨sorted, hs, resolved, hr, texts, hu, rfl⟩

theorem checkDecl_ok {t : TypeDecl Json} {u : Unit} : checkDecl [] t = .ok u ↔
    t.name.IsText ∧ (t.kind = .record →
      (∀ f ∈ t.fields, f.name.IsText ∧ f.typeRef.IsText) ∧ ∀ p ∈ t.parents, p.IsText) := by
  have hn : (∃ s, insertText t.name = .ok s ∧ (pure () : Except Misuse Unit) = .ok u) ↔
      t.name.IsText := by
    simp only [insertText_ok, Json.IsText]
    exact ⟨fun ⟨s, h, _⟩ => ⟨s, h⟩, fun ⟨s, h⟩ => ⟨s, h, rfl⟩⟩
  by_cases hk : t.kind = .record
  · simp only [checkDecl, hk, if_true, bind_eq_ok, forM_eq_ok, checkField_ok, checkParents_ok, hn]
    exact ⟨fun ⟨_, hf, _, hp, h⟩ => ⟨h, fun _ => ⟨hf, hp⟩⟩,
      fun ⟨h, hr⟩ => ⟨(), (hr trivial).1, (), (hr trivial).2, h⟩⟩
  · simp only [checkDecl, hk, if_false, bind_eq_ok, hn, false_implies, and_true]

theorem generateChecked_isOk (settings : Settings) {types : List (TypeDecl Json)} :
    (∃ source, generateChecked settings [] types = .ok source) ↔ ∀ t ∈ types, Declarable t := by
  have hrefs : checkTypeRefs types = .ok () ↔ ∀ t ∈ types, ∀ f ∈ t.fields, f.typeRef.IsText := by
    simp only [checkTypeRefs, forM_eq_ok, map_eq_ok, demandText_ok, and_true, Json.IsText]
  have hmodules : checkModules [] types = .ok () := forM_eq_ok.mpr fun _ _ => rfl
  simp only [generateChecked, hmodules, bind_eq_ok, forM_eq_ok, checkDecl_ok]
  constructor
  · rintro ⟨_, ⟨⟩, hr, -, -, ⟨⟩, hd, -⟩ t ht
    obtain ⟨hn, hk⟩ := hd t ht
    exact ⟨hn, hrefs.mp hr t ht, fun h f hf => ((hk h).1 f hf).1, fun h => (hk h).2⟩
  · intro h
    refine ⟨_, (), hrefs.mpr fun t ht => (h t ht).typeRefs, (), trivial, (), fun t ht => ?_, rfl⟩
    refine ⟨(h t ht).name, fun hk => ⟨fun f hf => ?_, (h t ht).parents hk⟩⟩
    exact ⟨(h t ht).fields hk f hf, (h t ht).typeRefs f hf⟩

end TypeScript

end SampleTypes
