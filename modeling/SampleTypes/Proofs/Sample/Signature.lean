import Mathlib.Data.List.Nodup
import SampleTypes.Proofs.Basic
import SampleTypes.Proofs.Text.Cutting

/-!
How much of a record its signature tells. Records of one shape have one signature, whatever the order
of their fields and the values in them. The other way round this holds for field names in which
nothing looks like the end of a field. The signature does not keep other names apart from its own
separators: each record of two fields or more shares its signature with a record of one field.
-/

namespace SampleTypes

structure TextRecord (α : Type) where
  entries : List (String × α)
  distinct : (entries.map Prod.fst).Nodup

def fieldEnd (k : Kind) : List Char := ':' :: k.label.toList ++ ['|']

def ClearName (name : String) : Prop := ∀ k, ¬ fieldEnd k <:+: name.toList

namespace TextRecord

section

variable {α : Type} [Sampled α]

def shape (r : TextRecord α) : List (String × Kind) := r.entries.map fun e => (e.1, kindOf e.2)

def SameShape (r s : TextRecord α) : Prop := ∀ p, p ∈ r.shape ↔ p ∈ s.shape

def signature (r : TextRecord α) : String := fingerprint (r.entries.map fun e => (.text e.1, e.2))

end

def Clear {α : Type} (r : TextRecord α) : Prop := ∀ e ∈ r.entries, ClearName e.1

end TextRecord

def fieldText (p : String × Kind) : String := p.1 ++ ":" ++ p.2.label

theorem fieldText_toList (p : String × Kind) :
    (fieldText p).toList = p.1.toList ++ ':' :: p.2.label.toList := by
  simp [fieldText, String.toList_append]

theorem label_no_colon (k : Kind) : ':' ∉ k.label.toList := by cases k <;> decide

theorem label_no_bar (k : Kind) : '|' ∉ k.label.toList := by cases k <;> decide

theorem label_injective {k l : Kind} (h : k.label = l.label) : k = l := by
  cases k <;> cases l <;> first | rfl | exact absurd h (by decide)

theorem fieldText_injective {p q : String × Kind} (h : fieldText p = fieldText q) : p = q := by
  have hl : p.1.toList ++ ':' :: p.2.label.toList = q.1.toList ++ ':' :: q.2.label.toList := by
    rw [← fieldText_toList, ← fieldText_toList, h]
  have hsame : ∀ {x y : List Char} {k l : Kind},
      x ++ ':' :: k.label.toList = y ++ ':' :: l.label.toList → y.length ≤ x.length := by
    intro x y k l he
    rcases List.append_eq_append_iff.mp he with ⟨more, rfl, ht⟩ | ⟨more, rfl, -⟩
    · cases more with
      | nil => simp
      | cons c more =>
        obtain ⟨-, ht⟩ := List.cons.inj ht
        exact absurd (ht ▸ List.mem_append_right _ List.mem_cons_self) (label_no_colon k)
    · simp
  obtain ⟨hn, hk⟩ := List.append_inj hl (Nat.le_antisymm (hsame hl.symm) (hsame hl))
  exact Prod.ext (String.toList_inj.mp hn)
    (label_injective (String.toList_inj.mp (List.cons.inj hk).2))

/-- A field that another one follows does not begin a field with a clear name. -/
theorem field_not_begins {p q : String × Kind} (hq : ClearName q.1) (rest : List Char) :
    (fieldText q).toList ≠ (fieldText p).toList ++ '|' :: rest := by
  intro h
  rw [fieldText_toList, fieldText_toList] at h
  have he : q.1.toList ++ ':' :: q.2.label.toList = (p.1.toList ++ fieldEnd p.2) ++ rest := by
    simpa [fieldEnd] using h
  have hinside : ∀ more, q.1.toList = (p.1.toList ++ fieldEnd p.2) ++ more → False := by
    intro more hm
    exact hq p.2 ⟨p.1.toList, more, hm.symm⟩
  rcases List.append_eq_append_iff.mp he with ⟨more, hm, ht⟩ | ⟨more, hm, -⟩
  · rcases List.eq_nil_or_concat more with rfl | ⟨front, last, rfl⟩
    · exact hinside [] (by simpa using hm.symm)
    · have hends : (p.1.toList ++ ':' :: p.2.label.toList) ++ ['|'] = (q.1.toList ++ front) ++ [last] := by
        simpa [fieldEnd] using hm
      have hbar : '|' ∈ ':' :: q.2.label.toList := by
        have hlast := (List.append_inj' hends rfl).2
        rw [ht, ← List.singleton_inj.mp hlast]
        simp
      rcases List.mem_cons.mp hbar with hc | hb
      · exact absurd hc (by decide)
      · exact label_no_bar q.2 hb
  · exact hinside more hm

/-! Fields one after another. -/

theorem first_field {p q : String × Kind} (hp : ClearName p.1) (hq : ClearName q.1)
    {ps qs : List (String × Kind)}
    (h : joinTexts "|" ((p :: ps).map fieldText) = joinTexts "|" ((q :: qs).map fieldText)) :
    p = q ∧ ps.flatMap (fun t => '|' :: (fieldText t).toList) =
      qs.flatMap fun t => '|' :: (fieldText t).toList := by
  have hl := congrArg String.toList h
  rw [List.map_cons, List.map_cons, joinTexts_toList, joinTexts_toList, List.flatMap_map,
    List.flatMap_map] at hl
  have hrest : ∀ {xs : List (String × Kind)} {more others : List Char},
      xs.flatMap (fun t => '|' :: (fieldText t).toList) = more ++ others →
        more = [] ∨ ∃ rest, more = '|' :: rest := by
    intro xs more others he
    cases more with
    | nil => exact .inl rfl
    | cons c more =>
      cases xs with
      | nil => cases he
      | cons x xs =>
        simp only [List.flatMap_cons, List.cons_append] at he
        exact .inr ⟨more, by rw [(List.cons.inj he).1]⟩
  rcases List.append_eq_append_iff.mp hl with ⟨more, hm, ht⟩ | ⟨more, hm, ht⟩
  · rcases hrest ht with rfl | ⟨rest, rfl⟩
    · exact ⟨fieldText_injective (String.toList_inj.mp (by simpa using hm.symm)), ht⟩
    · exact absurd hm (field_not_begins hq rest)
  · rcases hrest ht with rfl | ⟨rest, rfl⟩
    · exact ⟨fieldText_injective (String.toList_inj.mp (by simpa using hm)), ht.symm⟩
    · exact absurd hm (field_not_begins hp rest)

theorem joined_fields_injective {ps qs : List (String × Kind)} (hp : ∀ p ∈ ps, ClearName p.1)
    (hq : ∀ q ∈ qs, ClearName q.1)
    (h : joinTexts "|" (ps.map fieldText) = joinTexts "|" (qs.map fieldText)) : ps = qs := by
  have hne : ∀ (p : String × Kind) ps, joinTexts "|" ((p :: ps).map fieldText) ≠ "" := by
    intro p ps he
    have hl := congrArg String.toList he
    simp [joinTexts_toList, fieldText_toList] at hl
  induction ps generalizing qs with
  | nil =>
    cases qs with
    | nil => rfl
    | cons q qs => exact absurd h.symm (hne q qs)
  | cons p ps ih =>
    cases qs with
    | nil => exact absurd h (hne p ps)
    | cons q qs =>
      obtain ⟨hp, hps⟩ := List.forall_mem_cons.mp hp
      obtain ⟨hq, hqs⟩ := List.forall_mem_cons.mp hq
      obtain ⟨rfl, ht⟩ := first_field hp hq h
      refine congrArg (p :: ·) (ih hps hqs ?_)
      cases ps with
      | nil =>
        cases qs with
        | nil => rfl
        | cons q qs => cases ht
      | cons p' ps =>
        cases qs with
        | nil => cases ht
        | cons q' qs =>
          rw [List.flatMap_cons, List.flatMap_cons, List.cons_append, List.cons_append] at ht
          rw [← String.toList_inj, List.map_cons, List.map_cons, joinTexts_toList, joinTexts_toList,
            List.flatMap_map, List.flatMap_map]
          exact (List.cons.inj ht).2

theorem sortTexts_eq_of_perm {xs ys : List String} (h : xs.Perm ys) : sortTexts xs = sortTexts ys := by
  refine List.Perm.eq_of_pairwise (fun a b _ _ hab hba => ?_) (sortTexts_pairwise xs)
    (sortTexts_pairwise ys) ((sortTexts_perm xs).trans (h.trans (sortTexts_perm ys).symm))
  exact le_antisymm (textLe_iff.mp hab) (textLe_iff.mp hba)

namespace TextRecord

section

variable {α : Type} [Sampled α] (r s : TextRecord α)

def sortedShape : List (String × Kind) :=
  r.shape.mergeSort fun p q => textLe (fieldText p) (fieldText q)

theorem sortedShape_perm : r.sortedShape.Perm r.shape := List.mergeSort_perm _ _

theorem sortedShape_texts : r.sortedShape.map fieldText = sortTexts (r.shape.map fieldText) :=
  List.map_mergeSort fun _ _ _ _ => rfl

theorem signature_eq :
    r.signature = "\x7b" ++ joinTexts "|" (r.sortedShape.map fieldText) ++ "\x7d" := by
  have hparts : (r.entries.map fun e => ((.text e.1, e.2) : Scalar × α)).map signaturePart =
      r.shape.map fieldText := by
    rw [shape, List.map_map, List.map_map]
    rfl
  rw [signature, fingerprint, hparts, sortedShape_texts]

theorem shape_names : r.shape.map Prod.fst = r.entries.map Prod.fst := by
  rw [shape, List.map_map]
  rfl

theorem shape_nodup : r.shape.Nodup :=
  .of_map Prod.fst (r.shape_names ▸ r.distinct)

variable {r s}

theorem SameShape.signature_eq (h : r.SameShape s) : r.signature = s.signature := by
  have hperm : r.shape.Perm s.shape := (List.perm_ext_iff_of_nodup r.shape_nodup s.shape_nodup).mpr h
  rw [r.signature_eq, s.signature_eq, sortedShape_texts, sortedShape_texts,
    sortTexts_eq_of_perm (hperm.map fieldText)]

theorem Clear.sortedShape (h : r.Clear) : ∀ p ∈ r.sortedShape, ClearName p.1 := by
  intro p hp
  obtain ⟨e, he, rfl⟩ := List.mem_map.mp ((List.mem_mergeSort).mp hp)
  exact h e he

theorem Clear.sameShape (hr : r.Clear) (hs : s.Clear) (h : r.signature = s.signature) :
    r.SameShape s := by
  rw [r.signature_eq, s.signature_eq, String.append_left_inj, String.append_right_inj] at h
  have hsorted := joined_fields_injective hr.sortedShape hs.sortedShape h
  intro p
  rw [← r.sortedShape_perm.mem_iff, ← s.sortedShape_perm.mem_iff, hsorted]

/-- All fields but the last become part of the name of the last one. -/
theorem exists_lookalike (h : 2 ≤ r.entries.length) :
    ∃ (name : String) (v : α), (⟨[(name, v)], List.nodup_singleton _⟩ : TextRecord α).signature =
      r.signature := by
  have hl : 2 ≤ r.sortedShape.length := by
    rw [r.sortedShape_perm.length_eq, shape, List.length_map]
    exact h
  rcases List.eq_nil_or_concat r.sortedShape with hn | ⟨front, last, hc⟩
  · rw [hn] at hl
    cases hl
  · rw [List.concat_eq_append] at hc
    have hlast : last ∈ r.shape := r.sortedShape_perm.mem_iff.mp (hc ▸ by simp)
    obtain ⟨e, -, rfl⟩ := List.mem_map.mp hlast
    have hfront : front.map fieldText ≠ [] := by
      rintro hf
      rw [hc, List.map_eq_nil_iff.mp hf] at hl
      simp at hl
    refine ⟨joinTexts "|" (front.map fieldText) ++ "|" ++ e.1, e.2, ?_⟩
    rw [r.signature_eq, hc, List.map_append, List.map_singleton, joinTexts_concat _ _ hfront]
    simp only [TextRecord.signature, fingerprint, signaturePart, sortTexts, List.map_singleton,
      List.mergeSort_singleton, joinTexts, Scalar.toText, fieldText, String.append_assoc]

end

section

variable {α : Type} [Sampled α]

/-- A record of one field has not the shape of one with more. -/
theorem single_not_sameShape {r s : TextRecord α} (hr : r.entries.length = 1)
    (hs : 2 ≤ s.entries.length) : ¬ r.SameShape s := by
  intro h
  have hperm := (List.perm_ext_iff_of_nodup r.shape_nodup s.shape_nodup).mpr h
  have hl := hperm.length_eq
  simp only [shape, List.length_map] at hl
  omega

/-- Records of one shape have one signature. Where names are clear, those of one signature have one
shape; but whatever its names, a record of several fields has its signature in common with a record of
another shape. -/
theorem signature_tells_shape (r s : TextRecord α) :
    (r.SameShape s → r.signature = s.signature) ∧
      (r.Clear → s.Clear → r.signature = s.signature → r.SameShape s) ∧
      (2 ≤ r.entries.length → ∃ t : TextRecord α, t.signature = r.signature ∧ ¬ t.SameShape r) := by
  refine ⟨SameShape.signature_eq, fun hr hs => hr.sameShape hs, fun h => ?_⟩
  obtain ⟨name, v, ht⟩ := exists_lookalike h
  exact ⟨_, ht, single_not_sameShape rfl h⟩

end

def point : TextRecord Value where
  entries := [("lat", .scalar (.int 1)), ("lng", .scalar (.int 2))]
  distinct := by decide

def turnedPoint : TextRecord Value where
  entries := [("lng", .scalar (.int 3)), ("lat", .scalar (.int 4))]
  distinct := by decide

theorem point_clear : point.Clear ∧ turnedPoint.Clear := by
  have hlat : ClearName "lat" := fun k => by cases k <;> decide
  have hlng : ClearName "lng" := fun k => by cases k <;> decide
  simp [Clear, point, turnedPoint, hlat, hlng]

theorem point_signature : point.signature = "\x7blat:number|lng:number\x7d" := by
  have hsort : sortTexts ["lat:number", "lng:number"] = ["lat:number", "lng:number"] :=
    List.mergeSort_of_pairwise (by decide)
  change "\x7b" ++ joinTexts "|" (sortTexts ["lat:number", "lng:number"]) ++ "\x7d" = _
  rw [hsort]
  rfl

theorem turnedPoint_signature : turnedPoint.signature = "\x7blat:number|lng:number\x7d" := by
  have hsort : sortTexts ["lng:number", "lat:number"] = sortTexts ["lat:number", "lng:number"] :=
    sortTexts_eq_of_perm (.swap _ _ _)
  rw [← point_signature]
  exact congrArg (fun texts => "\x7b" ++ joinTexts "|" texts ++ "\x7d") hsort

theorem points_tell_shape :
    point.signature = turnedPoint.signature ∧ point.SameShape turnedPoint ∧
      ∃ t : TextRecord Value, t.signature = point.signature ∧ ¬ t.SameShape point := by
  have hsignature : point.signature = turnedPoint.signature :=
    point_signature.trans turnedPoint_signature.symm
  obtain ⟨-, hsame, hlookalike⟩ := signature_tells_shape point turnedPoint
  exact ⟨hsignature, hsame point_clear.1 point_clear.2 hsignature, hlookalike (by decide)⟩

/-- A record with one field, whose name holds what separates the fields of a point. -/
def pointLookalike : TextRecord Value where
  entries := [("lat:number|lng", .scalar (.int 5))]
  distinct := by decide

theorem point_not_identified :
    point.signature = pointLookalike.signature ∧ ¬ point.SameShape pointLookalike := by
  have hjoined : pointLookalike.signature = "\x7blat:number|lng:number\x7d" := by
    change "\x7b" ++ joinTexts "|" (sortTexts ["lat:number|lng:number"]) ++ "\x7d" = _
    rw [sortTexts, List.mergeSort_singleton]
    rfl
  refine ⟨point_signature.trans hjoined.symm, fun h => ?_⟩
  have hlat : ("lat", Kind.number) ∈ pointLookalike.shape :=
    (h ("lat", .number)).mp (by decide)
  exact absurd hlat (by decide)

end TextRecord

end SampleTypes
