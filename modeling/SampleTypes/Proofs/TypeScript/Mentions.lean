import SampleTypes.Proofs.TypeScript.Parts

/-!
Schemas that a type expression mentions. The reader that puts overrides in looks for schemas at the
bases of all parts. The imports look for them at the same places, but for the parts where a blank stands
before a pair of brackets: there they look for a name with that blank, and find nothing.
-/

namespace SampleTypes.TypeScript

open SampleTypes.Inference (arrayOf)

/-- The schemas found on the way through a type expression, by the reader that puts overrides in. -/
def finding (refs : Matcher String) : Reading (List (Schema String)) where
  lookup name := (refs.get? name).map fun s => [s]
  bare _ := []
  array found := found
  union := List.flatten

/-- The brackets of the part stand right behind its base. -/
def IsTight (part : List Char) : Prop :=
  Text.trim part = (arrayOf (partOf part).base (partOf part).dimensions).toList

instance (part : List Char) : Decidable (IsTight part) :=
  inferInstanceAs (Decidable (_ = _))

def tightParts (typeRef : String) : List Part :=
  ((typeRef.toList.splitOn '|').filter fun part => IsTight part).map partOf

def importedBase (part : List Char) : String :=
  String.ofList (dropArrays part.length (Text.trim part))

theorem dropArrays_cut (fuel : Nat) (cs : List Char) :
    ∃ dimensions, cs = dropArrays fuel cs ++ brackets dimensions := by
  induction fuel generalizing cs with
  | zero => exact ⟨0, (List.append_nil _).symm⟩
  | succ fuel ih =>
    cases hd : dropArray? cs with
    | none => exact ⟨0, by simp [dropArrays, hd, brackets]⟩
    | some inner =>
      obtain ⟨d, he⟩ := ih inner
      refine ⟨d + 1, ?_⟩
      rw [dropArrays, hd, brackets, ← List.append_assoc, ← he]
      exact dropArray_eq_some.mp hd

section

variable {refs : Matcher String}

theorem get_name {name : String} {s : Schema String} (h : refs.get? name = some s) :
    s ∈ refs ∧ s.name = name :=
  ⟨List.mem_of_find?_eq_some h, by simpa using List.find?_some h⟩

/-- The imports find a schema at a part if and only if it is the one at the base, with the brackets
right behind. -/
theorem get_importedBase (hr : ∀ s ∈ refs, InOnePiece s.name) (part : List Char)
    (s : Schema String) :
    refs.get? (importedBase part) = some s ↔
      IsTight part ∧ refs.get? (partOf part).base = some s := by
  constructor
  · intro hg
    obtain ⟨hs, hn⟩ := get_name hg
    have hp : InOnePiece (importedBase part) := hn ▸ hr s hs
    obtain ⟨d, hd⟩ := dropArrays_cut part.length (Text.trim part)
    have ht : Text.trim part = (arrayOf (importedBase part) d).toList := by
      rw [arrayOf_toList, importedBase, String.toList_ofList]
      exact hd
    have hpart : partOf part = ⟨importedBase part, d⟩ := by
      rw [← partOf_trim, ht, partOf_arrayOf hp]
    exact ⟨by rw [IsTight, hpart, ht], by rw [hpart, hg]⟩
  · rintro ⟨ht, hg⟩
    obtain ⟨hs, hn⟩ := get_name hg
    have hp : InOnePiece (partOf part).base := hn ▸ hr s hs
    have hl : (partOf part).dimensions ≤ part.length := by
      have hlt := Text.trim_length_le part
      rw [IsTight, arrayOf_toList] at ht
      rw [ht, List.length_append, brackets_length] at hlt
      omega
    have hi : importedBase part = (partOf part).base := by
      rw [importedBase, ht, arrayOf_toList, dropArrays_brackets hp.no_bracket _ hl,
        String.ofList_toList]
    rw [hi, hg]

/-- A list that is sifted first gives as much as before if and only if nothing is lost. -/
theorem filterMap_filter_eq_iff {α β : Type} {p : α → Bool} {f : α → Option β} {xs : List α} :
    (xs.filter p).filterMap f = xs.filterMap f ↔ ∀ x ∈ xs, p x = true ∨ f x = none := by
  have hle (ys : List α) : ((ys.filter p).filterMap f).length ≤ (ys.filterMap f).length :=
    (List.filter_sublist.filterMap f).length_le
  induction xs with
  | nil => simp
  | cons x xs ih =>
    rw [List.forall_mem_cons]
    by_cases hp : p x = true
    · cases hf : f x <;> simp [hp, hf, ih]
    · cases hf : f x with
      | none => simp [hp, hf, ih]
      | some y =>
        refine iff_of_false (fun he => ?_) (by simp [hp])
        rw [List.filter_cons_of_neg hp, List.filterMap_cons_some hf] at he
        have hl := congrArg List.length he
        have hs := hle xs
        rw [List.length_cons] at hl
        omega

theorem finding_isFlat (hr : ∀ s ∈ refs, IsWhole s.name) : (finding refs).IsFlat where
  whole name v h := by
    obtain ⟨s, hs, -⟩ := Option.map_eq_some_iff.mp h
    exact get_whole hr hs
  single found := by simp [finding]
  array_union _ _ := rfl

theorem finding_part (refs : Matcher String) (part : List Char) :
    (finding refs).readPart part = (refs.get? (partOf part).base).toList := by
  have harrays (found : List (Schema String)) (d : Nat) : (finding refs).arrays found d = found := by
    induction d with
    | zero => rfl
    | succ d ih => exact ih
  rw [Reading.readPart, harrays, Reading.readBase]
  cases hg : refs.get? (partOf part).base <;> simp [finding, hg]

theorem finding_read (hr : ∀ s ∈ refs, IsWhole s.name) (typeRef : String) :
    (finding refs).read typeRef = (parts typeRef).filterMap fun p => refs.get? p.base := by
  have hf : typeRef.toList.length < typeRef.length + 1 := Nat.lt_succ_self _
  have hparts : (finding refs).readPart = fun part => (refs.get? (partOf part).base).toList :=
    funext (finding_part refs)
  rw [Reading.read, (finding_isFlat hr).readWithin hf, Reading.readParts, hparts, parts,
    List.filterMap_map, List.filterMap_eq_flatMap_toList]
  rfl

theorem baseNames_found (hr : ∀ s ∈ refs, InOnePiece s.name) (typeRef : String) :
    (baseNames typeRef).filterMap refs.get? =
      (tightParts typeRef).filterMap fun p => refs.get? p.base := by
  have hg : ∀ part, refs.get? (importedBase part) =
      if IsTight part then refs.get? (partOf part).base else none := by
    intro part
    refine Option.ext fun s => ?_
    rw [get_importedBase hr]
    by_cases ht : IsTight part <;> simp [ht]
  rw [tightParts, List.filterMap_map, List.filterMap_filter, baseNames, List.filterMap_map]
  refine List.filterMap_congr fun part _ => ?_
  simp only [Function.comp_apply, decide_eq_true_eq]
  exact hg part

/-- A name is imported if it is the base of a tight part of some field, and a module is given for
it. -/
theorem mem_importedNames_tight (hr : ∀ s ∈ refs, InOnePiece s.name)
    {types : List (TypeDecl String)} {name : String} :
    name ∈ importedNames refs types ↔ (moduleOf? refs name).isSome = true ∧
      ∃ t ∈ types, ∃ f ∈ t.fields, ∃ p ∈ tightParts f.typeRef, p.base = name := by
  have hused : name ∈ namesUsed types ↔
      ∃ t ∈ types, ∃ f ∈ t.fields, name ∈ baseNames f.typeRef := by
    simp [namesUsed]
  rw [importedNames, mem_firstUses, List.mem_filter, hused, and_comm]
  refine and_congr_right fun hm => exists_congr fun t => and_congr_right fun _ =>
    exists_congr fun f => and_congr_right fun _ => ?_
  obtain ⟨path, hpath⟩ := Option.isSome_iff_exists.mp hm
  obtain ⟨s, hs, -⟩ := Option.bind_eq_some_iff.mp (Option.filter_eq_some_iff.mp hpath).1
  have hn : s.name = name := (get_name hs).2
  have hfound := congrArg (s ∈ ·) (baseNames_found hr f.typeRef)
  simp only [List.mem_filterMap, eq_iff_iff] at hfound
  constructor
  · intro hb
    obtain ⟨p, hp, hg⟩ := hfound.mp ⟨name, hb, hs⟩
    exact ⟨p, hp, (get_name hg).2.symm.trans hn⟩
  · rintro ⟨p, hp, rfl⟩
    obtain ⟨base, hb, hg⟩ := hfound.mpr ⟨p, hp, hs⟩
    obtain rfl : base = p.base := (get_name hg).2.symm.trans hn
    exact hb

end

section

variable {refs : Matcher String}

/-- The imports look into the tight parts only, and the overrides into all. So they find the same
schemas in a type expression if and only if no schema stands at the base of another part; and what is
imported is what has a module and is the base of a tight part. -/
theorem imports_find_tight (hr : ∀ s ∈ refs, InOnePiece s.name) :
    (∀ typeRef,
      (baseNames typeRef).filterMap refs.get? =
        ((tightParts typeRef).filterMap fun p => refs.get? p.base) ∧
      (finding refs).read typeRef = ((parts typeRef).filterMap fun p => refs.get? p.base) ∧
      ((baseNames typeRef).filterMap refs.get? = (finding refs).read typeRef ↔
        ∀ part ∈ typeRef.toList.splitOn '|',
          IsTight part ∨ refs.get? (partOf part).base = none)) ∧
    ∀ types name, name ∈ importedNames refs types ↔ (moduleOf? refs name).isSome = true ∧
      ∃ t ∈ types, ∃ f ∈ t.fields, ∃ p ∈ tightParts f.typeRef, p.base = name := by
  have hw : ∀ s ∈ refs, IsWhole s.name := fun s hs => (hr s hs).isWhole
  refine ⟨fun typeRef => ?_, fun types name => mem_importedNames_tight hr⟩
  refine ⟨baseNames_found hr typeRef, finding_read hw typeRef, ?_⟩
  rw [baseNames_found hr, finding_read hw, tightParts, parts, List.filterMap_map,
    List.filterMap_map, filterMap_filter_eq_iff]
  simp

end

def pageInfo : Matcher String :=
  [{ name := "PageInfo", fields := [("page", "number")], modulePath := some "./pagination" }]

def reportOf (typeRef : String) : TypeDecl String :=
  { name := "Report", fields := [{ name := "pages", typeRef := typeRef }] }

theorem pageInfo_inOnePiece : ∀ s ∈ pageInfo, InOnePiece s.name := by
  decide

theorem pageInfo_imported : (∀ s ∈ pageInfo, InOnePiece s.name) ∧
    (baseNames "string |PageInfo[][]").filterMap pageInfo.get? =
      (finding pageInfo).read "string |PageInfo[][]" ∧
    "PageInfo" ∈ importedNames pageInfo [reportOf "string |PageInfo[][]"] := by
  obtain ⟨hfound, hnames⟩ := imports_find_tight pageInfo_inOnePiece
  obtain ⟨-, -, hsame⟩ := hfound "string |PageInfo[][]"
  refine ⟨pageInfo_inOnePiece, hsame.mpr (by decide +kernel), (hnames _ _).mpr ⟨by decide, ?_⟩⟩
  have hp : ⟨"PageInfo", 2⟩ ∈ tightParts "string |PageInfo[][]" := by decide +kernel
  exact ⟨_, List.mem_singleton_self _, _, List.mem_singleton_self _, _, hp, rfl⟩

/-- With a blank before the brackets the schema is written into the type but not imported. -/
theorem spaced_not_imported :
    (baseNames "PageInfo []").filterMap pageInfo.get? ≠ (finding pageInfo).read "PageInfo []" ∧
      resolve pageInfo "PageInfo []" = "PageInfo[]" ∧
      importsText pageInfo [reportOf "PageInfo []"] = "" := by
  refine ⟨fun he => ?_, by decide +kernel, by decide +kernel⟩
  have hl := congrArg (List.map Schema.name) he
  have hi : ((baseNames "PageInfo []").filterMap pageInfo.get?).map Schema.name = [] := by
    decide +kernel
  have hf : ((finding pageInfo).read "PageInfo []").map Schema.name = ["PageInfo"] := by
    decide +kernel
  rw [hi, hf] at hl
  cases hl

end SampleTypes.TypeScript
