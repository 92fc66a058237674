import SampleTypes.Proofs.TypeScript.Generation
import SampleTypes.Proofs.TypeScript.PropertyKeys

/-!
What a hint comes to. Its ASCII letters and digits are kept, all of them and in order, though a letter
may be put in upper case, and a word goes in front where the first of them is a digit. Main result: this
makes a name of every hint, and a name that is taken for a hint stays as it is.
-/

namespace SampleTypes

def kept (hint : String) : List Char := hint.toList.filter Char.isAlphanum

/-- The characters of the second text, of which some letters are put in upper case. -/
def Capitalizes (xs ys : List Char) : Prop := List.Forall₂ (fun d c => d = c ∨ d = c.toUpper) xs ys

inductive NameFrom : List Char → String → Prop where
  | nothing : NameFrom [] anonymousName
  | letterFirst {c : Char} {cs : List Char} {name : String} (letter : c.isDigit = false)
      (same : Capitalizes name.toList (c :: cs)) : NameFrom (c :: cs) name
  | digitFirst {c : Char} {cs tail : List Char} {name : String} (digit : c.isDigit = true)
      (word : name.toList = "Type".toList ++ tail) (same : Capitalizes tail (c :: cs)) :
      NameFrom (c :: cs) name

section Letters

variable {c : Char}

/-- Of letters and digits a property can be decided one by one. -/
theorem alphanum_forall {p : Char → Prop}
    (h : ∀ n < 0x80, (Char.ofNat n).isAlphanum = true → p (Char.ofNat n))
    (hc : c.isAlphanum = true) : p c :=
  Text.ascii_forall (p := fun d => d.isAlphanum = true → p d) h (alphanum_lt hc) hc

theorem toUpper_isDigit (h : c.isAlphanum = true) : c.toUpper.isDigit = c.isDigit :=
  alphanum_forall (p := fun d => d.toUpper.isDigit = d.isDigit) (by decide) h

theorem upper_kept (h : c.isUpper = true) : c.toUpper = c ∧ c.isDigit = false := by
  have ha : c.isAlphanum = true := alphanum_iff.mpr (.inl (.inl h))
  have hall := alphanum_forall (p := fun d => d.isUpper = true → d.toUpper = d ∧ d.isDigit = false)
    (by decide) ha
  exact hall h

end Letters

theorem capitalizeRuns_kept (atStart : Bool) (cs : List Char) :
    Capitalizes (capitalizeRuns atStart cs) (cs.filter Char.isAlphanum) := by
  induction cs generalizing atStart with
  | nil => exact .nil
  | cons c cs ih =>
    by_cases hc : c.isAlphanum = true
    · simp only [capitalizeRuns, hc, if_true, List.filter_cons_of_pos]
      refine .cons ?_ (ih false)
      cases atStart
      · exact Or.inl rfl
      · exact Or.inr rfl
    · simpa [capitalizeRuns, hc] using ih true

theorem pascalCase_nameFrom (hint : String) : NameFrom (kept hint) (pascalCase hint) := by
  have hs : Capitalizes (capitalizeRuns true hint.toList) (kept hint) := capitalizeRuns_kept true _
  have hkept : ∀ c ∈ kept hint, c.isAlphanum = true := fun c hc => (List.mem_filter.mp hc).2
  unfold pascalCase
  generalize capitalizeRuns true hint.toList = runs at hs
  generalize kept hint = cs at hs hkept
  cases hs with
  | nil => exact .nothing
  | @cons d c ds cs hd hs =>
    have hdigit : d.isDigit = c.isDigit := by
      rcases hd with rfl | rfl
      · rfl
      · exact toUpper_isDigit (hkept c List.mem_cons_self)
    by_cases hc : c.isDigit = true
    · simp only [hdigit, hc, if_true]
      exact .digitFirst hc String.toList_ofList (.cons hd hs)
    · simp only [hdigit, hc, Bool.false_eq_true, if_false]
      refine .letterFirst (Bool.eq_false_iff.mpr hc) ?_
      rw [String.toList_ofList]
      exact .cons hd hs

/-- Letters and digits in the middle of a run are left as they are. -/
theorem capitalizeRuns_inside {cs : List Char} (h : ∀ c ∈ cs, c.isAlphanum = true) :
    capitalizeRuns false cs = cs := by
  induction cs with
  | nil => rfl
  | cons c cs ih =>
    rw [List.forall_mem_cons] at h
    simp [capitalizeRuns, h.1, ih h.2]

theorem pascalCase_typeName {name : String} (h : IsTypeName name) : pascalCase name = name := by
  obtain ⟨c, cs, hn, hc, hcs⟩ := h
  have ha : c.isAlphanum = true := alphanum_iff.mpr (.inl (.inl hc))
  have hruns : capitalizeRuns true name.toList = c :: cs := by
    rw [hn]
    simp [capitalizeRuns, ha, (upper_kept hc).1, capitalizeRuns_inside hcs]
  unfold pascalCase
  rw [hruns]
  simp only [(upper_kept hc).2, Bool.false_eq_true, if_false]
  rw [← hn, String.ofList_toList]

theorem typeName_isIdentifier {name : String} (h : IsTypeName name) :
    TypeScript.IsIdentifier name.toList := by
  obtain ⟨c, cs, hn, hc, hcs⟩ := h
  have ha : c.isAlpha = true := (Bool.or_eq_true _ _).mpr (Or.inl hc)
  rw [hn]
  constructor
  · simp [TypeScript.startsIdentifier, ha]
  · intro d hd
    simp [TypeScript.continuesIdentifier, hcs d hd]

/-- Whatever the hint, its name is a capital letter with letters and digits after it. They are those of
the hint, and the name of the name is itself. With any number behind, it is an identifier and cannot be
taken apart as a type expression. -/
theorem hint_normalized (hint : String) :
    IsTypeName (pascalCase hint) ∧ pascalCase (pascalCase hint) = pascalCase hint ∧
      NameFrom (kept hint) (pascalCase hint) ∧
      ∀ n, TypeScript.IsIdentifier (Allocator.numbered (pascalCase hint) n).toList ∧
        TypeScript.InOnePiece (Allocator.numbered (pascalCase hint) n) := by
  have hname := pascalCase_isTypeName hint
  refine ⟨hname, pascalCase_typeName hname, pascalCase_nameFrom hint, ?_⟩
  intro n
  have hnumbered := Allocator.numbered_isTypeName hname n
  constructor
  · exact typeName_isIdentifier hnumbered
  · exact TypeScript.typeName_inOnePiece hnumbered

/-- A first digit, separators of other scripts, and capitals inside a word. -/
example : pascalCase "2nd—ownerId_é" = "Type2ndOwnerId" := by decide

end SampleTypes
