import SampleTypes.Proofs.TypeScript.Parts

/-!
What the text of a type denotes: a union of members, each an operand or an array of a union. Brackets
bind more tightly than bars, and parentheses, brackets and literals keep together what is in them. The
other operators are left in the operands; which operands brackets behind them take as a whole is a
parameter.
-/

namespace SampleTypes.TypeScript

open SampleTypes.Inference (arrayOf)

/-- Where a scan stands: outside of literals, behind an equals sign, in a literal, or behind a backslash
in one. -/
inductive Scan.Mode where
  | plain
  | equals
  | literal (mark : Char)
  | escape (mark : Char)
  deriving DecidableEq, Repr

/-- How many brackets are open, and whether an operator has come outside of them that binds less tightly
than the bar. -/
structure Scan where
  depth : Nat := 0
  mode : Scan.Mode := .plain
  loose : Bool := false
  deriving DecidableEq, Repr

namespace Scan

def openers : List Char := ['(', '[', '\x7b', '<']
def closers : List Char := [')', ']', '\x7d', '>']
def marks : List Char := ['\'', '"', '\u0060']

def IsPlain (c : Char) : Prop := c ∉ '=' :: '?' :: (openers ++ (closers ++ marks))

instance : DecidablePred IsPlain := fun _ => inferInstanceAs (Decidable (¬ _))

def nextPlain (s : Scan) (c : Char) : Scan :=
  if c = '=' then { s with mode := .equals }
  else if c ∈ marks then { s with mode := .literal c }
  else if c ∈ openers then { s with depth := s.depth + 1, mode := .plain }
  else if c ∈ closers then { s with depth := s.depth - 1, mode := .plain }
  else if c = '?' ∧ s.depth = 0 then { s with mode := .plain, loose := true }
  else { s with mode := .plain }

def next (s : Scan) (c : Char) : Scan :=
  match s.mode with
  | .plain => s.nextPlain c
  | .equals =>
    if c = '>' then { s with mode := .plain, loose := s.loose || s.depth = 0 } else s.nextPlain c
  | .literal mark =>
    if c = '\\' then { s with mode := .escape mark }
    else if c = mark then { s with mode := .plain }
    else s
  | .escape mark => { s with mode := .literal mark }

end Scan

/-- Nothing that the text opens is left open, and it holds no loose operator outside of brackets. -/
def Closed (cs : List Char) : Prop := cs.foldl Scan.next {} = {}

instance (cs : List Char) : Decidable (Closed cs) :=
  inferInstanceAs (Decidable (_ = _))

/-- The text cut at the bars that stand in no bracket, no literal and behind no loose operator. -/
def cutFrom (s : Scan) : List Char → List (List Char)
  | [] => [[]]
  | c :: cs =>
    if c = '|' ∧ s.next c = {} then [] :: cutFrom {} cs
    else (cutFrom (s.next c) cs).modifyHead (c :: ·)

def members (cs : List Char) : List Part := (cutFrom {} cs).map partOf

section

variable {s : Scan} {c : Char} {xs ys : List Char}

theorem Closed.append (hx : Closed xs) (hy : Closed ys) : Closed (xs ++ ys) := by
  rw [Closed, List.foldl_append, hx]
  exact hy

theorem Scan.IsPlain.next (h : Scan.IsPlain c) : ({} : Scan).next c = {} := by
  simp only [IsPlain, List.mem_cons, List.mem_append, not_or] at h
  obtain ⟨he, hq, ho, hc, hm⟩ := h
  simp [Scan.next, nextPlain, ho, hc, hm, he, hq]

theorem closed_plain (h : ∀ c ∈ xs, Scan.IsPlain c) : Closed xs := by
  induction xs with
  | nil => rfl
  | cons c cs ih =>
    rw [List.forall_mem_cons] at h
    rw [Closed, List.foldl_cons, h.1.next]
    exact ih h.2

theorem plain_of_blank (h : Text.isBlank c = true) : Scan.IsPlain c := by
  intro hm
  have hall : (('=' :: '?' :: (Scan.openers ++ (Scan.closers ++ Scan.marks))).all fun d =>
      !Text.isBlank d) = true := by
    decide
  have hc := List.all_eq_true.mp hall c hm
  rw [h] at hc
  exact absurd hc (by decide)

theorem closed_blanks (h : ∀ c ∈ xs, Text.isBlank c = true) : Closed xs :=
  closed_plain fun c hc => plain_of_blank (h c hc)

theorem closed_brackets (dimensions : Nat) : Closed (brackets dimensions) := by
  induction dimensions with
  | zero => rfl
  | succ d ih => exact ih.append rfl

theorem cutFrom_ne_nil (s : Scan) (xs : List Char) : cutFrom s xs ≠ [] := by
  induction xs generalizing s with
  | nil => simp [cutFrom]
  | cons c cs ih =>
    rw [cutFrom]
    by_cases hc : c = '|' ∧ s.next c = {}
    · rw [if_pos hc]
      exact List.cons_ne_nil _ _
    · rw [if_neg hc, Ne, List.modifyHead_eq_nil_iff]
      exact ih _

theorem cutFrom_bar (h : (xs.foldl Scan.next s).next '|' = {}) :
    cutFrom s (xs ++ '|' :: ys) = cutFrom s xs ++ cutFrom {} ys := by
  induction xs generalizing s with
  | nil =>
    rw [List.foldl_nil] at h
    simp [cutFrom, h]
  | cons c cs ih =>
    rw [List.cons_append, cutFrom, cutFrom]
    by_cases hc : c = '|' ∧ s.next c = {}
    · rw [if_pos hc, if_pos hc, List.cons_append]
      rw [List.foldl_cons, hc.2] at h
      rw [ih h]
    · obtain ⟨first, rest, he⟩ := List.exists_cons_of_ne_nil (cutFrom_ne_nil (s.next c) cs)
      rw [if_neg hc, if_neg hc, ih h, he]
      rfl

theorem cutFrom_whole (h : '|' ∉ xs) : cutFrom s xs = [xs] := by
  induction xs generalizing s with
  | nil => rfl
  | cons c cs ih =>
    rw [List.mem_cons, not_or] at h
    rw [cutFrom, if_neg fun hc => h.1 hc.1.symm, ih h.2]
    rfl

theorem cutFrom_append_free (h : '|' ∉ ys) (s : Scan) (xs : List Char) :
    ∃ front last, cutFrom s xs = front ++ [last] ∧
      cutFrom s (xs ++ ys) = front ++ [last ++ ys] := by
  induction xs generalizing s with
  | nil => exact ⟨[], [], rfl, cutFrom_whole h⟩
  | cons c cs ih =>
    by_cases hc : c = '|' ∧ s.next c = {}
    · obtain ⟨front, last, he, hm⟩ := ih {}
      refine ⟨[] :: front, last, ?_, ?_⟩
      · rw [cutFrom, if_pos hc, he, List.cons_append]
      · rw [List.cons_append, cutFrom, if_pos hc, hm, List.cons_append]
    · obtain ⟨front, last, he, hm⟩ := ih (s.next c)
      cases front with
      | nil =>
        refine ⟨[], c :: last, ?_, ?_⟩
        · rw [cutFrom, if_neg hc, he]
          rfl
        · rw [List.cons_append, cutFrom, if_neg hc, hm]
          rfl
      | cons first front =>
        refine ⟨(c :: first) :: front, last, ?_, ?_⟩
        · rw [cutFrom, if_neg hc, he]
          rfl
        · rw [List.cons_append, cutFrom, if_neg hc, hm]
          rfl

theorem members_bar (hx : Closed xs) (ys : List Char) :
    members (xs ++ '|' :: ys) = members xs ++ members ys := by
  have hnext : (xs.foldl Scan.next {}).next '|' = {} := by
    rw [hx]
    rfl
  rw [members, cutFrom_bar hnext, List.map_append]
  rfl

theorem members_after (h : ∀ c ∈ ys, Text.isBlank c = true) (xs : List Char) :
    members (xs ++ ys) = members xs := by
  obtain ⟨front, last, he, hm⟩ := cutFrom_append_free (bar_not_mem_blanks h) {} xs
  rw [members, members, he, hm, List.map_append, List.map_append, List.map_singleton,
    List.map_singleton, partOf_after h]

theorem members_blank (h : Text.isBlank c = true) (cs : List Char) :
    members (c :: cs) = members cs := by
  have hc : c ≠ '|' := by
    rintro rfl
    exact absurd h (by decide)
  obtain ⟨first, rest, he⟩ := List.exists_cons_of_ne_nil (cutFrom_ne_nil {} cs)
  rw [members, members, cutFrom, if_neg fun hb => hc hb.1, (plain_of_blank h).next, he,
    List.modifyHead_cons, List.map_cons, List.map_cons, partOf_blank_first h]

theorem partOf_brackets (cs : List Char) (dimensions : Nat) :
    partOf (cs ++ brackets dimensions) =
      ⟨(partOf cs).base, (partOf cs).dimensions + dimensions⟩ := by
  induction dimensions with
  | zero => rw [brackets, List.append_nil, Nat.add_zero]
  | succ d ih => rw [brackets, ← List.append_assoc, partOf_array, ih, Nat.add_assoc]

/-- Brackets behind a text are brackets behind its last member. -/
theorem members_brackets (cs : List Char) (dimensions : Nat) :
    ∃ front last, members cs = front ++ [last] ∧
      members (cs ++ brackets dimensions) =
        front ++ [⟨last.base, last.dimensions + dimensions⟩] := by
  obtain ⟨front, last, he, hm⟩ := cutFrom_append_free (bar_not_mem_brackets dimensions) {} cs
  refine ⟨front.map partOf, partOf last, ?_, ?_⟩
  · rw [members, he, List.map_append, List.map_singleton]
  · rw [members, hm, List.map_append, List.map_singleton, partOf_brackets]

theorem members_join {texts : List String} (hne : texts ≠ [])
    (h : ∀ text ∈ texts, Closed text.toList) :
    members (joinTexts " | " texts).toList = texts.flatMap fun text => members text.toList := by
  induction texts with
  | nil => exact absurd rfl hne
  | cons text rest ih =>
    rw [List.forall_mem_cons] at h
    by_cases hr : rest = []
    · subst hr
      rw [List.flatMap_singleton, joinTexts]
    · have hjoin : (joinTexts " | " (text :: rest)).toList =
          (text.toList ++ [' ']) ++ '|' :: ' ' :: (joinTexts " | " rest).toList := by
        simp [joinTexts_cons _ _ hr]
      have hblank : Text.isBlank ' ' = true := by decide
      have hspace : ∀ c ∈ [' '], Text.isBlank c = true := by simp [hblank]
      rw [hjoin, members_bar (h.1.append (closed_blanks hspace)), members_after hspace,
        members_blank hblank, ih hr h.2, List.flatMap_cons]

/-- What is taken off a part is blank, or pairs of brackets and blanks. -/
theorem peel_cut (cs : List Char) :
    ∃ tail, cs.reverse = (peel cs).1.reverse ++ tail ∧ Closed tail := by
  fun_induction peel cs with
  | case1 => exact ⟨[], rfl, rfl⟩
  | case2 c hc => exact ⟨[c], rfl, closed_blanks (by simpa using hc)⟩
  | case3 c hc => exact ⟨[], rfl, rfl⟩
  | case4 c d rest hp ih =>
    obtain ⟨tail, he, ht⟩ := ih
    obtain ⟨rfl, rfl⟩ := hp
    exact ⟨tail ++ ['[', ']'], by simp [he], ht.append rfl⟩
  | case5 c d rest hp hc ih =>
    obtain ⟨tail, he, ht⟩ := ih
    refine ⟨tail ++ [c], ?_, ht.append (closed_blanks (by simpa using hc))⟩
    rw [List.reverse_cons, he, List.append_assoc]
  | case6 c d rest hp hc => exact ⟨[], by simp, rfl⟩

theorem partOf_cut (cs : List Char) : ∃ before tail,
    cs = before ++ ((partOf cs).base.toList ++ tail) ∧ Closed before ∧ Closed tail := by
  obtain ⟨tail, he, ht⟩ := peel_cut cs.reverse
  rw [List.reverse_reverse] at he
  refine ⟨(peel cs.reverse).1.reverse.takeWhile Text.isBlank, tail, ?_, ?_, ht⟩
  · rw [partOf, String.toList_ofList, ← List.append_assoc, Text.trimStart,
      List.takeWhile_append_dropWhile]
    exact he
  · exact closed_blanks fun c hc => List.mem_takeWhile_imp hc

/-- Where every part leaves nothing open, all bars are cut at. -/
theorem cutFrom_closed {cs : List Char} (h : ∀ part ∈ cs.splitOn '|', Closed part) :
    cutFrom {} cs = cs.splitOn '|' := by
  induction hl : cs.length using Nat.strong_induction_on generalizing cs with
  | _ n ih =>
    by_cases hm : '|' ∈ cs
    · obtain ⟨xs, ys, rfl, hx⟩ := List.eq_append_cons_of_mem hm
      rw [List.splitOn_append_cons_self_of_not_mem hx] at h ⊢
      rw [List.forall_mem_cons] at h
      have hnext : (xs.foldl Scan.next {}).next '|' = {} := by
        rw [h.1]
        rfl
      have hlt : ys.length < n := by
        simp only [List.length_append, List.length_cons] at hl
        omega
      rw [cutFrom_bar hnext, cutFrom_whole hx, ih _ hlt h.2 rfl, List.singleton_append]
    · rw [cutFrom_whole hm, List.splitOn_eq_singleton hm]

/-- The members of an expression over plain names are its parts. -/
theorem members_parts {typeRef : String}
    (h : ∀ p ∈ parts typeRef, ∀ c ∈ p.base.toList, Scan.IsPlain c) :
    members typeRef.toList = parts typeRef := by
  rw [members, parts, cutFrom_closed]
  intro part hp
  obtain ⟨before, tail, he, hb, ht⟩ := partOf_cut part
  rw [he]
  exact hb.append ((closed_plain (h _ (List.mem_map_of_mem hp))).append ht)

end

inductive TypeForm where
  | operand (text : String)
  | array (members : List TypeForm)
  deriving Repr

def arraysOf (forms : List TypeForm) : Nat → List TypeForm
  | 0 => forms
  | dimensions + 1 => [.array (arraysOf forms dimensions)]

/-- What stands in the parentheses around a text. Loose operators reach no farther than these. -/
def grouped? (text : List Char) : Option (List Char) :=
  let inner := text.tail.dropLast
  if text = '(' :: (inner ++ [')']) ∧ { inner.foldl Scan.next {} with loose := false } = ({} : Scan)
  then some inner else none

section

variable (atomic : String → Bool)

/-- A member that is no group. Brackets behind an operand that does not take them as a whole belong to
the end of the operand. -/
def operandOf (p : Part) : List TypeForm :=
  if p.dimensions = 0 ∨ atomic p.base = true then arraysOf [.operand p.base] p.dimensions
  else [.operand (arrayOf p.base p.dimensions)]

def denoteWithin : Nat → List Char → List TypeForm
  | 0, _ => []
  | fuel + 1, cs => (members cs).flatMap fun p =>
    match grouped? p.base.toList with
    | some inner => arraysOf (denoteWithin fuel inner) p.dimensions
    | none => operandOf atomic p

def denote (cs : List Char) : List TypeForm := denoteWithin atomic (cs.length + 1) cs

def denotePart (p : Part) : List TypeForm :=
  match grouped? p.base.toList with
  | some inner => arraysOf (denote atomic inner) p.dimensions
  | none => operandOf atomic p

theorem length_le_of_mem_cutFrom {s : Scan} {part cs : List Char} (h : part ∈ cutFrom s cs) :
    part.length ≤ cs.length := by
  induction cs generalizing s part with
  | nil =>
    obtain rfl := List.mem_singleton.mp h
    exact le_rfl
  | cons c cs ih =>
    rw [cutFrom] at h
    by_cases hc : c = '|' ∧ s.next c = {}
    · rw [if_pos hc] at h
      rcases List.mem_cons.mp h with rfl | h
      · exact Nat.zero_le _
      · exact Nat.le_succ_of_le (ih h)
    · obtain ⟨first, rest, he⟩ := List.exists_cons_of_ne_nil (cutFrom_ne_nil (s.next c) cs)
      rw [if_neg hc, he, List.modifyHead_cons] at h
      rcases List.mem_cons.mp h with rfl | h
      · exact Nat.succ_le_succ (ih (he ▸ List.mem_cons_self))
      · exact Nat.le_succ_of_le (ih (he ▸ List.mem_cons_of_mem _ h))

theorem base_length_le {p : Part} {cs : List Char} (h : p ∈ members cs) :
    p.base.toList.length ≤ cs.length := by
  obtain ⟨part, hp, rfl⟩ := List.mem_map.mp h
  obtain ⟨before, tail, he, -⟩ := partOf_cut part
  have hl := congrArg List.length he
  simp only [List.length_append] at hl
  exact le_trans (by omega) (length_le_of_mem_cutFrom hp)

theorem grouped_eq_some {text inner : List Char} (h : grouped? text = some inner) :
    text = '(' :: (inner ++ [')']) := by
  obtain ⟨⟨ht, -⟩, he⟩ := Option.ite_none_right_eq_some.mp h
  exact Option.some.inj he ▸ ht

theorem group_length_lt {p : Part} {cs inner : List Char} (h : p ∈ members cs)
    (hg : grouped? p.base.toList = some inner) : inner.length < cs.length := by
  have hl := base_length_le h
  rw [grouped_eq_some hg] at hl
  simp only [List.length_cons, List.length_append, List.length_nil] at hl
  omega

variable {atomic}

/-- A depth of more than the length of the text is never used up. -/
theorem denoteWithin_eq {fuel fuel' : Nat} {cs : List Char} (h : cs.length < fuel)
    (h' : cs.length < fuel') : denoteWithin atomic fuel cs = denoteWithin atomic fuel' cs := by
  induction fuel generalizing cs fuel' with
  | zero => exact absurd h (Nat.not_lt_zero _)
  | succ fuel ih =>
    cases fuel' with
    | zero => exact absurd h' (Nat.not_lt_zero _)
    | succ fuel' =>
      rw [denoteWithin, denoteWithin]
      refine List.flatMap_congr fun p hp => ?_
      cases hg : grouped? p.base.toList with
      | none => rfl
      | some inner =>
        have hl := group_length_lt hp hg
        exact congrArg (arraysOf · p.dimensions) (ih (by omega) (by omega))

theorem denote_eq (cs : List Char) : denote atomic cs = (members cs).flatMap (denotePart atomic) := by
  rw [denote, denoteWithin]
  refine List.flatMap_congr fun p hp => ?_
  rw [denotePart]
  cases hg : grouped? p.base.toList with
  | none => rfl
  | some inner =>
    have hl := group_length_lt hp hg
    exact congrArg (arraysOf · p.dimensions) (denoteWithin_eq hl (Nat.lt_succ_self _))

section

variable {base : String} {dimensions : Nat}

theorem denotePart_group {inner : List Char} (h : grouped? base.toList = some inner) :
    denotePart atomic ⟨base, dimensions⟩ = arraysOf (denote atomic inner) dimensions := by
  simp only [denotePart, h]

theorem denotePart_operand (h : grouped? base.toList = none) :
    denotePart atomic ⟨base, dimensions⟩ = operandOf atomic ⟨base, dimensions⟩ := by
  simp only [denotePart, h]

end

theorem arraysOf_ne_nil {forms : List TypeForm} (h : forms ≠ []) (dimensions : Nat) :
    arraysOf forms dimensions ≠ [] := by
  cases dimensions with
  | zero => exact h
  | succ d => exact List.cons_ne_nil _ _

theorem arraysOf_add (forms : List TypeForm) (d e : Nat) :
    arraysOf (arraysOf forms d) e = arraysOf forms (d + e) := by
  induction e with
  | zero => rfl
  | succ e ih => rw [arraysOf, ih, ← Nat.add_assoc, arraysOf]

theorem operandOf_ne_nil (p : Part) : operandOf atomic p ≠ [] := by
  rw [operandOf]
  by_cases h : p.dimensions = 0 ∨ atomic p.base = true
  · rw [if_pos h]
    exact arraysOf_ne_nil (List.cons_ne_nil _ _) _
  · rw [if_neg h]
    exact List.cons_ne_nil _ _

theorem denotePart_ne_nil_of {p : Part}
    (h : ∀ inner, grouped? p.base.toList = some inner → denote atomic inner ≠ []) :
    denotePart atomic p ≠ [] := by
  cases hg : grouped? p.base.toList with
  | none =>
    rw [denotePart_operand hg]
    exact operandOf_ne_nil p
  | some inner =>
    rw [denotePart_group hg]
    exact arraysOf_ne_nil (h inner hg) _

theorem denote_ne_nil (cs : List Char) : denote atomic cs ≠ [] := by
  induction hl : cs.length using Nat.strong_induction_on generalizing cs with
  | _ n ih =>
    have hne : members cs ≠ [] := mt List.map_eq_nil_iff.mp (cutFrom_ne_nil _ _)
    obtain ⟨first, rest, he⟩ := List.exists_cons_of_ne_nil hne
    have hfirst : denotePart atomic first ≠ [] := by
      refine denotePart_ne_nil_of fun inner hg => ?_
      have hlt := group_length_lt (he ▸ List.mem_cons_self) hg
      exact ih _ (hl ▸ hlt) inner rfl
    rw [denote_eq, he, List.flatMap_cons]
    exact List.append_ne_nil_of_left_ne_nil hfirst _

theorem denotePart_ne_nil (p : Part) : denotePart atomic p ≠ [] :=
  denotePart_ne_nil_of fun inner _ => denote_ne_nil inner

end

end SampleTypes.TypeScript
