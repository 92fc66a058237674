import Mathlib.Data.List.DropRight
import SampleTypes.Proofs.TypeScript.Literals

/-!
What the keys of a declaration stand for. A key is to be the name itself if that is an identifier, and
otherwise a literal of the name. It is so for all names but two sorts: an identifier with a line feed
behind it is taken for an identifier, and a carriage return is not escaped in a literal. Main result:
these are the only exceptions, and two names come to one property only by such a line feed.
-/

namespace SampleTypes.TypeScript

def IsIdentifier : List Char → Prop
  | [] => False
  | c :: cs => startsIdentifier c = true ∧ ∀ d ∈ cs, continuesIdentifier d = true

instance : (cs : List Char) → Decidable (IsIdentifier cs)
  | [] => inferInstanceAs (Decidable False)
  | c :: cs => decidable_of_iff (startsIdentifier c = true ∧ cs.all continuesIdentifier = true)
      (and_congr_right fun _ => List.all_eq_true)

def letterEscapes : List (Char × Char) :=
  [('b', '\x08'), ('f', '\x0c'), ('n', '\n'), ('r', '\r'), ('t', '\t'), ('v', '\x0b')]

/-- The escapes of one character. Digits, `x` and `u` begin longer ones, and a line end behind a
backslash stands for nothing. -/
def scriptEscape (c : Char) : Option Char :=
  match letterEscapes.lookup c with
  | some d => some d
  | none =>
    if c.isDigit || ['x', 'u', '\n', '\r', '\u2028', '\u2029'].contains c then none else some c

theorem scriptEscape_written : KnowsWritten scriptEscape := ⟨by decide, by decide, by decide⟩

/-- The text is one literal on one line, and this is its value. -/
def IsLiteral (cs value : List Char) : Prop :=
  lex scriptEscape cs = [.literal value] ∧ '\n' ∉ cs ∧ '\r' ∉ cs

instance (cs value : List Char) : Decidable (IsLiteral cs value) :=
  inferInstanceAs (Decidable (_ ∧ _ ∧ _))

def IsKeyOf (key name : String) : Prop :=
  (key = name ∧ IsIdentifier name.toList) ∨ IsLiteral key.toList name.toList

instance (key name : String) : Decidable (IsKeyOf key name) :=
  inferInstanceAs (Decidable (_ ∨ _))

def isLayout (c : Char) : Bool := [' ', '\t', '\n', '\r'].contains c

/-- The property that a key stands for in a declaration. What is blank around it counts for nothing. -/
def propertyOf? (key : String) : Option (List Char) :=
  let cs := (key.toList.dropWhile isLayout).rdropWhile isLayout
  if IsIdentifier cs then some cs
  else if '\n' ∈ cs ∨ '\r' ∈ cs then none
  else
    match lex scriptEscape cs with
    | [.literal value] => some value
    | _ => none

def Spells (name : String) (word : List Char) : Prop :=
  IsIdentifier word ∧ (name.toList = word ∨ name.toList = word ++ ['\n'])

theorem startsIdentifier_continues {c : Char} (h : startsIdentifier c = true) :
    continuesIdentifier c = true := by
  simp only [startsIdentifier, continuesIdentifier, Char.isAlphanum, Bool.or_eq_true] at h ⊢
  rcases h with (h | h) | h
  · exact .inl (.inl (.inl h))
  · exact .inl (.inr h)
  · exact .inr h

theorem IsIdentifier.continues {cs : List Char} (h : IsIdentifier cs) :
    ∀ c ∈ cs, continuesIdentifier c = true := by
  cases cs with
  | nil => simp
  | cons first rest =>
    intro c hc
    rcases List.mem_cons.mp hc with rfl | hc
    · exact startsIdentifier_continues h.1
    · exact h.2 c hc

theorem IsIdentifier.no_lineFeed {cs : List Char} (h : IsIdentifier cs) : '\n' ∉ cs := by
  intro hm
  exact absurd (h.continues _ hm) (by decide)

theorem IsIdentifier.no_return {cs : List Char} (h : IsIdentifier cs) : '\r' ∉ cs := by
  intro hm
  exact absurd (h.continues _ hm) (by decide)

theorem isIdentifierTail_iff {cs : List Char} : isIdentifierTail cs = true ↔
    (∀ c ∈ cs, continuesIdentifier c = true) ∨
      ∃ word, (∀ c ∈ word, continuesIdentifier c = true) ∧ cs = word ++ ['\n'] := by
  induction cs using isIdentifierTail.induct with
  | case1 => simp [isIdentifierTail]
  | case2 =>
    simp only [isIdentifierTail, true_iff]
    exact .inr ⟨[], by simp, rfl⟩
  | case3 c cs hne ih =>
    rw [isIdentifierTail, Bool.and_eq_true, ih]
    · constructor
      · rintro ⟨hc, hall | ⟨word, hall, rfl⟩⟩
        · exact .inl (List.forall_mem_cons.mpr ⟨hc, hall⟩)
        · exact .inr ⟨c :: word, List.forall_mem_cons.mpr ⟨hc, hall⟩, rfl⟩
      · rintro (hall | ⟨word, hall, he⟩)
        · rw [List.forall_mem_cons] at hall
          exact ⟨hall.1, .inl hall.2⟩
        · cases word with
          | nil =>
            obtain ⟨rfl, rfl⟩ := List.cons.inj he
            exact absurd rfl (hne rfl)
          | cons first word =>
            obtain ⟨rfl, rfl⟩ := List.cons.inj he
            rw [List.forall_mem_cons] at hall
            exact ⟨hall.1, .inr ⟨word, hall.2, rfl⟩⟩
    · exact hne

/-- What is taken for an identifier is one, or one with a line feed behind it. -/
theorem isIdentifier_iff {name : String} :
    isIdentifier name.toList = true ↔ ∃ word, Spells name word := by
  constructor
  · intro h
    cases hn : name.toList with
    | nil => simp [hn, isIdentifier] at h
    | cons first rest =>
      rw [hn, isIdentifier, Bool.and_eq_true, isIdentifierTail_iff] at h
      obtain ⟨hf, hall | ⟨word, hall, rfl⟩⟩ := h
      · exact ⟨first :: rest, ⟨hf, hall⟩, .inl hn⟩
      · exact ⟨first :: word, ⟨hf, hall⟩, .inr hn⟩
  · rintro ⟨word, hw, hn⟩
    cases word with
    | nil => exact absurd hw id
    | cons first rest =>
      rcases hn with hn | hn
      · rw [hn, isIdentifier, Bool.and_eq_true, isIdentifierTail_iff]
        exact ⟨hw.1, .inl hw.2⟩
      · rw [hn, List.cons_append, isIdentifier, Bool.and_eq_true, isIdentifierTail_iff]
        exact ⟨hw.1, .inr ⟨rest, hw.2, rfl⟩⟩

theorem propertyKey_bare {name : String} {word : List Char} (h : Spells name word) :
    propertyKey name = name := by
  rw [propertyKey, if_pos (isIdentifier_iff.mpr ⟨word, h⟩)]

theorem propertyKey_quoted {name : String} (h : ¬ ∃ word, Spells name word) :
    propertyKey name = quote name := by
  rw [propertyKey, if_neg (mt isIdentifier_iff.mp h)]

theorem quote_not_identifier (name : String) : ¬ IsIdentifier (quote name).toList := by
  rw [quote_toList]
  exact fun h => absurd h.1 (by decide)

theorem propertyKey_eq_iff {a b : String} : propertyKey a = propertyKey b ↔ a = b := by
  refine ⟨fun h => ?_, fun h => h ▸ rfl⟩
  have apart {name other : String} {word : List Char} (hs : Spells name word)
      (he : name = quote other) : False := by
    obtain ⟨hw, hn⟩ := hs
    rw [he, quote_toList] at hn
    cases word with
    | nil => exact hw
    | cons first rest =>
      have hf : '\'' = first := by
        rcases hn with hn | hn
        · exact (List.cons.inj hn).1
        · exact (List.cons.inj hn).1
      exact absurd (hf ▸ hw.1) (by decide)
  by_cases ha : ∃ word, Spells a word
  · obtain ⟨word, ha⟩ := ha
    rw [propertyKey_bare ha] at h
    by_cases hb : ∃ word, Spells b word
    · obtain ⟨other, hb⟩ := hb
      rwa [propertyKey_bare hb] at h
    · rw [propertyKey_quoted hb] at h
      exact (apart ha h).elim
  · rw [propertyKey_quoted ha] at h
    by_cases hb : ∃ word, Spells b word
    · obtain ⟨other, hb⟩ := hb
      rw [propertyKey_bare hb] at h
      exact (apart hb h.symm).elim
    · rw [propertyKey_quoted hb] at h
      exact quote_eq_iff.mp h

theorem isKeyOf_iff (name : String) : IsKeyOf (propertyKey name) name ↔
    '\r' ∉ name.toList ∧ ¬ ∃ word, IsIdentifier word ∧ name.toList = word ++ ['\n'] := by
  by_cases hs : ∃ word, Spells name word
  · obtain ⟨word, hs⟩ := hs
    rw [propertyKey_bare hs]
    obtain ⟨hw, hn⟩ := hs
    rcases hn with hn | hn
    · have hi : IsIdentifier name.toList := hn ▸ hw
      refine iff_of_true (.inl ⟨rfl, hi⟩) ⟨hi.no_return, ?_⟩
      rintro ⟨other, -, ho⟩
      exact hi.no_lineFeed (by simp [ho])
    · have hm : '\n' ∈ name.toList := by simp [hn]
      refine iff_of_false ?_ fun h => h.2 ⟨word, hw, hn⟩
      rintro (⟨-, hi⟩ | hl)
      · exact hi.no_lineFeed hm
      · exact hl.2.1 hm
  · rw [propertyKey_quoted hs]
    have hbroken : ¬ ∃ word, IsIdentifier word ∧ name.toList = word ++ ['\n'] :=
      fun ⟨word, hw, hn⟩ => hs ⟨word, hw, .inr hn⟩
    have hliteral : IsLiteral (quote name).toList name.toList ↔ '\r' ∉ name.toList := by
      rw [IsLiteral, return_mem_quote]
      have hread := lex_quote_alone scriptEscape_written name
      exact ⟨fun h => h.2.2, fun h => ⟨hread, quote_no_lineFeed name, h⟩⟩
    rw [and_iff_left hbroken, ← hliteral]
    refine or_iff_right ?_
    rintro ⟨-, hi⟩
    exact hs ⟨name.toList, hi, .inl rfl⟩

theorem continues_not_layout {c : Char} (h : continuesIdentifier c = true) : isLayout c = false := by
  rw [Bool.eq_false_iff]
  intro hl
  simp only [isLayout, List.contains_iff_mem, List.mem_cons, List.not_mem_nil, or_false] at hl
  rcases hl with rfl | rfl | rfl | rfl
  all_goals exact absurd h (by decide)

/-- A text that neither begins nor ends with a blank is left as it is. -/
theorem layout_kept {first last : Char} {cs : List Char} (hf : isLayout first = false)
    (hl : isLayout last = false) (h : (first :: cs).getLast? = some last) :
    ((first :: cs).dropWhile isLayout).rdropWhile isLayout = first :: cs := by
  rw [List.dropWhile_cons_of_neg (by simp [hf]), List.rdropWhile_eq_self_iff]
  intro hne
  rw [List.getLast?_eq_some_getLast hne, Option.some.injEq] at h
  rw [h, hl]
  decide

theorem propertyOf_bare {name : String} {word : List Char} (h : Spells name word) :
    propertyOf? (propertyKey name) = some word := by
  rw [propertyKey_bare h]
  obtain ⟨hw, hn⟩ := h
  cases word with
  | nil => exact absurd hw id
  | cons first rest =>
    have hsolid : ∀ c ∈ first :: rest, isLayout c = false :=
      fun c hc => continues_not_layout (hw.continues c hc)
    have hlast := hsolid _ (List.getLast_mem (List.cons_ne_nil first rest))
    have hkept := layout_kept (hsolid first List.mem_cons_self) hlast
      (List.getLast?_eq_some_getLast (List.cons_ne_nil first rest))
    have hword : (name.toList.dropWhile isLayout).rdropWhile isLayout = first :: rest := by
      rcases hn with hn | hn
      · rw [hn, hkept]
      · have hf : ¬ isLayout first = true := by simp [hsolid first List.mem_cons_self]
        rw [hn, List.cons_append, List.dropWhile_cons_of_neg hf, ← List.cons_append,
          List.rdropWhile_concat_pos _ _ _ (by decide)]
        rwa [List.dropWhile_cons_of_neg hf] at hkept
    simp only [propertyOf?, hword, if_pos hw]

theorem propertyOf_quoted {name : String} (h : ¬ ∃ word, Spells name word) :
    propertyOf? (propertyKey name) = if '\r' ∈ name.toList then none else some name.toList := by
  rw [propertyKey_quoted h]
  have hkept : ((quote name).toList.dropWhile isLayout).rdropWhile isLayout = (quote name).toList := by
    rw [quote_toList]
    have hend : ('\'' :: (name.toList.flatMap escapeChar ++ ['\''])).getLast? = some '\'' := by
      rw [← List.cons_append, List.getLast?_concat]
    exact layout_kept (by decide) (by decide) hend
  simp only [propertyOf?, hkept, if_neg (quote_not_identifier name),
    lex_quote_alone scriptEscape_written, quote_no_lineFeed, return_mem_quote, false_or]

theorem propertyOf_eq_some {name : String} {property : List Char}
    (h : propertyOf? (propertyKey name) = some property) :
    '\r' ∉ name.toList ∧ (Spells name property ∨
      (¬ ∃ word, Spells name word) ∧ property = name.toList) := by
  by_cases hs : ∃ word, Spells name word
  · obtain ⟨word, hs⟩ := hs
    rw [propertyOf_bare hs, Option.some.injEq] at h
    subst h
    refine ⟨?_, .inl hs⟩
    rcases hs.2 with hn | hn
    · rw [hn]
      exact hs.1.no_return
    · rw [hn, List.mem_append, not_or]
      exact ⟨hs.1.no_return, by decide⟩
  · rw [propertyOf_quoted hs] at h
    by_cases hr : '\r' ∈ name.toList
    · rw [if_pos hr] at h
      cases h
    · rw [if_neg hr, Option.some.injEq] at h
      exact ⟨hr, .inr ⟨hs, h.symm⟩⟩

theorem exists_propertyOf {name : String} (h : '\r' ∉ name.toList) :
    ∃ property, propertyOf? (propertyKey name) = some property := by
  by_cases hs : ∃ word, Spells name word
  · obtain ⟨word, hs⟩ := hs
    exact ⟨word, propertyOf_bare hs⟩
  · exact ⟨name.toList, by rw [propertyOf_quoted hs, if_neg h]⟩

theorem same_property_iff {a b : String} :
    (∃ property, propertyOf? (propertyKey a) = some property ∧
      propertyOf? (propertyKey b) = some property) ↔
    '\r' ∉ a.toList ∧ '\r' ∉ b.toList ∧ (a = b ∨ ∃ word, Spells a word ∧ Spells b word) := by
  constructor
  · rintro ⟨property, ha, hb⟩
    obtain ⟨har, ha⟩ := propertyOf_eq_some ha
    obtain ⟨hbr, hb⟩ := propertyOf_eq_some hb
    refine ⟨har, hbr, ?_⟩
    rcases ha with ha | ⟨hna, ha⟩
    · rcases hb with hb | ⟨hnb, hb⟩
      · exact .inr ⟨property, ha, hb⟩
      · exact absurd ⟨property, ha.1, .inl hb.symm⟩ hnb
    · rcases hb with hb | ⟨hnb, hb⟩
      · exact absurd ⟨property, hb.1, .inl ha.symm⟩ hna
      · exact .inl (String.toList_inj.mp (ha.symm.trans hb))
  · rintro ⟨har, -, rfl | ⟨word, ha, hb⟩⟩
    · obtain ⟨property, hp⟩ := exists_propertyOf har
      exact ⟨property, hp, hp⟩
    · exact ⟨word, propertyOf_bare ha, propertyOf_bare hb⟩

/-- A key is the name or a literal of it, but for names with a carriage return and for identifiers with
a line feed behind them. The texts of two keys are never the same; two names are of one property only
if they are one identifier with the line feed and without. -/
theorem property_key_exceptions (a b : String) :
    (IsKeyOf (propertyKey a) a ↔
      '\r' ∉ a.toList ∧ ¬ ∃ word, IsIdentifier word ∧ a.toList = word ++ ['\n']) ∧
    (propertyKey a = propertyKey b ↔ a = b) ∧
    ((∃ property, propertyOf? (propertyKey a) = some property ∧
        propertyOf? (propertyKey b) = some property) ↔
      '\r' ∉ a.toList ∧ '\r' ∉ b.toList ∧ (a = b ∨ ∃ word, Spells a word ∧ Spells b word)) :=
  ⟨isKeyOf_iff a, propertyKey_eq_iff, same_property_iff⟩

/-- A line feed behind an identifier goes unnoticed, and so the key is that of another name. -/
theorem line_feed_unnoticed :
    ¬ IsKeyOf (propertyKey "id\n") "id\n" ∧
    propertyOf? (propertyKey "id\n") = some ['i', 'd'] ∧
    propertyOf? (propertyKey "id") = some ['i', 'd'] ∧
    ¬ IsKeyOf (propertyKey "a\rb") "a\rb" := by
  decide +kernel

end SampleTypes.TypeScript
