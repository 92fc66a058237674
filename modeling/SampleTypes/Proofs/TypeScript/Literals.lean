import Mathlib.Data.List.Basic
import Mathlib.Tactic.SplitIfs
import SampleTypes.TypeScript.Declaration

/-!
Literals read back. A reader cuts a text into literals and the characters outside them: a quote begins
a literal, the next one ends it, and inside it a backslash makes another character of the one behind
it. Which characters may stand there is left open, since TypeScript knows more escapes than are ever
written. A text that was quoted is read as one literal with that text as its value, whatever follows.
-/

namespace SampleTypes.TypeScript

inductive Lexeme where
  | char (c : Char)
  | literal (value : List Char)
  | broken
  deriving DecidableEq, Repr

section

variable (escapes : Char → Option Char)

/-- The lexemes of a text, of which a literal has been read so far, its last character first, or none. -/
def lexFrom : Option (List Char) → List Char → List Lexeme
  | none, [] => []
  | some _, [] => [.broken]
  | none, c :: rest => if c = '\'' then lexFrom (some []) rest else .char c :: lexFrom none rest
  | some read, c :: rest =>
    if c = '\'' then .literal read.reverse :: lexFrom none rest
    else if c = '\\' then
      match rest with
      | [] => [.broken]
      | d :: rest =>
        match escapes d with
        | some e => lexFrom (some (e :: read)) rest
        | none => [.broken]
    else lexFrom (some (c :: read)) rest

def lex (cs : List Char) : List Lexeme := lexFrom escapes none cs

structure KnowsWritten : Prop where
  backslash : escapes '\\' = some '\\'
  mark : escapes '\'' = some '\''
  lineFeed : escapes 'n' = some '\n'

end

def writtenEscape : Char → Option Char
  | '\\' => some '\\'
  | '\'' => some '\''
  | 'n' => some '\n'
  | _ => none

theorem writtenEscape_written : KnowsWritten writtenEscape := ⟨rfl, rfl, rfl⟩

theorem quote_toList (s : String) :
    (quote s).toList = '\'' :: (s.toList.flatMap escapeChar ++ ['\'']) :=
  String.toList_ofList

/-- A character is written as itself or by an escape, which is made of these. -/
theorem mem_escapeChar {c d : Char} (h : d ∈ escapeChar c) :
    d = c ∧ c ≠ '\n' ∨ d = '\\' ∨ d = '\'' ∨ d = 'n' := by
  unfold escapeChar at h
  split_ifs at h with hb hm hl
  · rcases List.mem_pair.mp h with rfl | rfl <;> simp
  · rcases List.mem_pair.mp h with rfl | rfl <;> simp
  · rcases List.mem_pair.mp h with rfl | rfl <;> simp
  · exact .inl ⟨List.mem_singleton.mp h, hl⟩

theorem escapeChar_self {c : Char} (hb : c ≠ '\\') (hm : c ≠ '\'') (hl : c ≠ '\n') :
    escapeChar c = [c] := by
  simp [escapeChar, hb, hm, hl]

theorem quote_no_lineFeed (s : String) : '\n' ∉ (quote s).toList := by
  intro h
  rw [quote_toList, List.mem_cons, List.mem_append, List.mem_flatMap] at h
  rcases h with h | ⟨c, -, hc⟩ | h
  · exact absurd h (by decide)
  · rcases mem_escapeChar hc with ⟨he, hn⟩ | he | he | he
    · exact hn he.symm
    all_goals exact absurd he (by decide)
  · exact absurd h (by decide)

theorem return_mem_quote {s : String} : '\r' ∈ (quote s).toList ↔ '\r' ∈ s.toList := by
  rw [quote_toList, List.mem_cons, List.mem_append, List.mem_flatMap]
  constructor
  · rintro (h | ⟨c, hc, hr⟩ | h)
    · exact absurd h (by decide)
    · rcases mem_escapeChar hr with ⟨rfl, -⟩ | he | he | he
      · exact hc
      all_goals exact absurd he (by decide)
    · exact absurd h (by decide)
  · intro h
    exact .inr (.inl ⟨'\r', h, by decide⟩)

section

variable {escapes : Char → Option Char}

theorem lexFrom_mark (read rest : List Char) : lexFrom escapes (some read) ('\'' :: rest) =
    .literal read.reverse :: lexFrom escapes none rest := by
  cases rest <;> simp [lexFrom]

theorem lexFrom_escape {d e : Char} (h : escapes d = some e) (read rest : List Char) :
    lexFrom escapes (some read) ('\\' :: d :: rest) = lexFrom escapes (some (e :: read)) rest := by
  simp [lexFrom, h]

theorem lexFrom_inside {c : Char} (hm : c ≠ '\'') (hb : c ≠ '\\') (read rest : List Char) :
    lexFrom escapes (some read) (c :: rest) = lexFrom escapes (some (c :: read)) rest := by
  cases rest <;> simp [lexFrom, hm, hb]

/-- By induction on the text: each of its characters is one step of the reader, or two. -/
theorem lexFrom_escaped (h : KnowsWritten escapes) (read s rest : List Char) :
    lexFrom escapes (some read) (s.flatMap escapeChar ++ '\'' :: rest) =
      .literal (read.reverse ++ s) :: lexFrom escapes none rest := by
  induction s generalizing read with
  | nil => rw [List.flatMap_nil, List.nil_append, lexFrom_mark, List.append_nil]
  | cons c s ih =>
    rw [List.flatMap_cons, List.append_assoc]
    have hnext : lexFrom escapes (some (c :: read)) (s.flatMap escapeChar ++ '\'' :: rest) =
        .literal (read.reverse ++ c :: s) :: lexFrom escapes none rest := by
      rw [ih (c :: read), List.reverse_cons, List.append_assoc, List.singleton_append]
    rw [← hnext]
    by_cases hb : c = '\\'
    · subst hb
      exact lexFrom_escape h.backslash read _
    by_cases hm : c = '\''
    · subst hm
      exact lexFrom_escape h.mark read _
    by_cases hl : c = '\n'
    · subst hl
      exact lexFrom_escape h.lineFeed read _
    rw [escapeChar_self hb hm hl]
    exact lexFrom_inside hm hb read _

theorem lex_quote (h : KnowsWritten escapes) (s : String) (rest : List Char) :
    lex escapes ((quote s).toList ++ rest) = .literal s.toList :: lex escapes rest := by
  have hread := lexFrom_escaped h [] s.toList rest
  rw [quote_toList, lex, List.cons_append, List.append_assoc, lexFrom, if_pos rfl]
  exact hread

theorem lex_quote_alone (h : KnowsWritten escapes) (s : String) :
    lex escapes (quote s).toList = [.literal s.toList] := by
  have hread := lex_quote h s []
  rwa [List.append_nil] at hread

/-- Outside of literals a text is read character by character. -/
theorem lex_plain {cs : List Char} (h : '\'' ∉ cs) (rest : List Char) :
    lex escapes (cs ++ rest) = cs.map .char ++ lex escapes rest := by
  induction cs with
  | nil => rfl
  | cons c cs ih =>
    rw [List.mem_cons, not_or] at h
    rw [List.cons_append, lex, lexFrom, if_neg (Ne.symm h.1)]
    exact congrArg _ (ih h.2)

end

theorem quote_eq_iff {s other : String} : quote s = quote other ↔ s = other := by
  refine ⟨fun h => ?_, fun h => h ▸ rfl⟩
  have hlex : [Lexeme.literal s.toList] = [Lexeme.literal other.toList] := by
    rw [← lex_quote_alone writtenEscape_written s, ← lex_quote_alone writtenEscape_written other, h]
  exact String.toList_inj.mp (Lexeme.literal.inj (List.singleton_inj.mp hlex))

end SampleTypes.TypeScript
