import SampleTypes.Proofs.Text.Occurrences
import SampleTypes.Proofs.Text.Replacement
import SampleTypes.Proofs.TypeScript.PropertyKeys
import SampleTypes.TypeScript.Declaration
import SampleTypes.TypeScript.Source

/-!
Literals and comments that end where they should. The escapes of a literal come about character by
character, or by three replacements over the whole text of which none disturbs what an earlier one put in.
The text of a comment is put between blanks, and every end in it is broken up. Main results: quoting gives
the one literal of a text that has no line feed and no escape but these three, and wherever no literal is
open, it is read as a whole and leaves all around it as it is; a comment holds its end once, and what it
says of its text is all but whether an end was broken up in it already.
-/

namespace SampleTypes.TypeScript

/-- The three replacements over a whole text. The backslash is replaced first, since the others put in
more of it. -/
def escapedInTurn (cs : List Char) : List Char :=
  Text.replaceAll ['\n'] ['\\', 'n']
    (Text.replaceAll ['\''] ['\\', '\''] (Text.replaceAll ['\\'] ['\\', '\\'] cs))

theorem escapedInTurn_eq (cs : List Char) : escapedInTurn cs = cs.flatMap escapeChar := by
  simp only [escapedInTurn, Text.replaceAll_char, List.flatMap_assoc]
  refine List.flatMap_congr fun c _ => ?_
  by_cases hb : c = '\\'
  · subst hb
    rfl
  by_cases hm : c = '\''
  · subst hm
    rfl
  by_cases hl : c = '\n'
  · subst hl
    rfl
  · rw [escapeChar_self hb hm hl]
    simp [hb, hm, hl]

theorem escapeChar_of_written {c d : Char} (h : writtenEscape d = some c) : escapeChar c = ['\\', d] := by
  unfold writtenEscape at h
  split at h
  · cases h
    rfl
  · cases h
    rfl
  · cases h
    rfl
  · cases h

section

variable {escapes : Char → Option Char}

/-- Only of nothing is nothing read. By induction along the reader. -/
theorem lexFrom_ne_nil {read : Option (List Char)} {cs : List Char} (h : read = none → cs ≠ []) :
    lexFrom escapes read cs ≠ [] := by
  induction read, cs using lexFrom.induct escapes with
  | case1 => exact absurd rfl (h rfl)
  | case2 read => simp [lexFrom]
  | case3 rest ih =>
    rw [lexFrom, if_pos rfl]
    exact ih fun hn => absurd hn (Option.some_ne_none _)
  | case4 c rest hm ih => simp [lexFrom, hm]
  | case5 read rest ih => simp [lexFrom_mark]
  | case6 read hm => simp [lexFrom]
  | case7 read d rest e he hm ih =>
    rw [lexFrom_escape he]
    exact ih fun hn => absurd hn (Option.some_ne_none _)
  | case8 read d rest he hm => simp [lexFrom, he]
  | case9 read c rest hm hb ih =>
    rw [lexFrom_inside hm hb]
    exact ih fun hn => absurd hn (Option.some_ne_none _)

/-- A text that leaves no literal open is read on its own, whatever follows. -/
theorem lexFrom_append {read : Option (List Char)} {before : List Char}
    (h : .broken ∉ lexFrom escapes read before) (after : List Char) :
    lexFrom escapes read (before ++ after) = lexFrom escapes read before ++ lexFrom escapes none after := by
  induction read, before using lexFrom.induct escapes with
  | case1 => rfl
  | case2 read => simp [lexFrom] at h
  | case3 rest ih =>
    rw [lexFrom, if_pos rfl] at h ⊢
    rw [List.cons_append, lexFrom, if_pos rfl, ih h]
  | case4 c rest hm ih =>
    rw [lexFrom, if_neg hm, List.mem_cons, not_or] at h
    rw [List.cons_append, lexFrom, if_neg hm, lexFrom, if_neg hm, ih h.2, List.cons_append]
  | case5 read rest ih =>
    rw [lexFrom_mark, List.mem_cons, not_or] at h
    rw [List.cons_append, lexFrom_mark, lexFrom_mark, ih h.2, List.cons_append]
  | case6 read hm => simp [lexFrom] at h
  | case7 read d rest e he hm ih =>
    rw [lexFrom_escape he] at h
    rw [List.cons_append, List.cons_append, lexFrom_escape he, lexFrom_escape he, ih h]
  | case8 read d rest he hm => simp [lexFrom, he] at h
  | case9 read c rest hm hb ih =>
    rw [lexFrom_inside hm hb] at h
    rw [List.cons_append, lexFrom_inside hm hb, lexFrom_inside hm hb, ih h]

end

/-- Whatever is read to one literal without a line feed is an escaped text with the mark behind it: each
character was read from the one way to write it. -/
theorem escaped_of_lexFrom {read : Option (List Char)} {cs value : List Char}
    (h : lexFrom writtenEscape read cs = [.literal value]) (hl : '\n' ∉ cs) {front : List Char}
    (hr : read = some front) :
    ∃ s, value = front.reverse ++ s ∧ cs = s.flatMap escapeChar ++ ['\''] := by
  induction read, cs using lexFrom.induct writtenEscape generalizing front with
  | case1 => cases hr
  | case2 read => cases h
  | case3 rest ih => cases hr
  | case4 c rest hm ih => cases hr
  | case5 read rest ih =>
    cases hr
    rw [lexFrom_mark] at h
    obtain ⟨hv, hrest⟩ := List.cons.inj h
    cases hv
    have hnil : rest = [] := by
      by_contra hne
      exact lexFrom_ne_nil (fun _ => hne) hrest
    exact ⟨[], by simp, by simp [hnil]⟩
  | case6 read hm => cases h
  | case7 read d rest e he hm ih =>
    cases hr
    rw [lexFrom_escape he] at h
    have hrest : '\n' ∉ rest := fun hi => hl (by simp [hi])
    obtain ⟨s, hs, hc⟩ := ih h hrest rfl
    refine ⟨e :: s, ?_, ?_⟩
    · simp [hs]
    · rw [List.flatMap_cons, escapeChar_of_written he, hc]
      rfl
  | case8 read d rest he hm => simp [lexFrom, he] at h
  | case9 read c rest hm hb ih =>
    cases hr
    rw [lexFrom_inside hm hb] at h
    rw [List.mem_cons, not_or] at hl
    obtain ⟨s, hs, hc⟩ := ih h hl.2 rfl
    refine ⟨c :: s, ?_, ?_⟩
    · simp [hs]
    · rw [List.flatMap_cons, escapeChar_self hb hm (Ne.symm hl.1), hc]
      rfl

theorem lex_writtenEscape_iff {cs : List Char} {s : String} :
    lex writtenEscape cs = [.literal s.toList] ∧ '\n' ∉ cs ↔ cs = (quote s).toList := by
  constructor
  · rintro ⟨h, hl⟩
    cases cs with
    | nil => cases h
    | cons c rest =>
      rw [List.mem_cons, not_or] at hl
      rw [lex, lexFrom] at h
      split_ifs at h with hm
      · obtain ⟨t, ht, hr⟩ := escaped_of_lexFrom h hl.2 rfl
        rw [List.reverse_nil, List.nil_append] at ht
        rw [quote_toList, ht, hm, hr]
      · cases h
  · rintro rfl
    exact ⟨lex_quote_alone writtenEscape_written s, quote_no_lineFeed s⟩

/-- The text of a literal comes about by three replacements. It is the only text without a line feed
that is read, by no other escapes than the three, as one literal with this value, and so no two values
have one literal. Put anywhere where no literal is open, it is read as this literal up to its last
character, by any reader that knows the three escapes, and what is around it is read as without it. -/
theorem quote_enclosed (s : String) :
    (quote s).toList = '\'' :: (escapedInTurn s.toList ++ ['\'']) ∧
    (∀ cs, lex writtenEscape cs = [.literal s.toList] ∧ '\n' ∉ cs ↔ cs = (quote s).toList) ∧
    (∀ other, quote s = quote other ↔ s = other) ∧
    ∀ escapes, KnowsWritten escapes → ∀ before after, .broken ∉ lex escapes before →
      lex escapes (before ++ (quote s).toList ++ after) =
        lex escapes before ++ .literal s.toList :: lex escapes after := by
  refine ⟨?_, fun cs => lex_writtenEscape_iff, fun other => quote_eq_iff, ?_⟩
  · rw [quote_toList, escapedInTurn_eq]
  · intro escapes hk before after hb
    rw [List.append_assoc, lex, lexFrom_append hb, ← lex, ← lex, lex_quote hk]

def oddlyPlaced : Matcher String := [{ name := "PageInfo", modulePath := some "./it's\\" }]

def importStart : List Char := ("import \x7b PageInfo \x7d from " : String).toList

/-- The module path is all within its literal, and the semicolon is not. -/
theorem module_path_enclosed :
    KnowsWritten scriptEscape ∧ .broken ∉ lex scriptEscape importStart ∧
    lex scriptEscape (importLine oddlyPlaced "PageInfo").toList =
      importStart.map .char ++ [.literal ("./it's\\" : String).toList, .char ';'] := by
  have hclosed : .broken ∉ lex scriptEscape importStart := by decide +kernel
  have hstart : lex scriptEscape importStart = importStart.map .char := by decide +kernel
  have hline : (importLine oddlyPlaced "PageInfo").toList =
      importStart ++ (quote "./it's\\").toList ++ [';'] := by
    decide +kernel
  obtain ⟨-, -, -, hread⟩ := quote_enclosed "./it's\\"
  refine ⟨scriptEscape_written, hclosed, ?_⟩
  rw [hline, hread scriptEscape scriptEscape_written importStart [';'] hclosed, hstart]
  rfl

open SampleTypes.Text (occurrences)

def mended (cs : List Char) : List Char := Text.replaceAll ['*', '\\', '/'] ['*', '/'] cs

def unended (cs : List Char) : List Char := Text.replaceAll ['*', '/'] ['*', '\\', '/'] cs

theorem comment_toList (text : String) : (comment text).toList =
    '/' :: '*' :: '*' :: ' ' :: (unended text.toList ++ ' ' :: ['*', '/']) := by
  simp only [comment, unended, String.toList_append, String.toList_ofList]
  rfl

theorem unended_no_end (cs : List Char) : ¬ ['*', '/'] <:+: unended cs :=
  Text.replaceFrom_broken (by decide) (by decide) (by decide) 0 cs

theorem unended_eq_iff {xs ys : List Char} : unended xs = unended ys ↔ mended xs = mended ys :=
  Text.replaceAll_broken_iff (by decide) (by decide) (by decide)

/-- Between a blank in front and a blank behind, the text adds no end. -/
theorem occurrences_unended (cs rest : List Char) :
    occurrences ['*', '/'] (' ' :: (unended cs ++ ' ' :: rest)) = occurrences ['*', '/'] rest := by
  have hblank : ' ' ∉ ['*', '/'] := by decide
  have hnone : ¬ ['*', '/'] <:+: [] := by decide
  calc occurrences ['*', '/'] (' ' :: (unended cs ++ ' ' :: rest))
    _ = occurrences ['*', '/'] (unended cs ++ ' ' :: rest) := Text.occurrences_part hblank hnone _
    _ = occurrences ['*', '/'] rest := Text.occurrences_part hblank (unended_no_end cs) rest

theorem comment_eq_iff {text other : String} :
    comment text = comment other ↔ mended text.toList = mended other.toList := by
  rw [← String.toList_inj, comment_toList, comment_toList, ← unended_eq_iff]
  simp only [List.cons.injEq, true_and, List.append_left_inj]

/-- A comment opens with its three characters, and behind them it holds an end only at its own end.
Read from behind its slash and star, with any text after it, it ends right before that text. Two texts
have the same comment exactly if they are the same with every broken end put together. -/
theorem comment_enclosed (text : String) :
    ['/', '*', '*'] <+: (comment text).toList ∧
    occurrences ['*', '/'] ((comment text).toList.drop 3) = [['*', '/']] ∧
    (∀ rest, (occurrences ['*', '/'] (((comment text).toList ++ rest).drop 2)).head? =
      some ('*' :: '/' :: rest)) ∧
    ∀ other, comment text = comment other ↔ mended text.toList = mended other.toList := by
  rw [comment_toList]
  refine ⟨⟨_, rfl⟩, ?_, ?_, fun other => comment_eq_iff⟩
  · exact occurrences_unended text.toList ['*', '/']
  · intro rest
    have hstar : ¬ ['*', '/'] <+: '*' :: ' ' :: (unended text.toList ++ ' ' :: '*' :: '/' :: rest) := by
      simp
    have hend : ['*', '/'] <+: '*' :: '/' :: rest := List.prefix_append _ rest
    have hcut : (('/' :: '*' :: '*' :: ' ' :: (unended text.toList ++ ' ' :: ['*', '/'])) ++ rest).drop 2 =
        '*' :: ' ' :: (unended text.toList ++ ' ' :: '*' :: '/' :: rest) := by
      simp
    rw [hcut, Text.occurrences_past hstar, occurrences_unended, Text.occurrences_here hend]
    rfl

example : comment "**/*/ *\\/" = "/** **\\/*\\/ *\\/ */" := by decide +kernel

end SampleTypes.TypeScript
