import SampleTypes.Proofs.Documentation.Segments
import SampleTypes.Proofs.Text.Occurrences

/-!
Marking by replacements over a whole text, one kind of mark after the other: the keywords between word
boundaries, then the pairs of brackets, then the bars. No tag that is put in holds anything that a later
replacement looks for, so reading a type expression once does the same.
-/

namespace SampleTypes.Documentation

def keywordAt? (before after : List Char) : Option String :=
  keywords.find? fun word => word.toList <+: after ∧ IsBoundary before after ∧
    IsBoundary (before ++ word.toList) (after.drop word.toList.length)

def Mark.around (m : Mark) (part : List Char) : List Char :=
  '<' :: (m.tag ++ '>' :: (part ++ "</span>".toList))

/-- Keywords replaced from left to right, `before` being the text already passed. Of a keyword found
at the front, the rest of the characters is then left out. -/
def markKeywordsFrom : List Char → Nat → List Char → List Char
  | _, _, [] => []
  | before, skip + 1, c :: cs => markKeywordsFrom (before ++ [c]) skip cs
  | before, 0, c :: cs =>
    match keywordAt? before (c :: cs) with
    | some word => Mark.keyword.around word.toList ++
        markKeywordsFrom (before ++ [c]) (word.toList.length - 1) cs
    | none => c :: markKeywordsFrom (before ++ [c]) 0 cs

def markSigns (cs : List Char) : List Char :=
  Text.replaceAll ['|'] (Mark.bar.around ['|'])
    (Text.replaceAll ['[', ']'] (Mark.brackets.around ['[', ']']) cs)

/-- The escaped text with its keywords, its pairs of brackets and its bars replaced in turn. -/
def markedInTurn (cs : List Char) : List Char :=
  markSigns (markKeywordsFrom [] 0 (Html.escape cs))

variable {before word xs ys : List Char}

theorem keywordAt?_some {k : String} (h : keywordAt? before ys = some k) :
    k ∈ keywords ∧ k.toList <+: ys ∧ IsBoundary before ys ∧
      IsBoundary (before ++ k.toList) (ys.drop k.toList.length) := by
  rw [keywordAt?] at h
  have hplace := List.find?_some h
  exact ⟨List.mem_of_find?_eq_some h, of_decide_eq_true hplace⟩

theorem keywordAt?_none (h : ∀ k ∈ keywords, k.toList <+: ys → ¬ IsBoundary before ys) :
    keywordAt? before ys = none := by
  cases hk : keywordAt? before ys with
  | none => rfl
  | some k =>
    obtain ⟨hmem, hprefix, hbegins, -⟩ := keywordAt?_some hk
    exact absurd hbegins (h k hmem hprefix)

theorem markKeywords_within (hb : endsInWord before = true)
    (hw : ∀ c ∈ word, Text.isWordChar c = true) (ys : List Char) :
    markKeywordsFrom before 0 (word ++ ys) = word ++ markKeywordsFrom (before ++ word) 0 ys := by
  induction word generalizing before with
  | nil => rw [List.append_nil]; rfl
  | cons c cs ih =>
    rw [List.forall_mem_cons] at hw
    have hnext : endsInWord (before ++ [c]) = true := by
      rw [endsInWord_append (List.cons_ne_nil c [])]
      exact hw.1
    have hnone : keywordAt? before (c :: (cs ++ ys)) = none :=
      keywordAt?_none fun _ _ _ hbegins => hbegins (hb.trans hw.1.symm)
    rw [List.cons_append, markKeywordsFrom, hnone, ih hnext hw.2, List.append_assoc]
    rfl

theorem markKeywords_skip (before xs ys : List Char) :
    markKeywordsFrom before xs.length (xs ++ ys) = markKeywordsFrom (before ++ xs) 0 ys := by
  induction xs generalizing before with
  | nil => rw [List.append_nil]; rfl
  | cons c cs ih =>
    rw [List.length_cons, List.cons_append, markKeywordsFrom, ih, List.append_assoc]
    rfl

/-- The keyword found at a word that no word character follows is the word. -/
theorem keywordAt?_word {k : String} (hw : ∀ c ∈ word, Text.isWordChar c = true)
    (hy : beginsWithWord ys = false) (h : keywordAt? before (word ++ ys) = some k) :
    k.toList = word := by
  obtain ⟨hmem, hprefix, -, hends⟩ := keywordAt?_some h
  obtain ⟨hne, hall⟩ := keywords_word k hmem
  rw [List.all_eq_true] at hall
  rcases List.prefix_or_prefix_of_prefix hprefix (List.prefix_append word ys) with hk | hk
  · obtain ⟨rest, rfl⟩ := hk
    rw [List.append_assoc, List.drop_left, IsBoundary, endsInWord_append hne, word_ends hne hall]
      at hends
    by_cases hr : rest = []
    · rw [hr, List.append_nil]
    · have hrest : ∀ c ∈ rest, Text.isWordChar c = true := fun c hc => hw c (List.mem_append_right _ hc)
      rw [beginsWithWord_append hr, word_begins hr hrest] at hends
      exact absurd rfl hends
  · obtain ⟨rest, hr⟩ := hk
    rw [← hr, List.prefix_append_right_inj] at hprefix
    by_cases hn : rest = []
    · rw [← hr, hn, List.append_nil]
    · obtain ⟨tail, rfl⟩ := hprefix
      have hrest : ∀ c ∈ rest, Text.isWordChar c = true := by
        intro c hc
        apply hall
        rw [← hr]
        exact List.mem_append_right _ hc
      rw [beginsWithWord_append hn, word_begins hn hrest] at hy
      cases hy

theorem keywordAt?_keyword (hb : endsInWord before = false) (hy : beginsWithWord ys = false)
    (hk : isKeyword word = true) : ∃ k, keywordAt? before (word ++ ys) = some k := by
  obtain ⟨k, hmem, rfl⟩ := isKeyword_iff.mp hk
  obtain ⟨hne, hall⟩ := keywords_word k hmem
  rw [List.all_eq_true] at hall
  rw [← Option.isSome_iff_exists, keywordAt?, List.find?_isSome]
  refine ⟨k, hmem, decide_eq_true ⟨List.prefix_append _ _, ?_, ?_⟩⟩
  · rw [IsBoundary, hb, beginsWithWord_append hne, word_begins hne hall]
    decide
  · rw [List.drop_left, IsBoundary, endsInWord_append hne, word_ends hne hall, hy]
    decide

theorem markKeywords_word (hb : endsInWord before = false)
    (hw : ∀ c ∈ word, Text.isWordChar c = true) (hy : beginsWithWord ys = false) :
    markKeywordsFrom before 0 (word ++ ys) =
      (if isKeyword word then Mark.keyword.around word else word) ++
        markKeywordsFrom (before ++ word) 0 ys := by
  cases word with
  | nil => rw [List.append_nil]; rfl
  | cons c cs =>
    rw [List.cons_append, markKeywordsFrom, ← List.cons_append]
    have hnext : endsInWord (before ++ [c]) = true := by
      rw [endsInWord_append (List.cons_ne_nil c [])]
      exact hw c List.mem_cons_self
    cases hk : keywordAt? before (c :: cs ++ ys) with
    | some k =>
      have he : k.toList = c :: cs := keywordAt?_word hw hy hk
      have hkeyword : isKeyword (c :: cs) = true :=
        isKeyword_iff.mpr ⟨k, (keywordAt?_some hk).1, he⟩
      have hrest := markKeywords_skip (before ++ [c]) cs ys
      rw [List.append_assoc, List.singleton_append] at hrest
      rw [if_pos hkeyword, ← hrest]
      show Mark.keyword.around k.toList ++ _ = _
      rw [he]
      rfl
    | none =>
      have hkeyword : ¬ isKeyword (c :: cs) = true := by
        intro h
        obtain ⟨k, hs⟩ := keywordAt?_keyword hb hy h
        cases hk.symm.trans hs
      rw [if_neg hkeyword]
      show c :: markKeywordsFrom (before ++ [c]) 0 (cs ++ ys) = _
      rw [markKeywords_within hnext (List.forall_mem_cons.mp hw).2, List.append_assoc]
      rfl

/-- A part without a keyword that does not end in a word is copied. -/
theorem markKeywords_free (hk : ∀ k ∈ keywords, ¬ k.toList <:+: xs) (hx : endsInWord xs = false)
    (before ys : List Char) :
    markKeywordsFrom before 0 (xs ++ ys) = xs ++ markKeywordsFrom (before ++ xs) 0 ys := by
  induction xs generalizing before with
  | nil => rw [List.append_nil]; rfl
  | cons c cs ih =>
    have hnone : keywordAt? before (c :: (cs ++ ys)) = none := by
      apply keywordAt?_none
      intro k hmem hprefix
      rcases List.prefix_or_prefix_of_prefix hprefix (List.prefix_append (c :: cs) ys) with hp | hp
      · exact absurd hp.isInfix (hk k hmem)
      · have hall := (keywords_word k hmem).2
        rw [List.all_eq_true] at hall
        have hends := word_ends (List.cons_ne_nil c cs) fun d hd => hall d (hp.subset hd)
        rw [hx] at hends
        cases hends
    have hkeyword : ∀ k ∈ keywords, ¬ k.toList <:+: cs :=
      fun k hmem hi => hk k hmem (hi.trans (List.suffix_cons c cs).isInfix)
    have hends : endsInWord cs = false := by
      by_cases hn : cs = []
      · rw [hn]; rfl
      · have hlast : endsInWord ([c] ++ cs) = endsInWord cs := endsInWord_append hn
        exact hlast.symm.trans hx
    rw [List.cons_append, markKeywordsFrom, hnone, ih hkeyword hends, List.append_assoc]
    rfl

theorem markKeywords_head {c : Char} (hc : c ≠ '<') {before cs : List Char}
    (h : (markKeywordsFrom before 0 cs).head? = some c) : cs.head? = some c := by
  cases cs with
  | nil => cases h
  | cons d cs =>
    rw [markKeywordsFrom] at h
    split at h
    · exact absurd (Option.some.inj h).symm hc
    · exact h

theorem Mark.around_eq (m : Mark) (part : List Char) :
    m.around part = (Run.marked m part).pieces.flatMap Piece.write := by
  have hend : [Piece.tag endMark].flatMap Piece.write = "</span>".toList := by decide
  rw [Run.pieces, List.flatMap_cons, List.flatMap_append, write_chars, hend, Piece.write]
  simp [Mark.around]

theorem markSigns_free (hb : '[' ∉ xs) (hu : '|' ∉ xs) (ys : List Char) :
    markSigns (xs ++ ys) = xs ++ markSigns ys := by
  rw [markSigns, Text.replaceAll_free hb, Text.replaceAll_free hu, markSigns]

theorem markSigns_brackets (ys : List Char) :
    markSigns ('[' :: ']' :: ys) = Mark.brackets.around ['[', ']'] ++ markSigns ys := by
  have hbar : '|' ∉ Mark.brackets.around ['[', ']'] := by decide +kernel
  have hhere := Text.replaceAll_here '[' [']'] (Mark.brackets.around ['[', ']']) ys
  rw [List.cons_append, List.singleton_append] at hhere
  rw [markSigns, hhere, Text.replaceAll_free hbar, markSigns]

theorem markSigns_bar (ys : List Char) :
    markSigns ('|' :: ys) = Mark.bar.around ['|'] ++ markSigns ys := by
  have hpast : ¬ ['[', ']'] <+: '|' :: ys := fun hp => absurd (Text.begins_pair.mp hp).1 (by decide)
  rw [markSigns, Text.replaceAll_past hpast]
  exact Text.replaceAll_here '|' [] _ _

theorem markSigns_open (h : ys.head? ≠ some ']') : markSigns ('[' :: ys) = '[' :: markSigns ys := by
  have hpast : ¬ ['[', ']'] <+: '[' :: ys := fun hp => h (Text.begins_pair.mp hp).2
  rw [markSigns, Text.replaceAll_past hpast]
  have hbar : '|' ∉ ['['] := by decide
  exact Text.replaceAll_free hbar _ _

theorem not_mem_word {c : Char} (hw : ∀ c ∈ word, Text.isWordChar c = true)
    (hc : Text.isWordChar c = false) : c ∉ word := by
  intro hm
  rw [hw c hm] at hc
  cases hc

theorem markSigns_word (hw : ∀ c ∈ word, Text.isWordChar c = true) (ys : List Char) :
    markSigns (word ++ ys) = word ++ markSigns ys :=
  markSigns_free (not_mem_word hw (by decide)) (not_mem_word hw (by decide)) ys

theorem markSigns_keyword (hw : ∀ c ∈ word, Text.isWordChar c = true) (ys : List Char) :
    markSigns (Mark.keyword.around word ++ ys) = Mark.keyword.around word ++ markSigns ys := by
  have hnot {c : Char} (hc : Text.isWordChar c = false) (htag : c ∉ Mark.keyword.around []) :
      c ∉ Mark.keyword.around word := by
    have hword := not_mem_word hw hc
    simp_all [Mark.around]
  exact markSigns_free (hnot (by decide) (by decide +kernel)) (hnot (by decide) (by decide +kernel)) ys

theorem pieces_plain (cs : List Char) : (cs.map Run.plain).flatMap Run.pieces = cs.map .char := by
  induction cs with
  | nil => rfl
  | cons c cs ih =>
    rw [List.map_cons, List.flatMap_cons, ih]
    rfl

def Segment.written (s : Segment) : List Char :=
  (s.runs.flatMap Run.pieces).flatMap Piece.write

theorem written_segments (segs : List Segment) :
    ((segs.flatMap Segment.runs).flatMap Run.pieces).flatMap Piece.write =
      segs.flatMap Segment.written := by
  simp only [List.flatMap_assoc]
  exact List.flatMap_congr fun s _ => List.flatMap_assoc.symm

theorem Segment.written_plain (cs : List Char) : (Segment.plain cs).written = Html.escape cs := by
  rw [Segment.written, Segment.runs, pieces_plain, write_chars]

theorem written_word (hw : ∀ c ∈ word, Text.isWordChar c = true) :
    (wordSegment word).flatMap Segment.written =
      if isKeyword word then Mark.keyword.around word else word := by
  unfold wordSegment
  split_ifs with he hk hk
  · rw [List.isEmpty_iff.mp he] at hk
    exact absurd hk (by decide)
  · exact (List.isEmpty_iff.mp he).symm
  · rw [List.flatMap_singleton, Segment.written, Segment.runs, List.flatMap_singleton, escape_word hw,
      Mark.around_eq]
  · rw [List.flatMap_singleton, Segment.written_plain, escape_word hw]

theorem marked_after_word (hb : endsInWord before = false)
    (hw : ∀ c ∈ word, Text.isWordChar c = true) (hy : beginsWithWord ys = false) :
    markSigns (markKeywordsFrom before 0 (word ++ ys)) =
      (wordSegment word).flatMap Segment.written ++
        markSigns (markKeywordsFrom (before ++ word) 0 ys) := by
  rw [markKeywords_word hb hw hy, written_word hw]
  split_ifs with hk
  · exact markSigns_keyword hw _
  · exact markSigns_word hw _

theorem marked_sign {c : Char} {cs : List Char} (hw : ¬ Text.isWordChar c = true) (hbar : c ≠ '|')
    (hpair : ∀ rest, c = '[' → cs = ']' :: rest → False) :
    markSigns (markKeywordsFrom before 0 (Html.escapeChar c ++ Html.escape cs)) =
      Html.escapeChar c ++
        markSigns (markKeywordsFrom (before ++ Html.escapeChar c) 0 (Html.escape cs)) := by
  rw [markKeywords_free (escapeChar_noKeyword hw) (escapeChar_ends hw)]
  rcases escapeChar_cases c with hc | hc
  · have hbracket : ∀ d ∈ specialChars, '[' ∉ Html.escapeChar d := specialChars_forall (by decide)
    exact markSigns_free (hbracket c hc) (escapeChar_noBar hbar) _
  · rw [hc]
    by_cases hopen : c = '['
    · subst hopen
      apply markSigns_open
      intro hclose
      have hhead := markKeywords_head (by decide) hclose
      exact (parted_sign hw hpair).brackets ⟨by rw [hc]; rfl, hhead⟩
    · exact markSigns_free (by simpa using Ne.symm hopen) (by simpa using Ne.symm hbar) _

/-- A word, a sign that ends it and the text behind the sign, if the sign is marked on its own. -/
theorem marked_word_sign {sign written out : List Char} (hb : endsInWord before = false)
    (hw : ∀ c ∈ word, Text.isWordChar c = true) (hne : sign ≠ []) (hs : beginsWithWord sign = false)
    (he : endsInWord sign = false)
    (hsign : ∀ before, markSigns (markKeywordsFrom before 0 (sign ++ ys)) =
      written ++ markSigns (markKeywordsFrom (before ++ sign) 0 ys))
    (hrest : ∀ {before}, endsInWord before = false → markSigns (markKeywordsFrom before 0 ys) = out) :
    markSigns (markKeywordsFrom before 0 (word.reverse ++ (sign ++ ys))) =
      (wordSegment word.reverse).flatMap Segment.written ++ (written ++ out) := by
  have hr : ∀ c ∈ word.reverse, Text.isWordChar c = true := fun c hc => hw c (List.mem_reverse.mp hc)
  have hy : beginsWithWord (sign ++ ys) = false := by rw [beginsWithWord_append hne, hs]
  have hback : endsInWord (before ++ word.reverse ++ sign) = false := by rw [endsInWord_append hne, he]
  rw [marked_after_word hb hr hy, hsign, hrest hback]

/-- The one reading marks what the replacements in turn mark. By induction along it, with any text
before the word that does not end in one. -/
theorem marked_segmentsFrom {cs : List Char} (hb : endsInWord before = false)
    (hw : ∀ c ∈ word, Text.isWordChar c = true) :
    markSigns (markKeywordsFrom before 0 (word.reverse ++ Html.escape cs)) =
      (segmentsFrom word cs).flatMap Segment.written := by
  induction word, cs using segmentsFrom.induct generalizing before with
  | case1 word =>
    have hr : ∀ c ∈ word.reverse, Text.isWordChar c = true :=
      fun c hc => hw c (List.mem_reverse.mp hc)
    rw [segmentsFrom, marked_after_word hb hr rfl]
    exact List.append_nil _
  | case2 word cs ih =>
    rw [segmentsFrom, List.flatMap_append, List.flatMap_cons]
    show markSigns (markKeywordsFrom before 0 (word.reverse ++ (['[', ']'] ++ Html.escape cs))) = _
    refine marked_word_sign hb hw (List.cons_ne_nil _ _) rfl rfl ?_
      fun hb => ih hb (List.forall_mem_nil _)
    intro before
    rw [markKeywords_free (by decide +kernel) rfl, List.cons_append, List.singleton_append,
      markSigns_brackets]
    rfl
  | case3 word cs ih =>
    rw [segmentsFrom, List.flatMap_append, List.flatMap_cons]
    show markSigns (markKeywordsFrom before 0 (word.reverse ++ (['|'] ++ Html.escape cs))) = _
    refine marked_word_sign hb hw (List.cons_ne_nil _ _) rfl rfl ?_
      fun hb => ih hb (List.forall_mem_nil _)
    intro before
    rw [markKeywords_free (by decide +kernel) rfl, List.singleton_append, markSigns_bar]
    rfl
  | case4 word c cs hpair hbar hc ih =>
    have hescape : Html.escape (c :: cs) = c :: Html.escape cs := by
      have hword : Html.escape [c] = [c] := escape_word (by simpa using hc)
      rw [Html.escape, List.flatMap_singleton] at hword
      rw [Html.escape, List.flatMap_cons, hword]
      rfl
    rw [segmentsFrom, if_pos hc, ← ih hb (List.forall_mem_cons.mpr ⟨hc, hw⟩), hescape,
      List.reverse_cons, List.append_assoc, List.singleton_append]
    · exact hpair
    · exact hbar
  | case5 word c cs hpair hbar hc ih =>
    rw [segmentsFrom, if_neg hc, List.flatMap_append, List.flatMap_cons, Segment.written_plain]
    · have hsign : Html.escape [c] = Html.escapeChar c := List.flatMap_singleton _ _
      rw [hsign]
      exact marked_word_sign hb hw (escapeChar_ne_nil c) (escapeChar_begins hc) (escapeChar_ends hc)
        (fun _ => marked_sign hc hbar hpair) fun hb => ih hb (List.forall_mem_nil _)
    · exact hpair
    · exact hbar

end SampleTypes.Documentation
