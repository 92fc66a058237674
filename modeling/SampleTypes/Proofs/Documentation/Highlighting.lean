import SampleTypes.Proofs.Documentation.Integrity
import SampleTypes.Proofs.Documentation.Substitution

/-!
What the marking of a type expression does to it. Main result: one reading marks what replacements in
turn would mark, what is left without the tags is the escaped expression, the marks stand in it one
after another, and marked are its bars, its pairs of brackets and the keywords that stand alone between
word boundaries, and nothing else.
-/

namespace SampleTypes.Documentation

section Highlight

theorem contents_word {word : List Char} (hw : ∀ c ∈ word, Text.isWordChar c = true) :
    contents ((wordSegment word).flatMap Segment.runs) = word := by
  rw [contents_segments, wordSegment_text, escape_word hw]

theorem contents_segmentsFrom (word cs : List Char) :
    contents ((segmentsFrom word cs).flatMap Segment.runs) = Html.escape (word.reverse ++ cs) := by
  rw [contents_segments, segmentsFrom_text]

/-- A word is marked on its own where no word character follows it. -/
theorem agrees_after_word {word : List Char} (hw : ∀ c ∈ word, Text.isWordChar c = true)
    {runs : List Run} (h : Agrees runs) (hb : beginsWithWord (contents runs) = false) :
    Agrees ((wordSegment word.reverse).flatMap Segment.runs ++ runs) := by
  have hr : ∀ c ∈ word.reverse, Text.isWordChar c = true := fun c hc => hw c (List.mem_reverse.mp hc)
  refine (agrees_word hr).append h ?_
  rw [contents_word hr]
  exact parted_word hr hb

/-- By induction along the reading, which the word read so far belongs to. -/
theorem agrees_segmentsFrom {word cs : List Char} (hw : ∀ c ∈ word, Text.isWordChar c = true) :
    Agrees ((segmentsFrom word cs).flatMap Segment.runs) := by
  induction word, cs using segmentsFrom.induct with
  | case1 word =>
    rw [segmentsFrom]
    exact agrees_word fun c hc => hw c (List.mem_reverse.mp hc)
  | case2 word cs ih =>
    rw [segmentsFrom, List.flatMap_append, List.flatMap_cons]
    refine agrees_after_word hw (agrees_brackets.append (ih (List.forall_mem_nil _)) ?_) rfl
    exact ⟨Or.inl rfl, fun h => absurd h.1 (by decide)⟩
  | case3 word cs ih =>
    rw [segmentsFrom, List.flatMap_append, List.flatMap_cons]
    refine agrees_after_word hw (agrees_bar.append (ih (List.forall_mem_nil _)) ?_) rfl
    exact ⟨Or.inl rfl, fun h => absurd h.1 (by decide)⟩
  | case4 word c cs hpair hbar hc ih =>
    rw [segmentsFrom, if_pos hc]
    · exact ih (List.forall_mem_cons.mpr ⟨hc, hw⟩)
    · exact hpair
    · exact hbar
  | case5 word c cs hpair hbar hc ih =>
    rw [segmentsFrom, if_neg hc, List.flatMap_append, List.flatMap_cons]
    · have hsign : Segment.runs (.plain [c]) = (Html.escapeChar c).map .plain := by
        rw [Segment.runs, Html.escape, List.flatMap_singleton]
      have hrest := contents_segmentsFrom [] cs
      rw [List.reverse_nil, List.nil_append] at hrest
      rw [hsign]
      refine agrees_after_word hw ((agrees_escaped hc hbar).append (ih (List.forall_mem_nil _)) ?_) ?_
      · rw [contents_plain, hrest]
        exact parted_sign hc hpair
      · rw [contents_append, contents_plain, hrest]
        exact escape_begins hc
    · exact hpair
    · exact hbar

end Highlight

section Reading

/-- A marked text is read back as a tag, its characters and the end of the tag. -/
theorem pieces_mark {m : Mark} {cls : String}
    (h : "span".toList ++ Html.writeAttributes [("class", cls)] = m.tag) (cs : List Char) :
    pieces (.classed "span" cls [.text (String.ofList cs)]) =
      (Run.marked m (Html.escape cs)).pieces := by
  rw [Html.classed, pieces, h, allPieces, allPieces, pieces, String.toList_ofList, List.append_nil]
  rfl

theorem pieces_segment (s : Segment) : pieces s.toHtml = s.runs.flatMap Run.pieces := by
  cases s with
  | plain cs =>
    rw [Segment.toHtml, Segment.runs, pieces_plain, pieces, String.toList_ofList]
    rfl
  | keyword cs =>
    rw [Segment.toHtml, Segment.runs, List.flatMap_singleton]
    exact pieces_mark (by decide) cs
  | brackets =>
    rw [Segment.toHtml, Segment.runs, List.flatMap_singleton]
    exact pieces_mark (by decide) _
  | bar =>
    rw [Segment.toHtml, Segment.runs, List.flatMap_singleton]
    exact pieces_mark (by decide) _

theorem allPieces_segments (segs : List Segment) :
    allPieces (segs.map Segment.toHtml) = (segs.flatMap Segment.runs).flatMap Run.pieces := by
  induction segs with
  | nil => rfl
  | cons s rest ih =>
    rw [List.map_cons, allPieces, pieces_segment, ih, List.flatMap_cons, List.flatMap_append]

/-- The marked expression comes about by escaping it and by replacing its keywords, its brackets and
its bars in turn. Without its tags it is the escaped one. Its tags are in pairs, and between them
it is read as characters and marks one after another, no mark in another one. Marked are the bars, the
pairs of brackets and the keywords. -/
theorem highlight_exact (typeRef : String) :
    let text := (Html.allText (highlight typeRef)).toList
    text = markedInTurn typeRef.toList ∧
    withoutMarks text = Html.escape typeRef.toList ∧ Balanced (split text) ∧
      ∃ runs, split text = runs.flatMap Run.pieces ∧ contents runs = Html.escape typeRef.toList ∧
        ∀ m before part after, Marked runs m before part after ↔
          Html.escape typeRef.toList = before ++ (part ++ after) ∧
            IsMarkable m before part after := by
  intro text
  let runs := (segments typeRef).flatMap Segment.runs
  have hpieces : allPieces (highlight typeRef) = runs.flatMap Run.pieces := allPieces_segments _
  have hsound : Sound (runs.flatMap Run.pieces) := by
    rw [← hpieces]
    exact allPieces_sound fun x hx => (highlight_templated typeRef x hx).sound
  have htext : text = (runs.flatMap Run.pieces).flatMap Piece.write := by
    rw [← hpieces, ← write_allPieces]
    exact String.toList_ofList
  have hsplit : split text = runs.flatMap Run.pieces := by
    rw [htext, split_write fun p hp => (hsound.expected p hp).clean]
  have hcontents : contents runs = Html.escape typeRef.toList := contents_segmentsFrom [] _
  have hagrees : Agrees runs := agrees_segmentsFrom (List.forall_mem_nil _)
  refine ⟨?_, ?_, ?_, runs, hsplit, hcontents, ?_⟩
  · have hturn : markedInTurn typeRef.toList = (segments typeRef).flatMap Segment.written :=
      marked_segmentsFrom rfl (List.forall_mem_nil _)
    rw [htext, written_segments, hturn]
  · rw [htext, withoutMarks_runs hsound.expected, hcontents]
  · rw [hsplit]
    exact hsound.balanced
  · intro m before part after
    rw [← hcontents]
    exact hagrees m before part after

example : Html.allText (highlight "Many[]|any&") =
    "Many<span class=\"sb-arr\">[]</span><span class=\"sb-union\">|</span>" ++
      "<span class=\"sb-kw\">any</span>&amp;" := by
  decide +kernel

end Reading

end SampleTypes.Documentation
