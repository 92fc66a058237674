import SampleTypes.Proofs.Documentation.Marks

/-!
The parts that a type expression is marked by: words, which escaping leaves as they are, and signs,
whose escapes hold no keyword and neither begin nor end in a word.
-/

namespace SampleTypes.Documentation

section Segments

def specialChars : List Char := ['&', '<', '>', '"', '\'']

/-- Of the special characters a property is decided one by one, not by way of all characters there
are. -/
theorem specialChars_forall {p : Char → Prop} [DecidablePred p]
    (h : (specialChars.all fun c => p c) = true) : ∀ c ∈ specialChars, p c :=
  fun c hc => of_decide_eq_true (List.all_eq_true.mp h c hc)

theorem escapeChar_cases (c : Char) : c ∈ specialChars ∨ Html.escapeChar c = [c] := by
  unfold Html.escapeChar
  split_ifs with ha hl hg hq hs
  · exact Or.inl (by rw [ha]; decide)
  · exact Or.inl (by rw [hl]; decide)
  · exact Or.inl (by rw [hg]; decide)
  · exact Or.inl (by rw [hq]; decide)
  · exact Or.inl (by rw [hs]; decide)
  · exact Or.inr rfl

theorem escapeChar_ne_nil (c : Char) : Html.escapeChar c ≠ [] := by
  rcases escapeChar_cases c with hc | hc
  · have hall : ∀ d ∈ specialChars, Html.escapeChar d ≠ [] := specialChars_forall (by decide)
    exact hall c hc
  · rw [hc]
    exact List.cons_ne_nil c []

theorem escape_word {word : List Char} (hw : ∀ c ∈ word, Text.isWordChar c = true) :
    Html.escape word = word := by
  induction word with
  | nil => rfl
  | cons c cs ih =>
    rw [List.forall_mem_cons] at hw
    have hnone : ∀ d ∈ specialChars, Text.isWordChar d = false := specialChars_forall (by decide)
    rcases escapeChar_cases c with hc | hc
    · rw [hnone c hc] at hw
      cases hw.1
    · have ht := ih hw.2
      rw [Html.escape] at ht ⊢
      rw [List.flatMap_cons, hc, ht, List.singleton_append]

def Segment.runs : Segment → List Run
  | .plain cs => (Html.escape cs).map .plain
  | .keyword cs => [.marked .keyword (Html.escape cs)]
  | .brackets => [.marked .brackets ['[', ']']]
  | .bar => [.marked .bar ['|']]

theorem Segment.contents_runs (s : Segment) : contents s.runs = Html.escape s.text := by
  cases s with
  | plain cs => exact contents_plain _
  | keyword cs => exact List.append_nil _
  | brackets => rfl
  | bar => rfl

theorem wordSegment_text (word : List Char) : (wordSegment word).flatMap Segment.text = word := by
  unfold wordSegment
  split_ifs with he hk
  · exact (List.isEmpty_iff.mp he).symm
  · exact List.append_nil word
  · exact List.append_nil word

theorem segmentsFrom_text (word cs : List Char) :
    (segmentsFrom word cs).flatMap Segment.text = word.reverse ++ cs := by
  induction word, cs using segmentsFrom.induct with
  | case1 word => rw [segmentsFrom, wordSegment_text, List.append_nil]
  | case2 word cs ih =>
    rw [segmentsFrom, List.flatMap_append, List.flatMap_cons, wordSegment_text, ih]
    rfl
  | case3 word cs ih =>
    rw [segmentsFrom, List.flatMap_append, List.flatMap_cons, wordSegment_text, ih]
    rfl
  | case4 word c cs hpair hbar hc ih =>
    rw [segmentsFrom, if_pos hc, ih, List.reverse_cons, List.append_assoc, List.singleton_append]
    · exact hpair
    · exact hbar
  | case5 word c cs hpair hbar hc ih =>
    rw [segmentsFrom, if_neg hc, List.flatMap_append, List.flatMap_cons, wordSegment_text, ih]
    · rfl
    · exact hpair
    · exact hbar

theorem contents_segments (segs : List Segment) :
    contents (segs.flatMap Segment.runs) = Html.escape (segs.flatMap Segment.text) := by
  induction segs with
  | nil => rfl
  | cons s rest ih =>
    rw [List.flatMap_cons, List.flatMap_cons, contents_append, s.contents_runs, ih, Html.escape,
      Html.escape, Html.escape, List.flatMap_append]

theorem agrees_word {word : List Char} (hw : ∀ c ∈ word, Text.isWordChar c = true) :
    Agrees ((wordSegment word).flatMap Segment.runs) := by
  unfold wordSegment
  split_ifs with he hk
  · exact agrees_nil
  · rw [List.flatMap_singleton, Segment.runs, escape_word hw]
    apply agrees_marked
    intro n before part after he
    rw [isMarkable_word hw he]
    simp [hk]
  · rw [List.flatMap_singleton, Segment.runs, escape_word hw]
    apply agrees_plain
    intro n before part after he hn
    exact hk ((isMarkable_word hw he).mp hn).2.2.2

end Segments

section Signs

variable {c : Char}

theorem escapeChar_begins (hw : ¬ Text.isWordChar c = true) :
    beginsWithWord (Html.escapeChar c) = false := by
  rcases escapeChar_cases c with hc | hc
  · have hall : ∀ d ∈ specialChars, beginsWithWord (Html.escapeChar d) = false :=
      specialChars_forall (by decide)
    exact hall c hc
  · rw [hc]
    simpa [beginsWithWord] using hw

theorem escapeChar_ends (hw : ¬ Text.isWordChar c = true) : endsInWord (Html.escapeChar c) = false := by
  rcases escapeChar_cases c with hc | hc
  · have hall : ∀ d ∈ specialChars, endsInWord (Html.escapeChar d) = false :=
      specialChars_forall (by decide)
    exact hall c hc
  · rw [hc]
    simpa [endsInWord] using hw

theorem escapeChar_noKeyword (hw : ¬ Text.isWordChar c = true) :
    ∀ k ∈ keywords, ¬ k.toList <:+: Html.escapeChar c := by
  intro k hk hi
  rcases escapeChar_cases c with hc | hc
  · have hall : ∀ d ∈ specialChars, ∀ k ∈ keywords, ¬ k.toList <:+: Html.escapeChar d :=
      specialChars_forall (by decide +kernel)
    exact hall c hc k hk hi
  · rw [hc] at hi
    obtain ⟨hne, hall⟩ := keywords_word k hk
    rw [List.all_eq_true] at hall
    obtain ⟨d, hd⟩ := List.exists_mem_of_ne_nil _ hne
    have hdc : d = c := List.mem_singleton.mp (hi.subset hd)
    exact hw (hdc ▸ hall d hd)

theorem escapeChar_noBar (hbar : c ≠ '|') : '|' ∉ Html.escapeChar c := by
  rcases escapeChar_cases c with hc | hc
  · have hall : ∀ d ∈ specialChars, '|' ∉ Html.escapeChar d := specialChars_forall (by decide)
    exact hall c hc
  · rw [hc, List.mem_singleton]
    exact hbar.symm

theorem escapeChar_noPair : ¬ ['[', ']'] <:+: Html.escapeChar c := by
  intro hi
  rcases escapeChar_cases c with hc | hc
  · have hall : ∀ d ∈ specialChars, '[' ∉ Html.escapeChar d := specialChars_forall (by decide)
    exact hall c hc (hi.subset List.mem_cons_self)
  · rw [hc] at hi
    exact absurd hi.length_le (by simp)

/-- A character that stands for itself or is escaped, and is not the bar, has nothing to be marked. -/
theorem agrees_escaped (hw : ¬ Text.isWordChar c = true) (hbar : c ≠ '|') :
    Agrees ((Html.escapeChar c).map .plain) := by
  apply agrees_plain
  intro n before part after he h
  have hp : part <:+: Html.escapeChar c := ⟨before, after, by rw [he, List.append_assoc]⟩
  cases h with
  | keyword listed => exact escapeChar_noKeyword hw _ listed hp
  | brackets => exact escapeChar_noPair hp
  | bar => exact escapeChar_noBar hbar (hp.subset List.mem_cons_self)

end Signs

section Borders

variable {xs ys : List Char}

theorem parted_word (hw : ∀ c ∈ xs, Text.isWordChar c = true) (hy : beginsWithWord ys = false) :
    Parted xs ys := by
  refine ⟨Or.inr hy, ?_⟩
  rintro ⟨hl, -⟩
  exact absurd (hw '[' (List.mem_of_getLast? hl)) (by decide)

theorem escape_begins {c : Char} {cs : List Char} (hw : ¬ Text.isWordChar c = true) :
    beginsWithWord (Html.escape (c :: cs)) = false := by
  rw [Html.escape, List.flatMap_cons, beginsWithWord_append (escapeChar_ne_nil c)]
  exact escapeChar_begins hw

theorem parted_sign {c : Char} {cs : List Char} (hw : ¬ Text.isWordChar c = true)
    (hpair : ∀ rest, c = '[' → cs = ']' :: rest → False) :
    Parted (Html.escapeChar c) (Html.escape cs) := by
  refine ⟨Or.inl (escapeChar_ends hw), ?_⟩
  rintro ⟨hopen, hclose⟩
  rcases escapeChar_cases c with hc | hc
  · have hall : ∀ d ∈ specialChars, (Html.escapeChar d).getLast? ≠ some '[' :=
      specialChars_forall (by decide)
    exact hall c hc hopen
  · rw [hc] at hopen
    cases cs with
    | nil => cases hclose
    | cons d rest =>
      have hd : d = ']' := by
        rcases escapeChar_cases d with hs | hs
        · have hall : ∀ e ∈ specialChars, (Html.escapeChar e).head? = some '&' :=
            specialChars_forall (by decide)
          rw [Html.escape, List.flatMap_cons, List.head?_append, hall d hs] at hclose
          cases hclose
        · rw [Html.escape, List.flatMap_cons, hs] at hclose
          exact Option.some.inj hclose
      exact hpair rest (by simpa using hopen) (by rw [hd])

end Borders

end SampleTypes.Documentation
