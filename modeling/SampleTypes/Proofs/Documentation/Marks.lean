import SampleTypes.Documentation.Card
import SampleTypes.Proofs.Documentation.Tags
import SampleTypes.Proofs.Text.Replacement

/-!
Texts in which parts are marked. Such a text is read as plain characters and marks, each mark ending
before the next one begins. To be marked are bars, pairs of brackets and the keywords that stand alone
between word boundaries. Where neither a word nor a pair of brackets goes over the border of two texts,
just what is to be marked is marked in both together if it is so in each of them.
-/

namespace SampleTypes.Documentation

inductive Mark where
  | keyword
  | brackets
  | bar
  deriving DecidableEq, Repr

def Mark.tag : Mark → List Char
  | .keyword => "span class=\"sb-kw\"".toList
  | .brackets => "span class=\"sb-arr\"".toList
  | .bar => "span class=\"sb-union\"".toList

def endMark : List Char := "/span".toList

inductive Run where
  | plain (c : Char)
  | marked (m : Mark) (cs : List Char)
  deriving DecidableEq, Repr

def Run.pieces : Run → List Piece
  | .plain c => [.char c]
  | .marked m cs => .tag m.tag :: (cs.map .char ++ [.tag endMark])

def Run.content : Run → List Char
  | .plain c => [c]
  | .marked _ cs => cs

def contents (runs : List Run) : List Char := runs.flatMap Run.content

/-- A part of the text stands in a mark of its own, with so much of the text on its two sides. -/
def Marked (runs : List Run) (m : Mark) (before part after : List Char) : Prop :=
  ∃ front back, runs = front ++ .marked m part :: back ∧ contents front = before ∧
    contents back = after

def endsInWord (cs : List Char) : Bool := cs.getLast?.any Text.isWordChar

def beginsWithWord (cs : List Char) : Bool := cs.head?.any Text.isWordChar

def IsBoundary (before after : List Char) : Prop := endsInWord before ≠ beginsWithWord after

instance (before after : List Char) : Decidable (IsBoundary before after) :=
  inferInstanceAs (Decidable (_ ≠ _))

/-- What is to be marked in a text. -/
inductive IsMarkable : Mark → List Char → List Char → List Char → Prop where
  | keyword {before after : List Char} {word : String} (listed : word ∈ keywords)
      (begins : IsBoundary before (word.toList ++ after))
      (ends : IsBoundary (before ++ word.toList) after) :
      IsMarkable .keyword before word.toList after
  | brackets {before after : List Char} : IsMarkable .brackets before ['[', ']'] after
  | bar {before after : List Char} : IsMarkable .bar before ['|'] after

def Agrees (runs : List Run) : Prop :=
  ∀ m before part after, Marked runs m before part after ↔
    contents runs = before ++ (part ++ after) ∧ IsMarkable m before part after

section Words

theorem keywords_word : ∀ word ∈ keywords, word.toList ≠ [] ∧
    word.toList.all Text.isWordChar = true := by
  decide +kernel

theorem isKeyword_iff {cs : List Char} :
    isKeyword cs = true ↔ ∃ word ∈ keywords, word.toList = cs := by
  simp [isKeyword, List.any_eq_true]

theorem endsInWord_append {xs ys : List Char} (h : ys ≠ []) :
    endsInWord (xs ++ ys) = endsInWord ys := by
  rw [endsInWord, List.getLast?_append_of_ne_nil xs h, endsInWord]

theorem beginsWithWord_append {xs ys : List Char} (h : xs ≠ []) :
    beginsWithWord (xs ++ ys) = beginsWithWord xs := by
  rw [beginsWithWord, List.head?_append_of_ne_nil xs h, beginsWithWord]

variable {word : List Char}

theorem word_ends (hne : word ≠ []) (hw : ∀ c ∈ word, Text.isWordChar c = true) :
    endsInWord word = true := by
  rw [endsInWord, List.getLast?_eq_some_getLast hne, Option.any_some]
  exact hw _ (List.getLast_mem hne)

theorem word_begins (hne : word ≠ []) (hw : ∀ c ∈ word, Text.isWordChar c = true) :
    beginsWithWord word = true := by
  rw [beginsWithWord, List.head?_eq_some_head hne, Option.any_some]
  exact hw _ (List.head_mem hne)

/-- A keyword is marked where no other word character stands next to it. -/
theorem isMarkable_keyword {before part after : List Char} :
    IsMarkable .keyword before part after ↔
      isKeyword part = true ∧ endsInWord before = false ∧ beginsWithWord after = false := by
  rw [isKeyword_iff]
  have hbounds : ∀ word ∈ keywords, (IsBoundary before (word.toList ++ after) ↔
      endsInWord before = false) ∧ (IsBoundary (before ++ word.toList) after ↔
        beginsWithWord after = false) := by
    intro word hw
    obtain ⟨hne, hall⟩ := keywords_word word hw
    rw [List.all_eq_true] at hall
    rw [IsBoundary, IsBoundary, beginsWithWord_append hne, word_begins hne hall,
      endsInWord_append hne, word_ends hne hall]
    constructor
    · cases endsInWord before <;> decide
    · cases beginsWithWord after <;> decide
  constructor
  · intro h
    cases h with
    | @keyword _ _ word listed begins ends =>
      obtain ⟨hb, he⟩ := hbounds word listed
      exact ⟨⟨word, listed, rfl⟩, hb.mp begins, he.mp ends⟩
  · rintro ⟨⟨word, listed, rfl⟩, hb, he⟩
    obtain ⟨hbegins, hends⟩ := hbounds word listed
    exact .keyword listed (hbegins.mpr hb) (hends.mpr he)

theorem isMarkable_brackets {before part after : List Char} :
    IsMarkable .brackets before part after ↔ part = ['[', ']'] := by
  constructor
  · intro h
    cases h
    rfl
  · rintro rfl
    exact .brackets

theorem isMarkable_bar {before part after : List Char} :
    IsMarkable .bar before part after ↔ part = ['|'] := by
  constructor
  · intro h
    cases h
    rfl
  · rintro rfl
    exact .bar

theorem IsMarkable.ne_nil {m : Mark} {before part after : List Char}
    (h : IsMarkable m before part after) : part ≠ [] := by
  cases h with
  | keyword listed => exact (keywords_word _ listed).1
  | brackets => exact List.cons_ne_nil _ _
  | bar => exact List.cons_ne_nil _ _

end Words

section Parting

/-- Neither a word nor a pair of brackets goes over the border of the two texts. -/
structure Parted (xs ys : List Char) : Prop where
  word : endsInWord xs = false ∨ beginsWithWord ys = false
  brackets : ¬ (xs.getLast? = some '[' ∧ ys.head? = some ']')

variable {xs ys before part after : List Char} {m : Mark}

theorem Parted.not_across (hp : Parted xs ys) {front back : List Char} (hf : front ≠ [])
    (hb : back ≠ []) (hx : front <:+ xs) (hy : back <+: ys) :
    ¬ IsMarkable m before (front ++ back) after := by
  obtain ⟨start, rfl⟩ := hx
  obtain ⟨rest, rfl⟩ := hy
  have hfl : 0 < front.length := List.length_pos_iff.mpr hf
  have hbl : 0 < back.length := List.length_pos_iff.mpr hb
  intro h
  generalize hpart : front ++ back = part at h
  have hlength : front.length + back.length = part.length := by rw [← hpart, List.length_append]
  cases h with
  | @keyword _ _ word listed =>
    have hall := (keywords_word word listed).2
    rw [← hpart, List.all_append, Bool.and_eq_true, List.all_eq_true, List.all_eq_true] at hall
    rcases hp.word with hw | hw
    · rw [endsInWord_append hf, word_ends hf hall.1] at hw
      cases hw
    · rw [beginsWithWord_append hb, word_begins hb hall.2] at hw
      cases hw
  | brackets =>
    have hfront : front.length = ['['].length := by
      simp only [List.length_cons, List.length_nil] at hlength ⊢
      omega
    obtain ⟨rfl, rfl⟩ : front = ['['] ∧ back = [']'] := List.append_inj hpart hfront
    exact hp.brackets ⟨by simp, rfl⟩
  | bar =>
    rw [List.length_singleton] at hlength
    omega

theorem Parted.isMarkable_right (hp : Parted xs (before ++ (part ++ after))) :
    IsMarkable m (xs ++ before) part after ↔ IsMarkable m before part after := by
  cases m with
  | brackets => rw [isMarkable_brackets, isMarkable_brackets]
  | bar => rw [isMarkable_bar, isMarkable_bar]
  | keyword =>
    rw [isMarkable_keyword, isMarkable_keyword]
    refine and_congr_right fun hk => and_congr_left fun _ => ?_
    by_cases hb : before = []
    · subst hb
      obtain ⟨word, listed, rfl⟩ := isKeyword_iff.mp hk
      obtain ⟨hne, hall⟩ := keywords_word word listed
      rw [List.all_eq_true] at hall
      have hw := hp.word
      rw [List.nil_append, beginsWithWord_append hne, word_begins hne hall] at hw
      simpa [endsInWord] using hw
    · rw [endsInWord_append hb]

theorem Parted.isMarkable_left (hp : Parted (before ++ (part ++ after)) ys) :
    IsMarkable m before part (after ++ ys) ↔ IsMarkable m before part after := by
  cases m with
  | brackets => rw [isMarkable_brackets, isMarkable_brackets]
  | bar => rw [isMarkable_bar, isMarkable_bar]
  | keyword =>
    rw [isMarkable_keyword, isMarkable_keyword]
    refine and_congr_right fun hk => and_congr_right fun _ => ?_
    by_cases ha : after = []
    · subst ha
      obtain ⟨word, listed, rfl⟩ := isKeyword_iff.mp hk
      obtain ⟨hne, hall⟩ := keywords_word word listed
      rw [List.all_eq_true] at hall
      have hw := hp.word
      rw [List.append_nil, endsInWord_append hne, word_ends hne hall] at hw
      simpa [beginsWithWord] using hw
    · rw [beginsWithWord_append ha]

theorem contents_append (a b : List Run) : contents (a ++ b) = contents a ++ contents b :=
  List.flatMap_append

theorem marked_append {a b : List Run} : Marked (a ++ b) m before part after ↔
    (∃ rest, after = rest ++ contents b ∧ Marked a m before part rest) ∨
      ∃ rest, before = contents a ++ rest ∧ Marked b m rest part after := by
  constructor
  · rintro ⟨front, back, he, rfl, rfl⟩
    rcases List.append_eq_append_iff.mp he with ⟨rest, rfl, hb⟩ | ⟨rest, ha, hback⟩
    · exact Or.inr ⟨contents rest, contents_append _ _, rest, back, hb, rfl, rfl⟩
    · cases rest with
      | nil =>
        refine Or.inr ⟨[], ?_, [], back, hback.symm, rfl, rfl⟩
        rw [ha, List.append_nil, List.append_nil]
      | cons r rest =>
        obtain ⟨rfl, rfl⟩ := List.cons.inj hback
        exact Or.inl ⟨contents rest, contents_append _ _, front, rest, ha, rfl, rfl⟩
  · rintro (⟨_, rfl, front, back, rfl, rfl, rfl⟩ | ⟨_, rfl, front, back, rfl, rfl, rfl⟩)
    · exact ⟨front, back ++ b, by simp, rfl, contents_append _ _⟩
    · exact ⟨a ++ front, back, by simp, contents_append _ _, rfl⟩

theorem agrees_nil : Agrees [] := by
  intro m before part after
  constructor
  · rintro ⟨front, back, he, -⟩
    cases front <;> cases he
  · rintro ⟨he, hm⟩
    have hpart : part = [] := (List.append_eq_nil_iff.mp (List.append_eq_nil_iff.mp he.symm).2).1
    exact absurd hpart hm.ne_nil

theorem Agrees.append {a b : List Run} (ha : Agrees a) (hb : Agrees b)
    (hp : Parted (contents a) (contents b)) : Agrees (a ++ b) := by
  intro m before part after
  rw [marked_append, contents_append]
  constructor
  · rintro (⟨rest, rfl, hm⟩ | ⟨rest, rfl, hm⟩)
    · obtain ⟨he, hm⟩ := (ha m before part rest).mp hm
      rw [he] at hp ⊢
      exact ⟨by simp, hp.isMarkable_left.mpr hm⟩
    · obtain ⟨he, hm⟩ := (hb m rest part after).mp hm
      rw [he] at hp ⊢
      exact ⟨by simp, hp.isMarkable_right.mpr hm⟩
  · rintro ⟨he, hm⟩
    rcases List.append_eq_append_iff.mp he with ⟨rest, rfl, hys⟩ | ⟨front, hxs, hrest⟩
    · rw [hys] at hp
      exact Or.inr ⟨rest, rfl, (hb m rest part after).mpr ⟨hys, hp.isMarkable_right.mp hm⟩⟩
    · rcases List.append_eq_append_iff.mp hrest with ⟨rest, rfl, rfl⟩ | ⟨back, rfl, hys⟩
      · rw [hxs] at hp
        exact Or.inl ⟨rest, rfl, (ha m before part rest).mpr ⟨hxs, hp.isMarkable_left.mp hm⟩⟩
      · by_cases hf : front = []
        · subst hf
          rw [List.append_nil] at hxs
          refine Or.inr ⟨[], by rw [hxs, List.append_nil], (hb m [] back after).mpr ⟨hys, ?_⟩⟩
          rw [hxs, hys] at hp
          refine hp.isMarkable_right.mp ?_
          rwa [List.append_nil]
        · by_cases hback : back = []
          · subst hback
            rw [List.append_nil] at hm ⊢
            refine Or.inl ⟨[], hys.symm, (ha m before front []).mpr ⟨by simpa using hxs, ?_⟩⟩
            rw [hxs, hys] at hp
            have hedge : Parted (before ++ (front ++ [])) after := by rwa [List.append_nil]
            exact hedge.isMarkable_left.mp hm
          · have hfront : front <:+ contents a := ⟨before, hxs.symm⟩
            have hrest : back <+: contents b := ⟨after, hys.symm⟩
            exact absurd hm (hp.not_across hf hback hfront hrest)

end Parting

section Single

theorem contents_plain (cs : List Char) : contents (cs.map .plain) = cs := by
  induction cs with
  | nil => rfl
  | cons c cs ih => exact congrArg (c :: ·) ih

theorem not_marked_plain {cs : List Char} {m : Mark} {before part after : List Char} :
    ¬ Marked (cs.map .plain) m before part after := by
  rintro ⟨front, back, he, -⟩
  have hm : Run.marked m part ∈ cs.map Run.plain := by
    rw [he]
    simp
  obtain ⟨c, -, hc⟩ := List.mem_map.mp hm
  cases hc

/-- In a mark that stands alone nothing else is to be marked. -/
theorem agrees_marked {m : Mark} {cs : List Char}
    (h : ∀ n before part after, cs = before ++ (part ++ after) →
      (IsMarkable n before part after ↔ n = m ∧ before = [] ∧ after = [])) :
    Agrees [.marked m cs] := by
  intro n before part after
  have hcontents : contents [.marked m cs] = cs := List.append_nil cs
  rw [hcontents]
  constructor
  · rintro ⟨front, back, hf, rfl, rfl⟩
    cases front with
    | nil =>
      obtain ⟨hm, rfl⟩ := List.cons.inj hf
      obtain ⟨rfl, rfl⟩ := Run.marked.inj hm
      have he : cs = [] ++ (cs ++ []) := (List.append_nil cs).symm
      exact ⟨he, (h m [] cs [] he).mpr ⟨rfl, rfl, rfl⟩⟩
    | cons r front =>
      obtain ⟨-, hf⟩ := List.cons.inj hf
      simp at hf
  · rintro ⟨he, hn⟩
    obtain ⟨rfl, rfl, rfl⟩ := (h n before part after he).mp hn
    rw [List.nil_append, List.append_nil] at he
    exact ⟨[], [], by rw [he]; rfl, rfl, rfl⟩

theorem agrees_plain {cs : List Char}
    (h : ∀ n before part after, cs = before ++ (part ++ after) → ¬ IsMarkable n before part after) :
    Agrees (cs.map .plain) := by
  intro n before part after
  rw [contents_plain]
  refine iff_of_false not_marked_plain ?_
  rintro ⟨he, hn⟩
  exact h n before part after he hn

end Single

/-- A text of word characters is marked as a whole or not at all. -/
theorem isMarkable_word {word before part after : List Char} {m : Mark}
    (hw : ∀ c ∈ word, Text.isWordChar c = true) (he : word = before ++ (part ++ after)) :
    IsMarkable m before part after ↔
      m = .keyword ∧ before = [] ∧ after = [] ∧ isKeyword word = true := by
  have hbefore : ∀ c ∈ before, Text.isWordChar c = true := fun c hc => hw c (by simp [he, hc])
  have hpart : ∀ c ∈ part, Text.isWordChar c = true := fun c hc => hw c (by simp [he, hc])
  have hafter : ∀ c ∈ after, Text.isWordChar c = true := fun c hc => hw c (by simp [he, hc])
  cases m with
  | brackets =>
    refine iff_of_false ?_ (by simp)
    intro h
    cases h
    exact absurd (hpart '[' (by simp)) (by decide)
  | bar =>
    refine iff_of_false ?_ (by simp)
    intro h
    cases h
    exact absurd (hpart '|' (by simp)) (by decide)
  | keyword =>
    rw [isMarkable_keyword]
    constructor
    · rintro ⟨hk, hb, ha⟩
      have hbn : before = [] := by
        by_contra hne
        rw [word_ends hne hbefore] at hb
        cases hb
      have han : after = [] := by
        by_contra hne
        rw [word_begins hne hafter] at ha
        cases ha
      subst hbn han
      rw [List.nil_append, List.append_nil] at he
      exact ⟨rfl, rfl, rfl, he ▸ hk⟩
    · rintro ⟨-, rfl, rfl, hk⟩
      rw [List.nil_append, List.append_nil] at he
      exact ⟨he ▸ hk, rfl, rfl⟩

section Signs

variable {cs before part after : List Char}

theorem not_keyword (hn : cs.any Text.isWordChar = false) (hp : part <:+: cs) :
    ¬ IsMarkable .keyword before part after := by
  intro h
  obtain ⟨c, rest, rfl⟩ := List.exists_cons_of_ne_nil h.ne_nil
  obtain ⟨word, listed, he⟩ := isKeyword_iff.mp (isMarkable_keyword.mp h).1
  have hw := (keywords_word word listed).2
  rw [he, List.all_cons, Bool.and_eq_true] at hw
  exact List.any_eq_false.mp hn c (hp.subset List.mem_cons_self) hw.1

/-- A sign in a mark of its own, in which nothing else is to be marked. -/
theorem agrees_sign {m : Mark}
    (hm : ∀ before part after, IsMarkable m before part after ↔ part = cs)
    (ho : ∀ n ≠ m, ∀ before part after, part <:+: cs → ¬ IsMarkable n before part after) :
    Agrees [.marked m cs] := by
  apply agrees_marked
  intro n before part after he
  by_cases hn : n = m
  · subst hn
    rw [hm]
    constructor
    · rintro rfl
      have hl := congrArg List.length he
      simp only [List.length_append] at hl
      exact ⟨rfl, List.length_eq_zero_iff.mp (by omega), List.length_eq_zero_iff.mp (by omega)⟩
    · rintro ⟨-, rfl, rfl⟩
      simpa using he.symm
  · have hp : part <:+: cs := ⟨before, after, by rw [he, List.append_assoc]⟩
    exact iff_of_false (ho n hn before part after hp) fun h => hn h.1

theorem agrees_brackets : Agrees [.marked .brackets ['[', ']']] := by
  refine agrees_sign (fun _ _ _ => isMarkable_brackets) ?_
  intro n hn before part after hp
  cases n with
  | keyword => exact not_keyword (by decide) hp
  | brackets => exact absurd rfl hn
  | bar =>
    rw [isMarkable_bar]
    rintro rfl
    exact absurd (hp.subset (List.mem_singleton_self '|')) (by decide)

theorem agrees_bar : Agrees [.marked .bar ['|']] := by
  refine agrees_sign (fun _ _ _ => isMarkable_bar) ?_
  intro n hn before part after hp
  cases n with
  | keyword => exact not_keyword (by decide) hp
  | bar => exact absurd rfl hn
  | brackets =>
    rw [isMarkable_brackets]
    rintro rfl
    exact absurd hp.length_le (by decide)

end Signs

section Deleting

theorem split_tag {cs : List Char} (h : '>' ∉ cs) (rest : List Char) :
    split ((Piece.tag cs).write ++ rest) = .tag cs :: split rest := by
  show splitFrom none ('<' :: (cs ++ ['>'] ++ rest)) = _
  rw [splitFrom, if_pos rfl, List.append_assoc, List.singleton_append, splitFrom_tag h]
  rfl

/-- A tag is deleted wherever it stands, and nothing else is. -/
theorem replaceAll_tag {tag : List Char} (ht : '>' ∉ tag) {ps : List Piece}
    (h : ∀ p ∈ ps, p.Expected) :
    Text.replaceAll (Piece.tag tag).write [] (ps.flatMap Piece.write) =
      (ps.filter fun p => p ≠ .tag tag).flatMap Piece.write := by
  induction ps with
  | nil => rfl
  | cons p ps ih =>
    rw [List.forall_mem_cons] at h
    have hrest := ih h.2
    rw [List.flatMap_cons]
    cases p with
    | char c =>
      have hc : '<' ∉ [c] := fun hm => h.1.1 (List.mem_singleton.mp hm).symm
      rw [List.filter_cons_of_pos (by simp), List.flatMap_cons, ← hrest]
      exact Text.replaceAll_free hc [] _
    | tag cs =>
      by_cases he : cs = tag
      · subst he
        rw [List.filter_cons_of_neg (by simp), ← hrest]
        exact Text.replaceAll_here '<' (cs ++ ['>']) [] _
      · have hother : ¬ (Piece.tag tag).write.isPrefixOf
            ((Piece.tag cs).write ++ ps.flatMap Piece.write) = true := by
          rw [List.isPrefixOf_iff_prefix]
          rintro ⟨rest, hr⟩
          have hs := congrArg split hr
          rw [split_tag ht, split_tag (IsTemplate.free h.1 (Or.inr rfl))] at hs
          exact he (Piece.tag.inj (List.cons.inj hs).1).symm
        have hopen : '<' ∉ cs ++ ['>'] := by
          have hn : '<' ∉ cs := IsTemplate.free h.1 (Or.inl rfl)
          simp [hn]
        have hstep : Text.replaceAll (Piece.tag tag).write []
            ((Piece.tag cs).write ++ ps.flatMap Piece.write) =
              '<' :: Text.replaceAll (Piece.tag tag).write []
                (cs ++ ['>'] ++ ps.flatMap Piece.write) := if_neg hother
        rw [List.filter_cons_of_pos (by simp [he]), List.flatMap_cons, ← hrest, hstep]
        exact congrArg ('<' :: ·) (Text.replaceAll_free hopen [] _)

theorem foldl_replaceAll {tags : List (List Char)} (ht : ∀ tag ∈ tags, '>' ∉ tag) {ps : List Piece}
    (h : ∀ p ∈ ps, p.Expected) :
    tags.foldl (fun cs tag => Text.replaceAll (Piece.tag tag).write [] cs) (ps.flatMap Piece.write) =
      (ps.filter fun p => tags.all fun tag => p ≠ .tag tag).flatMap Piece.write := by
  induction tags generalizing ps with
  | nil => simp
  | cons tag tags ih =>
    rw [List.forall_mem_cons] at ht
    rw [List.foldl_cons, replaceAll_tag ht.1 h, ih ht.2 fun p hp => h p (List.mem_of_mem_filter hp),
      List.filter_filter]
    simp only [List.all_cons, Bool.and_comm]

def markTags : List (List Char) := [Mark.keyword.tag, Mark.brackets.tag, Mark.bar.tag, endMark]

def markTexts : List String :=
  ["<span class=\"sb-kw\">", "<span class=\"sb-arr\">", "<span class=\"sb-union\">", "</span>"]

def withoutMarks (cs : List Char) : List Char :=
  markTexts.foldl (fun cs tag => Text.replaceAll tag.toList [] cs) cs

theorem withoutMarks_eq (cs : List Char) : withoutMarks cs =
    markTags.foldl (fun cs tag => Text.replaceAll (Piece.tag tag).write [] cs) cs := by
  have htags : markTexts.map String.toList = markTags.map fun tag => (Piece.tag tag).write := by
    decide +kernel
  calc withoutMarks cs
    _ = (markTexts.map String.toList).foldl (fun cs tag => Text.replaceAll tag [] cs) cs := by
      rw [List.foldl_map]
      rfl
    _ = (markTags.map fun tag => (Piece.tag tag).write).foldl
        (fun cs tag => Text.replaceAll tag [] cs) cs := by rw [htags]
    _ = _ := List.foldl_map

theorem filter_runs (runs : List Run) :
    ((runs.flatMap Run.pieces).filter fun p => markTags.all fun tag => p ≠ .tag tag) =
      (contents runs).map .char := by
  induction runs with
  | nil => rfl
  | cons r rest ih =>
    have hrun : (r.pieces.filter fun p => markTags.all fun tag => p ≠ .tag tag) =
        r.content.map .char := by
      cases r with
      | plain c => rfl
      | marked m cs =>
        have hbegin : m.tag ∈ markTags := by cases m <;> decide
        have hend : endMark ∈ markTags := by decide
        simp [Run.pieces, Run.content, List.filter_append, hbegin, hend]
    rw [List.flatMap_cons, List.filter_append, hrun, ih, ← List.map_append]
    rfl

/-- Without the tags there is left what the marks stand around. -/
theorem withoutMarks_runs {runs : List Run} (h : ∀ p ∈ runs.flatMap Run.pieces, p.Expected) :
    withoutMarks ((runs.flatMap Run.pieces).flatMap Piece.write) = contents runs := by
  rw [withoutMarks_eq, foldl_replaceAll (by decide) h, filter_runs, write_chars]

end Deleting

end SampleTypes.Documentation
