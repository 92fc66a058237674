import SampleTypes.Console.Markup
import SampleTypes.Proofs.Basic
import SampleTypes.Proofs.Text.Replacement

/-!
Markup around texts. Of texts in styles with other texts between them the console shows just the
texts, as long as none of them has markup of its own: a tag, a backslash that makes a bracket plain,
or the name of a picture. Brackets that belong to no tag are shown like any other character.
-/

namespace SampleTypes.Console

def isInside (c : Char) : Bool := c != ']' && c != '['

def hasTag : List Char → Bool
  | [] => false
  | c :: cs => (c = '[' && (tagInside? cs).isSome) || hasTag cs

def IsTag (cs : List Char) : Prop :=
  ∃ c rest, cs = c :: rest ∧ startsTag c = true ∧ ∀ d ∈ rest, isInside d = true

theorem drop_takeWhile (cs : List Char) :
    cs.drop (cs.takeWhile isInside).length = cs.dropWhile isInside := by
  have h : cs = cs.takeWhile isInside ++ cs.dropWhile isInside := by simp
  exact (congrArg (List.drop _) h).trans List.drop_left

theorem tagInside_cons {c : Char} (hc : startsTag c = true) (cs : List Char) :
    tagInside? (c :: cs) =
      if (cs.dropWhile isInside).head? = some ']' then some (c :: cs.takeWhile isInside) else none := by
  rw [← drop_takeWhile]
  simp only [tagInside?, hc, if_true]
  rfl

theorem IsTag.tagInside {cs : List Char} (h : IsTag cs) (rest : List Char) :
    tagInside? (cs ++ ']' :: rest) = some cs := by
  obtain ⟨c, inner, rfl, hc, hi⟩ := h
  have ht : (inner ++ ']' :: rest).takeWhile isInside = inner := by
    rw [List.takeWhile_append_of_pos hi]
    exact List.append_nil inner
  have hd : (inner ++ ']' :: rest).dropWhile isInside = ']' :: rest :=
    List.dropWhile_append_of_pos hi
  rw [List.cons_append, tagInside_cons hc, ht, hd]
  rfl

theorem tagInside_before {cs : List Char} (h : tagInside? cs = none) (rest : List Char) :
    tagInside? (cs ++ '[' :: rest) = none := by
  cases cs with
  | nil => rfl
  | cons c cs =>
    cases hc : startsTag c with
    | false => simp [tagInside?, hc]
    | true =>
      rw [tagInside_cons hc] at h
      rw [List.cons_append, tagInside_cons hc, List.dropWhile_append]
      cases hd : cs.dropWhile isInside with
      | nil => rfl
      | cons d more =>
        rw [hd] at h
        exact if_neg fun he => by simp_all

section

variable {cs : List Char} (before rest : List Char)

/-- A text without tags is read as plain characters, up to the bracket of the next tag. -/
theorem piecesFrom_untagged (h : hasTag cs = false) :
    piecesFrom 0 before (cs ++ '[' :: rest) = piecesFrom 0 (cs.reverse ++ before) ('[' :: rest) := by
  induction cs generalizing before with
  | nil => rfl
  | cons c cs ih =>
    simp only [hasTag, Bool.or_eq_false_iff] at h
    have hn : (if c = '[' then tagInside? (cs ++ '[' :: rest) else none) = none := by
      by_cases hc : c = '['
      · rw [if_pos hc]
        exact tagInside_before (by simpa [hc] using h.1) rest
      · rw [if_neg hc]
    rw [List.cons_append, piecesFrom, hn]
    exact (ih (c :: before) h.2).trans (by simp)

theorem piecesFrom_free (h : '[' ∉ cs) :
    piecesFrom 0 before (cs ++ rest) = piecesFrom 0 (cs.reverse ++ before) rest := by
  induction cs generalizing before with
  | nil => rfl
  | cons c cs ih =>
    rw [List.mem_cons, not_or] at h
    rw [List.cons_append, piecesFrom, if_neg (Ne.symm h.1)]
    exact (ih (c :: before) h.2).trans (by simp)

theorem piecesFrom_untagged_end (h : hasTag cs = false) :
    piecesFrom 0 before cs = [plainPiece (before.reverse ++ cs)] := by
  induction cs generalizing before with
  | nil => simp [piecesFrom]
  | cons c cs ih =>
    simp only [hasTag, Bool.or_eq_false_iff] at h
    have hn : (if c = '[' then tagInside? cs else none) = none := by
      by_cases hc : c = '['
      · rw [if_pos hc]
        simpa [hc] using h.1
      · rw [if_neg hc]
    rw [piecesFrom, hn]
    exact (ih (c :: before) h.2).trans (by simp)

theorem piecesFrom_skip (skipped : List Char) :
    piecesFrom skipped.length before (skipped ++ rest) = piecesFrom 0 before rest := by
  induction skipped with
  | nil => rfl
  | cons c skipped ih => exact ih

theorem piecesFrom_tag (h : IsTag cs) :
    piecesFrom 0 before ('[' :: (cs ++ ']' :: rest)) =
      tagPieces before cs ++ piecesFrom 0 [] rest := by
  rw [piecesFrom, if_pos rfl, h.tagInside]
  have hs := piecesFrom_skip [] rest (cs ++ [']'])
  rw [List.length_append, List.length_singleton, List.append_assoc] at hs
  exact congrArg (tagPieces before cs ++ ·) hs

end

theorem hasTag_free {cs : List Char} (h : '[' ∉ cs) : hasTag cs = false := by
  induction cs with
  | nil => rfl
  | cons c cs ih =>
    rw [List.mem_cons, not_or] at h
    simp [hasTag, Ne.symm h.1, ih h.2]

theorem hasTag_append {cs : List Char} (h : hasTag cs = false) (rest : List Char) :
    hasTag (cs ++ '[' :: rest) = hasTag ('[' :: rest) := by
  induction cs with
  | nil => rfl
  | cons c cs ih =>
    simp only [hasTag, Bool.or_eq_false_iff] at h
    have hc : (c = '[' && (tagInside? (cs ++ '[' :: rest)).isSome) = false := by
      by_cases hb : c = '['
      · have hn : tagInside? cs = none := by simpa [hb] using h.1
        simp [tagInside_before hn]
      · simp [hb]
    rw [List.cons_append, hasTag, hc, ih h.2, Bool.false_or]

theorem withPictures_append {cs : List Char} (h : ':' ∉ cs) (rest : List Char) :
    withPictures (cs ++ rest) = cs ++ withPictures rest := by
  induction cs with
  | nil => rfl
  | cons c cs ih =>
    rw [List.mem_cons, not_or] at h
    rw [withPictures, List.cons_append, withPicturesFrom, if_neg (Ne.symm h.1)]
    exact congrArg (c :: ·) (ih h.2)

theorem withPictures_free {cs : List Char} (h : ':' ∉ cs) : withPictures cs = cs := by
  have hp := withPictures_append h []
  rwa [List.append_nil, show withPictures [] = [] from rfl, List.append_nil] at hp

theorem unstripped_of_all {cs : List Char} (h : (cs.all fun c => !isStripped c) = true) :
    ∀ c ∈ cs, isStripped c = false :=
  fun c hc => (Bool.not_eq_true' _).mp (List.all_eq_true.mp h c hc)

structure Verbatim (cs : List Char) : Prop where
  untagged : hasTag cs = false
  unescaped : ¬ ['\\', '['] <:+: cs
  unpictured : withPictures cs = cs
  unslashed : cs.getLast? ≠ some '\\'

theorem Verbatim.of_free {cs : List Char} (hb : hasTag cs = false) (hc : ':' ∉ cs) (hs : '\\' ∉ cs) :
    Verbatim cs where
  untagged := hb
  unescaped h := hs (h.subset List.mem_cons_self)
  unpictured := withPictures_free hc
  unslashed h := hs (List.mem_of_getLast? h)

theorem Verbatim.plainPiece {cs : List Char} (h : Verbatim cs) : plainPiece cs = .text cs := by
  rw [Console.plainPiece, Text.replaceAll_none h.unescaped, h.unpictured]

/-- A tag after characters that do not end in a backslash is no plain text. -/
theorem Verbatim.tagPieces {cs : List Char} (h : Verbatim cs) (inside : List Char) :
    tagPieces cs.reverse inside = [.text cs, .text [], .tag (.ofInside inside)] := by
  have hn : cs.reverse.takeWhile (· = '\\') = [] := by
    have hl : cs.reverse.head? ≠ some '\\' := List.head?_reverse ▸ h.unslashed
    cases hr : cs.reverse with
    | nil => rfl
    | cons c rest =>
      rw [hr] at hl
      exact List.takeWhile_cons_of_neg (by simpa using hl)
  simp [Console.tagPieces, hn, h.plainPiece]

structure IsStyle (style : List Char) : Prop where
  tag : IsTag style
  opening : style.head? ≠ some '/'
  bare : '=' ∉ style
  known : ∃ name, normalName style = .ok name

theorem IsStyle.of_check {c : Char} {cs : List Char}
    (ht : (startsTag c && cs.all isInside) = true) (ho : (c != '/' && (c :: cs).all (· != '=')) = true)
    (hk : (normalName (c :: cs)).toOption.isSome = true) : IsStyle (c :: cs) where
  tag := by
    rw [Bool.and_eq_true, List.all_eq_true] at ht
    exact ⟨c, cs, rfl, ht⟩
  opening he := by
    obtain rfl := Option.some.inj he
    exact absurd ho Bool.false_ne_true
  bare hm := by
    rw [Bool.and_eq_true, List.all_eq_true] at ho
    exact absurd (ho.2 _ hm) Bool.false_ne_true
  known := (Option.isSome_iff_exists.mp hk).imp fun _ h => ok_of_toOption h

structure Span where
  style : List Char
  inside : List Char
  after : List Char

namespace Span

def text (s : Span) : List Char :=
  '[' :: (s.style ++ ']' :: (s.inside ++ '[' :: '/' :: ']' :: s.after))

def shown (s : Span) : List Char := s.inside ++ s.after

structure Sound (s : Span) : Prop where
  style : IsStyle s.style
  inside : Verbatim s.inside
  after : Verbatim s.after

end Span

theorem ofInside_bare {cs : List Char} (h : '=' ∉ cs) : Tag.ofInside cs = ⟨cs, none⟩ := by
  have hp : ∀ c ∈ cs, (c != '=') = true := fun c hc => bne_iff_ne.mpr fun he => h (he ▸ hc)
  have ht : cs.takeWhile (· != '=') = cs := by
    have h : (cs ++ []).takeWhile (· != '=') = cs ++ [] := List.takeWhile_append_of_pos hp
    simpa using h
  simp [Tag.ofInside, ht]

theorem plainFrom_text (opened : List OpenTag) (cs : List Char) (rest : List Piece) :
    plainFrom opened (.text cs :: rest) =
      (plainFrom opened rest).map fun p => { p with text := cs ++ p.text } := rfl

theorem plainFrom_opening {style : List Char} (hs : IsStyle style) {name : String}
    (hn : normalName style = .ok name) (opened : List OpenTag) (rest : List Piece) :
    plainFrom opened (.tag (.ofInside style) :: rest) =
      (plainFrom (⟨name, none⟩ :: opened) rest).map fun p => { p with tags := ⟨name, none⟩ :: p.tags } := by
  rw [ofInside_bare hs.bare, plainFrom]
  split
  · rename_i hc
    exact absurd (congrArg List.head? hc) hs.opening
  · rw [hn]
    rfl

theorem plainFrom_closing {top : OpenTag} (h : top.parameters = none) (opened : List OpenTag)
    (rest : List Piece) :
    plainFrom (top :: opened) (.tag (.ofInside ['/']) :: rest) = plainFrom opened rest := by
  have hc : top.checkCarried = .ok () := by rw [OpenTag.checkCarried, h]
  have ht : closeTag [] (top :: opened) = .ok (top, opened) := rfl
  show (closeTag [] (top :: opened) >>= fun r => r.1.checkCarried >>= fun _ => plainFrom r.2 rest) = _
  rw [ht]
  show (top.checkCarried >>= fun _ => plainFrom opened rest) = _
  rw [hc]
  rfl

theorem isTag_slash : IsTag ['/'] := ⟨'/', [], rfl, rfl, nofun⟩

/-- What is left of texts in styles are the texts; the tags have no parameters. -/
theorem plainFrom_spans {lead : List Char} (hl : Verbatim lead) {spans : List Span}
    (hs : ∀ s ∈ spans, s.Sound) :
    ∃ tags, plainFrom [] (piecesFrom 0 [] (lead ++ spans.flatMap Span.text)) =
        .ok ⟨lead ++ spans.flatMap Span.shown, tags⟩ ∧ ∀ t ∈ tags, t.parameters = none := by
  induction spans generalizing lead with
  | nil =>
    refine ⟨[], ?_, nofun⟩
    have hp := piecesFrom_untagged_end [] hl.untagged
    simp only [List.flatMap_nil, List.append_nil, hp, List.reverse_nil, List.nil_append,
      hl.plainPiece]
    simp [plainFrom, Except.map]
  | cons s spans ih =>
    obtain ⟨hsound, hrest⟩ := List.forall_mem_cons.mp hs
    obtain ⟨tags, ht, hn⟩ := ih hsound.after hrest
    obtain ⟨name, hname⟩ := hsound.style.known
    refine ⟨⟨name, none⟩ :: tags, ?_, List.forall_mem_cons.mpr ⟨rfl, hn⟩⟩
    have hp : piecesFrom 0 [] (lead ++ (s :: spans).flatMap Span.text) =
        .text lead :: .text [] :: .tag (.ofInside s.style) :: .text s.inside :: .text [] ::
          .tag (.ofInside ['/']) :: piecesFrom 0 [] (s.after ++ spans.flatMap Span.text) := by
      simp only [List.flatMap_cons, Span.text, List.cons_append, List.append_assoc]
      rw [piecesFrom_untagged _ _ hl.untagged, piecesFrom_tag _ _ hsound.style.tag,
        piecesFrom_untagged _ _ hsound.inside.untagged]
      have hclose := piecesFrom_tag (s.inside.reverse ++ [])
        (s.after ++ spans.flatMap Span.text) isTag_slash
      rw [List.singleton_append] at hclose
      rw [hclose, List.append_nil, List.append_nil, hl.tagPieces, hsound.inside.tagPieces]
      rfl
    rw [hp]
    simp only [plainFrom_text, plainFrom_opening hsound.style hname, plainFrom_closing, ht, Except.map]
    simp [Span.shown]

theorem plainText_spans {lead : List Char} (hl : Verbatim lead) {spans : List Span}
    (hs : ∀ s ∈ spans, s.Sound) (text : String)
    (ht : text.toList = lead ++ spans.flatMap Span.text) :
    plainText text = .ok ((lead ++ spans.flatMap Span.shown).filter fun c => !isStripped c) := by
  obtain ⟨tags, hp, hn⟩ := plainFrom_spans hl hs
  have hc : tags.forM OpenTag.checkStyle = .ok () :=
    forM_eq_ok.mpr fun t ht => by rw [OpenTag.checkStyle, hn t ht]
  rw [plainText, pieces, ht, hp]
  show (tags.forM OpenTag.checkStyle >>= fun _ => _) = _
  rw [hc]
  rfl

/-! Texts that begin with a lead, whatever follows it. -/

structure IsLead (lead : List Char) : Prop where
  noColon : ':' ∉ lead
  noSlash : '\\' ∉ lead
  noBracket : '[' ∉ lead
  shown : ∀ c ∈ lead, isStripped c = false
  ne_nil : lead ≠ []

section

variable {lead : List Char} (h : IsLead lead)
include h

theorem IsLead.plainPiece (before : List Char) :
    ∃ more, Console.plainPiece (before ++ lead.reverse).reverse = .text (lead ++ more) := by
  rw [List.reverse_append, List.reverse_reverse, Console.plainPiece, Text.replaceAll_free h.noSlash,
    withPictures_append h.noColon]
  exact ⟨_, rfl⟩

theorem IsLead.tagPieces (before inside : List Char) :
    ∃ more rest, Console.tagPieces (before ++ lead.reverse) inside = .text (lead ++ more) :: rest := by
  obtain ⟨c, front, hf⟩ : ∃ c front, lead.reverse = c :: front :=
    List.exists_cons_of_ne_nil (by simpa using h.ne_nil)
  have hc : (c = '\\') = False :=
    eq_false fun he => h.noSlash (by rw [← List.mem_reverse, hf, he]; exact List.mem_cons_self)
  have hl : ((before ++ lead.reverse).takeWhile (· = '\\')).length ≤ before.length := by
    rw [hf, List.takeWhile_append]
    split
    · simp [hc]
    · exact (List.takeWhile_prefix _).length_le
  obtain ⟨more, hm⟩ := h.plainPiece
    (before.drop ((before ++ lead.reverse).takeWhile (· = '\\')).length)
  rw [← List.drop_append_of_le_length hl] at hm
  rw [Console.tagPieces]
  exact ⟨more, _, congrArg (· :: _) hm⟩

theorem IsLead.piecesFrom (before cs : List Char) :
    ∃ more rest, Console.piecesFrom 0 (before ++ lead.reverse) cs = .text (lead ++ more) :: rest := by
  induction cs generalizing before with
  | nil =>
    obtain ⟨more, hm⟩ := h.plainPiece before
    exact ⟨more, [], by rw [Console.piecesFrom, hm]⟩
  | cons c cs ih =>
    rw [Console.piecesFrom]
    split
    · rename_i inside _
      obtain ⟨more, rest, hm⟩ := h.tagPieces before inside
      rw [hm]
      exact ⟨more, _, rfl⟩
    · exact ih (c :: before)

/-- A lead in a style is what the text begins with, unless there is a fault in the markup. -/
theorem IsLead.plainText {style : List Char} (hs : IsStyle style) {text : String}
    (rest : List Char) {cs : List Char}
    (ht : text.toList = '[' :: (style ++ ']' :: (lead ++ rest)))
    (hp : Console.plainText text = .ok cs) : ∃ more, cs = lead ++ more := by
  have hempty : Verbatim [] := .of_free rfl (by simp) (by simp)
  obtain ⟨more, others, hm⟩ := h.piecesFrom [] rest
  rw [List.nil_append, ← List.append_nil lead.reverse, ← piecesFrom_free _ _ h.noBracket] at hm
  have hpieces : pieces text =
      .text [] :: .text [] :: .tag (.ofInside style) :: .text (lead ++ more) :: others := by
    have htag := hempty.tagPieces style
    rw [List.reverse_nil] at htag
    rw [pieces, ht, piecesFrom_tag _ _ hs.tag, htag, hm]
    rfl
  obtain ⟨name, hname⟩ := hs.known
  simp only [Console.plainText, hpieces, plainFrom_text, plainFrom_opening hs hname, bind_eq_ok,
    map_eq_ok] at hp
  obtain ⟨_, ⟨_, ⟨_, ⟨_, ⟨p, -, rfl⟩, rfl⟩, rfl⟩, rfl⟩, -, -, hc⟩ := hp
  refine ⟨(more ++ p.text).filter fun c => !isStripped c, ?_⟩
  have hl : lead.filter (fun c => !isStripped c) = lead :=
    List.filter_eq_self.mpr fun c hc => by simp [h.shown c hc]
  rw [← Except.ok.inj hc]
  simp [hl]

end

end SampleTypes.Console
