import Mathlib.Tactic.SplitIfs
import SampleTypes.Documentation.Html

/-!
A written page read back. A reader who only knows that `<` begins a tag and `>` ends it cuts a page
into tags and characters. Of a page made of known elements it gets the tags of these elements and no
others, each start tag with its end tag: what stands in texts and attribute values is escaped, so it
neither begins a tag nor ends one.
-/

namespace SampleTypes.Documentation

inductive Piece where
  | char (c : Char)
  | tag (cs : List Char)
  deriving DecidableEq, Repr

def Piece.write : Piece → List Char
  | .char c => [c]
  | .tag cs => '<' :: (cs ++ ['>'])

/-- The pieces of a text of which a tag has been read so far, its last character first, or none. A tag
that does not end is none. -/
def splitFrom : Option (List Char) → List Char → List Piece
  | none, [] => []
  | some read, [] => .char '<' :: read.reverse.map .char
  | none, c :: rest => if c = '<' then splitFrom (some []) rest else .char c :: splitFrom none rest
  | some read, c :: rest =>
    if c = '>' then .tag read.reverse :: splitFrom none rest else splitFrom (some (c :: read)) rest

def split (cs : List Char) : List Piece := splitFrom none cs

theorem write_chars (cs : List Char) : (cs.map Piece.char).flatMap Piece.write = cs := by
  induction cs with
  | nil => rfl
  | cons c cs ih => rw [List.map_cons, List.flatMap_cons, ih]; rfl

example : split "a<b c>&lt;</b>".toList =
    [.char 'a', .tag "b c".toList, .char '&', .char 'l', .char 't', .char ';', .tag "/b".toList] := by
  decide +kernel

theorem splitFrom_tag {cs : List Char} (h : '>' ∉ cs) (read rest : List Char) :
    splitFrom (some read) (cs ++ '>' :: rest) =
      .tag (read.reverse ++ cs) :: splitFrom none rest := by
  induction cs generalizing read with
  | nil => rw [List.nil_append, splitFrom, if_pos rfl, List.append_nil]
  | cons c cs ih =>
    rw [List.mem_cons, not_or] at h
    rw [List.cons_append, splitFrom, if_neg (Ne.symm h.1), ih h.2]
    simp

def Piece.Clean : Piece → Prop
  | .char c => c ≠ '<'
  | .tag cs => '>' ∉ cs

theorem split_write {ps : List Piece} (h : ∀ p ∈ ps, p.Clean) :
    split (ps.flatMap Piece.write) = ps := by
  induction ps with
  | nil => rfl
  | cons p ps ih =>
    have hp : p.Clean := h p List.mem_cons_self
    have hps := ih fun q hq => h q (List.mem_cons_of_mem _ hq)
    rw [List.flatMap_cons]
    cases p with
    | char c =>
      show splitFrom none (c :: ps.flatMap Piece.write) = _
      rw [splitFrom, if_neg hp]
      exact congrArg _ hps
    | tag cs =>
      show splitFrom none ('<' :: (cs ++ ['>'] ++ ps.flatMap Piece.write)) = _
      rw [splitFrom, if_pos rfl, List.append_assoc, List.singleton_append, splitFrom_tag hp]
      exact congrArg _ hps

section Templates

def voidTags : List String := ["!DOCTYPE html", "meta charset=\"utf-8\""]

def rootTag : String := "html lang=\"en\""

def plainTags : List String :=
  ["head", "title", "style", "body", "h1", "h2", "h4", "p", "ul", "li", "code", "pre", "strong",
    "thead", "tbody", "tr", "th", "td"]

def classedTags : List (String × String) :=
  [("nav", "sb-hierarchy"), ("main", "sb-main"), ("div", "sb-type-header"), ("h2", "sb-type-name"),
    ("span", "sb-type-badge interface"), ("span", "sb-type-badge type"),
    ("span", "sb-type-badge enum"), ("div", "sb-type-extends"), ("p", "sb-type-description"),
    ("table", "sb-properties-table"), ("td", "sb-required"), ("td", "sb-optional"),
    ("span", "sb-kw"), ("span", "sb-arr"), ("span", "sb-union"), ("ul", "sb-values-list"),
    ("div", "sb-example")]

def valueTags : List (String × String) :=
  [("a href=\"#", "\" class=\"sb-type-link\""), ("article class=\"sb-type-card\" id=\"", "\"")]

def elementNames : List String :=
  ["html", "a", "article"] ++ plainTags ++ classedTags.map Prod.fst

def Harmless (cs : List Char) : Prop := ∀ c ∈ cs, c ≠ '"' ∧ c ≠ '<' ∧ c ≠ '>'

-- not by way of all characters there are
instance : DecidablePred Harmless := fun cs => List.decidableBAll _ cs

inductive IsTemplate : List Char → Prop where
  | void {tag : String} (h : tag ∈ voidTags) : IsTemplate tag.toList
  | root : IsTemplate rootTag.toList
  | plain {tag : String} (h : tag ∈ plainTags) : IsTemplate tag.toList
  | classed {tag cls : String} (h : (tag, cls) ∈ classedTags) :
      IsTemplate (tag ++ " class=\"" ++ cls ++ "\"").toList
  | around {before after : String} (h : (before, after) ∈ valueTags) {value : List Char}
      (hv : Harmless value) : IsTemplate (before.toList ++ (value ++ after.toList))
  | ending {name : String} (h : name ∈ elementNames) : IsTemplate ('/' :: name.toList)

theorem escapeChar_harmless (c : Char) : Harmless (Html.escapeChar c) := by
  unfold Html.escapeChar
  split_ifs with ha hl hg hq hs
  · decide
  · decide
  · decide
  · decide
  · decide
  · intro d hd
    obtain rfl := List.mem_singleton.mp hd
    exact ⟨hq, hl, hg⟩

theorem escape_harmless (cs : List Char) : Harmless (Html.escape cs) := by
  intro c hc
  obtain ⟨d, -, hd⟩ := List.mem_flatMap.mp hc
  exact escapeChar_harmless d c hd

theorem elementNames_word : ∀ name ∈ elementNames, name.toList.all Char.isAlphanum = true ∧
    name.toList ≠ [] ∧ name ∉ ["!DOCTYPE", "meta"] := by
  decide +kernel

theorem classedTags_escaped : ∀ tag ∈ classedTags, Html.escape tag.2.toList = tag.2.toList := by
  decide +kernel

theorem plainTags_named {tag : String} (h : tag ∈ plainTags) : tag ∈ elementNames :=
  List.mem_append_left _ (List.mem_append_right _ h)

theorem classedTags_named {tag cls : String} (h : (tag, cls) ∈ classedTags) : tag ∈ elementNames :=
  List.mem_append_right _ (List.mem_map_of_mem h)

theorem elementNames_free {name : String} (h : name ∈ elementNames) {c : Char}
    (hc : c.isAlphanum = false) : c ∉ name.toList := by
  intro hm
  have ha := List.all_eq_true.mp (elementNames_word name h).1 c hm
  exact Bool.noConfusion (hc.symm.trans ha)

theorem IsTemplate.free {cs : List Char} (h : IsTemplate cs) {c : Char} (hc : c = '<' ∨ c = '>') :
    c ∉ cs := by
  have notWord : c.isAlphanum = false := by
    rcases hc with rfl | rfl <;> rfl
  have harmless {value : List Char} (hv : Harmless value) : c ∉ value := by
    rcases hc with rfl | rfl
    · exact fun hm => (hv _ hm).2.1 rfl
    · exact fun hm => (hv _ hm).2.2 rfl
  have constant {t : String} (ht : '<' ∉ t.toList ∧ '>' ∉ t.toList) : c ∉ t.toList := by
    rcases hc with rfl | rfl
    · exact ht.1
    · exact ht.2
  cases h with
  | void h =>
    have all : ∀ tag ∈ voidTags, '<' ∉ tag.toList ∧ '>' ∉ tag.toList := by decide
    exact constant (all _ h)
  | root => exact constant (by decide)
  | plain h => exact elementNames_free (plainTags_named h) notWord
  | @classed tag cls h =>
    have name := elementNames_free (classedTags_named h) notWord
    have value : Harmless cls.toList := by
      rw [← classedTags_escaped _ h]
      exact escape_harmless _
    simp only [String.toList_append, List.mem_append, not_or]
    exact ⟨⟨⟨name, constant (by decide)⟩, harmless value⟩, constant (by decide)⟩
  | @around before after h value hv =>
    have all : ∀ tag ∈ valueTags, ('<' ∉ tag.1.toList ∧ '>' ∉ tag.1.toList) ∧
        '<' ∉ tag.2.toList ∧ '>' ∉ tag.2.toList := by
      decide
    rw [List.mem_append, List.mem_append, not_or, not_or]
    exact ⟨constant (all _ h).1, harmless hv, constant (all _ h).2⟩
  | @ending name h =>
    rw [List.mem_cons, not_or]
    constructor
    · rcases hc with rfl | rfl <;> decide
    · exact elementNames_free h notWord

end Templates

section Nesting

def elementName (cs : List Char) : List Char := cs.takeWhile (· ≠ ' ')

def isVoid (cs : List Char) : Bool := voidTags.any fun tag => tag.toList = cs

/-- The open elements after one piece more, the innermost first. Only the innermost can be ended. -/
def pass (stack : List (List Char)) : Piece → Option (List (List Char))
  | .char _ => some stack
  | .tag cs =>
    if isVoid cs then some stack
    else if cs.head? = some '/' then
      if stack.head? = some cs.tail then some stack.tail else none
    else some (elementName cs :: stack)

/-- Every element that the pieces start they end, and in the reverse order. -/
def Balanced (ps : List Piece) : Prop := ∀ stack, ps.foldlM pass stack = some stack

theorem Balanced.nil : Balanced [] := fun _ => rfl

theorem Balanced.append {ps qs : List Piece} (h : Balanced ps) (k : Balanced qs) :
    Balanced (ps ++ qs) := by
  intro stack
  rw [List.foldlM_append, h stack]
  exact k stack

theorem balanced_chars (cs : List Char) : Balanced (cs.map .char) := by
  induction cs with
  | nil => exact .nil
  | cons c cs ih => exact fun stack => ih stack

theorem Balanced.void {cs : List Char} (h : isVoid cs = true) : Balanced [.tag cs] := by
  intro stack
  simp only [List.foldlM_cons, pass, h, if_true]
  rfl

/-- A start tag, the pieces that its element holds and the end tag for it. -/
theorem Balanced.element {start name : List Char} {ps : List Piece}
    (starts : ∀ stack, pass stack (.tag start) = some (name :: stack)) (h : Balanced ps)
    (ends : ∀ stack, pass (name :: stack) (.tag ('/' :: name)) = some stack) :
    Balanced (.tag start :: (ps ++ [.tag ('/' :: name)])) := by
  intro stack
  rw [List.foldlM_cons, starts stack]
  show (ps ++ [Piece.tag ('/' :: name)]).foldlM pass (name :: stack) = some stack
  rw [List.foldlM_append, h]
  show [Piece.tag ('/' :: name)].foldlM pass (name :: stack) = some stack
  rw [List.foldlM_cons, ends stack]
  rfl

end Nesting

def Piece.Expected : Piece → Prop
  | .char c => c ≠ '<' ∧ c ≠ '>'
  | .tag cs => IsTemplate cs

def Piece.isTag : Piece → Bool
  | .char _ => false
  | .tag _ => true

structure Sound (ps : List Piece) : Prop where
  expected : ∀ p ∈ ps, p.Expected
  balanced : Balanced ps

theorem Sound.nil : Sound [] := ⟨fun _ h => absurd h List.not_mem_nil, .nil⟩

theorem Sound.append {ps qs : List Piece} (h : Sound ps) (k : Sound qs) : Sound (ps ++ qs) :=
  ⟨List.forall_mem_append.mpr ⟨h.expected, k.expected⟩, h.balanced.append k.balanced⟩

theorem Sound.chars {cs : List Char} (h : Harmless cs) : Sound (cs.map .char) := by
  refine ⟨?_, balanced_chars cs⟩
  intro p hp
  obtain ⟨c, hc, rfl⟩ := List.mem_map.mp hp
  exact (h c hc).2

theorem Sound.void {tag : String} (h : tag ∈ voidTags) : Sound [.tag tag.toList] := by
  constructor
  · intro p hp
    obtain rfl := List.mem_singleton.mp hp
    exact .void h
  · apply Balanced.void
    rw [isVoid, List.any_eq_true]
    exact ⟨tag, h, decide_eq_true rfl⟩

theorem Piece.Expected.clean {p : Piece} (h : p.Expected) : p.Clean := by
  cases p with
  | char c => exact h.1
  | tag cs => exact IsTemplate.free h (Or.inr rfl)

/-- A tag has one `<` and one `>`, and a character is neither. -/
theorem Piece.Expected.count {p : Piece} (h : p.Expected) :
    p.write.count '<' = p.isTag.toNat ∧ p.write.count '>' = p.isTag.toNat := by
  cases p with
  | char c =>
    constructor
    · exact List.count_eq_zero.mpr fun hm => h.1 (List.mem_singleton.mp hm).symm
    · exact List.count_eq_zero.mpr fun hm => h.2 (List.mem_singleton.mp hm).symm
  | tag cs =>
    have hl : '<' ∉ cs := IsTemplate.free h (Or.inl rfl)
    have hg : '>' ∉ cs := IsTemplate.free h (Or.inr rfl)
    constructor
    · simp [Piece.write, Piece.isTag, List.count_append, List.count_eq_zero.mpr hl]
    · simp [Piece.write, Piece.isTag, List.count_append, List.count_eq_zero.mpr hg]

theorem Sound.count {ps : List Piece} (h : Sound ps) :
    (ps.flatMap Piece.write).count '<' = ps.countP Piece.isTag ∧
      (ps.flatMap Piece.write).count '>' = ps.countP Piece.isTag := by
  have each := h.expected
  clear h
  induction ps with
  | nil => exact ⟨rfl, rfl⟩
  | cons p ps ih =>
    have hp := (each p List.mem_cons_self).count
    have hps := ih fun q hq => each q (List.mem_cons_of_mem _ hq)
    have tags : (p :: ps).countP Piece.isTag = p.isTag.toNat + ps.countP Piece.isTag := by
      cases p with
      | char c => simp [Piece.isTag]
      | tag cs =>
        rw [List.countP_cons_of_pos rfl]
        exact Nat.add_comm _ _
    rw [List.flatMap_cons, List.count_append, List.count_append, tags, hp.1, hp.2, hps.1, hps.2]
    exact ⟨rfl, rfl⟩

/-- A text that is read as the pieces it was made of, all of them expected. It has as many `<` and as
many `>` as tags, so no other piece has a part in them. -/
structure Intact (text : String) (ps : List Piece) : Prop where
  read : split text.toList = ps
  sound : Sound ps
  begins : text.toList.count '<' = ps.countP Piece.isTag
  ends : text.toList.count '>' = ps.countP Piece.isTag

theorem Sound.intact {ps : List Piece} (h : Sound ps) {text : String}
    (ht : text.toList = ps.flatMap Piece.write) : Intact text ps := by
  refine ⟨?_, h, ?_, ?_⟩
  · rw [ht, split_write fun p hp => (h.expected p hp).clean]
  · rw [ht, h.count.1]
  · rw [ht, h.count.2]

section Pages

mutual

/-- The pieces that the writing of a page puts one after another: a tag only where an element begins or
ends, and for a text its escaped characters. -/
def pieces : Html → List Piece
  | .text s => (Html.escape s.toList).map .char
  | .entity name => ('&' :: (name.toList ++ [';'])).map .char
  | .void tag attributes => [.tag (tag.toList ++ Html.writeAttributes attributes)]
  | .element tag attributes content =>
    .tag (tag.toList ++ Html.writeAttributes attributes) ::
      (allPieces content ++ [.tag ('/' :: tag.toList)])

def allPieces : List Html → List Piece
  | [] => []
  | h :: hs => pieces h ++ allPieces hs

end

mutual

theorem write_pieces (h : Html) : Html.write h = (pieces h).flatMap Piece.write := by
  cases h with
  | text s => rw [Html.write, pieces, write_chars]
  | entity name => rw [Html.write, pieces, write_chars]
  | void tag attributes => simp [Html.write, pieces, Html.startTag, Piece.write]
  | element tag attributes content =>
    rw [Html.write, write_allPieces content]
    simp [pieces, Html.startTag, Html.endTag, Piece.write]

theorem write_allPieces (hs : List Html) :
    Html.writeAll hs = (allPieces hs).flatMap Piece.write := by
  cases hs with
  | nil => rfl
  | cons h hs => rw [Html.writeAll, allPieces, List.flatMap_append, write_pieces h, write_allPieces hs]

end

theorem toText_pieces (h : Html) : h.toText.toList = (pieces h).flatMap Piece.write := by
  rw [Html.toText, String.toList_ofList, write_pieces]

structure IsElement (tag : String) (attributes : List (String × String)) : Prop where
  name : tag ∈ elementNames
  start : IsTemplate (tag.toList ++ Html.writeAttributes attributes)

theorem elementName_start {tag : String} (h : tag ∈ elementNames)
    (attributes : List (String × String)) :
    elementName (tag.toList ++ Html.writeAttributes attributes) = tag.toList := by
  have word : ∀ c ∈ tag.toList, decide (c ≠ ' ') = true := by
    intro c hc
    rw [decide_eq_true_eq]
    rintro rfl
    exact elementNames_free h (by decide) hc
  rw [elementName, List.takeWhile_append_of_pos word]
  cases attributes with
  | nil => simp [Html.writeAttributes]
  | cons a rest =>
    obtain ⟨name, value⟩ := a
    simp [Html.writeAttributes]

theorem voidTags_names {tag : String} (h : tag ∈ voidTags) :
    String.ofList (elementName tag.toList) ∈ ["!DOCTYPE", "meta"] ∧ tag.toList.head? ≠ some '/' := by
  have all : ∀ tag ∈ voidTags, String.ofList (elementName tag.toList) ∈ ["!DOCTYPE", "meta"] ∧
      tag.toList.head? ≠ some '/' := by
    decide
  exact all tag h

theorem isVoid_start {tag : String} (h : tag ∈ elementNames)
    (attributes : List (String × String)) :
    isVoid (tag.toList ++ Html.writeAttributes attributes) = false := by
  rw [isVoid, List.any_eq_false]
  intro other ho he
  have name := (voidTags_names ho).1
  rw [of_decide_eq_true he, elementName_start h, String.ofList_toList] at name
  exact (elementNames_word tag h).2.2 name

theorem isVoid_end (cs : List Char) : isVoid ('/' :: cs) = false := by
  rw [isVoid, List.any_eq_false]
  intro other ho he
  apply (voidTags_names ho).2
  rw [of_decide_eq_true he]
  rfl

theorem IsElement.starts {tag : String} {attributes : List (String × String)}
    (h : IsElement tag attributes) (stack : List (List Char)) :
    pass stack (.tag (tag.toList ++ Html.writeAttributes attributes)) = some (tag.toList :: stack) := by
  have notEnd : (tag.toList ++ Html.writeAttributes attributes).head? ≠ some '/' := by
    obtain ⟨c, cs, hl⟩ := List.exists_cons_of_ne_nil (elementNames_word tag h.name).2.1
    have hn : '/' ∉ tag.toList := elementNames_free h.name (by decide)
    rw [hl, List.mem_cons, not_or] at hn
    rw [hl]
    exact fun he => hn.1 (Option.some.inj he).symm
  simp only [pass, isVoid_start h.name, Bool.false_eq_true, if_false, if_neg notEnd,
    elementName_start h.name]

theorem IsElement.ends (tag : String) (stack : List (List Char)) :
    pass (tag.toList :: stack) (.tag ('/' :: tag.toList)) = some stack := by
  simp [pass, isVoid_end]

inductive Templated : Html → Prop where
  | text (s : String) : Templated (.text s)
  | entity {name : String} (h : Harmless name.toList) : Templated (.entity name)
  | void {tag : String} {attributes : List (String × String)}
      (h : tag.toList ++ Html.writeAttributes attributes ∈ voidTags.map String.toList) :
      Templated (.void tag attributes)
  | element {tag : String} {attributes : List (String × String)} {content : List Html}
      (ht : IsElement tag attributes) (hc : ∀ h ∈ content, Templated h) :
      Templated (.element tag attributes content)

theorem allPieces_sound {hs : List Html} (h : ∀ x ∈ hs, Sound (pieces x)) : Sound (allPieces hs) := by
  induction hs with
  | nil => exact .nil
  | cons x hs ih =>
    rw [allPieces]
    exact (h x List.mem_cons_self).append (ih fun y hy => h y (List.mem_cons_of_mem _ hy))

theorem Templated.sound {h : Html} (ht : Templated h) : Sound (pieces h) := by
  induction ht with
  | text s =>
    rw [pieces]
    exact .chars (escape_harmless _)
  | @entity name hn =>
    rw [pieces]
    apply Sound.chars
    intro c hc
    rw [List.mem_cons, List.mem_append, List.mem_singleton] at hc
    rcases hc with rfl | hc | rfl
    · decide
    · exact hn c hc
    · decide
  | @void tag attributes hv =>
    obtain ⟨s, hs, he⟩ := List.mem_map.mp hv
    rw [pieces, ← he]
    exact .void hs
  | @element tag attributes content hte _ ih =>
    have inner := allPieces_sound ih
    rw [pieces]
    refine ⟨?_, .element hte.starts inner.balanced (IsElement.ends tag)⟩
    intro p hp
    rw [List.mem_cons, List.mem_append, List.mem_singleton] at hp
    rcases hp with rfl | hp | rfl
    · exact hte.start
    · exact inner.expected p hp
    · exact IsTemplate.ending hte.name

theorem Templated.intact {h : Html} (ht : Templated h) : Intact h.toText (pieces h) :=
  ht.sound.intact (toText_pieces h)

end Pages

end SampleTypes.Documentation
