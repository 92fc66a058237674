import SampleTypes.Documentation.Page
import SampleTypes.Proofs.Documentation.Tags

/-!
The parts of the documentation are all made of known elements. So whatever stands in a report, its page
is read as it is meant, and so are the card of each type and the navigation.
-/

namespace SampleTypes.Documentation

section Elements

variable {tag cls : String} {content : List Html}

theorem Templated.plain (ht : tag ∈ plainTags) (hc : ∀ h ∈ content, Templated h) :
    Templated (.plain tag content) := by
  refine .element ⟨plainTags_named ht, ?_⟩ hc
  rw [Html.writeAttributes, List.append_nil]
  exact .plain ht

theorem Templated.classed (ht : (tag, cls) ∈ classedTags) (hc : ∀ h ∈ content, Templated h) :
    Templated (.classed tag cls content) := by
  have start : (tag ++ " class=\"" ++ cls ++ "\"").toList =
      tag.toList ++ Html.writeAttributes [("class", cls)] := by
    have he : Html.escape cls.toList = cls.toList := classedTags_escaped _ ht
    simp [String.toList_append, Html.writeAttributes, he]
  refine .element ⟨classedTags_named ht, ?_⟩ hc
  rw [← start]
  exact .classed ht

theorem text_only (s : String) : ∀ h ∈ [Html.text s], Templated h :=
  List.forall_mem_singleton.mpr (.text s)

theorem onLines_templated {lines : List (List Html)} (h : ∀ line ∈ lines, ∀ x ∈ line, Templated x) :
    ∀ x ∈ Html.onLines lines, Templated x := by
  rw [Html.onLines, List.forall_mem_append]
  constructor
  · intro x hx
    obtain ⟨line, hl, hx⟩ := List.mem_flatMap.mp hx
    rcases List.mem_cons.mp hx with rfl | hx
    · exact .text "\n"
    · exact h line hl x hx
  · exact text_only "\n"

theorem separated_templated (sep : String) {hs : List Html} (h : ∀ x ∈ hs, Templated x) :
    ∀ x ∈ Html.separated sep hs, Templated x := by
  induction hs with
  | nil => exact h
  | cons a hs ih =>
    cases hs with
    | nil => exact h
    | cons b hs =>
      rw [List.forall_mem_cons] at h
      show ∀ x ∈ a :: .text sep :: Html.separated sep (b :: hs), Templated x
      rw [List.forall_mem_cons, List.forall_mem_cons]
      exact ⟨h.1, .text sep, ih h.2⟩

end Elements

theorem code_templated (s : String) : Templated (code s) :=
  .plain (by simp [plainTags]) (text_only s)

theorem segment_templated (s : Segment) : Templated s.toHtml := by
  cases s with
  | plain cs => exact .text _
  | keyword cs => exact .classed (by simp [classedTags]) (text_only _)
  | brackets => exact .classed (by simp [classedTags]) (text_only _)
  | bar => exact .classed (by simp [classedTags]) (text_only _)

theorem highlight_templated (typeRef : String) : ∀ x ∈ highlight typeRef, Templated x :=
  List.forall_mem_map.mpr fun s _ => segment_templated s

section Card

variable (t : TypeDecl String)

theorem header_templated : ∀ x ∈ cardHeader t, Templated x := by
  have badge : Templated
      (.classed "span" ("sb-type-badge " ++ t.kind.keyword) [.text t.kind.keyword]) := by
    cases t.kind <;>
      exact .classed (by simp [classedTags, TypeKind.keyword]) (text_only _)
  have name : Templated (.classed "h2" "sb-type-name" [.text t.name]) :=
    .classed (by simp [classedTags]) (text_only t.name)
  rw [cardHeader, List.forall_mem_singleton]
  refine .classed (by simp [classedTags]) (onLines_templated ?_)
  rw [List.forall_mem_cons, List.forall_mem_singleton, List.forall_mem_singleton,
    List.forall_mem_singleton]
  exact ⟨badge, name⟩

theorem parents_templated : ∀ line ∈ cardParents t, ∀ x ∈ line, Templated x := by
  have names : ∀ x ∈ (sortTexts t.parents).map code, Templated x :=
    List.forall_mem_map.mpr fun name _ => code_templated name
  unfold cardParents
  split
  · exact List.forall_mem_nil _
  · rw [List.forall_mem_singleton, List.forall_mem_singleton]
    refine .classed (by simp [classedTags]) ?_
    rw [List.forall_mem_cons]
    exact ⟨.text _, separated_templated ", " names⟩

theorem description_templated : ∀ line ∈ cardDescription t, ∀ x ∈ line, Templated x := by
  unfold cardDescription
  split
  · split
    · exact List.forall_mem_nil _
    · rw [List.forall_mem_singleton, List.forall_mem_singleton]
      exact .classed (by simp [classedTags]) (text_only _)
  · exact List.forall_mem_nil _

theorem requiredCell_templated (required : Bool) : Templated (requiredCell required) := by
  have mark {name : String} (h : Harmless name.toList) :
      ∀ x ∈ [Html.entity name], Templated x :=
    List.forall_mem_singleton.mpr (.entity h)
  cases required with
  | true => exact .classed (by simp [classedTags]) (mark (by decide))
  | false => exact .classed (by simp [classedTags]) (mark (by decide))

theorem row_templated (f : Field String) : ∀ x ∈ fieldRow f, Templated x := by
  have cell {h : Html} (hh : Templated h) : Templated (.plain "td" [h]) :=
    .plain (by simp [plainTags]) (List.forall_mem_singleton.mpr hh)
  rw [fieldRow, List.forall_mem_singleton]
  refine .plain (by simp [plainTags]) ?_
  rw [List.forall_mem_cons, List.forall_mem_cons, List.forall_mem_cons, List.forall_mem_singleton]
  refine ⟨cell (code_templated f.name), cell ?_, requiredCell_templated f.required, cell (.text _)⟩
  exact .plain (by simp [plainTags]) (highlight_templated f.typeRef)

theorem fields_templated : ∀ line ∈ cardFields t, ∀ x ∈ line, Templated x := by
  have headings : ∀ x ∈ fieldHeadings.map fun h => Html.plain "th" [.text h], Templated x :=
    List.forall_mem_map.mpr fun h _ => .plain (by simp [plainTags]) (text_only h)
  have row : Templated (.plain "tr" (fieldHeadings.map fun h => .plain "th" [.text h])) :=
    .plain (by simp [plainTags]) headings
  have rows : ∀ line ∈ t.fields.map fieldRow, ∀ x ∈ line, Templated x :=
    List.forall_mem_map.mpr fun f _ => row_templated f
  unfold cardFields
  split
  · exact List.forall_mem_nil _
  · rw [List.forall_mem_singleton, List.forall_mem_singleton]
    refine .classed (by simp [classedTags]) ?_
    rw [List.forall_mem_cons, List.forall_mem_singleton]
    constructor
    · exact .plain (by simp [plainTags]) (List.forall_mem_singleton.mpr row)
    · exact .plain (by simp [plainTags]) (onLines_templated rows)

theorem values_templated : ∀ line ∈ cardValues t, ∀ x ∈ line, Templated x := by
  have values : ∀ x ∈ t.alternatives.map fun v => Html.plain "li" [code v], Templated x :=
    List.forall_mem_map.mpr fun v _ =>
      .plain (by simp [plainTags]) (List.forall_mem_singleton.mpr (code_templated v))
  unfold cardValues
  split
  · exact List.forall_mem_nil _
  · rw [List.forall_mem_singleton, List.forall_mem_cons, List.forall_mem_singleton]
    constructor
    · exact .plain (by simp [plainTags]) (text_only _)
    · exact .classed (by simp [classedTags]) values

theorem example_templated : ∀ line ∈ cardExample t, ∀ x ∈ line, Templated x := by
  have strong : Templated (.plain "strong" [.text "Example:"]) :=
    .plain (by simp [plainTags]) (text_only _)
  have heading : Templated (.plain "p" [.plain "strong" [.text "Example:"]]) :=
    .plain (by simp [plainTags]) (List.forall_mem_singleton.mpr strong)
  simp only [cardExample]
  split
  · rw [List.forall_mem_singleton, List.forall_mem_singleton]
    refine .classed (by simp [classedTags]) ?_
    rw [List.forall_mem_cons, List.forall_mem_singleton]
    constructor
    · exact heading
    · exact .plain (by simp [plainTags]) (List.forall_mem_singleton.mpr (code_templated _))
  · exact List.forall_mem_nil _

theorem article_start : IsElement "article" [("class", "sb-type-card"), ("id", t.name)] := by
  constructor
  · decide
  · have h : ("article class=\"sb-type-card\" id=\"", "\"") ∈ valueTags := by decide
    exact .around h (escape_harmless t.name.toList)

theorem card_templated : Templated (card t) := by
  apply Templated.element (article_start t)
  apply onLines_templated
  simp only [List.forall_mem_cons, List.forall_mem_append]
  refine ⟨header_templated t, ⟨⟨⟨?_, ?_⟩, ?_⟩, ?_⟩, ?_⟩
  · exact parents_templated t
  · exact description_templated t
  · exact fields_templated t
  · exact values_templated t
  · exact example_templated t

end Card

section Navigation

theorem link_start (name : String) :
    IsElement "a" [("href", "#" ++ name), ("class", "sb-type-link")] := by
  constructor
  · decide
  · have h : ("a href=\"#", "\" class=\"sb-type-link\"") ∈ valueTags := by decide
    have he : Html.escape ("#" ++ name).toList = '#' :: Html.escape name.toList := by
      rw [String.toList_append, Html.escape, List.flatMap_append]
      rfl
    rw [Html.writeAttributes, he]
    exact .around h (escape_harmless name.toList)

theorem link_templated (t : TypeDecl String) :
    Templated (.element "a" [("href", "#" ++ t.name), ("class", "sb-type-link")]
      [.text (t.kind.keyword ++ " " ++ t.name)]) :=
  .element (link_start t.name) (text_only _)

mutual

theorem entry_templated (e : Entry String) : Templated e.toHtml := by
  cases e with
  | node t entries =>
    cases entries with
    | nil =>
      rw [Entry.toHtml]
      exact .plain (by simp [plainTags]) (List.forall_mem_singleton.mpr (link_templated t))
    | cons e rest =>
      have list : Templated (.plain "ul" (e.toHtml :: entriesHtml rest)) :=
        .plain (by simp [plainTags])
          (List.forall_mem_cons.mpr ⟨entry_templated e, entries_templated rest⟩)
      rw [Entry.toHtml]
      refine .plain (by simp [plainTags]) ?_
      rw [List.forall_mem_cons, List.forall_mem_singleton]
      exact ⟨link_templated t, list⟩

theorem entries_templated (es : List (Entry String)) : ∀ x ∈ entriesHtml es, Templated x := by
  cases es with
  | nil => exact List.forall_mem_nil _
  | cons e rest => exact List.forall_mem_cons.mpr ⟨entry_templated e, entries_templated rest⟩

end

theorem navigation_templated (types : List (TypeDecl String)) : Templated (navigationHtml types) := by
  refine .classed (by simp [classedTags]) ?_
  rw [List.forall_mem_cons, List.forall_mem_singleton]
  constructor
  · exact .plain (by simp [plainTags]) (text_only _)
  · exact .plain (by simp [plainTags]) (entries_templated _)

end Navigation

section Page

variable (title : String) (r : Report String)

def pageElement : Html :=
  .element "html" [("lang", "en")] [head title, Html.newline, body title r]

def pagePieces : List Piece :=
  .tag "!DOCTYPE html".toList :: .char '\n' :: (pieces (pageElement title r) ++ [.char '\n'])

theorem head_templated : Templated (head title) := by
  refine .plain (by simp [plainTags]) ?_
  rw [List.forall_mem_cons, List.forall_mem_cons, List.forall_mem_singleton]
  refine ⟨.void (by decide), ?_, ?_⟩
  · exact .plain (by simp [plainTags]) (text_only title)
  · exact .plain (by simp [plainTags]) (text_only styleText)

theorem summary_templated : Templated (summary r) := by
  have middot : Templated (.entity "middot") := .entity (by decide)
  refine .plain (by simp [plainTags]) ?_
  simp only [List.forall_mem_cons]
  exact ⟨.text _, code_templated _, .text _, middot, .text _, middot, .text _,
    List.forall_mem_nil _⟩

theorem cards_templated (types : List (TypeDecl String)) : ∀ x ∈ cards types, Templated x := by
  unfold cards
  split
  · exact List.forall_mem_cons.mpr ⟨.text "\n", text_only "\n"⟩
  · apply onLines_templated
    exact List.forall_mem_map.mpr fun t _ => List.forall_mem_singleton.mpr (card_templated t)

theorem main_templated : Templated (mainPart title r) := by
  refine .classed (by simp [classedTags]) ?_
  rw [List.forall_mem_cons, List.forall_mem_cons]
  exact ⟨.plain (by simp [plainTags]) (text_only title), summary_templated r, cards_templated r.types⟩

theorem body_templated : Templated (body title r) := by
  refine .plain (by simp [plainTags]) (onLines_templated ?_)
  rw [List.forall_mem_cons, List.forall_mem_singleton, List.forall_mem_singleton,
    List.forall_mem_singleton]
  exact ⟨navigation_templated r.types, main_templated title r⟩

theorem root_start : IsElement "html" [("lang", "en")] := by
  have start : rootTag.toList = "html".toList ++ Html.writeAttributes [("lang", "en")] := by decide
  constructor
  · simp [elementNames]
  · rw [← start]
    exact .root

theorem page_templated : Templated (pageElement title r) := by
  apply Templated.element root_start
  rw [List.forall_mem_cons, List.forall_mem_cons, List.forall_mem_singleton]
  exact ⟨head_templated title, .text "\n", body_templated title r⟩

theorem pagePieces_sound : Sound (pagePieces title r) := by
  have doctype : Sound [.tag "!DOCTYPE html".toList] := .void (by decide)
  have newline : Sound [.char '\n'] := @Sound.chars ['\n'] (by decide)
  exact doctype.append (newline.append ((page_templated title r).sound.append newline))

/-- No text breaks the documentation: pages, cards and navigations are read as the tags of their
elements, properly nested, with nothing but harmless characters between them. -/
theorem documentation_intact (t : TypeDecl String) (types : List (TypeDecl String)) :
    Intact (page title r) (pagePieces title r) ∧
      Intact (card t).toText (pieces (card t)) ∧
      Intact (navigationHtml types).toText (pieces (navigationHtml types)) := by
  refine ⟨(pagePieces_sound title r).intact ?_, (card_templated t).intact,
    (navigation_templated types).intact⟩
  show ("<!DOCTYPE html>\n" ++ (pageElement title r).toText ++ "\n").toList = _
  rw [String.toList_append, String.toList_append, toText_pieces]
  simp [pagePieces, Piece.write]

end Page

end SampleTypes.Documentation
