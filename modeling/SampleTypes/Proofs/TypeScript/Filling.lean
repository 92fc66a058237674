import SampleTypes.Proofs.Text.Cutting
import SampleTypes.Proofs.Text.Replacement
import SampleTypes.TypeScript.Declaration

/-!
The declaration of a record, written from the template of interfaces. The places are filled one after
another, and every value that is already in is sought through for the places that come after its own.
The declaration is still put together from the description, the name, the parents and the fields, each
filled on its own; and it holds them as they are where none of them brings in a later place.
-/

namespace SampleTypes.TypeScript

def interfaceWith (description name parents fields : List Char) : List Char :=
  description ++ ("\nexport interface ".toList ++ (name ++ (parents ++
    (" \x7b\n".toList ++ (fields ++ "\n\x7d".toList)))))

theorem interfaceTemplate_places :
    interfaceTemplate.toList = interfaceWith (placeholder "description") (placeholder "name")
      (placeholder "extends") (placeholder "fields") := by
  decide

/-- What begins in front of such a pair and goes over into one ends before it. -/
theorem border_empty {a : Char} {tail zs rest ys : List Char} (h : a ∉ tail) (ht : tail ≠ [])
    (hz : zs ≠ []) (he : zs ++ rest = a :: a :: tail) (hp : rest <+: a :: a :: ys) : rest = [] := by
  cases rest with
  | nil => rfl
  | cons d rest =>
    obtain ⟨rfl, hp⟩ := List.cons_prefix_cons.mp hp
    match zs with
    | [c] =>
      obtain ⟨-, -, rfl⟩ : c = d ∧ d = d ∧ rest = tail := by simpa using he
      obtain ⟨t, ts, rfl⟩ := List.exists_cons_of_ne_nil ht
      have hd : t = d := (List.cons_prefix_cons.mp hp).1
      exact absurd (hd ▸ List.mem_cons_self) h
    | c :: c' :: zs =>
      have htail : zs ++ d :: rest = tail := (List.cons.inj (List.cons.inj he).2).2
      exact absurd (htail ▸ List.mem_append_right zs List.mem_cons_self) h

section

variable {place value : String}

theorem fillOne_none {xs : List Char} (h : ¬ placeholder place <:+: xs) :
    fillOne xs (place, value) = xs :=
  Text.replaceAll_none h value.toList

theorem fillOne_free {xs : List Char} (h : '\x7b' ∉ xs) (ys : List Char) :
    fillOne (xs ++ ys) (place, value) = xs ++ fillOne ys (place, value) :=
  Text.replaceAll_free h value.toList ys

theorem fillOne_part {d : Char} (h : d ∉ placeholder place) (xs ys : List Char) :
    fillOne (xs ++ d :: ys) (place, value) =
      fillOne xs (place, value) ++ d :: fillOne ys (place, value) :=
  Text.replaceAll_part h value.toList xs ys

theorem fillOne_here (ys : List Char) :
    fillOne (placeholder place ++ ys) (place, value) = value.toList ++ fillOne ys (place, value) :=
  Text.replaceAll_here '\x7b' ('\x7b' :: (place.toList ++ ['\x7d', '\x7d'])) value.toList ys

theorem fillOne_self : fillOne (placeholder place) (place, value) = value.toList := by
  have hh : fillOne (placeholder place ++ []) (place, value) = value.toList ++ [] := fillOne_here []
  rwa [List.append_nil, List.append_nil] at hh

/-- No occurrence of a place goes over into the place that is filled. -/
theorem placeholder_border (h : '\x7b' ∉ place.toList) {zs : List Char} (hz : zs ≠ []) :
    (placeholder place).isPrefixOf (zs ++ placeholder place) =
      (placeholder place).isPrefixOf zs := by
  rw [Bool.eq_iff_iff, List.isPrefixOf_iff_prefix, List.isPrefixOf_iff_prefix]
  refine ⟨fun hp => ?_, fun hp => hp.trans (List.prefix_append _ _)⟩
  rcases List.prefix_or_prefix_of_prefix hp (List.prefix_append zs _) with hin | ⟨rest, hrest⟩
  · exact hin
  · have hbrace : '\x7b' ∉ place.toList ++ ['\x7d', '\x7d'] := by simp [h]
    have hover : zs ++ rest <+: zs ++ placeholder place := hrest.symm ▸ hp
    obtain rfl : rest = [] := border_empty hbrace (by simp) hz hrest
      ((List.prefix_append_right_inj zs).mp hover)
    exact ⟨[], by rw [← hrest, List.append_nil, List.append_nil]⟩

theorem fillOne_place (h : '\x7b' ∉ place.toList) (xs : List Char) :
    fillOne (xs ++ placeholder place) (place, value) = fillOne xs (place, value) ++ value.toList := by
  have hborder : ∀ zs, zs <:+ xs → zs ≠ [] →
      (placeholder place).isPrefixOf (zs ++ placeholder place) = (placeholder place).isPrefixOf zs :=
    fun _ _ hz => placeholder_border h hz
  have hb := Text.replaceFrom_border hborder value.toList (Nat.zero_le xs.length)
  exact hb.trans (congrArg (fillOne xs (place, value) ++ ·) fillOne_self)

def IsClause (cs : List Char) : Prop := cs = [] ∨ ∃ rest, cs = ' ' :: rest

theorem IsClause.fillOne (hs : ' ' ∉ placeholder place) {cs : List Char} (h : IsClause cs) :
    IsClause (fillOne cs (place, value)) := by
  rcases h with rfl | ⟨rest, rfl⟩
  · exact .inl rfl
  · exact .inr ⟨_, fillOne_part hs [] rest⟩

theorem fillOne_clause (hs : ' ' ∉ placeholder place) {cs : List Char} (h : IsClause cs)
    (xs : List Char) : fillOne (xs ++ cs) (place, value) =
      fillOne xs (place, value) ++ fillOne cs (place, value) := by
  rcases h with rfl | ⟨rest, rfl⟩
  · rw [List.append_nil]
    exact (List.append_nil _).symm
  · have hrest : fillOne (' ' :: rest) (place, value) = ' ' :: fillOne rest (place, value) :=
      fillOne_part hs [] rest
    rw [fillOne_part hs, hrest]

theorem fillOne_interface (hs : ' ' ∉ placeholder place) (hn : '\n' ∉ placeholder place)
    {name parents : List Char} (hp : fillOne (name ++ parents) (place, value) =
      fillOne name (place, value) ++ fillOne parents (place, value))
    (description fields : List Char) :
    fillOne (interfaceWith description name parents fields) (place, value) =
      interfaceWith (fillOne description (place, value)) (fillOne name (place, value))
        (fillOne parents (place, value)) (fillOne fields (place, value)) := by
  have hcut (d n p f : List Char) : interfaceWith d n p f = d ++ '\n' ::
      ("export interface ".toList ++ ((n ++ p) ++ ' ' :: (['\x7b'] ++ '\n' ::
        (f ++ '\n' :: ['\x7d'])))) := by
    rw [List.append_assoc]
    rfl
  have hfixed : '\x7b' ∉ "export interface ".toList := by decide
  have hopen : fillOne ['\x7b'] (place, value) = ['\x7b'] := rfl
  have hclose : fillOne ['\x7d'] (place, value) = ['\x7d'] := rfl
  rw [hcut, hcut, fillOne_part hn, fillOne_free hfixed, fillOne_part hs, hp, fillOne_part hn, hopen,
    fillOne_part hn, hclose]

end

section

variable (value : String) {name parents : List Char}

theorem fill_name :
    fillOne interfaceTemplate.toList ("name", value) =
      interfaceWith (placeholder "description") value.toList (placeholder "extends")
        (placeholder "fields") := by
  have hd : fillOne (placeholder "description") ("name", value) = placeholder "description" :=
    fillOne_none (by decide +kernel)
  have he : fillOne (placeholder "extends") ("name", value) = placeholder "extends" :=
    fillOne_none (by decide +kernel)
  have hf : fillOne (placeholder "fields") ("name", value) = placeholder "fields" :=
    fillOne_none (by decide +kernel)
  have hplace : fillOne (placeholder "name" ++ placeholder "extends") ("name", value) =
      fillOne (placeholder "name") ("name", value) ++
        fillOne (placeholder "extends") ("name", value) := by
    rw [fillOne_here, fillOne_self]
  rw [interfaceTemplate_places, fillOne_interface (by decide) (by decide) hplace, hd, he, hf,
    fillOne_self]

theorem fill_extends (name : List Char) :
    fillOne (interfaceWith (placeholder "description") name (placeholder "extends")
        (placeholder "fields")) ("extends", value) =
      interfaceWith (placeholder "description") (fillOne name ("extends", value)) value.toList
        (placeholder "fields") := by
  have hd : fillOne (placeholder "description") ("extends", value) = placeholder "description" :=
    fillOne_none (by decide +kernel)
  have hf : fillOne (placeholder "fields") ("extends", value) = placeholder "fields" :=
    fillOne_none (by decide +kernel)
  have hplace : fillOne (name ++ placeholder "extends") ("extends", value) =
      fillOne name ("extends", value) ++ fillOne (placeholder "extends") ("extends", value) := by
    rw [fillOne_self]
    exact fillOne_place (by decide) name
  rw [fillOne_interface (by decide) (by decide) hplace, hd, hf, fillOne_self]

theorem fill_fields (hp : IsClause parents) :
    fillOne (interfaceWith (placeholder "description") name parents (placeholder "fields"))
        ("fields", value) =
      interfaceWith (placeholder "description") (fillOne name ("fields", value))
        (fillOne parents ("fields", value)) value.toList := by
  have hd : fillOne (placeholder "description") ("fields", value) = placeholder "description" :=
    fillOne_none (by decide +kernel)
  have hclause : fillOne (name ++ parents) ("fields", value) =
      fillOne name ("fields", value) ++ fillOne parents ("fields", value) :=
    fillOne_clause (by decide) hp name
  rw [fillOne_interface (by decide) (by decide) hclause, hd, fillOne_self]

theorem fill_description (hp : IsClause parents) (fields : List Char) :
    fillOne (interfaceWith (placeholder "description") name parents fields)
        ("description", value) =
      interfaceWith value.toList (fillOne name ("description", value))
        (fillOne parents ("description", value)) (fillOne fields ("description", value)) := by
  have hclause : fillOne (name ++ parents) ("description", value) =
      fillOne name ("description", value) ++ fillOne parents ("description", value) :=
    fillOne_clause (by decide) hp name
  rw [fillOne_interface (by decide) (by decide) hclause, fillOne_self]

end

theorem fill_interface (name parents fields description : String) (hp : IsClause parents.toList) :
    [("name", name), ("extends", parents), ("fields", fields),
        ("description", description)].foldl fillOne interfaceTemplate.toList =
      interfaceWith description.toList
        ([("extends", parents), ("fields", fields), ("description", description)].foldl fillOne
          name.toList)
        ([("fields", fields), ("description", description)].foldl fillOne parents.toList)
        ([("description", description)].foldl fillOne fields.toList) := by
  have hfilled : IsClause (fillOne parents.toList ("fields", fields)) := hp.fillOne (by decide)
  simp only [List.foldl_cons, List.foldl_nil]
  rw [fill_name, fill_extends, fill_fields _ hp, fill_description _ hfilled]

def interfaceBare (name parents fields : String) : String :=
  "export interface " ++ name ++ parents ++ " \x7b\n" ++ fields ++ "\n\x7d"

/-- The declaration of an interface around the given texts, with the description in front of it if
there is one. -/
def interfaceOf (description name parents fields : String) : String :=
  (if description = "" then "" else description ++ "\n") ++ interfaceBare name parents fields

section

variable (name parents fields : String)

theorem interfaceBare_eq : interfaceBare name parents fields =
    "export interface " ++ name ++ parents ++ " \x7b\n" ++ fields ++ "\n\x7d" :=
  rfl

theorem interfaceWith_bare (description : List Char) :
    interfaceWith description name.toList parents.toList fields.toList =
      (description ++ ['\n']) ++ (interfaceBare name parents fields).toList := by
  simp [interfaceWith, interfaceBare_eq]

theorem interfaceBare_first {c : Char}
    (h : (interfaceBare name parents fields).toList.head? = some c) : Text.isBlank c = false := by
  obtain rfl : 'e' = c := by simpa [interfaceBare_eq] using h
  decide

theorem interfaceBare_last {front : List Char} {c : Char}
    (h : (front ++ (interfaceBare name parents fields).toList).getLast? = some c) :
    Text.isBlank c = false := by
  have hlast : (interfaceBare name parents fields).toList.getLast? = some '\x7d' := by
    rw [interfaceBare_eq, String.toList_append, List.getLast?_append]
    rfl
  obtain rfl : '\x7d' = c := by simpa [List.getLast?_append, hlast] using h
  decide

/-- Without a description the line feed behind its place is trimmed. -/
theorem trim_interface {description : String}
    (hd : ∀ c, description.toList.head? = some c → Text.isBlank c = false) :
    String.ofList (Text.trim (interfaceWith description.toList name.toList parents.toList
      fields.toList)) = interfaceOf description name parents fields := by
  have hl {front : List Char} : ∀ c,
      (front ++ (interfaceBare name parents fields).toList).getLast? = some c →
        Text.isBlank c = false :=
    fun _ => interfaceBare_last name parents fields
  rw [interfaceWith_bare, interfaceOf]
  by_cases he : description = ""
  · have ht : Text.trim ('\n' :: (interfaceBare name parents fields).toList) =
        (interfaceBare name parents fields).toList := by
      rw [Text.trim_blank (by decide)]
      exact Text.trim_solid (fun _ => interfaceBare_first name parents fields) (@hl [])
    rw [he, if_pos rfl, String.empty_append, ← String.toList_inj, String.toList_ofList]
    exact ht
  · obtain ⟨first, rest, hf⟩ : ∃ first rest, description.toList = first :: rest :=
      List.exists_cons_of_ne_nil (mt String.toList_eq_nil_iff.mp he)
    rw [if_neg he, Text.trim_solid (by simpa [hf] using hd) hl, ← String.toList_inj]
    simp

end

def fieldsText (refs : Matcher String) (t : TypeDecl String) : String :=
  joinTexts "\n" (t.fields.flatMap (fieldLines refs))

theorem extendsClause_isClause (refs : Matcher String) (t : TypeDecl String) :
    IsClause (extendsClause refs t).toList := by
  by_cases hp : t.parents.isEmpty = true
  · rw [extendsClause, if_pos hp]
    exact .inl rfl
  · rw [extendsClause, if_neg hp, String.toList_append]
    exact .inr ⟨_, rfl⟩

theorem descriptionComment_head {t : TypeDecl String} {c : Char}
    (h : (descriptionComment t).toList.head? = some c) : c = '/' := by
  rw [descriptionComment] at h
  cases hd : described? t.description with
  | none => simp [hd] at h
  | some d =>
    have hs : '/' = c := by simpa [hd, comment] using h
    exact hs.symm

theorem interfaceText_filled (refs : Matcher String) (t : TypeDecl String) :
    interfaceText interfaceTemplate refs t =
      interfaceOf (descriptionComment t)
        (fill t.name [("extends", extendsClause refs t), ("fields", fieldsText refs t),
          ("description", descriptionComment t)])
        (fill (extendsClause refs t) [("fields", fieldsText refs t),
          ("description", descriptionComment t)])
        (fill (fieldsText refs t) [("description", descriptionComment t)]) := by
  have hsolid : ∀ c, (descriptionComment t).toList.head? = some c → Text.isBlank c = false := by
    intro c hc
    obtain rfl := descriptionComment_head hc
    decide
  rw [← trim_interface _ _ _ hsolid]
  simp only [fill, String.toList_ofList]
  rw [interfaceText, trimmed, fill, String.toList_ofList,
    fill_interface _ _ _ _ (extendsClause_isClause refs t)]
  rfl

def Holds (place text : String) : Prop := placeholder place <:+: text.toList

instance (place text : String) : Decidable (Holds place text) :=
  inferInstanceAs (Decidable (_ <:+: _))

theorem fill_none {values : List (String × String)} {text : String}
    (h : ∀ entry ∈ values, ¬ Holds entry.1 text) : fill text values = text := by
  have hf : values.foldl fillOne text.toList = text.toList := by
    induction values with
    | nil => rfl
    | cons entry values ih =>
      rw [List.forall_mem_cons] at h
      rw [List.foldl_cons, fillOne_none h.1]
      exact ih h.2
  rw [fill, hf, String.ofList_toList]

theorem fill_eq_self_iff {place value text : String} (h : value.toList ≠ placeholder place) :
    fill text [(place, value)] = text ↔ ¬ Holds place text := by
  rw [← String.toList_inj, fill, String.toList_ofList]
  exact Text.replaceAll_eq_self_iff h

theorem holds_joinTexts {place : String} (h : '\n' ∉ placeholder place) (lines : List String) :
    Holds place (joinTexts "\n" lines) ↔ ∃ line ∈ lines, Holds place line := by
  induction lines with
  | nil => simp [joinTexts, Holds, placeholder]
  | cons line rest ih =>
    by_cases hr : rest = []
    · simp [hr, joinTexts]
    · have hjoin : (joinTexts "\n" (line :: rest)).toList =
          line.toList ++ '\n' :: (joinTexts "\n" rest).toList := by
        simp [joinTexts_cons _ _ hr]
      calc Holds place (joinTexts "\n" (line :: rest))
        _ ↔ Holds place line ∨ Holds place (joinTexts "\n" rest) := by
          rw [Holds, hjoin, Text.infix_part h]
          rfl
        _ ↔ Holds place line ∨ ∃ other ∈ rest, Holds place other := or_congr_right ih
        _ ↔ ∃ other ∈ line :: rest, Holds place other := by simp

/-- The declaration is put together from its texts, each filled with what comes after it. Where the name
and the parents bring in no later place, it holds all of them as they are if and only if no line of a
field brings in the place of the description. -/
theorem interface_from_texts (refs : Matcher String) (t : TypeDecl String) :
    interfaceText interfaceTemplate refs t =
      interfaceOf (descriptionComment t)
        (fill t.name [("extends", extendsClause refs t), ("fields", fieldsText refs t),
          ("description", descriptionComment t)])
        (fill (extendsClause refs t) [("fields", fieldsText refs t),
          ("description", descriptionComment t)])
        (fill (fieldsText refs t) [("description", descriptionComment t)]) ∧
    ((∀ place ∈ ["extends", "fields", "description"], ¬ Holds place t.name) →
      (∀ place ∈ ["fields", "description"], ¬ Holds place (extendsClause refs t)) →
      (interfaceText interfaceTemplate refs t =
          interfaceOf (descriptionComment t) t.name (extendsClause refs t) (fieldsText refs t) ↔
        ∀ line ∈ t.fields.flatMap (fieldLines refs), ¬ Holds "description" line)) := by
  refine ⟨interfaceText_filled refs t, fun hn hp => ?_⟩
  have hname : fill t.name [("extends", extendsClause refs t), ("fields", fieldsText refs t),
      ("description", descriptionComment t)] = t.name :=
    fill_none (by simpa using hn)
  have hparents : fill (extendsClause refs t) [("fields", fieldsText refs t),
      ("description", descriptionComment t)] = extendsClause refs t :=
    fill_none (by simpa using hp)
  have hcancel (fields : String) :
      interfaceOf (descriptionComment t) t.name (extendsClause refs t) fields =
        interfaceOf (descriptionComment t) t.name (extendsClause refs t) (fieldsText refs t) ↔
      fields = fieldsText refs t := by
    simp [interfaceOf, interfaceBare_eq]
  have hd : (descriptionComment t).toList ≠ placeholder "description" := by
    intro he
    have hbrace : (descriptionComment t).toList.head? = some '\x7b' := he ▸ rfl
    exact absurd (descriptionComment_head hbrace) (by decide)
  rw [interfaceText_filled, hname, hparents, hcancel, fill_eq_self_iff hd, fieldsText,
    holds_joinTexts (by decide)]
  simp only [not_exists, not_and]

/-- A type whose description and field names bring in places that have been filled before. -/
def parcel : TypeDecl String where
  name := "Parcel"
  description := some "A \x7b\x7bname\x7d\x7d */"
  parents := ["Item", "Tracked"]
  fields := [{ name := "\x7b\x7bfields\x7d\x7d", typeRef := "string" },
    { name := "size", typeRef := "number[]", required := false, description := some "in mm" }]

theorem parcel_extends : extendsClause [] parcel = " extends Item, Tracked" := by
  have hsort : sortTexts ["Item", "Tracked"] = ["Item", "Tracked"] :=
    List.mergeSort_of_pairwise (by decide)
  change " extends " ++ joinTexts ", " ((sortTexts ["Item", "Tracked"]).map (resolve [])) = _
  rw [hsort]
  decide +kernel

theorem parcel_from_texts :
    (∀ place ∈ ["extends", "fields", "description"], ¬ Holds place parcel.name) ∧
    (∀ place ∈ ["fields", "description"], ¬ Holds place (extendsClause [] parcel)) ∧
    interfaceText interfaceTemplate [] parcel = interfaceOf (descriptionComment parcel) parcel.name
      (extendsClause [] parcel) (fieldsText [] parcel) ∧
    interfaceText interfaceTemplate [] parcel =
      "/** A \x7b\x7bname\x7d\x7d *\\/ */\nexport interface Parcel extends Item, Tracked \x7b\n" ++
        "  '\x7b\x7bfields\x7d\x7d': string;\n  /** in mm */\n  size?: number[];\n\x7d" := by
  have hn : ∀ place ∈ ["extends", "fields", "description"], ¬ Holds place parcel.name := by
    decide +kernel
  have hp : ∀ place ∈ ["fields", "description"], ¬ Holds place (extendsClause [] parcel) := by
    rw [parcel_extends]
    decide +kernel
  have hl : ∀ line ∈ parcel.fields.flatMap (fieldLines []), ¬ Holds "description" line := by
    decide +kernel
  have htext := ((interface_from_texts [] parcel).2 hn hp).mpr hl
  refine ⟨hn, hp, htext, ?_⟩
  rw [htext, parcel_extends]
  decide +kernel

def pointOf (field : String) : TypeDecl String :=
  { name := "Point", fields := [{ name := field, typeRef := "number" }] }

/-- A field of the name of a later place loses its name. -/
theorem place_name_lost :
    interfaceText interfaceTemplate [] (pointOf "\x7b\x7bdescription\x7d\x7d") =
      "export interface Point \x7b\n  '': number;\n\x7d" ∧
    interfaceText interfaceTemplate [] (pointOf "\x7b\x7bdescription\x7d\x7d") ≠
      interfaceOf "" "Point" "" (fieldsText [] (pointOf "\x7b\x7bdescription\x7d\x7d")) := by
  have htext : interfaceText interfaceTemplate [] (pointOf "\x7b\x7bdescription\x7d\x7d") =
      "export interface Point \x7b\n  '': number;\n\x7d" := by
    decide +kernel
  rw [htext]
  exact ⟨rfl, by decide +kernel⟩

end SampleTypes.TypeScript
