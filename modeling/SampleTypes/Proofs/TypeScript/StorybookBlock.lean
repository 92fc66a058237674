import SampleTypes.Proofs.Sample.Signature
import SampleTypes.Proofs.TypeScript.Literals
import SampleTypes.TypeScript.Source

/-!
What the documentation block tells of the records. The block is read line by line, from the last to the
first, by what stands in front of the first literal of a line. The lines of a field build up a field,
and those of a record a record, which is complete at the line that opens it. Main result: this reader
finds every record again as it was documented, and two lists of types have the same block only if they
document the same records.
-/

namespace SampleTypes.TypeScript

def documentedField (f : Field String) : Field String :=
  { f with description := described? f.description }

structure RecordDoc where
  name : String := ""
  description : Option String := none
  parents : List String := []
  fields : List (Field String) := []
  deriving DecidableEq, Repr

def documented (t : TypeDecl String) : RecordDoc where
  name := t.name
  description := described? t.description
  parents := sortTexts t.parents
  fields := t.fields.map documentedField

/-- Both types have the same name, description and fields, and the same parents in any order. -/
structure SameDocs (a b : TypeDecl String) : Prop where
  name : a.name = b.name
  description : described? a.description = described? b.description
  parents : a.parents.Perm b.parents
  fields : a.fields.map documentedField = b.fields.map documentedField

def blankField : Field String := ⟨"", "", true, none⟩

/-- What has been read of a block: the records behind this place, the record the place is in and the
field it is in, both as far as they have been read. -/
structure Draft where
  records : List RecordDoc := []
  current : RecordDoc := {}
  field : Field String := blankField

inductive LineKind where
  | record
  | recordDescription
  | parents
  | field
  | fieldName
  | fieldType
  | required
  | optional
  | fieldDescription
  deriving DecidableEq, Repr

namespace LineKind

def all : List LineKind :=
  [record, recordDescription, parents, field, fieldName, fieldType, required, optional,
    fieldDescription]

/-- What such a line has in front of its first literal, or all of it if it has none. -/
def key : LineKind → String
  | record => "  "
  | recordDescription => "    description: "
  | parents => "    extends: ["
  | field => "      \x7b"
  | fieldName => "        name: "
  | fieldType => "        type: "
  | required => "        required: true,"
  | optional => "        required: false,"
  | fieldDescription => "        description: "

def ofKey? (key : String) : Option LineKind := all.find? fun kind => kind.key = key

theorem ofKey_key (kind : LineKind) : ofKey? kind.key = some kind := by
  cases kind <;> decide +kernel

theorem key_no_mark (kind : LineKind) : '\'' ∉ kind.key.toList := by
  cases kind <;> decide

end LineKind

def Draft.take (d : Draft) : LineKind → List String → Draft
  | .fieldName, [name] => { d with field := { d.field with name } }
  | .fieldType, [typeRef] => { d with field := { d.field with typeRef } }
  | .required, [] => { d with field := { d.field with required := true } }
  | .optional, [] => { d with field := { d.field with required := false } }
  | .fieldDescription, [text] => { d with field := { d.field with description := some text } }
  | .field, [] =>
    { d with current := { d.current with fields := d.field :: d.current.fields }, field := blankField }
  | .recordDescription, [text] => { d with current := { d.current with description := some text } }
  | .parents, parents => { d with current := { d.current with parents } }
  | .record, [name] => { d with records := { d.current with name } :: d.records, current := {} }
  | _, _ => d

def Draft.takeLine (d : Draft) (key : String) (values : List String) : Draft :=
  match LineKind.ofKey? key with
  | some kind => d.take kind values
  | none => d

theorem Draft.takeLine_key (d : Draft) (kind : LineKind) (values : List String) :
    d.takeLine kind.key values = d.take kind values := by
  rw [takeLine, LineKind.ofKey_key]

theorem Draft.takeLine_other {key : String} (h : LineKind.ofKey? key = none) (d : Draft)
    (values : List String) : d.takeLine key values = d := by
  rw [takeLine, h]

def Lexeme.value? : Lexeme → Option String
  | .literal value => some (String.ofList value)
  | _ => none

def readLine (line : List Char) (d : Draft) : Draft :=
  d.takeLine (String.ofList (line.takeWhile (· ≠ '\'')))
    ((lex writtenEscape line).filterMap Lexeme.value?)

def readLines (lines : List String) (d : Draft) : Draft :=
  lines.foldr (fun line => readLine line.toList) d

/-- The records that a block documents, found behind the lines that all blocks begin with. -/
def readStorybook (text : String) : List RecordDoc :=
  let lines := (text.toList.splitOn '\n').map String.ofList
  (readLines (lines.drop storybookHeader.length) {}).records

def recordsOf (types : List (TypeDecl String)) : List (TypeDecl String) :=
  types.filter fun t => t.kind = .record

theorem values_plain {text : String} (h : '\'' ∉ text.toList) (rest : List Char) :
    (lex writtenEscape (text.toList ++ rest)).filterMap Lexeme.value? =
      (lex writtenEscape rest).filterMap Lexeme.value? := by
  have hnone : (text.toList.map Lexeme.char).filterMap Lexeme.value? = [] := by
    rw [List.filterMap_eq_nil_iff]
    intro l hl
    obtain ⟨c, -, rfl⟩ := List.mem_map.mp hl
    rfl
  rw [lex_plain h, List.filterMap_append, hnone, List.nil_append]

theorem key_plain {text : String} (h : '\'' ∉ text.toList) (rest : List Char) :
    (text.toList ++ rest).takeWhile (· ≠ '\'') = text.toList ++ rest.takeWhile (· ≠ '\'') :=
  List.takeWhile_append_of_pos fun _ hc => decide_eq_true fun he => h (he ▸ hc)

theorem values_quote (s : String) (rest : List Char) :
    (lex writtenEscape ((quote s).toList ++ rest)).filterMap Lexeme.value? =
      s :: (lex writtenEscape rest).filterMap Lexeme.value? := by
  rw [lex_quote writtenEscape_written]
  simp [Lexeme.value?]

theorem values_quotes {texts : List String} (hne : texts ≠ []) (rest : List Char) :
    (lex writtenEscape ((joinTexts ", " (texts.map quote)).toList ++ rest)).filterMap Lexeme.value? =
      texts ++ (lex writtenEscape rest).filterMap Lexeme.value? := by
  induction texts with
  | nil => exact absurd rfl hne
  | cons first others ih =>
    by_cases ho : others = []
    · subst ho
      exact values_quote first rest
    · rw [List.map_cons, joinTexts_cons _ _ (by simpa using ho), String.toList_append,
        String.toList_append, List.append_assoc, List.append_assoc, values_quote,
        values_plain (by decide), ih ho, List.cons_append]

theorem readLine_plain {line : String} (h : '\'' ∉ line.toList) (d : Draft) :
    readLine line.toList d = d.takeLine line [] := by
  have hkey := key_plain h []
  have hvalues := values_plain h []
  rw [List.takeWhile_nil, List.append_nil] at hkey
  rw [List.append_nil] at hvalues
  rw [readLine, hkey, hvalues, String.ofList_toList]
  rfl

/-- A line with literals, one after another, is read as what stands in front of them and their values. -/
theorem readLine_values {key after : String} (hk : '\'' ∉ key.toList) (ha : '\'' ∉ after.toList)
    {values : List String} (hne : values ≠ []) (d : Draft) :
    readLine (key ++ joinTexts ", " (values.map quote) ++ after).toList d = d.takeLine key values := by
  obtain ⟨others, hq⟩ : ∃ others,
      (joinTexts ", " (values.map quote)).toList = '\'' :: others := by
    cases values with
    | nil => exact absurd rfl hne
    | cons first rest =>
      rw [List.map_cons, joinTexts_toList, quote_toList]
      exact ⟨_, rfl⟩
  have hkey : (key ++ joinTexts ", " (values.map quote) ++ after).toList.takeWhile (· ≠ '\'') =
      key.toList := by
    rw [String.toList_append, String.toList_append, hq, List.append_assoc, key_plain hk]
    simp
  have hafter := values_plain ha []
  rw [List.append_nil] at hafter
  rw [readLine, hkey, String.ofList_toList, String.toList_append, String.toList_append,
    List.append_assoc, values_plain hk, values_quotes hne, hafter]
  exact congrArg (d.takeLine key) (List.append_nil values)

theorem readLine_kind (kind : LineKind) {after : String} (ha : '\'' ∉ after.toList)
    (value : String) (d : Draft) :
    readLine (kind.key ++ quote value ++ after).toList d = d.take kind [value] :=
  (readLine_values kind.key_no_mark ha (List.cons_ne_nil value []) d).trans (d.takeLine_key kind _)

theorem readLine_kind_plain (kind : LineKind) (d : Draft) :
    readLine kind.key.toList d = d.take kind [] :=
  (readLine_plain kind.key_no_mark d).trans (d.takeLine_key kind [])

/-- A line of no kind adds nothing, with a literal or without. -/
theorem readLine_other {key after : String} (hk : '\'' ∉ key.toList)
    (ho : LineKind.ofKey? key = none) (ha : '\'' ∉ after.toList) (value : String) (d : Draft) :
    readLine (key ++ quote value ++ after).toList d = d :=
  (readLine_values hk ha (List.cons_ne_nil value []) d).trans (d.takeLine_other ho _)

theorem readLine_other_plain {line : String} (h : '\'' ∉ line.toList)
    (ho : LineKind.ofKey? line = none) (d : Draft) : readLine line.toList d = d :=
  (readLine_plain h d).trans (d.takeLine_other ho [])

theorem readLines_append (xs ys : List String) (d : Draft) :
    readLines (xs ++ ys) d = readLines xs (readLines ys d) :=
  List.foldr_append

theorem readLines_nil (d : Draft) : readLines [] d = d := rfl

theorem readLines_cons (line : String) (lines : List String) (d : Draft) :
    readLines (line :: lines) d = readLine line.toList (readLines lines d) :=
  rfl

theorem readLines_description {indent : String} {kind : LineKind}
    (h : indent ++ "description: " = kind.key) (description : Option String) (d : Draft) :
    readLines (descriptionLine indent description) d =
      match described? description with
      | some text => d.take kind [text]
      | none => d := by
  rw [descriptionLine]
  cases described? description with
  | none => rfl
  | some text =>
    rw [readLines_cons, readLines_nil, h]
    exact readLine_kind kind (by decide) text d

/-- The lines of a field put this field in front of those read before. -/
theorem readLines_property (f : Field String) (records : List RecordDoc) (current : RecordDoc) :
    readLines (propertyLines f) ⟨records, current, blankField⟩ =
      ⟨records, { current with fields := documentedField f :: current.fields }, blankField⟩ := by
  have hname (d : Draft) : readLine ("        name: " ++ quote f.name ++ ",").toList d =
      d.take .fieldName [f.name] :=
    readLine_kind .fieldName (by decide) f.name d
  have htype (d : Draft) : readLine ("        type: " ++ quote f.typeRef ++ ",").toList d =
      d.take .fieldType [f.typeRef] :=
    readLine_kind .fieldType (by decide) f.typeRef d
  have hrequired (d : Draft) :
      readLine ("        required: " ++ (if f.required then "true" else "false") ++ ",").toList d =
        { d with field := { d.field with required := f.required } } := by
    cases f.required with
    | true => exact readLine_kind_plain .required d
    | false => exact readLine_kind_plain .optional d
  have hopen (d : Draft) : readLine ("      \x7b").toList d = d.take .field [] :=
    readLine_kind_plain .field d
  have hclose (d : Draft) : readLine ("      \x7d,").toList d = d :=
    readLine_other_plain (by decide) (by decide +kernel) d
  have hdescription : readLines (descriptionLine "        " f.description)
      ⟨records, current, blankField⟩ =
        ⟨records, current, { blankField with description := described? f.description }⟩ := by
    have hkey : "        " ++ "description: " = LineKind.fieldDescription.key := by decide
    rw [readLines_description hkey]
    cases described? f.description with
    | none => rfl
    | some text => rfl
  simp only [propertyLines, readLines_append, readLines_cons, readLines_nil, hclose, hdescription,
    hrequired, htype, hname, hopen]
  rfl

theorem readLines_fields (fields : List (Field String)) (records : List RecordDoc)
    (current : RecordDoc) :
    readLines (fields.flatMap propertyLines) ⟨records, current, blankField⟩ =
      ⟨records, { current with fields := fields.map documentedField ++ current.fields },
        blankField⟩ := by
  induction fields with
  | nil => rfl
  | cons f fields ih =>
    rw [List.flatMap_cons, readLines_append, ih, readLines_property]
    rfl

theorem readLines_extends (t : TypeDecl String) (records : List RecordDoc)
    (fields : List (Field String)) :
    readLines (extendsLine t) ⟨records, { fields }, blankField⟩ =
      ⟨records, { parents := sortTexts t.parents, fields }, blankField⟩ := by
  rw [extendsLine]
  by_cases h : t.parents.isEmpty
  · have hnone : sortTexts t.parents = [] := by rw [List.isEmpty_iff.mp h, sortTexts, List.mergeSort_nil]
    rw [if_pos h, hnone]
    rfl
  · have hsome : sortTexts t.parents ≠ [] := fun he =>
      h (List.isEmpty_iff.mpr (List.nil_perm.mp (he ▸ sortTexts_perm t.parents)))
    have hline (d : Draft) := readLine_values LineKind.parents.key_no_mark
      (show '\'' ∉ ("],").toList by decide) hsome d
    rw [if_neg h, readLines_cons, readLines_nil]
    exact (hline _).trans (Draft.takeLine_key _ .parents _)

/-- The lines of a record put this record in front of those read before, and leave nothing over for the
record in front of it. -/
theorem readLines_record (t : TypeDecl String) (records : List RecordDoc) :
    readLines (recordLines t) ⟨records, {}, blankField⟩ =
      ⟨documented t :: records, {}, blankField⟩ := by
  have hopen (d : Draft) : readLine ("  " ++ quote t.name ++ ": \x7b").toList d =
      d.take .record [t.name] :=
    readLine_kind .record (by decide) t.name d
  have hname (d : Draft) : readLine ("    name: " ++ quote t.name ++ ",").toList d = d :=
    readLine_other (by decide) (by decide +kernel) (by decide) t.name d
  have htype (d : Draft) : readLine ("    type: " ++ quote "interface" ++ ",").toList d = d :=
    readLine_other (by decide) (by decide +kernel) (by decide) "interface" d
  have hliteral : "    type: 'interface'," = "    type: " ++ quote "interface" ++ "," := by decide
  have hproperties (d : Draft) : readLine ("    properties: [").toList d = d :=
    readLine_other_plain (by decide) (by decide +kernel) d
  have hends (d : Draft) : readLine ("    ],").toList d = d :=
    readLine_other_plain (by decide) (by decide +kernel) d
  have hclose (d : Draft) : readLine ("  \x7d,").toList d = d :=
    readLine_other_plain (by decide) (by decide +kernel) d
  have hdescription : readLines (descriptionLine "    " t.description)
      ⟨records, { parents := sortTexts t.parents, fields := t.fields.map documentedField },
        blankField⟩ =
      ⟨records, { description := described? t.description
                  parents := sortTexts t.parents
                  fields := t.fields.map documentedField }, blankField⟩ := by
    have hkey : "    " ++ "description: " = LineKind.recordDescription.key := by decide
    rw [readLines_description hkey]
    cases described? t.description with
    | none => rfl
    | some text => rfl
  have hfields : readLines (t.fields.flatMap propertyLines) ⟨records, {}, blankField⟩ =
      ⟨records, { fields := t.fields.map documentedField }, blankField⟩ := by
    rw [readLines_fields, List.append_nil]
  simp only [recordLines, readLines_append, readLines_cons, readLines_nil, hclose, hends, hfields,
    hproperties, readLines_extends, hdescription, hliteral, htype, hname, hopen]
  rfl

theorem readLines_records (types : List (TypeDecl String)) :
    readLines (types.flatMap recordLines) {} = ⟨types.map documented, {}, blankField⟩ := by
  induction types with
  | nil => rfl
  | cons t types ih =>
    rw [List.flatMap_cons, readLines_append, ih, readLines_record]
    rfl

def IsLine (text : String) : Prop := '\n' ∉ text.toList

instance (text : String) : Decidable (IsLine text) := inferInstanceAs (Decidable (¬ _))

theorem IsLine.append {a b : String} (ha : IsLine a) (hb : IsLine b) : IsLine (a ++ b) := by
  rw [IsLine, String.toList_append, List.mem_append, not_or]
  exact ⟨ha, hb⟩

theorem IsLine.joinTexts {sep : String} (hs : IsLine sep) {texts : List String}
    (h : ∀ text ∈ texts, IsLine text) : IsLine (joinTexts sep texts) := by
  induction texts with
  | nil => exact List.not_mem_nil
  | cons first rest ih =>
    rw [List.forall_mem_cons] at h
    by_cases hr : rest = []
    · subst hr
      exact h.1
    · rw [joinTexts_cons _ _ hr]
      exact (h.1.append hs).append (ih h.2)

theorem isLine_value {before after : String} (hb : IsLine before) (ha : IsLine after)
    (value : String) : IsLine (before ++ quote value ++ after) :=
  (hb.append (quote_no_lineFeed value)).append ha

theorem descriptionLine_isLine {indent : String} (h : IsLine indent) (description : Option String) :
    ∀ line ∈ descriptionLine indent description, IsLine line := by
  rw [descriptionLine]
  cases described? description with
  | none => exact List.forall_mem_nil _
  | some text =>
    exact List.forall_mem_singleton.mpr (isLine_value (h.append (by decide)) (by decide) text)

theorem propertyLines_isLine (f : Field String) : ∀ line ∈ propertyLines f, IsLine line := by
  have hrequired : IsLine ("        required: " ++ (if f.required then "true" else "false") ++ ",") := by
    cases f.required with
    | true => decide
    | false => decide
  rw [propertyLines]
  simp only [List.forall_mem_append, List.forall_mem_cons]
  exact ⟨⟨⟨by decide, isLine_value (by decide) (by decide) f.name,
    isLine_value (by decide) (by decide) f.typeRef, hrequired, List.forall_mem_nil _⟩,
    descriptionLine_isLine (by decide) f.description⟩, by decide, List.forall_mem_nil _⟩

theorem extendsLine_isLine (t : TypeDecl String) : ∀ line ∈ extendsLine t, IsLine line := by
  have hquotes : IsLine (joinTexts ", " ((sortTexts t.parents).map quote)) := by
    refine IsLine.joinTexts (by decide) ?_
    intro text ht
    obtain ⟨parent, -, rfl⟩ := List.mem_map.mp ht
    exact quote_no_lineFeed parent
  rw [extendsLine]
  split_ifs with h
  · exact List.forall_mem_nil _
  · have hline : IsLine ("    extends: [" ++ joinTexts ", " ((sortTexts t.parents).map quote) ++ "],") :=
      (IsLine.append (by decide) hquotes).append (by decide)
    exact List.forall_mem_singleton.mpr hline

theorem recordLines_isLine (t : TypeDecl String) : ∀ line ∈ recordLines t, IsLine line := by
  have hfields : ∀ line ∈ t.fields.flatMap propertyLines, IsLine line := by
    intro line hl
    obtain ⟨f, -, hf⟩ := List.mem_flatMap.mp hl
    exact propertyLines_isLine f line hf
  have hname : IsLine ("    name: " ++ quote t.name ++ ",") :=
    isLine_value (by decide) (by decide) t.name
  have hopen : IsLine ("  " ++ quote t.name ++ ": \x7b") :=
    isLine_value (by decide) (by decide) t.name
  intro line hl
  simp only [recordLines, List.mem_append] at hl
  rcases hl with ((((hl | hl) | hl) | hl) | hl) | hl
  · have hall : ∀ line ∈ ["  " ++ quote t.name ++ ": \x7b", "    name: " ++ quote t.name ++ ",",
        "    type: 'interface',"], IsLine line := by
      rw [List.forall_mem_cons, List.forall_mem_cons, List.forall_mem_singleton]
      exact ⟨hopen, hname, by decide⟩
    exact hall line hl
  · exact descriptionLine_isLine (by decide) t.description line hl
  · exact extendsLine_isLine t line hl
  · have hall : ∀ line ∈ ["    properties: ["], IsLine line := by decide
    exact hall line hl
  · exact hfields line hl
  · have hall : ∀ line ∈ ["    ],", "  \x7d,"], IsLine line := by decide
    exact hall line hl

/-- The block is read back: one record after another, each as it is documented. -/
theorem readStorybook_storybookText (types : List (TypeDecl String)) :
    readStorybook (storybookText types) = (recordsOf types).map documented := by
  have hlines : ∀ line ∈ storybookHeader ++ (recordsOf types).flatMap recordLines ++ ["\x7d;"],
      IsLine line := by
    rw [List.forall_mem_append, List.forall_mem_append]
    refine ⟨⟨by decide +kernel, ?_⟩, by decide⟩
    intro line hl
    obtain ⟨t, -, ht⟩ := List.mem_flatMap.mp hl
    exact recordLines_isLine t line ht
  have hcut : ((storybookText types).toList.splitOn '\n').map String.ofList =
      storybookHeader ++ (recordsOf types).flatMap recordLines ++ ["\x7d;"] := by
    have hsep : ("\n" : String).toList = ['\n'] := rfl
    have hback : String.ofList ∘ String.toList = id := funext fun _ => String.ofList_toList
    have hne : storybookHeader ++ (recordsOf types).flatMap recordLines ++ ["\x7d;"] ≠ [] :=
      List.append_ne_nil_of_right_ne_nil _ (List.cons_ne_nil _ _)
    have hsplit := splitOn_joinTexts hsep hne hlines
    exact (congrArg (List.map String.ofList) hsplit).trans (by rw [List.map_map, hback, List.map_id])
  have hlast (d : Draft) : readLine ("\x7d;").toList d = d :=
    readLine_other_plain (by decide) (by decide +kernel) d
  simp only [readStorybook, hcut, List.append_assoc, List.drop_left]
  rw [readLines_append, readLines_cons, readLines_nil, hlast, readLines_records]

theorem described_described (description : Option String) :
    described? (described? description) = described? description := by
  rw [described?, described?, Option.filter_filter]
  simp

theorem propertyLines_documented (f : Field String) :
    propertyLines (documentedField f) = propertyLines f := by
  have hdescription : descriptionLine "        " (described? f.description) =
      descriptionLine "        " f.description := by
    rw [descriptionLine, descriptionLine, described_described]
  rw [propertyLines, propertyLines, documentedField, hdescription]

theorem documented_eq_iff {a b : TypeDecl String} : documented a = documented b ↔ SameDocs a b := by
  constructor
  · intro h
    obtain ⟨hname, hdescription, hparents, hfields⟩ := RecordDoc.mk.inj h
    have hperm := (sortTexts_perm a.parents).symm.trans (hparents ▸ sortTexts_perm b.parents)
    exact ⟨hname, hdescription, hperm, hfields⟩
  · intro h
    rw [documented, documented, h.name, h.description, sortTexts_eq_of_perm h.parents, h.fields]

theorem SameDocs.recordLines_eq {a b : TypeDecl String} (h : SameDocs a b) :
    recordLines a = recordLines b := by
  have hextends : extendsLine a = extendsLine b := by
    rw [extendsLine, extendsLine, h.parents.isEmpty_eq, sortTexts_eq_of_perm h.parents]
  have hlines (t : TypeDecl String) : t.fields.flatMap propertyLines =
      (t.fields.map documentedField).flatMap propertyLines := by
    rw [List.flatMap_map]
    simp only [propertyLines_documented]
  rw [recordLines, recordLines, h.name, hextends, descriptionLine, descriptionLine, h.description,
    hlines, hlines, h.fields]

theorem flatMap_recordLines_eq {records others : List (TypeDecl String)}
    (h : List.Forall₂ SameDocs records others) :
    records.flatMap recordLines = others.flatMap recordLines := by
  induction h with
  | nil => rfl
  | cons hd _ ih => rw [List.flatMap_cons, List.flatMap_cons, hd.recordLines_eq, ih]

/-- The block tells of every record its name, description, parents and fields, in order, whatever
characters are in them, and it tells nothing else. -/
theorem storybook_faithful (types : List (TypeDecl String)) :
    readStorybook (storybookText types) = (recordsOf types).map documented ∧
    ∀ others, storybookText types = storybookText others ↔
      List.Forall₂ SameDocs (recordsOf types) (recordsOf others) := by
  constructor
  · exact readStorybook_storybookText types
  · intro others
    constructor
    · intro h
      have hread : (recordsOf types).map documented = (recordsOf others).map documented := by
        rw [← readStorybook_storybookText, ← readStorybook_storybookText, h]
      rw [← List.forall₂_eq_eq_eq, List.forall₂_map_left_iff, List.forall₂_map_right_iff] at hread
      exact hread.imp fun _ _ => documented_eq_iff.mp
    · intro h
      exact congrArg (fun lines => joinTexts "\n" (storybookHeader ++ lines ++ ["\x7d;"]))
        (flatMap_recordLines_eq h)

end SampleTypes.TypeScript
