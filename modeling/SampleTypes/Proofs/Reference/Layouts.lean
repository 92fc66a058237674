import SampleTypes.Proofs.Basic
import SampleTypes.Reference.Load
import SampleTypes.Sample

/-!
The two layouts of a reference document, and schemas written to one of them. Main result: schemas
with names of their own that were read from a document are written to a block from which the same
schemas are read, and a document that maps names to fields is read as the one with each of these
mappings as the declared fields of an entry in a block.
-/

namespace SampleTypes

/-- A record counts as true just if it has entries, also when it is seen as a tree. -/
class LawfulSampled (α : Type) [Sampled α] : Prop where
  truthy_record {x : α} {entries : List (Scalar × α)} (h : Sampled.layer x = .record entries) :
    (Sampled.toValue x).truthy = !entries.isEmpty

instance : LawfulSampled Value where
  truthy_record {x entries} h := by
    cases x with
    | map es =>
      cases h
      rfl
    | scalar | list | pair | set | again => cases h

instance : LawfulSampled Place where
  truthy_record {x entries} h := by
    obtain ⟨graph, item⟩ := x
    change Place.layer _ = _ at h
    change (Place.expand graph _ [] item).truthy = _
    cases item with
    | pair a b => cases h
    | node id =>
      cases hn : Place.node graph id with
      | map es =>
        simp only [Place.layer, hn, Layer.record.injEq] at h
        simp [Place.expand, hn, Value.truthy, ← h]
      | scalar | list | set => simp [Place.layer, hn] at h

def Schema.tidied (schema : Schema Value) : Schema Value :=
  { schema with
    modulePath := schema.modulePath.filter Value.truthy
    typeOverride := schema.typeOverride.filter Value.truthy
    description := schema.description.filter Value.truthy }

/-- The schemas in the block of a document, where for one name there is one entry. -/
def Matcher.document (m : Matcher Value) : Value :=
  let entries := m.foldl (fun found s => putValue s.name s.entry found) []
  .map [(.text "references", .map (entries.map fun e => (.text e.1, e.2)))]

namespace Reference

section Fields

variable {α : Type} [Sampled α]

def putField (fields : List (String × String)) (entry : Scalar × α) :
    Except DocumentFault (List (String × String)) :=
  if entry.1.isWritable && (Sampled.toValue entry.2).isWritable then
    .ok (putValue entry.1.toText (Sampled.toValue entry.2).toText fields)
  else .error .numberTooLong

theorem fieldTexts_eq (entries : List (Scalar × α)) :
    fieldTexts entries = entries.foldlM putField [] := rfl

theorem putFields_nodup {entries : List (Scalar × α)} {fields all : List (String × String)}
    (hd : (fields.map Prod.fst).Nodup) (h : entries.foldlM putField fields = .ok all) :
    (all.map Prod.fst).Nodup := by
  induction entries generalizing fields with
  | nil =>
    cases h
    exact hd
  | cons e rest ih =>
    rw [List.foldlM_cons, bind_eq_ok] at h
    obtain ⟨more, hput, hrest⟩ := h
    unfold putField at hput
    split at hput
    · cases hput
      exact ih (nodup_putValue hd _) hrest
    · cases hput

theorem fieldTexts_nodup {entries : List (Scalar × α)} {fields : List (String × String)}
    (h : fieldTexts entries = .ok fields) : (fields.map Prod.fst).Nodup := by
  have hnil : (([] : List (String × String)).map Prod.fst).Nodup := List.Pairwise.nil
  exact putFields_nodup hnil h

def textEntries (fields : List (String × String)) : List (Scalar × Value) :=
  fields.map fun f => (.text f.1, .scalar (.text f.2))

theorem putFields_texts (texts fields : List (String × String)) :
    (textEntries texts).foldlM putField fields =
      .ok (texts.foldl (fun found f => putValue f.1 f.2 found) fields) := by
  induction texts generalizing fields with
  | nil => rfl
  | cons f rest ih => exact ih _

theorem fieldTexts_texts {texts : List (String × String)} (hd : (texts.map Prod.fst).Nodup) :
    fieldTexts (textEntries texts) = .ok texts := by
  rw [fieldTexts_eq, putFields_texts, foldl_putValue (by simpa using hd)]
  simp

end Fields

section Reading

variable {α : Type} [Sampled α]

theorem schemaOf_fields {structured : Bool} {name : Scalar} {entry : α} {schema : Schema Value}
    (h : schemaOf structured name entry = .ok schema) :
    ∃ entries : List (Scalar × α), fieldTexts entries = .ok schema.fields := by
  unfold schemaOf at h
  cases hw : name.isWritable with
  | false =>
    rw [hw] at h
    cases h
  | true =>
    rw [hw] at h
    cases hr : record? entry with
    | none =>
      rw [hr] at h
      cases h
    | some entries =>
      rw [hr] at h
      cases structured with
      | true =>
        obtain ⟨declared, -, h⟩ := bind_eq_ok.mp h
        obtain ⟨fields, hf, h⟩ := bind_eq_ok.mp h
        cases h
        exact ⟨declared, hf⟩
      | false =>
        obtain ⟨fields, hf, h⟩ := bind_eq_ok.mp h
        cases h
        exact ⟨entries, hf⟩

theorem schemasOf_cons_ok {structured : Bool} {name : Scalar} {entry : α}
    {rest : List (Scalar × α)} {schemas : Matcher Value}
    (h : (schemasOf structured ((name, entry) :: rest)).2 = .ok schemas) :
    ∃ schema others, schemas = schema :: others ∧ schemaOf structured name entry = .ok schema ∧
      (schemasOf structured rest).2 = .ok others ∧
      (schemasOf structured ((name, entry) :: rest)).1 =
        presenceEntry schema ++ (schemasOf structured rest).1 := by
  cases hs : schemaOf structured name entry with
  | error e => simp [schemasOf, hs] at h
  | ok schema =>
    simp only [schemasOf, hs] at h ⊢
    obtain ⟨others, ho, rfl⟩ := map_eq_ok.mp h
    exact ⟨schema, others, rfl, rfl, ho, rfl⟩

/-- Of schemas that were read, each has a name for a field only once, and for each of them is logged
what its fields call for. -/
structure WasRead (log : List LogEntry) (schemas : Matcher Value) : Prop where
  fields : ∀ s ∈ schemas, (s.fields.map Prod.fst).Nodup
  log : log = schemas.flatMap presenceEntry

theorem schemasOf_read {structured : Bool} {entries : List (Scalar × α)} {schemas : Matcher Value}
    (h : (schemasOf structured entries).2 = .ok schemas) :
    WasRead (schemasOf structured entries).1 schemas := by
  induction entries generalizing schemas with
  | nil =>
    cases h
    exact ⟨nofun, rfl⟩
  | cons e rest ih =>
    obtain ⟨schema, others, rfl, hs, hrest, hlog⟩ := schemasOf_cons_ok h
    obtain ⟨hfields, hothers⟩ := ih hrest
    obtain ⟨declared, hd⟩ := schemaOf_fields hs
    refine ⟨List.forall_mem_cons.mpr ⟨fieldTexts_nodup hd, hfields⟩, ?_⟩
    rw [hlog, hothers, List.flatMap_cons]

theorem parse_read {doc : α} {schemas : Matcher Value} (h : (parse doc).2 = .ok schemas) :
    WasRead (parse doc).1 schemas := by
  unfold parse at h ⊢
  split at h
  · cases h
    exact ⟨nofun, rfl⟩
  · split at h
    · exact schemasOf_read h
    · exact schemasOf_read h
  · cases h

end Reading

section Declaring

variable {α : Type} [Sampled α]

theorem record_eq {x : α} {entries : List (Scalar × α)} (h : Sampled.layer x = .record entries) :
    record? x = some entries := by
  rw [record?, h]

def declaredTexts (name : Scalar) (declared : List (Scalar × α)) :
    Except DocumentFault (List (String × String)) :=
  if name.isWritable then fieldTexts declared else .error .numberTooLong

theorem schemaOf_flat (name : Scalar) {x : α} {declared : List (Scalar × α)}
    (hx : Sampled.layer x = .record declared) :
    schemaOf false name x = (declaredTexts name declared).map fun fields =>
      { name := name.toText, fields := fields } := by
  unfold schemaOf declaredTexts
  rw [record_eq hx]
  cases hw : name.isWritable with
  | false => rfl
  | true =>
    simp only [Bool.not_true, Bool.false_eq_true, if_false, if_true]
    cases fieldTexts declared <;> rfl

variable [LawfulSampled α]

/-- A mapping under `fields` declares what it holds, also if that is nothing. -/
theorem declaredFields_record {name : Scalar} {entries declared : List (Scalar × α)} {x : α}
    (hf : underText? "fields" entries = some x) (hx : Sampled.layer x = .record declared) :
    declaredFields name entries = .ok declared := by
  have ht := LawfulSampled.truthy_record hx
  cases declared with
  | nil => simp [declaredFields, hf, ht]
  | cons d rest => simp [declaredFields, hf, ht, record_eq hx]

theorem schemaOf_declared (name : Scalar) {entry x : α} {entries declared : List (Scalar × α)}
    (he : Sampled.layer entry = .record entries) (hf : underText? "fields" entries = some x)
    (hx : Sampled.layer x = .record declared) :
    schemaOf true name entry = (declaredTexts name declared).map fun fields =>
      { name := name.toText
        fields := fields
        modulePath := optional? "module" entries
        typeOverride := optional? "type" entries
        description := optional? "description" entries } := by
  unfold schemaOf declaredTexts
  rw [record_eq he]
  cases hw : name.isWritable with
  | false => rfl
  | true =>
    simp only [Bool.not_true, Bool.false_eq_true, if_false, if_true, declaredFields_record hf hx]
    cases ht : fieldTexts declared with
    | error e => simp [ht, bind, Except.bind, Except.map]
    | ok fields => simp [ht, bind, Except.bind, pure, Except.pure, Except.map]

end Declaring

section Writing

variable {α : Type} [Sampled α]

def optionalEntry (name : String) (v : Option Value) : List (Scalar × Value) :=
  match v with
  | some v => if v.truthy then [(.text name, v)] else []
  | none => []

def entryList (s : Schema Value) : List (Scalar × Value) :=
  (.text "fields", .map (textEntries s.fields)) :: optionalEntry "module" s.modulePath ++
    optionalEntry "type" s.typeOverride ++ optionalEntry "description" s.description

theorem entry_eq (s : Schema Value) : s.entry = .map (entryList s) := rfl

theorem underText_append (name : String) (xs ys : List (Scalar × Value)) :
    underText? name (xs ++ ys) = (underText? name xs).or (underText? name ys) := by
  induction xs with
  | nil => rfl
  | cons x xs ih =>
    obtain ⟨k, v⟩ := x
    cases k with
    | text k => by_cases hk : k = name <;> simp [underText?, hk, ih]
    | _ => simpa [underText?] using ih

theorem underText_optionalEntry (name other : String) (v : Option Value) :
    underText? other (optionalEntry name v) =
      if name = other then v.filter Value.truthy else none := by
  cases v with
  | none => simp [optionalEntry, underText?]
  | some v => cases ht : v.truthy <;> simp [optionalEntry, underText?, Option.filter, ht]

theorem optional_truthy {name : String} {entries : List (Scalar × Value)} {v : Option Value}
    (h : underText? name entries = v.filter Value.truthy) :
    optional? name entries = v.filter Value.truthy := by
  unfold optional?
  rw [h]
  cases hv : v.filter Value.truthy with
  | none => rfl
  | some w =>
    have ht : w.truthy = true := (Option.filter_eq_some_iff.mp hv).2
    cases w with
    | scalar s =>
      cases s with
      | null => cases ht
      | bool | int | float | text | date | moment | bytes => rfl
    | list | pair | map | set | again => rfl

/-- A written schema is read again, without what counts as false. -/
theorem schemaOf_entry {s : Schema Value} (h : (s.fields.map Prod.fst).Nodup) :
    schemaOf true (.text s.name) s.entry = .ok s.tidied := by
  have hfields : declaredTexts (.text s.name) (textEntries s.fields) = .ok s.fields :=
    fieldTexts_texts h
  have hmodule : underText? "module" (entryList s) = s.modulePath.filter Value.truthy := by
    simp [entryList, underText?, underText_append, underText_optionalEntry]
  have htype : underText? "type" (entryList s) = s.typeOverride.filter Value.truthy := by
    simp [entryList, underText?, underText_append, underText_optionalEntry]
  have hdescription : underText? "description" (entryList s) =
      s.description.filter Value.truthy := by
    simp [entryList, underText?, underText_append, underText_optionalEntry]
  rw [entry_eq, schemaOf_declared _ rfl rfl rfl, hfields, optional_truthy hmodule,
    optional_truthy htype, optional_truthy hdescription]
  rfl

theorem schemasOf_written {schemas : Matcher Value}
    (h : ∀ s ∈ schemas, (s.fields.map Prod.fst).Nodup) :
    schemasOf true (schemas.map fun s => (.text s.name, s.entry)) =
      (schemas.flatMap presenceEntry, .ok (schemas.map Schema.tidied)) := by
  induction schemas with
  | nil => rfl
  | cons s rest ih =>
    rw [List.forall_mem_cons] at h
    rw [List.map_cons, schemasOf, schemaOf_entry h.1]
    simp only [ih h.2]
    rfl

/-- In the block of a document the schemas have the places that they were put in. -/
theorem document_eq {schemas : Matcher Value} (h : schemas.names.Nodup) :
    schemas.document = .map [(.text "references",
      .map (schemas.map fun s => (.text s.name, s.entry)))] := by
  have hput : schemas.foldl (fun found s => putValue s.name s.entry found) [] =
      [] ++ schemas.map fun s => (s.name, s.entry) := foldl_putValue h
  rw [Matcher.document, hput, List.nil_append, List.map_map]
  rfl

theorem parse_document {doc : α} {schemas : Matcher Value} (h : (parse doc).2 = .ok schemas)
    (hn : schemas.names.Nodup) :
    parse schemas.document = ((parse doc).1, .ok (schemas.map Schema.tidied)) := by
  obtain ⟨hfields, hlog⟩ := parse_read h
  rw [hlog, document_eq hn, ← schemasOf_written hfields]
  rfl

end Writing

section Flat

variable {α : Type} [Sampled α]

/-- The document maps each name to the fields of a schema. -/
structure IsFlat (doc : α) (entries : List (Scalar × α)) : Prop where
  layer : Sampled.layer doc = .record entries
  unblocked : underText? "references" entries = none
  mappings : ∀ e ∈ entries, ∃ declared, Sampled.layer e.2 = .record declared

structure DeclaresSame (entry fields : Scalar × α) : Prop where
  name : entry.1 = fields.1
  layer : Sampled.layer entry.2 = .record [(.text "fields", fields.2)]

inductive IsStructured (doc : α) (entries : List (Scalar × α)) : Prop where
  | intro {block : α} {declared : List (Scalar × α)}
      (layer : Sampled.layer doc = .record [(.text "references", block)])
      (inside : Sampled.layer block = .record declared)
      (same : List.Forall₂ DeclaresSame declared entries)

variable [LawfulSampled α]

theorem schemaOf_same {entry fields : Scalar × α} (h : DeclaresSame entry fields)
    {declared : List (Scalar × α)} (hd : Sampled.layer fields.2 = .record declared) :
    schemaOf true entry.1 entry.2 = schemaOf false fields.1 fields.2 := by
  rw [schemaOf_declared _ h.layer rfl hd, schemaOf_flat _ hd, h.name]
  rfl

theorem schemasOf_same {declared entries : List (Scalar × α)}
    (h : List.Forall₂ DeclaresSame declared entries)
    (hm : ∀ e ∈ entries, ∃ declared, Sampled.layer e.2 = .record declared) :
    schemasOf true declared = schemasOf false entries := by
  induction h with
  | nil => rfl
  | @cons entry fields declared entries hs _ ih =>
    rw [List.forall_mem_cons] at hm
    obtain ⟨⟨inner, hi⟩, hm⟩ := hm
    rw [schemasOf, schemasOf, schemaOf_same hs hi, ih hm]

theorem parse_structured {flat structured : α} {entries : List (Scalar × α)}
    (hf : IsFlat flat entries) (hs : IsStructured structured entries) :
    parse structured = parse flat := by
  obtain ⟨layer, inside, same⟩ := hs
  rw [parse, parse, hf.layer, layer]
  simp [underText?, record_eq inside, hf.unblocked, schemasOf_same same hf.mappings]

end Flat

def inBlock (entries : List (Scalar × Value)) : Value :=
  .map [(.text "references", .map (entries.map fun e => (e.1, .map [(.text "fields", e.2)])))]

theorem inBlock_structured (entries : List (Scalar × Value)) :
    IsStructured (inBlock entries) entries := by
  refine .intro rfl rfl ?_
  rw [List.forall₂_map_left_iff, List.forall₂_same]
  intro e _
  exact ⟨rfl, rfl⟩

/-- Schemas with names of their own are read back from the block that they are written to, with the
same entries in the log. A document that maps names to fields is read as the one that has the same
mappings in a block, whether this gives schemas or a fault. -/
theorem layouts_agree {α : Type} [Sampled α] [LawfulSampled α] :
    (∀ (doc : α) (schemas : Matcher Value), (parse doc).2 = .ok schemas → schemas.names.Nodup →
      parse schemas.document = ((parse doc).1, .ok (schemas.map Schema.tidied))) ∧
    ∀ (flat structured : α) (entries : List (Scalar × α)), IsFlat flat entries →
      IsStructured structured entries → parse structured = parse flat :=
  ⟨fun _ _ h hn => parse_document h hn, fun _ _ _ hf hs => parse_structured hf hs⟩

/-- Fields may have the names of what an entry has beside them. -/
theorem entryNames_reread :
    let fields : List (String × String) :=
      [("fields", "string"), ("type", "any"), ("references", "number")]
    let schemas : Matcher Value :=
      [{ name := "references", fields := fields, modulePath := some (.scalar (.text ""))
         typeOverride := some (.scalar (.text "Odd")) }, { name := "fields" }]
    let doc : Value := .map [(.text "references", .map [
      (.text "references", .map [(.text "type", .scalar (.text "Odd")),
        (.text "fields", .map (textEntries fields)), (.text "module", .scalar (.text ""))]),
      (.text "fields", .map [])])]
    let entries : List (Scalar × Value) :=
      [(.text "fields", .map (textEntries fields)), (.text "type", .map [])]
    (parse doc).2 = .ok schemas ∧ schemas.names.Nodup ∧
      parse schemas.document = ((parse doc).1, .ok (schemas.map Schema.tidied)) ∧
      IsFlat (Value.map entries) entries ∧ IsStructured (inBlock entries) entries ∧
      parse (inBlock entries) = parse (Value.map entries) := by
  intro fields schemas doc entries
  have hread : (parse doc).2 = .ok schemas := rfl
  have hnames : schemas.names.Nodup := by decide
  have hflat : IsFlat (Value.map entries) entries := by
    refine ⟨rfl, rfl, ?_⟩
    intro e he
    rcases List.mem_cons.mp he with rfl | he
    · exact ⟨_, rfl⟩
    · obtain rfl := List.mem_singleton.mp he
      exact ⟨_, rfl⟩
  have hstructured := inBlock_structured entries
  exact ⟨hread, hnames, layouts_agree.1 doc schemas hread hnames, hflat, hstructured,
    layouts_agree.2 _ _ entries hflat hstructured⟩

end Reference

end SampleTypes
