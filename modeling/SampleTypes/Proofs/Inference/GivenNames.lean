import SampleTypes.Proofs.Inference.Description
import SampleTypes.Proofs.Inference.Report

/-!
Where the names of types come from. Each is made of the hint of the first call for a record of its
signature, so each looks like a name for a type. One of the primitive expressions looks like one too:
a record has its name just when a first call has a hint that comes to it, unless a schema has that name.
-/

namespace SampleTypes.Inference

section

variable {α τ : Type} [Sampled α] {refs : Matcher τ} {settings : Settings} {x : α}
  {report : Report String}

theorem run_described (h : (run refs settings x).2 = .ok report) {t : TypeDecl String}
    (ht : t ∈ report.types) : ∃ v entries, Describes refs (runCourse refs settings x).context
      (runCourse refs settings x).visits t v entries := by
  obtain ⟨ha, he⟩ := run_eq_ok h
  have hc : IsCall refs x settings.rootName 0 (freshContext refs.names settings.maxDepth)
      (runCourse refs settings x) := ⟨_, rfl⟩
  rw [he] at ht
  have hm := (orderTypes_perm _ _).mem_iff.mp ht
  rcases hc.described (fresh_bookkept refs.names _) ha t hm with hi | ⟨v, entries, hd, -⟩
  · cases hi
  · exact ⟨v, entries, hd⟩

theorem Describes.isTypeName {ctx : Context} {visits : List (Visit α)} {t : TypeDecl String}
    {v : Visit α} {entries : List (Scalar × α)} (h : Describes refs ctx visits t v entries) :
    IsTypeName t.name := by
  obtain ⟨n, hn⟩ := h.numbered
  exact hn ▸ Allocator.numbered_isTypeName (pascalCase_isTypeName v.hint) n

theorem run_names_given (h : (run refs settings x).2 = .ok report) {t : TypeDecl String}
    (ht : t ∈ report.types) : IsTypeName t.name := by
  obtain ⟨v, entries, hd⟩ := run_described h ht
  exact hd.isTypeName

theorem run_names_unreserved (h : (run refs settings x).2 = .ok report) {t : TypeDecl String}
    (ht : t ∈ report.types) : t.name ∉ refs.names := by
  have k := infer_advances refs x settings.rootName 0 (fresh_bookkept refs.names settings.maxDepth)
  exact k.bookkept.unreserved _ ((run_names_perm h).mem_iff.mp (List.mem_map_of_mem ht))

theorem run_names_distinct (h : (run refs settings x).2 = .ok report) :
    (report.types.map TypeDecl.name).Nodup := by
  have k := infer_advances refs x settings.rootName 0 (fresh_bookkept refs.names settings.maxDepth)
  exact (run_names_perm h).nodup_iff.mpr k.bookkept.names_distinct

/-- Where there are no schemas, the types of fields are words, or arrays of such. -/
theorem run_fieldTypes (hr : refs.names = []) (h : (run refs settings x).2 = .ok report)
    {t : TypeDecl String} (ht : t ∈ report.types) {f : Field String} (hf : f ∈ t.fields) :
    ∃ base dimensions, f.typeRef = arrayOf base dimensions ∧ base ≠ "" ∧
      ∀ c ∈ base.toList, c.isAlphanum = true := by
  obtain ⟨base, dimensions, he, hb⟩ := (run_closed h).fields t ht f hf
  refine ⟨base, dimensions, he, ?_⟩
  rcases hb with hp | hn | hs
  · have hall : ∀ p ∈ primitives, p ≠ "" ∧ p.toList.all Char.isAlphanum = true := by decide
    obtain ⟨hne, ha⟩ := hall base hp
    exact ⟨hne, List.all_eq_true.mp ha⟩
  · obtain ⟨u, hu, rfl⟩ := List.mem_map.mp hn
    have ht := run_names_given h hu
    refine ⟨?_, ht.alphanum⟩
    obtain ⟨c, cs, hc, -⟩ := ht
    exact fun he => by simp [he] at hc
  · rw [hr] at hs
    cases hs

end

/-- All primitive expressions but that of dates begin with a small letter. -/
theorem primitive_typeName {name : String} (hp : name ∈ primitives) (hn : IsTypeName name) :
    name = temporalType := by
  obtain ⟨c, cs, hc, hu, -⟩ := hn
  have hall : ∀ p ∈ primitives, (p.toList.head?.any Char.isUpper) = true → p = temporalType := by
    decide
  exact hall name hp (by simp [hc, hu])

section

variable {α τ : Type} [Sampled α] {refs : Matcher τ} {settings : Settings} {x : α}
  {report : Report String}

/-- What the hint of a first call comes to is the name of a type, unless a schema has it. -/
theorem introduced_named (h : (run refs settings x).2 = .ok report) {v : Visit α}
    {entries : List (Scalar × α)} (hv : Introduces refs (runCourse refs settings x).visits v entries)
    (hr : pascalCase v.hint ∉ refs.names) : ∃ t ∈ report.types, t.name = pascalCase v.hint := by
  obtain ⟨ha, -⟩ := run_eq_ok h
  have hb := fresh_bookkept refs.names settings.maxDepth
  have hc : IsCall refs x settings.rootName 0 (freshContext refs.names settings.maxDepth)
      (runCourse refs settings x) := ⟨_, rfl⟩
  have k := (hc.advances hb).bookkept
  have hp := run_names_perm h
  have hnamed {name : String} (hn : name ∈ (runCourse refs settings x).context.boundNames) :
      ∃ t ∈ report.types, t.name = name := List.mem_map.mp (hp.mem_iff.mpr hn)
  obtain ⟨before, after, hvisits, -⟩ := hv.first
  have hm : v ∈ (runCourse refs settings x).visits := by simp [hvisits]
  have hs := ((hc.stands hb).visits _ ha).named v hm entries hv.record
  obtain ⟨⟨signature, name⟩, hseen, hsignature⟩ := List.mem_map.mp hs
  obtain ⟨t, ht, hn⟩ := hnamed (List.mem_map_of_mem hseen)
  obtain ⟨w, others, hd⟩ := run_described h ht
  have he : fingerprint others = fingerprint entries := by
    have hpair := mem_of_valueOf hd.name
    rw [hn] at hpair
    have heq := List.inj_on_of_nodup_map k.names_distinct hpair hseen rfl
    exact (congrArg Prod.fst heq).trans hsignature
  obtain rfl := hd.toIntroduces.unique hv he
  exact hnamed (((k.taken _).mp hd.taken).resolve_left hr)

/-- A type that is named like a primitive expression has the name of dates. There is one just when the
first call for some signature has a hint that comes to that name, and no schema has it. -/
theorem confusable_name (h : (run refs settings x).2 = .ok report) :
    (∀ t ∈ report.types, t.name ∈ primitives → t.name = temporalType) ∧
      ((∃ t ∈ report.types, t.name ∈ primitives) ↔ temporalType ∉ refs.names ∧
        ∃ v entries, Introduces refs (runCourse refs settings x).visits v entries ∧
          pascalCase v.hint = temporalType) := by
  have hdate : ∀ t ∈ report.types, t.name ∈ primitives → t.name = temporalType :=
    fun t ht hp => primitive_typeName hp (run_names_given h ht)
  refine ⟨hdate, ?_, ?_⟩
  · rintro ⟨t, ht, hp⟩
    have hd := hdate t ht hp
    obtain ⟨v, entries, hv⟩ := run_described h ht
    obtain ⟨n, hn⟩ := hv.numbered
    refine ⟨hd ▸ run_names_unreserved h ht, v, entries, hv.toIntroduces, ?_⟩
    refine Allocator.numbered_eq_base (hn.symm.trans hd) fun c hc => ?_
    obtain rfl : 'e' = c := Option.some.inj hc
    rfl
  · rintro ⟨hr, v, entries, hv, hd⟩
    obtain ⟨t, ht, hn⟩ := introduced_named h hv (hd.symm ▸ hr)
    exact ⟨t, ht, by rw [hn, hd]; decide⟩

end

def datesSample : Value :=
  .map [(.text "date", .map [(.text "at", .scalar (.text "2024-01-01T00:00:00Z"))])]

def datesCatalog : Catalog String :=
  [{ name := "Date", fields := [{ name := "at", typeRef := "Date" }] },
    { name := "ApiResponse", fields := [{ name := "date", typeRef := "Date" }] }]

def datesReport : Report String where
  types := datesCatalog.reverse
  rootType := "ApiResponse"
  source := "parser"
  timestamp := ""

theorem datesCatalog_ordered :
    orderTypes datesCatalog (some "ApiResponse") = datesCatalog.reverse := by
  simp [orderTypes, datesCatalog, List.mergeSort, List.MergeSort.Internal.splitInTwo, rank, Rank.le]

theorem dates_run :
    (run ([] : Matcher String) { timestamp := "" } datesSample).2 = .ok datesReport := by
  have hr : (infer ([] : Matcher String) datesSample "ApiResponse" 0
      (initialContext ([] : Matcher String) none)).result = .ok "ApiResponse" := by
    decide +kernel
  have hc : (infer ([] : Matcher String) datesSample "ApiResponse" 0
      (initialContext ([] : Matcher String) none)).context.catalog = datesCatalog := by
    decide +kernel
  simp only [run, hr, hc, datesCatalog_ordered]
  rfl

/-- The field of the first type means the second one, and the field of that one means dates. -/
theorem date_record_confused :
    ∃ report, (run ([] : Matcher String) { timestamp := "" } datesSample).2 = .ok report ∧
      ∃ t ∈ report.types, t.name ∈ primitives :=
  ⟨datesReport, dates_run, datesCatalog[0], by simp [datesReport, datesCatalog], by decide⟩

theorem date_record_hinted :
    (run ([] : Matcher String) { timestamp := "" } datesSample).2 = .ok datesReport ∧
      ∃ v entries, Introduces ([] : Matcher String)
        (runCourse ([] : Matcher String) { timestamp := "" } datesSample).visits v entries ∧
        pascalCase v.hint = temporalType := by
  have hd : ∃ t ∈ datesReport.types, t.name ∈ primitives :=
    ⟨datesCatalog[0], by simp [datesReport, datesCatalog], by decide⟩
  exact ⟨dates_run, ((confusable_name dates_run).2.mp hd).2⟩

end SampleTypes.Inference
