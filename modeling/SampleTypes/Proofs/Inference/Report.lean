import SampleTypes.Proofs.Inference.Closure

/-!
What a run reports: the types of the context that its one call leaves, in the order of emission. The
report is closed, since a run that ends well has registered every name that it has bound.
-/

namespace SampleTypes.Inference

structure Closed {τ : Type} (refs : Matcher τ) (report : Report String) : Prop where
  root : RefersTo (report.types.map TypeDecl.name) refs.names report.rootType
  fields : ∀ t ∈ report.types, ∀ f ∈ t.fields,
    RefersTo (report.types.map TypeDecl.name) refs.names f.typeRef

section

variable {α τ : Type} [Sampled α]

def runCourse (refs : Matcher τ) (settings : Settings) (x : α) : Course α String :=
  course refs x settings.rootName 0 (freshContext refs.names settings.maxDepth)

theorem run_eq_ok {refs : Matcher τ} {settings : Settings} {x : α} {report : Report String}
    (h : (run refs settings x).2 = .ok report) :
    (runCourse refs settings x).answer = .ok report.rootType ∧
      report = ⟨orderTypes (runCourse refs settings x).context.catalog (some report.rootType),
        report.rootType, settings.source, settings.timestamp⟩ := by
  have hc : (infer refs x settings.rootName 0 (initialContext refs settings.maxDepth)).result =
      (runCourse refs settings x).answer := rfl
  unfold run at h
  cases hr : (runCourse refs settings x).answer with
  | error e =>
    simp only [hc, hr] at h
    cases h
  | ok root =>
    simp only [hc, hr] at h
    obtain rfl := Except.ok.inj h
    exact ⟨rfl, rfl⟩

/-- The types of a report are those with a name bound in the run. -/
theorem run_names_perm {refs : Matcher τ} {settings : Settings} {x : α} {report : Report String}
    (h : (run refs settings x).2 = .ok report) :
    (report.types.map TypeDecl.name).Perm (runCourse refs settings x).context.boundNames := by
  obtain ⟨ha, he⟩ := run_eq_ok h
  have k := infer_advances refs x settings.rootName 0 (fresh_bookkept refs.names settings.maxDepth)
  have hp := k.bookkept.registered_perm (k.complete (fresh_complete refs.names _) ha)
  rw [he]
  exact ((orderTypes_perm _ _).map TypeDecl.name).trans hp

theorem run_refers (refs : Matcher τ) (settings : Settings) (x : α) :
    CallRefers refs x (runCourse refs settings x) := by
  refine (closure refs refs.names).holds _ x settings.rootName 0 _ (fresh_bookkept _ _) ?_
  intro t ht
  simp [freshContext] at ht

theorem run_closed {refs : Matcher τ} {settings : Settings} {x : α} {report : Report String}
    (h : (run refs settings x).2 = .ok report) : Closed refs report := by
  obtain ⟨ha, he⟩ := run_eq_ok h
  have hp := run_names_perm h
  have hr := run_refers refs settings x
  constructor
  · exact (hr.answer _ ha).mono fun name hn => hp.mem_iff.mpr hn
  · intro t ht f hf
    rw [he] at ht
    have hm := (orderTypes_perm _ _).mem_iff.mp ht
    exact (hr.fields t hm f hf).mono fun name hn => hp.mem_iff.mpr hn

/-- A report refers to nothing outside it but primitives and schemas. The type of a record that no
schema pins comes first. -/
theorem report_closed {refs : Matcher τ} {settings : Settings} {x : α} {report : Report String}
    (h : (run refs settings x).2 = .ok report) :
    Closed refs report ∧ ∀ entries, Sampled.layer x = .record entries →
      report.rootType ∉ refs.names →
        ∃ t rest, report.types = t :: rest ∧ t.name = report.rootType := by
  obtain ⟨ha, he⟩ := run_eq_ok h
  have hp := run_names_perm h
  refine ⟨run_closed h, fun entries hl hs => ?_⟩
  have hb := ((run_refers refs settings x).record entries _ hl ha).resolve_right hs
  have hm : report.rootType ∈ (runCourse refs settings x).context.catalog.map TypeDecl.name := by
    have hn := hp.mem_iff.mpr hb
    rw [he] at hn
    exact ((orderTypes_perm _ _).map TypeDecl.name).mem_iff.mp hn
  obtain ⟨t, rest, ho, hn⟩ := root_first hm
  exact ⟨t, rest, by rw [he, ho], hn⟩

def pagesSample : Value :=
  .map [(.text "pages", .list [.list [.map [(.text "no", .scalar (.int 1))]]])]

def pageSchemas : Matcher String := [{ name := "Page", fields := [("no", "number")] }]

def pagesReport : Report String where
  types := [{ name := "ApiResponse", fields := [{ name := "pages", typeRef := "Page[][]" }] }]
  rootType := "ApiResponse"
  source := "parser"
  timestamp := ""

theorem pages_report_closed :
    (run pageSchemas { timestamp := "" } pagesSample).2 = .ok pagesReport ∧
      Closed pageSchemas pagesReport ∧
      ∃ t rest, pagesReport.types = t :: rest ∧ t.name = pagesReport.rootType := by
  have h : (run pageSchemas { timestamp := "" } pagesSample).2 = .ok pagesReport := by
    decide +kernel
  have k := report_closed h
  exact ⟨h, k.1, k.2 _ rfl (by decide)⟩

end

end SampleTypes.Inference
