import SampleTypes.Catalog.Document
import SampleTypes.Proofs.Catalog.Reloading
import SampleTypes.Proofs.Inference.Report

/-!
What inference never gives a type: alternatives, parents and descriptions. So the document of an
inferred report leaves nothing out, and what is read from it has the same texts.
-/

namespace SampleTypes.Inference

/-- A record of which nothing is known but its fields. -/
structure Bare (t : TypeDecl String) : Prop where
  fieldsOnly : t = { name := t.name, fields := t.fields }
  undescribed : ∀ f ∈ t.fields, f.description = none

theorem Bare.reloaded {t : TypeDecl String} (h : Bare t) : t.reloaded = t := by
  have hf : t.fields.map Field.normalized = t.fields := by
    refine (List.map_congr_left fun f hm => ?_).trans (List.map_id _)
    simp only [Field.normalized, h.undescribed f hm]
    exact congrArg (Field.mk f.name f.typeRef f.required) (h.undescribed f hm).symm
  rw [h.fieldsOnly]
  simp only [TypeDecl.reloaded, TypeDecl.normalized, if_true, hf, sortTexts, List.mergeSort_nil]
  rfl

theorem Bare.texts {t : TypeDecl String} (h : Bare t) : (t.map Json.str).texts = t := by
  have hf : (t.fields.map fun f => (⟨f.name, f.typeRef, f.required,
      descriptionText (f.description.map Json.str)⟩ : Field String)) = t.fields := by
    refine (List.map_congr_left fun f hm => ?_).trans (List.map_id _)
    rw [h.undescribed f hm]
    exact congrArg (Field.mk f.name f.typeRef f.required) (h.undescribed f hm).symm
  rw [h.fieldsOnly]
  simp only [TypeDecl.texts, TypeDecl.map, List.map_map]
  exact congrArg (fun fields => ({ name := t.name, fields := fields } : TypeDecl String)) hf

theorem textOrEmpty_str (s : String) : textOrEmpty (.str s) = s := by
  have ht : (Json.str s).toText = s := rfl
  by_cases h : s = "" <;> simp [textOrEmpty, Json.truthy, ht, h]

section

variable {α τ : Type} [Sampled α]

def AllBare (ctx : Context) : Prop := ∀ t ∈ ctx.catalog, Bare t

theorem bareness (refs : Matcher τ) : Contract refs
    (fun (_ : α) _ _ ctx c => AllBare ctx → AllBare c.context)
    (fun _ _ ctx c => AllBare ctx → AllBare c.context ∧
      ∀ fields, c.answer = .ok fields → ∀ f ∈ fields, f.description = none) where
  failed _ _ _ _ _ h := h
  plain _ _ _ _ _ _ _ h := h
  list _ _ _ _ _ _ _ _ _ _ hc h := hc h
  pinned _ _ _ _ _ _ _ _ _ h := h
  known _ _ _ _ _ _ _ _ _ h := h
  described _ _ hint _ ctx fields _ _ _ _ _ _ hq h := by
    obtain ⟨hn, hf⟩ := hq h
    intro t ht
    rcases Catalog.mem_register ht with ho | rfl
    · exact hn t ho
    · exact ⟨rfl, hf fields rfl⟩
  abandoned _ _ _ _ _ _ _ _ _ _ _ hq h := (hq h).1
  noFields _ _ h := by
    refine ⟨h, ?_⟩
    rintro _ ⟨⟩ f hf
    cases hf
  field entry _ _ _ typeRef _ _ c _ hp _ hq h := by
    obtain ⟨hn, hf⟩ := hq (hp h)
    refine ⟨hn, fun fields ha f hm => ?_⟩
    cases hc : c.answer with
    | error e => simp [hc, Except.map] at ha
    | ok more =>
      have he : fieldOf entry typeRef :: more = fields := by simpa [hc, Except.map] using ha
      rw [← he] at hm
      rcases List.mem_cons.mp hm with rfl | hm
      · rfl
      · exact hf more hc f hm
  failedField _ _ _ _ _ _ _ hp h := ⟨hp h, fun _ ha => by cases ha⟩

theorem run_bare {refs : Matcher τ} {settings : Settings} {x : α} {report : Report String}
    (h : (run refs settings x).2 = .ok report) : ∀ t ∈ report.types, Bare t := by
  obtain ⟨-, he⟩ := run_eq_ok h
  have hb : AllBare (runCourse refs settings x).context := by
    refine (bareness refs).holds _ x settings.rootName 0 _ ?_
    intro t ht
    cases ht
  intro t ht
  rw [he] at ht
  exact hb t ((orderTypes_perm _ _).mem_iff.mp ht)

theorem run_reloaded {refs : Matcher τ} {settings : Settings} {x : α} {report : Report String}
    (h : (run refs settings x).2 = .ok report) : report.reloaded = report := by
  have ht : report.types.map TypeDecl.reloaded = report.types :=
    (List.map_congr_left fun t hm => (run_bare h t hm).reloaded).trans (List.map_id _)
  simp only [Report.reloaded, ht]

/-- The texts of an inferred report that has been read are those of the report. -/
theorem run_texts {refs : Matcher τ} {settings : Settings} {x : α} {report : Report String}
    (h : (run refs settings x).2 = .ok report) : (report.map Json.str).texts = report := by
  have ht : (report.types.map (TypeDecl.map Json.str)).map TypeDecl.texts = report.types := by
    rw [List.map_map]
    exact (List.map_congr_left fun t hm => (run_bare h t hm).texts).trans (List.map_id _)
  simp only [Report.texts, Report.map, ht, textOrEmpty_str]

end

end SampleTypes.Inference
