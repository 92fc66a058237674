import SampleTypes.Proofs.Catalog.Reloading
import SampleTypes.Proofs.Command.Success
import SampleTypes.Proofs.Inference.BareTypes

/-!
The stages of the commands. What a stage gives depends on the files only, and what it does to them is
said by a function of theirs; of the stages that end well only those that write change anything. Reports
go through a file in normal form; an inferred report comes back as it was.
-/

namespace SampleTypes.Command

theorem readText_printed {cs : List Char} (hc : Json.Printed cs) {path : String} {s : Session}
    (hf : s.files.read path = .ok (Text.encodeUtf8 cs)) :
    (Run.readText path).run.run s = (.ok (.ok cs), s) := by
  have hd := Text.decodeUtf8_ascii hc.ascii
  have hn := Text.normalizeLines_self hc.no_return
  rw [Run.readText, Run.bind_ok (Run.files_run s)]
  simp only [hf, hd, hn]
  rfl

/-- Loading a file with the document of a report changes nothing and gives the report that the
document is read as. -/
theorem loadReport_toJsonText (r : Report String) (indent : Option Nat) {path : String}
    {s : Session}
    (hf : s.files.read path = .ok (Text.encodeUtf8 (r.toJsonText indent).toList)) :
    (loadReport path).run.run s = (.ok (r.reloaded.map .str), s) := by
  have ht := readText_printed (r.toJsonText_printed indent) hf
  have hl := r.load_toJsonText indent
  rw [loadReport, Run.bind_ok ht]
  simp only [hl]
  rfl

/-- A report whose document is in a file is loaded in normal form, and an inferred one as it is.
Where parents are sets, the document of what is loaded is the one in the file. -/
theorem report_survives_file (r : Report String) (indent : Option Nat) (path : String) (s : Session)
    (hf : s.files.read path = .ok (Text.encodeUtf8 (r.toJsonText indent).toList)) :
    ∃ q : Report String, (loadReport path).run.run s = (.ok (q.map .str), s) ∧
      q.Alike r.normalized ∧
      (∀ {α τ : Type} [Sampled α] (refs : Matcher τ) (settings : Inference.Settings) (x : α),
        (Inference.run refs settings x).2 = .ok r → q = r) ∧
      ((∀ t ∈ r.types, t.parents.Nodup) →
        Report.decode r.toJson = .ok (q.map .str) ∧ (q.map Json.str).encode = .ok r.toJson) := by
  refine ⟨r.reloaded, loadReport_toJsonText r indent hf, r.reloaded_alike, ?_, ?_⟩
  · intro α τ _ refs settings x hr
    exact Inference.run_reloaded hr
  · intro hp
    exact ⟨r.decode_toJson, Report.encode_reloaded hp⟩

def pagesSession : Session where
  files := { nodes := [(["pages.json"],
    .file (Text.encodeUtf8 (Inference.pagesReport.toJsonText (some 2)).toList))] }
  width := 80

theorem pages_report_survives :
    (loadReport "pages.json").run.run pagesSession =
        (.ok (Inference.pagesReport.map .str), pagesSession) ∧
      (Inference.pagesReport.map Json.str).encode = .ok Inference.pagesReport.toJson := by
  have hf : pagesSession.files.read "pages.json" =
      .ok (Text.encodeUtf8 (Inference.pagesReport.toJsonText (some 2)).toList) := by
    have hl : pagesSession.files.locate "pages.json" = .ok ["pages.json"] := by decide +kernel
    simp only [FileTree.read, FileTree.status, hl]
    rfl
  have hr : (Inference.run Inference.pageSchemas { timestamp := "" } Inference.pagesSample).2 =
      .ok Inference.pagesReport := by
    decide +kernel
  obtain ⟨q, hl, -, hq, he⟩ :=
    report_survives_file Inference.pagesReport (some 2) "pages.json" pagesSession hf
  obtain rfl := hq Inference.pageSchemas { timestamp := "" } Inference.pagesSample hr
  exact ⟨hl, (he (by simp [Inference.pagesReport])).2⟩

/-! What the stages take from the files. -/

def referencesIn (files : FileTree) : Option String → Option (Matcher Value)
  | none => some []
  | some path => (files.read path).toOption.bind fun bytes => (Reference.load path bytes).2.toOption

def reportIn (clock : Clock) (files : FileTree) (path rootName : String) (maxDepth : Option Int)
    (refs : Matcher Value) : Option (Report String) :=
  (files.read path).toOption.bind fun bytes =>
    (Sample.read path bytes).toOption.bind fun sample =>
      (sample.infer refs
        { rootName := rootName, source := Path.name path
          timestamp := clock.timestamp, maxDepth := maxDepth }).2.toOption

def templateIn (files : FileTree) : Option String → Option String
  | none => some TypeScript.interfaceTemplate
  | some path =>
    if files.exists? path then
      (files.read path).toOption.bind fun bytes =>
        (Text.decodeUtf8 bytes).toOption.map fun cs =>
          TypeScript.templateText (String.ofList (Text.normalizeLines cs))
    else some TypeScript.builtinTemplate

def writeDocs (files : FileTree) (directory html : String) : Except FileError FileTree := do
  let path := Path.join directory "index.html"
  let files ← files.makeDirectories directory
  let files ← files.writeText path ""
  files.writeText path html

section

variable {s t : Session}

theorem Ends.readText {path : String} {r : Except Trouble (List Char)}
    (h : Ends (Run.readText path) s r t) :
    s = t ∧ ∀ cs, r = .ok cs → ∃ bytes raw, s.files.read path = .ok bytes ∧
      Text.decodeUtf8 bytes = .ok raw ∧ cs = Text.normalizeLines raw := by
  obtain ⟨files, u, hf, h⟩ := h.bind
  obtain ⟨rfl, rfl⟩ := hf.files
  cases hr : s.files.read path with
  | error e =>
    rw [hr] at h
    obtain ⟨rfl, rfl⟩ := h.pure
    exact ⟨rfl, nofun⟩
  | ok bytes =>
    simp only [hr] at h
    cases hd : Text.decodeUtf8 bytes with
    | error f =>
      rw [hd] at h
      obtain ⟨rfl, rfl⟩ := h.pure
      exact ⟨rfl, nofun⟩
    | ok raw =>
      rw [hd] at h
      obtain ⟨rfl, rfl⟩ := h.pure
      refine ⟨rfl, fun cs hc => ⟨bytes, raw, rfl, hd, ?_⟩⟩
      cases hc
      rfl

theorem Ends.loadReferences {path : Option String} {refs : Matcher Value}
    (h : Ends (loadReferences path) s refs t) :
    t.files = s.files ∧ referencesIn s.files path = some refs := by
  cases path with
  | none =>
    obtain ⟨rfl, rfl⟩ := h.pure
    exact ⟨rfl, rfl⟩
  | some path =>
    obtain ⟨files, u, hf, h⟩ := h.bind
    obtain ⟨rfl, rfl⟩ := hf.files
    split at h
    · obtain ⟨_, _, hn, -⟩ := h.bind
      exact (not_ends_fail hn).elim
    · obtain ⟨files, u, hf, h⟩ := h.bind
      obtain ⟨rfl, rfl⟩ := hf.files
      cases hr : s.files.read path with
      | error e =>
        rw [hr] at h
        exact (not_ends_fail h).elim
      | ok bytes =>
        simp only [hr] at h
        obtain ⟨_, u, hl, h⟩ := h.bind
        cases hb : (Reference.load path bytes).2 with
        | ok found =>
          rw [hb] at h
          obtain ⟨rfl, rfl⟩ := h.pure
          refine ⟨hl.log, ?_⟩
          simp [referencesIn, hr, hb, Except.toOption]
        | error f =>
          rw [hb] at h
          cases f with
          | missing => exact (not_ends_fail h).elim
          | rejected f => exact (not_ends_fail h).elim
          | unreadable f =>
            dsimp only at h
            split at h
            · exact (not_ends_fail h).elim
            · exact (not_ends_crash h).elim

theorem Ends.loadSample {path : String} {x : Sample} (h : Ends (loadSample path) s x t) :
    s = t ∧ ∃ bytes, s.files.read path = .ok bytes ∧ Sample.read path bytes = .ok x := by
  obtain ⟨files, u, hf, h⟩ := h.bind
  obtain ⟨rfl, rfl⟩ := hf.files
  cases hr : s.files.read path with
  | error e =>
    rw [hr] at h
    exact (not_ends_fail h).elim
  | ok bytes =>
    simp only [hr] at h
    cases hx : Sample.read path bytes with
    | ok y =>
      rw [hx] at h
      obtain ⟨rfl, rfl⟩ := h.pure
      exact ⟨rfl, bytes, rfl, hx⟩
    | error f =>
      rw [hx] at h
      cases f with
      | undecodable f => exact (not_ends_fail h).elim
      | json f text => exact (not_ends_fail h).elim
      | yaml f =>
        dsimp only at h
        split at h
        · exact (not_ends_fail h).elim
        · exact (not_ends_crash h).elim

theorem Ends.inferReport {clock : Clock} {path rootName : String} {maxDepth : Option Int}
    {refs : Matcher Value} {r : Report String}
    (h : Ends (inferReport clock path rootName maxDepth refs) s r t) :
    t.files = s.files ∧ reportIn clock s.files path rootName maxDepth refs = some r := by
  obtain ⟨x, u, hx, h⟩ := h.bind
  obtain ⟨rfl, bytes, hb, hx⟩ := hx.loadSample
  simp only [reportIn, hb, hx, Except.toOption, Option.bind_some]
  generalize x.infer refs _ = inferred at h ⊢
  obtain ⟨entries, report⟩ := inferred
  obtain ⟨_, u, hl, h⟩ := h.bind
  cases report with
  | ok found =>
    obtain ⟨rfl, rfl⟩ := h.pure
    exact ⟨hl.log, rfl⟩
  | error f =>
    cases f with
    | tooDeep limit hint => exact (not_ends_fail h).elim
    | _ => exact (not_ends_crash h).elim

theorem Ends.loadTemplate {path : Option String} {text : String}
    (h : Ends (loadTemplate path) s text t) :
    t.files = s.files ∧ templateIn s.files path = some text := by
  cases path with
  | none =>
    obtain ⟨rfl, rfl⟩ := h.pure
    exact ⟨rfl, rfl⟩
  | some path =>
    obtain ⟨files, u, hf, h⟩ := h.bind
    obtain ⟨rfl, rfl⟩ := hf.files
    cases he : s.files.exists? path with
    | false =>
      simp only [he, Bool.not_false, if_true] at h
      obtain ⟨_, u, hl, h⟩ := h.bind
      obtain ⟨rfl, rfl⟩ := h.pure
      exact ⟨hl.log, by simp [templateIn, he]⟩
    | true =>
      simp only [he, Bool.not_true, Bool.false_eq_true, if_false] at h
      obtain ⟨r, u, hr, h⟩ := h.bind
      obtain ⟨rfl, hread⟩ := hr.readText
      cases r with
      | error x => exact (not_ends_crash h).elim
      | ok cs =>
        obtain ⟨rfl, rfl⟩ := h.pure
        obtain ⟨bytes, raw, hb, hd, rfl⟩ := hread cs rfl
        exact ⟨rfl, by simp [templateIn, he, hb, hd, Except.toOption]⟩

theorem Ends.generateSource {settings : TypeScript.Settings} {refs : Matcher Value}
    {types : List (TypeDecl Json)} {source : TypeScript.Source}
    (h : Ends (generateSource settings refs types) s source t) :
    t.files = s.files ∧ TypeScript.generateChecked settings refs types = .ok source := by
  unfold Command.generateSource at h
  split at h
  · rename_i found hg
    obtain ⟨_, u, hl, h⟩ := h.bind
    obtain ⟨rfl, rfl⟩ := h.pure
    exact ⟨hl.log, hg⟩
  · exact (not_ends_crash h).elim

end

/-! What the stages do to the files. -/

def NoneGotOver (onTrouble : Run.OnTrouble) : Prop := ∀ x s a t, ¬ Ends (onTrouble x) s a t

theorem crashing_noneGotOver : NoneGotOver Run.crashing := fun _ _ _ _ => not_ends_crash

theorem failing_noneGotOver (what : String) : NoneGotOver (Run.failing what) :=
  fun _ _ _ _ => not_ends_fail

section

variable {s t : Session}

theorem Ends.writeOutput {path text : String} {a : Unit} (h : Ends (writeOutput path text) s a t) :
    s.files.writeWithParent path text = .ok t.files := by
  obtain ⟨files, u, hf, h⟩ := h.bind
  obtain ⟨rfl, rfl⟩ := hf.files
  obtain ⟨_, u, hw, h⟩ := h.bind
  rw [hw.saving crashing_noneGotOver, h.say]

theorem Ends.saveSource {onTrouble : Run.OnTrouble} (hn : NoneGotOver onTrouble)
    {path code place : String} (h : Ends (saveSource onTrouble path code) s place t) :
    (writeSource s.files path code).map Prod.snd = .ok t.files := by
  obtain ⟨files, u, hf, h⟩ := h.bind
  obtain ⟨rfl, rfl⟩ := hf.files
  obtain ⟨_, u, hw, h⟩ := h.bind
  obtain ⟨-, rfl⟩ := h.pure
  exact hw.saving hn

theorem Ends.saveDocs {onTrouble : Run.OnTrouble} (hn : NoneGotOver onTrouble)
    {directory place : String} {count : Nat} {page : Except Misuse String}
    (h : Ends (saveDocs onTrouble directory count page) s place t) :
    ∃ html, page = .ok html ∧ writeDocs s.files directory html = .ok t.files := by
  obtain ⟨files, u, hf, h⟩ := h.bind
  obtain ⟨rfl, rfl⟩ := hf.files
  obtain ⟨_, u, hd, h⟩ := h.bind
  obtain ⟨files, v, hf, h⟩ := h.bind
  obtain ⟨rfl, rfl⟩ := hf.files
  obtain ⟨_, v, he, h⟩ := h.bind
  cases page with
  | error m => exact (not_ends_crash h).elim
  | ok html =>
    obtain ⟨files, w, hf, h⟩ := h.bind
    obtain ⟨rfl, rfl⟩ := hf.files
    obtain ⟨_, w, hw, h⟩ := h.bind
    obtain ⟨_, x, hl, h⟩ := h.bind
    obtain ⟨-, rfl⟩ := h.pure
    refine ⟨html, rfl, ?_⟩
    rw [hl.log, ← hw.saving hn]
    simp only [writeDocs, hd.saving hn, Bind.bind, Except.bind, he.saving hn]

end

/-! The commands. -/

section

variable {s t : Session} {i : Invocation} {a : Unit}

theorem Ends.unique {α : Type} {m : Run α} {x y : α} {u : Session} (h : Ends m s x t)
    (k : m.run.run s = (.ok y, u)) : x = y ∧ t = u := by
  cases h.symm.trans k
  exact ⟨rfl, rfl⟩

theorem Ends.runParse {clock : Clock} (h : Ends (runParse clock i) s a t)
    (hf : i.text? "--format" = some "json") {path : String} (ho : i.given? "--output" = some path) :
    ∃ refs r, referencesIn s.files (i.given? "--reference") = some refs ∧
      reportIn clock s.files i.input (rootNameOf i) (i.whole? "--max-depth") refs = some r ∧
      s.files.writeWithParent path (r.toJsonText (some 2)) = .ok t.files := by
  obtain ⟨refs, u, hrefs, h⟩ := h.bind
  obtain ⟨hu, hrefs⟩ := hrefs.loadReferences
  obtain ⟨r, v, hr, h⟩ := h.bind
  obtain ⟨hv, hr⟩ := hr.inferReport
  simp only [hf, deliver, ho] at h
  have hw := h.writeOutput
  rw [hv, hu] at hw
  rw [hu] at hr
  exact ⟨refs, r, hrefs, hr, hw⟩

/-- What is generated from a file with the document of a report. -/
theorem Ends.runGenerate (h : Ends (runGenerate i) s a t) {r : Report String} {indent : Option Nat}
    (hr : s.files.read i.input = .ok (Text.encodeUtf8 (r.toJsonText indent).toList))
    {path : String} (ho : i.given? "--output" = some path) :
    ∃ refs template source, referencesIn s.files (i.given? "--reference") = some refs ∧
      templateIn s.files (i.given? "--template") = some template ∧
      TypeScript.generateChecked ⟨template, i.has "--storybook"⟩ refs
        (r.reloaded.map .str).types = .ok source ∧
      (writeSource s.files path source.code).map Prod.snd = .ok t.files := by
  obtain ⟨report, u, hl, hk⟩ := h.bind
  obtain ⟨rfl, rfl⟩ := hl.unique (loadReport_toJsonText r indent hr)
  obtain ⟨refs, u, hrefs, h⟩ := hk.bind
  obtain ⟨hu, hrefs⟩ := hrefs.loadReferences
  obtain ⟨template, v, ht, h⟩ := h.bind
  obtain ⟨hv, ht⟩ := ht.loadTemplate
  obtain ⟨source, w, hg, h⟩ := h.bind
  obtain ⟨hw, hg⟩ := hg.generateSource
  simp only [ho] at h
  obtain ⟨place, x, hx, h⟩ := h.bind
  obtain ⟨_, y, hy, h⟩ := h.bind
  have hs := hx.saveSource (failing_noneGotOver _)
  rw [hw, hv, hu] at hs
  rw [hu] at ht
  rw [h.say, hy.say]
  exact ⟨refs, template, source, hrefs, ht, hg, hs⟩

theorem Ends.runDocs (h : Ends (runDocs i) s a t) {r : Report String} {indent : Option Nat}
    (hr : s.files.read i.input = .ok (Text.encodeUtf8 (r.toJsonText indent).toList)) :
    ∃ html, Documentation.pageChecked (titleOf i) (r.reloaded.map .str) = .ok html ∧
      writeDocs s.files ((i.text? "--output").getD "docs") html = .ok t.files := by
  obtain ⟨report, u, hl, hk⟩ := h.bind
  obtain ⟨rfl, rfl⟩ := hl.unique (loadReport_toJsonText r indent hr)
  obtain ⟨place, v, hd, h⟩ := hk.bind
  obtain ⟨html, hp, hw⟩ := hd.saveDocs (failing_noneGotOver _)
  rw [h.say]
  exact ⟨html, hp, hw⟩

theorem Ends.writePipeline {refs : Matcher Value} {r : Report String}
    (h : Ends (writePipeline i refs r) s a t) :
    ∃ files template source more,
      s.files.writeWithParent (Path.join ((i.text? "--output-dir").getD "output") "parsed-types.json")
        (r.toJsonText (some 2)) = .ok files ∧
      templateIn files (i.given? "--template") = some template ∧
      TypeScript.generateChecked ⟨template, false⟩ refs (r.types.map (TypeDecl.map .str)) =
        .ok source ∧
      (writeSource files
        (Path.join (Path.join ((i.text? "--output-dir").getD "output") "interfaces") sourceName)
        source.code).map Prod.snd = .ok more ∧
      writeDocs more (Path.join ((i.text? "--output-dir").getD "output") "docs")
        (Documentation.page (titleOf i) r) = .ok t.files := by
  obtain ⟨_, s1, h1, h⟩ := h.bind
  obtain ⟨_, s2, h2, h⟩ := h.bind
  obtain ⟨template, s3, h3, h⟩ := h.bind
  obtain ⟨h3, ht⟩ := h3.loadTemplate
  obtain ⟨source, s4, h4, h⟩ := h.bind
  obtain ⟨h4, hg⟩ := h4.generateSource
  obtain ⟨_, s5, h5, h⟩ := h.bind
  have hs := h5.saveSource crashing_noneGotOver
  obtain ⟨_, s6, h6, h⟩ := h.bind
  obtain ⟨_, s7, h7, h⟩ := h.bind
  obtain ⟨_, s8, h8, h⟩ := h.bind
  obtain ⟨html, hh, hd⟩ := h8.saveDocs crashing_noneGotOver
  cases hh
  rw [h2.say] at ht
  rw [h4, h3, h2.say] at hs
  rw [h7.say, h6.say, ← h.say] at hd
  exact ⟨s1.files, template, source, s5.files, h1.writeOutput, ht, hg, hs, hd⟩

theorem Ends.runAll {clock : Clock} (h : Ends (runAll clock i) s a t) :
    ∃ refs r u, referencesIn s.files (i.given? "--reference") = some refs ∧
      reportIn clock s.files i.input (rootNameOf i) none refs = some r ∧
      u.files = s.files ∧ ∃ v, Ends (Command.writePipeline i refs r) u () v ∧ t.files = v.files := by
  obtain ⟨_, s1, h1, h⟩ := h.bind
  obtain ⟨refs, s2, hrefs, h⟩ := h.bind
  obtain ⟨h2, hrefs⟩ := hrefs.loadReferences
  obtain ⟨r, s3, hr, h⟩ := h.bind
  obtain ⟨h3, hr⟩ := hr.inferReport
  obtain ⟨_, s4, hp, h⟩ := h.bind
  rw [h1.say] at hrefs h2
  rw [h2] at hr h3
  exact ⟨refs, r, s3, hrefs, hr, h3, s4, hp.rescued, h.say⟩

end

/-! The request of a command line. -/

theorem Ends.answer {clock : Clock} {environment : List (String × String)} {arguments : List String}
    {s t : Session} {a : Unit} (h : Ends (answer clock environment arguments) s a t) :
    ∃ q, readLine s.files environment arguments = .ok q ∧
      ∀ i, q = .invoke i → Ends (runInvocation clock i) s () t := by
  obtain ⟨files, u, hf, h⟩ := h.bind
  obtain ⟨rfl, rfl⟩ := hf.files
  cases hq : readLine s.files environment arguments with
  | ok q =>
    refine ⟨q, rfl, ?_⟩
    rintro i rfl
    rw [hq] at h
    exact h
  | error refusal =>
    rw [hq] at h
    obtain ⟨scope, fault | e⟩ := refusal
    · obtain ⟨_, _, -, h⟩ := h.bind
      exact (not_ends_exit h).elim
    · exact (not_ends_crash h).elim

end SampleTypes.Command
