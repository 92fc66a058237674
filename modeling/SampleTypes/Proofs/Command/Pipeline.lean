import SampleTypes.Proofs.Basic
import SampleTypes.Proofs.Command.CommandLine
import SampleTypes.Proofs.Command.ExitCode
import SampleTypes.Proofs.Command.FileTree
import SampleTypes.Proofs.Command.Stages
import SampleTypes.Proofs.Reference.ReportFile

/-!
The pipeline in one go and step by step. The commands for the steps, told the same as the one command
for all of them, leave the same files behind.
-/

namespace SampleTypes.Command

/-- What a pipeline is told. -/
structure Plan where
  input : String
  directory : String
  reference : Option String := none
  template : Option String := none
  rootName : Option String := none
  title : Option String := none

namespace Plan

variable (p : Plan)

def reportPath : String := Path.join p.directory "parsed-types.json"

def sourceFile : String := Path.join (Path.join p.directory "interfaces") sourceName

def docsDirectory : String := Path.join p.directory "docs"

/-- The input of a command; the later steps take the report of the first one. -/
def inputOf : Name → String
  | .all => p.input
  | .parse => p.input
  | .generate => p.reportPath
  | .docs => p.reportPath

def settings : Name → List Setting
  | .all => [⟨"-d", outputDirectoryOption, some p.directory⟩, ⟨"-r", referenceOption, p.reference⟩,
      ⟨"-t", templateOption, p.template⟩, ⟨"-n", rootNameOption "", p.rootName⟩,
      ⟨"--title", titleOption, p.title⟩]
  | .parse => [⟨"-f", formatOption, some "json"⟩,
      ⟨"-o", outputOption "Write output to file", some p.reportPath⟩,
      ⟨"-r", referenceOption, p.reference⟩,
      ⟨"-n", rootNameOption "Name of the root type", p.rootName⟩]
  | .generate => [⟨"-o", outputOption "Write TypeScript to this file or directory",
      some p.sourceFile⟩, ⟨"-t", templateOption, p.template⟩, ⟨"-r", referenceOption, p.reference⟩]
  | .docs => [⟨"-o", docsDirectoryOption, some p.docsDirectory⟩, ⟨"--title", titleOption, p.title⟩]

def line (name : Name) : List String :=
  name.text :: p.inputOf name :: (p.settings name).flatMap Setting.arguments

def perform (clock : Clock) (environment : List (String × String)) (host : Host) :
    List Name → FileTree → Option FileTree
  | [], files => some files
  | name :: rest, files =>
    let outcome := run clock environment files (p.line name) host
    if outcome.exitCode = 0 then perform clock environment host rest outcome.session.files else none

def forms : Name → List (String × OptionSpec)
  | .all => [("-d", outputDirectoryOption), ("-r", referenceOption), ("-t", templateOption),
      ("-n", rootNameOption ""), ("--title", titleOption)]
  | .parse => [("-f", formatOption), ("-o", outputOption "Write output to file"),
      ("-r", referenceOption), ("-n", rootNameOption "Name of the root type")]
  | .generate => [("-o", outputOption "Write TypeScript to this file or directory"),
      ("-t", templateOption), ("-r", referenceOption)]
  | .docs => [("-o", docsDirectoryOption), ("--title", titleOption)]

theorem settings_forms (name : Name) :
    (p.settings name).map (fun s => (s.spelling, s.option)) = forms name := by
  cases name <;> rfl

theorem settings_fit (name : Name) : ∀ s ∈ p.settings name, s.Fits name := by
  have hall : ∀ f ∈ forms name, fits name f.1 f.2 = true := by cases name <;> decide
  intro s hs
  have hf : (s.spelling, s.option) ∈ forms name := by
    rw [← p.settings_forms name]
    exact List.mem_map_of_mem hs
  exact .of_fits (hall _ hf)

theorem settings_distinct (name : Name) :
    ((p.settings name).map fun s => s.option.long).Nodup := by
  have hall : ((forms name).map fun f => f.2.long).Nodup := by cases name <;> decide
  rwa [← p.settings_forms name, List.map_map] at hall

theorem isFileName_report : FileTree.IsFileName "parsed-types.json" := by
  constructor <;> decide

theorem isFileName_source : FileTree.IsFileName sourceName := by
  constructor <;> decide

theorem reportPath_no_option {name : Name} (h : name = .generate ∨ name = .docs) :
    p.reportPath ∉ name.options.map OptionSpec.long := by
  have hall : ∀ long ∈ name.options.map OptionSpec.long, long.toList.getLast? ≠ some 'n' := by
    rcases h with rfl | rfl <;> decide
  intro hm
  exact hall _ hm (FileTree.join_last isFileName_report p.directory)

variable {p} {clock : Clock} {environment : List (String × String)} {s t : Session}

/-- A command of a plan that ends well has done what the plan says. -/
theorem invoked (hi : IsPlain p.input) {name : Name} {a : Unit}
    (h : Ends (answer clock environment (p.line name)) s a t) :
    ∃ i, Invoked environment name (p.inputOf name) (Setting.allChosen (p.settings name)) i ∧
      Ends (runInvocation clock i) s () t := by
  have ht := Setting.allChosen_takeText (p.settings_fit name)
  have hd := Setting.allChosen_distinct (p.settings_distinct name)
  have hs := Setting.split_arguments (p.settings_fit name)
  obtain ⟨q, hq, h⟩ := h.answer
  by_cases hp : IsPlain (p.inputOf name)
  · have hsplit := (split_argument hp).trans
      (congrArg (Except.map _) hs)
    obtain ⟨i, rfl, hi⟩ := readLine_invoked ht hd hsplit hq
    exact ⟨i, hi, h i rfl⟩
  · have hname : (name = .generate ∨ name = .docs) ∧ p.inputOf name = p.reportPath := by
      cases name with
      | parse => exact absurd hi hp
      | all => exact absurd hi hp
      | generate => exact ⟨.inl rfl, rfl⟩
      | docs => exact ⟨.inr rfl, rfl⟩
    obtain ⟨hname, hin⟩ := hname
    have hl : 2 < (p.inputOf name).length :=
      hin ▸ lt_of_lt_of_le (by decide) (FileTree.join_length isFileName_report p.directory)
    have hshort : ∀ o ∈ name.options, o.short.isSome → o.kind ≠ .flag := by
      rcases hname with rfl | rfl <;> decide
    exact absurd hq (readLine_optionLike hp hl (hin ▸ p.reportPath_no_option hname) hshort ht hs q)

/-- A setting has its value, or the one that its option falls back to. -/
theorem told {name : Name} {i : Invocation}
    (hi : Invoked environment name (p.inputOf name) (Setting.allChosen (p.settings name)) i)
    (setting : Setting) (hs : setting ∈ p.settings name) :
    i.text? setting.option.long = setting.value.or (fallback environment setting.option) :=
  hi.setting (p.settings_distinct name) hs (p.settings_fit name setting hs)

theorem perform_cons {host : Host} {name : Name} {rest : List Name} {files left : FileTree}
    (h : p.perform clock environment host (name :: rest) files = some left) :
    ∃ t, Ends (answer clock environment (p.line name)) (host.session files) () t ∧
      p.perform clock environment host rest t.files = some left := by
  simp only [perform] at h
  split at h
  · rename_i hc
    exact ⟨_, run_exitCode_zero hc, h⟩
  · cases h

theorem perform_ends {host : Host} {name : Name} {rest : List Name} {files : FileTree}
    (hn : host.exhausted files (p.line name) = none)
    (h : Ends (answer clock environment (p.line name)) (host.session files) () t) :
    p.perform clock environment host (name :: rest) files =
      p.perform clock environment host rest t.files := by
  simp only [perform, run_ends hn h, if_true]

end Plan

/-! What a plan makes of the files. -/

namespace Plan

variable (p : Plan) (environment : List (String × String))

def named (o : OptionSpec) (value : Option String) : Option String :=
  (value.or (fallback environment o)).filter (· != "")

def referencePath : Option String := named environment referenceOption p.reference

def templatePath : Option String := named environment templateOption p.template

def root : String :=
  (p.rootName.or (fallback environment (rootNameOption ""))).getD defaultRootName

def pageTitle : String :=
  (p.title.or (fallback environment titleOption)).getD Documentation.defaultTitle

section

variable {p environment} {clock : Clock} {s t : Session} {a : Unit}

theorem given_told {name : Name} {i : Invocation}
    (hi : Invoked environment name (p.inputOf name) (Setting.allChosen (p.settings name)) i)
    (setting : Setting) (hs : setting ∈ p.settings name) :
    i.given? setting.option.long = named environment setting.option setting.value := by
  rw [Invocation.given?, told hi setting hs, named]

theorem given_file {name : Name} {i : Invocation}
    (hi : Invoked environment name (p.inputOf name) (Setting.allChosen (p.settings name)) i)
    (setting : Setting) (hs : setting ∈ p.settings name) {path : String}
    (hv : setting.value = some path) (hp : path ≠ "") :
    i.given? setting.option.long = some path := by
  rw [given_told hi setting hs, hv, named]
  simp [hp]

theorem parse_done (hi : IsPlain p.input)
    (h : Ends (answer clock environment (p.line .parse)) s a t) :
    ∃ refs r, referencesIn s.files (p.referencePath environment) = some refs ∧
      reportIn clock s.files p.input (p.root environment) none refs = some r ∧
      s.files.writeWithParent p.reportPath (r.toJsonText (some 2)) = .ok t.files := by
  obtain ⟨i, hinv, h⟩ := invoked hi h
  obtain ⟨_, u, hu, h⟩ := h.bind
  rw [hinv.command] at h
  have hformat : i.text? "--format" = some "json" :=
    told hinv ⟨"-f", formatOption, some "json"⟩ (by simp [settings])
  have houtput : i.given? "--output" = some p.reportPath :=
    given_file hinv ⟨"-o", outputOption "Write output to file", some p.reportPath⟩
      (by simp [settings]) rfl (FileTree.join_ne_empty isFileName_report p.directory)
  have href : i.given? "--reference" = p.referencePath environment :=
    given_told hinv ⟨"-r", referenceOption, p.reference⟩ (by simp [settings])
  have hroot : rootNameOf i = p.root environment :=
    congrArg (Option.getD · defaultRootName) (told hinv
      ⟨"-n", rootNameOption "Name of the root type", p.rootName⟩ (by simp [settings]))
  have hdepth : i.whole? "--max-depth" = none :=
    hinv.whole (o := maxDepthOption) (by simp [Name.options])
  obtain ⟨refs, r, hrefs, hr, hw⟩ := h.runParse hformat houtput
  rw [href, hu.modify] at hrefs
  rw [hu.modify, hroot, hdepth, hinv.source] at hr
  rw [hu.modify] at hw
  exact ⟨refs, r, hrefs, hr, hw⟩

theorem generate_done (hi : IsPlain p.input)
    (h : Ends (answer clock environment (p.line .generate)) s a t) {r : Report String}
    (hread : s.files.read p.reportPath = .ok (Text.encodeUtf8 (r.toJsonText (some 2)).toList)) :
    ∃ refs template source, referencesIn s.files (p.referencePath environment) = some refs ∧
      templateIn s.files (p.templatePath environment) = some template ∧
      TypeScript.generateChecked ⟨template, false⟩ refs (r.reloaded.map .str).types = .ok source ∧
      (writeSource s.files p.sourceFile source.code).map Prod.snd = .ok t.files := by
  obtain ⟨i, hinv, h⟩ := invoked hi h
  obtain ⟨_, u, hu, h⟩ := h.bind
  rw [hinv.command] at h
  have houtput : i.given? "--output" = some p.sourceFile :=
    given_file hinv ⟨"-o", outputOption "Write TypeScript to this file or directory",
      some p.sourceFile⟩ (by simp [settings]) rfl (FileTree.join_ne_empty isFileName_source _)
  have href : i.given? "--reference" = p.referencePath environment :=
    given_told hinv ⟨"-r", referenceOption, p.reference⟩ (by simp [settings])
  have htemplate : i.given? "--template" = p.templatePath environment :=
    given_told hinv ⟨"-t", templateOption, p.template⟩ (by simp [settings])
  have hbook : i.has "--storybook" = false := by
    have hn : valueOf? storybookOption.long (Setting.allChosen (p.settings .generate)).values =
        none := chosenFrom_none (by simp [settings, storybookOption, outputOption, templateOption,
          referenceOption])
    have hb : i.has storybookOption.long = _ := hinv.has (by simp [Name.options])
    rw [hn] at hb
    exact hb
  have hsource : i.input = p.reportPath := hinv.source
  obtain rfl := hu.modify
  obtain ⟨refs, template, source, hrefs, ht, hg, hw⟩ :=
    h.runGenerate (hsource.symm ▸ hread) houtput
  rw [hbook] at hg
  exact ⟨refs, template, source, href ▸ hrefs, htemplate ▸ ht, hg, hw⟩

theorem docs_done (hi : IsPlain p.input)
    (h : Ends (answer clock environment (p.line .docs)) s a t) {r : Report String}
    (hread : s.files.read p.reportPath = .ok (Text.encodeUtf8 (r.toJsonText (some 2)).toList)) :
    ∃ html, Documentation.pageChecked (p.pageTitle environment) (r.reloaded.map .str) = .ok html ∧
      writeDocs s.files p.docsDirectory html = .ok t.files := by
  obtain ⟨i, hinv, h⟩ := invoked hi h
  obtain ⟨_, u, hu, h⟩ := h.bind
  rw [hinv.command] at h
  have houtput : (i.text? "--output").getD "docs" = p.docsDirectory :=
    congrArg (Option.getD · "docs") (told hinv
      ⟨"-o", docsDirectoryOption, some p.docsDirectory⟩ (by simp [settings]))
  have htitle : titleOf i = p.pageTitle environment :=
    congrArg (Option.getD · Documentation.defaultTitle) (told hinv
      ⟨"--title", titleOption, p.title⟩ (by simp [settings]))
  have hsource : i.input = p.reportPath := hinv.source
  obtain rfl := hu.modify
  obtain ⟨html, hp, hw⟩ := h.runDocs (hsource.symm ▸ hread)
  rw [houtput] at hw
  rw [htitle] at hp
  exact ⟨html, hp, hw⟩

theorem all_done (hi : IsPlain p.input)
    (h : Ends (answer clock environment (p.line .all)) s a t) :
    ∃ refs r template source first second,
      referencesIn s.files (p.referencePath environment) = some refs ∧
      reportIn clock s.files p.input (p.root environment) none refs = some r ∧
      s.files.writeWithParent p.reportPath (r.toJsonText (some 2)) = .ok first ∧
      templateIn first (p.templatePath environment) = some template ∧
      TypeScript.generateChecked ⟨template, false⟩ refs (r.types.map (TypeDecl.map .str)) =
        .ok source ∧
      (writeSource first p.sourceFile source.code).map Prod.snd = .ok second ∧
      writeDocs second p.docsDirectory (Documentation.page (p.pageTitle environment) r) =
        .ok t.files := by
  obtain ⟨i, hinv, h⟩ := invoked hi h
  obtain ⟨_, u, hu, h⟩ := h.bind
  rw [hinv.command] at h
  have hdirectory : (i.text? "--output-dir").getD "output" = p.directory :=
    congrArg (Option.getD · "output") (told hinv
      ⟨"-d", outputDirectoryOption, some p.directory⟩ (by simp [settings]))
  have href : i.given? "--reference" = p.referencePath environment :=
    given_told hinv ⟨"-r", referenceOption, p.reference⟩ (by simp [settings])
  have htemplate : i.given? "--template" = p.templatePath environment :=
    given_told hinv ⟨"-t", templateOption, p.template⟩ (by simp [settings])
  have hroot : rootNameOf i = p.root environment :=
    congrArg (Option.getD · defaultRootName) (told hinv
      ⟨"-n", rootNameOption "", p.rootName⟩ (by simp [settings]))
  have htitle : titleOf i = p.pageTitle environment :=
    congrArg (Option.getD · Documentation.defaultTitle) (told hinv
      ⟨"--title", titleOption, p.title⟩ (by simp [settings]))
  have hsource : i.input = p.input := hinv.source
  obtain rfl := hu.modify
  obtain ⟨refs, r, v, hrefs, hr, hv, w, hw, ht⟩ := h.runAll
  obtain ⟨first, template, source, second, h1, h2, h3, h4, h5⟩ := hw.writePipeline
  rw [hdirectory] at h1 h4 h5
  rw [hv] at h1
  rw [htemplate] at h2
  rw [htitle, ← ht] at h5
  rw [href] at hrefs
  rw [hroot, hsource] at hr
  exact ⟨refs, r, template, source, first, second, hrefs, hr, h1, h2, h3, h4, h5⟩

end

end Plan

/-! The files that the steps share. -/

section

variable {t u : FileTree}

/-- A report that is written is no reference document, so a reference file that can still be read has
not been replaced by it. -/
theorem references_kept {l : Location} (hg : FileTree.Grown (· = l) t u) {r : Report String}
    (hl : u.get? l = some (.file (Text.encodeUtf8 (r.toJsonText (some 2)).toList)))
    {path : Option String} {refs refs' : Matcher Value} (ht : referencesIn t path = some refs)
    (hu : referencesIn u path = some refs') : refs' = refs := by
  cases path with
  | none => exact Option.some.inj (hu.symm.trans ht)
  | some path =>
    cases hr : t.read path with
    | error e => simp [referencesIn, hr, Except.toOption] at ht
    | ok bytes =>
      obtain ⟨k, hk, -⟩ := FileTree.get_of_read hr
      by_cases he : k = l
      · have hru := FileTree.read_of_get (hg.locate hk) (he ▸ hl)
        simp only [referencesIn, hru, Except.toOption, Option.bind_some] at hu
        cases hload : (Reference.load path
            (Text.encodeUtf8 (r.toJsonText (some 2)).toList)).2 with
        | error f => simp [hload] at hu
        | ok found => exact (Reference.not_loaded_report path r (some 2) found hload).elim
      · have hru : u.read path = .ok bytes := hg.read hr fun m hm hml =>
          he ((Except.ok.inj (hk.symm.trans hm)).trans hml)
        simp only [referencesIn, hr, Except.toOption, Option.bind_some] at ht
        simp only [referencesIn, hru, Except.toOption, Option.bind_some] at hu
        exact Option.some.inj (hu.symm.trans ht)

theorem reportIn_inferred {clock : Clock} {path rootName : String} {maxDepth : Option Int}
    {refs : Matcher Value} {r : Report String}
    (h : reportIn clock t path rootName maxDepth refs = some r) :
    r.reloaded = r ∧ (r.map Json.str).texts = r := by
  simp only [reportIn, Option.bind_eq_some_iff] at h
  obtain ⟨bytes, -, x, -, hx⟩ := h
  cases x with
  | tree v => exact ⟨Inference.run_reloaded (ok_of_toOption hx), Inference.run_texts (ok_of_toOption hx)⟩
  | graph place =>
    exact ⟨Inference.run_reloaded (ok_of_toOption hx), Inference.run_texts (ok_of_toOption hx)⟩

theorem pageChecked_ok {title html : String} {r : Report Json}
    (h : Documentation.pageChecked title r = .ok html) :
    html = Documentation.page title r.texts := by
  unfold Documentation.pageChecked at h
  cases h1 : r.types.forM Documentation.checkCard with
  | error m =>
    rw [h1] at h
    cases h
  | ok _ =>
    cases h2 : demandIfTruthy r.rootType with
    | error m =>
      rw [h1, h2] at h
      cases h
    | ok _ =>
      cases h3 : demandIfTruthy r.timestamp with
      | error m =>
        rw [h1, h2, h3] at h
        cases h
      | ok _ =>
        rw [h1, h2, h3] at h
        cases h
        rfl

theorem isFileName_page : FileTree.IsFileName "index.html" := by
  constructor <;> decide

theorem writeDocs_ok {directory html : String} (h : writeDocs t directory html = .ok u) :
    FileTree.Grown (fun l => l.getLast? = some "index.html") t u ∧
      u.read (Path.join directory "index.html") = .ok (Text.encodeUtf8 html.toList) := by
  unfold writeDocs at h
  cases h1 : t.makeDirectories directory with
  | error e =>
    rw [h1] at h
    cases h
  | ok first =>
    cases h2 : first.writeText (Path.join directory "index.html") "" with
    | error e =>
      simp only [h1, h2, bind, Except.bind] at h
      cases h
    | ok second =>
      simp only [h1, h2, bind, Except.bind] at h
      obtain ⟨hg, hr⟩ := FileTree.writeText_join isFileName_page h
      have hempty := (FileTree.writeText_join isFileName_page h2).1
      refine ⟨.trans (.mono (FileTree.makeDirectories_ok h1) fun _ hf => hf.elim) ?_, hr⟩
      exact hempty.trans hg

/-- A source goes to a file of the usual name, in whichever directory. -/
theorem writeSource_ok {path code : String} (hp : ∃ directory, path = Path.join directory sourceName)
    (h : (writeSource t path code).map Prod.snd = .ok u) :
    FileTree.Grown (fun l => l.getLast? = some sourceName) t u ∧
      ∃ place ∈ [path, Path.join path sourceName],
        (∃ directory, place = Path.join directory sourceName) ∧
        u.read place = .ok (Text.encodeUtf8 code.toList) := by
  have hplace : sourcePath t path ∈ [path, Path.join path sourceName] ∧
      ∃ directory, sourcePath t path = Path.join directory sourceName := by
    unfold sourcePath
    split
    · exact ⟨by simp, path, rfl⟩
    · exact ⟨by simp, hp⟩
  obtain ⟨hm, directory, hd⟩ := hplace
  have hw : t.writeWithParent (sourcePath t path) code = .ok u := by
    unfold writeSource at h
    cases hk : t.writeWithParent (sourcePath t path) code with
    | error e =>
      simp only [hk, bind, Except.bind, Except.map] at h
      cases h
    | ok files =>
      simp only [hk, bind, Except.bind, Except.map, pure, Except.pure] at h
      exact h
  rw [hd] at hw hm
  obtain ⟨l, hl, hg, -, hr⟩ := FileTree.writeWithParent_join Plan.isFileName_source hw
  exact ⟨hg.mono fun k hk => hk ▸ hl, _, hm, ⟨directory, rfl⟩, hr⟩

end

/-- One command for all steps, and a command for each step: where they succeed, they leave the same
tree of files, with the report, the source and the page in it. -/
theorem pipeline_in_steps {clock : Clock} {environment : List (String × String)} {host : Host}
    {p : Plan} {files once stepwise : FileTree} (hi : IsPlain p.input)
    (hall : p.perform clock environment host [.all] files = some once)
    (hsteps : p.perform clock environment host [.parse, .generate, .docs] files = some stepwise) :
    stepwise = once ∧ ∃ (r : Report String) (code : String),
      once.read p.reportPath = .ok (Text.encodeUtf8 (r.toJsonText (some 2)).toList) ∧
      (∃ place ∈ [p.sourceFile, Path.join p.sourceFile sourceName],
        once.read place = .ok (Text.encodeUtf8 code.toList)) ∧
      once.read (Path.join p.docsDirectory "index.html") =
        .ok (Text.encodeUtf8 (Documentation.page (p.pageTitle environment) r).toList) := by
  obtain ⟨t, hrun, hleft⟩ := Plan.perform_cons hall
  obtain rfl : t.files = once := by simpa [Plan.perform] using hleft
  obtain ⟨refs, r, template, source, first, second, hrefs, hr, h1, h2, h3, h4, h5⟩ :=
    Plan.all_done hi hrun
  obtain ⟨t1, hparse, hrest⟩ := Plan.perform_cons hsteps
  obtain ⟨refs1, r1, hrefs1, hr1, hw1⟩ := Plan.parse_done hi hparse
  obtain rfl := Option.some.inj (hrefs1.symm.trans hrefs)
  obtain rfl := Option.some.inj (hr1.symm.trans hr)
  obtain rfl := Except.ok.inj (hw1.symm.trans h1)
  obtain ⟨hreloaded, htexts⟩ := reportIn_inferred hr
  obtain ⟨l, hl, hg1, hget, hread1⟩ := FileTree.writeWithParent_join Plan.isFileName_report h1
  obtain ⟨t2, hgenerate, hrest2⟩ := Plan.perform_cons hrest
  obtain ⟨refs2, template2, source2, hrefs2, ht2, hs2, hw2⟩ := Plan.generate_done hi hgenerate hread1
  obtain rfl := references_kept hg1 hget hrefs hrefs2
  obtain rfl := Option.some.inj (ht2.symm.trans h2)
  rw [hreloaded] at hs2
  obtain rfl := Except.ok.inj (hs2.symm.trans h3)
  obtain rfl := Except.ok.inj (hw2.symm.trans h4)
  obtain ⟨hg2, place, hplace, ⟨directory, rfl⟩, hread2⟩ := writeSource_ok ⟨_, rfl⟩ h4
  have hreport2 : t2.files.read p.reportPath = _ :=
    hg2.read_join Plan.isFileName_report (by decide) hread1
  obtain ⟨t3, hdocs, hrest3⟩ := Plan.perform_cons hrest2
  obtain ⟨html, hpage, hw3⟩ := Plan.docs_done hi hdocs hreport2
  obtain rfl : t3.files = stepwise := by simpa [Plan.perform] using hrest3
  obtain rfl := pageChecked_ok hpage
  rw [hreloaded, htexts] at hw3
  obtain ⟨hg3, hread3⟩ := writeDocs_ok h5
  refine ⟨Except.ok.inj (hw3.symm.trans h5), r1, source2.code, ?_, ⟨_, hplace, ?_⟩, hread3⟩
  · exact hg3.read_join Plan.isFileName_report (by decide) hreport2
  · exact hg3.read_join Plan.isFileName_source (by decide) hread2

def ratePlan : Plan where
  input := "a.json"
  directory := "o"
  rootName := some "Rate"
  title := some "Rates"

def rateFiles : FileTree where
  nodes := [(["a.json"], .file (Text.encodeUtf8 "\x7b\"of\": 2, \"on\": [\"x\"]\x7d".toList))]

def rateReport : Report String where
  types := [{ name := "Rate", fields := [{ name := "of", typeRef := "number" },
    { name := "on", typeRef := "string[]" }] }]
  rootType := "Rate"
  source := "a.json"
  timestamp := "noon"

/-- The files after the first step. -/
def rateParsed : FileTree where
  nodes := rateFiles.nodes ++ [(["o"], .directory),
    (["o", "parsed-types.json"], .file (Text.encodeUtf8 (Json.write (some 2) 0 rateReport.toJson)))]

theorem ratePlan_plain : IsPlain ratePlan.input := by
  intro c cs h
  cases h

theorem rate_parsed {t : Session}
    (h : Ends (answer ⟨"noon"⟩ [] (ratePlan.line .parse)) (Host.ample.session rateFiles) () t) :
    t.files = rateParsed := by
  obtain ⟨refs, r, hrefs, hr, hw⟩ := Plan.parse_done ratePlan_plain h
  obtain rfl : [] = refs := Option.some.inj hrefs
  have hreport : reportIn ⟨"noon"⟩ rateFiles ratePlan.input (ratePlan.root []) none [] =
      some rateReport := by
    decide +kernel
  obtain rfl := Option.some.inj (hreport.symm.trans hr)
  have hwritten (text : String) : rateFiles.writeWithParent ratePlan.reportPath text =
      .ok { nodes := rateFiles.nodes ++ [(["o"], .directory),
        (["o", "parsed-types.json"], .file (Text.encodeUtf8 text.toList))] } := by
    with_unfolding_all rfl
  have ht := Except.ok.inj (hw.symm.trans (hwritten _))
  rw [Report.toJsonText, Json.toJsonText, String.toList_ofList] at ht
  exact ht

theorem rate_steps :
    (ratePlan.perform ⟨"noon"⟩ [] .ample [.parse, .generate, .docs] rateFiles).isSome = true := by
  have hparse : (ratePlan.perform ⟨"noon"⟩ [] .ample [.parse] rateFiles).isSome = true := by
    decide +kernel
  have hrest : (ratePlan.perform ⟨"noon"⟩ [] .ample [.generate, .docs] rateParsed).isSome = true := by
    decide +kernel
  obtain ⟨_, hleft⟩ := Option.isSome_iff_exists.mp hparse
  obtain ⟨t, hrun, -⟩ := Plan.perform_cons hleft
  rwa [Plan.perform_ends rfl hrun, rate_parsed hrun]

theorem rate_pipeline_in_steps :
    ∃ (left : FileTree) (r : Report String),
      ratePlan.perform ⟨"noon"⟩ [] .ample [.all] rateFiles = some left ∧
      ratePlan.perform ⟨"noon"⟩ [] .ample [.parse, .generate, .docs] rateFiles = some left ∧
      left.read "o/parsed-types.json" = .ok (Text.encodeUtf8 (r.toJsonText (some 2)).toList) := by
  have hall : (ratePlan.perform ⟨"noon"⟩ [] .ample [.all] rateFiles).isSome = true := by
    decide +kernel
  obtain ⟨once, honce⟩ := Option.isSome_iff_exists.mp hall
  obtain ⟨stepwise, hstepwise⟩ := Option.isSome_iff_exists.mp rate_steps
  have hpath : ratePlan.reportPath = "o/parsed-types.json" := by decide +kernel
  obtain ⟨rfl, r, code, hreport, -⟩ := pipeline_in_steps ratePlan_plain honce hstepwise
  exact ⟨stepwise, r, honce, hstepwise, hpath ▸ hreport⟩

end SampleTypes.Command
