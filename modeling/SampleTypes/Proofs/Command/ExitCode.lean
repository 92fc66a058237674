import SampleTypes.Proofs.Command.Success

/-!
Exit codes. Whatever stops a command early, the exit code is not that of success: a command has that
one only if all of its steps ended well.
-/

namespace SampleTypes.Command

section

variable {α β : Type}

/-- Whoever stops early has a reason: the exit code is not that of success. -/
def StopsForReason (m : Run α) : Prop :=
  ∀ s t code, m.run.run s = (.error (.exit code), t) → code ≠ 0

theorem StopsForReason.pure (a : α) : StopsForReason (pure a : Run α) := nofun

theorem StopsForReason.bind {m : Run α} {f : α → Run β} (h : StopsForReason m)
    (k : ∀ a, StopsForReason (f a)) : StopsForReason (m >>= f) := by
  intro s t code he
  rcases hm : m.run.run s with ⟨r, u⟩
  cases r with
  | error e =>
    rw [Run.bind_error hm] at he
    cases he
    exact h _ _ _ hm
  | ok a => exact k a _ _ _ ((Run.bind_ok hm).symm.trans he)

theorem stopsForReason_forM {α : Type} {f : α → Run Unit} (h : ∀ x, StopsForReason (f x))
    (xs : List α) : StopsForReason (xs.forM f) := by
  induction xs with
  | nil => exact .pure _
  | cons x rest ih => exact .bind (h x) fun _ => ih

theorem stopsForReason_mapM {α β : Type} {f : α → Run β} (h : ∀ x, StopsForReason (f x))
    (xs : List α) : StopsForReason (xs.mapM f) := by
  induction xs with
  | nil => exact .pure _
  | cons x rest ih =>
    rw [List.mapM_cons]
    exact .bind (h x) fun _ => .bind ih fun _ => .pure _

theorem stopsForReason_crash (c : Crash) : StopsForReason (Run.crash c : Run α) := nofun

theorem stopsForReason_modify (f : Session → Session) : StopsForReason (modify f : Run Unit) := nofun

theorem stopsForReason_files : StopsForReason Run.files := nofun

theorem stopsForReason_width : StopsForReason Run.width := nofun

theorem stopsForReason_log (entries : List LogEntry) : StopsForReason (Run.log entries) := nofun

theorem stopsForReason_echo (text : String) : StopsForReason (Run.echo text) := nofun

theorem stopsForReason_plain (markup : String) : StopsForReason (Run.plain markup) := by
  unfold Run.plain
  split
  · exact .pure _
  · exact stopsForReason_crash _

theorem stopsForReason_say (markup : String) : StopsForReason (Run.say markup) :=
  .bind (stopsForReason_plain markup) fun _ =>
    .bind stopsForReason_width fun _ => stopsForReason_modify _

theorem stopsForReason_exit {code : Nat} (h : code ≠ 0) : StopsForReason (Run.exit code : Run α) := by
  intro s t c he
  cases he
  exact h

theorem stopsForReason_fail (what why : String) : StopsForReason (Run.fail what why : Run α) :=
  .bind (stopsForReason_say _) fun _ => stopsForReason_exit (by decide)

theorem stopsForReason_saving {onTrouble : Run.OnTrouble} (h : ∀ x, StopsForReason (onTrouble x))
    (r : Except FileError FileTree) : StopsForReason (Run.saving onTrouble r) := by
  cases r with
  | error e => exact h _
  | ok files => exact stopsForReason_modify _

theorem stopsForReason_rescued {what : String} {body : Run Unit} (h : StopsForReason body) :
    StopsForReason (Run.rescued what body) := by
  intro s t code he
  rcases hb : body.run.run s with ⟨r, u⟩
  cases r with
  | ok b => cases (Run.tryCatch_ok hb).symm.trans he
  | error e =>
    have hh := (Run.tryCatch_error hb).symm.trans he
    cases e with
    | exit c =>
      cases hh
      exact h _ _ _ hb
    | crash c =>
      dsimp only at hh
      split at hh
      · exact stopsForReason_fail _ _ _ _ _ hh
      · cases hh

theorem stopsForReason_readText (path : String) : StopsForReason (Run.readText path) := by
  refine .bind stopsForReason_files fun files => ?_
  split
  · exact .pure _
  · split <;> exact .pure _

end

/-! The commands, stage by stage. -/

theorem stopsForReason_loadReferences (path : Option String) :
    StopsForReason (loadReferences path) := by
  cases path with
  | none => exact .pure _
  | some path =>
    refine .bind stopsForReason_files fun files => ?_
    split
    case' isTrue => refine .bind (stopsForReason_fail _ _) fun _ => ?_
    all_goals
      refine .bind stopsForReason_files fun files => ?_
      split
      · exact stopsForReason_fail _ _
      · refine .bind (stopsForReason_log _) fun _ => ?_
        split
        · exact .pure _
        · split
          · exact stopsForReason_fail _ _
          · exact stopsForReason_crash _
        · exact stopsForReason_fail _ _

theorem stopsForReason_loadSample (path : String) : StopsForReason (loadSample path) := by
  refine .bind stopsForReason_files fun files => ?_
  split
  · exact stopsForReason_fail _ _
  · split
    · exact .pure _
    · split
      · exact stopsForReason_fail _ _
      · exact stopsForReason_crash _
    · exact stopsForReason_fail _ _

theorem stopsForReason_inferReport (clock : Clock) (path rootName : String) (maxDepth : Option Int)
    (refs : Matcher Value) : StopsForReason (inferReport clock path rootName maxDepth refs) := by
  refine .bind (stopsForReason_loadSample path) fun x => ?_
  refine .bind (stopsForReason_log _) fun _ => ?_
  split
  · exact .pure _
  · exact stopsForReason_fail _ _
  · exact stopsForReason_crash _

theorem stopsForReason_loadReport (path : String) : StopsForReason (loadReport path) := by
  refine .bind (stopsForReason_readText path) fun r => ?_
  split
  · exact stopsForReason_fail _ _
  · split
    · exact .pure _
    · exact stopsForReason_crash _
    · exact stopsForReason_fail _ _

theorem stopsForReason_writeOutput (path text : String) : StopsForReason (writeOutput path text) :=
  .bind stopsForReason_files fun _ =>
    .bind (stopsForReason_saving (fun _ => stopsForReason_crash _) _) fun _ => stopsForReason_say _

theorem stopsForReason_deliver (i : Invocation) (text : String) :
    StopsForReason (deliver i text) := by
  unfold deliver
  split
  · exact stopsForReason_writeOutput _ _
  · exact stopsForReason_echo _

theorem stopsForReason_loadTemplate (path : Option String) :
    StopsForReason (loadTemplate path) := by
  cases path with
  | none => exact .pure _
  | some path =>
    refine .bind stopsForReason_files fun files => ?_
    split
    · exact .bind (stopsForReason_log _) fun _ => .pure _
    · refine .bind (stopsForReason_readText path) fun r => ?_
      split
      · exact .pure _
      · exact stopsForReason_crash _

theorem stopsForReason_generateSource (settings : TypeScript.Settings) (refs : Matcher Value)
    (types : List (TypeDecl Json)) : StopsForReason (generateSource settings refs types) := by
  unfold generateSource
  split
  · exact .bind (stopsForReason_log _) fun _ => .pure _
  · exact stopsForReason_crash _

section

variable {onTrouble : Run.OnTrouble}

theorem stopsForReason_saveSource (h : ∀ x, StopsForReason (onTrouble x)) (path code : String) :
    StopsForReason (saveSource onTrouble path code) :=
  .bind stopsForReason_files fun _ => .bind (stopsForReason_saving h _) fun _ => .pure _

theorem stopsForReason_saveDocs (h : ∀ x, StopsForReason (onTrouble x)) (directory : String)
    (count : Nat) (page : Except Misuse String) :
    StopsForReason (saveDocs onTrouble directory count page) := by
  refine .bind stopsForReason_files fun _ => .bind (stopsForReason_saving h _) fun _ => ?_
  refine .bind stopsForReason_files fun _ => .bind (stopsForReason_saving h _) fun _ => ?_
  split
  · exact stopsForReason_crash _
  · refine .bind stopsForReason_files fun _ => .bind (stopsForReason_saving h _) fun _ => ?_
    exact .bind (stopsForReason_log _) fun _ => .pure _

end

theorem stopsForReason_sayDetail (t : TypeDecl String) (rootType : String) :
    StopsForReason (sayDetail t rootType) := by
  have hend := stopsForReason_echo ""
  have hfields : StopsForReason (do t.fields.forM sayField; Run.echo "") :=
    .bind (stopsForReason_forM (fun _ => stopsForReason_say _) _) fun _ => hend
  have hvalues : StopsForReason (do
      Run.say ("    Values: " ++ joinTexts ", " t.alternatives)
      Run.echo "") := .bind (stopsForReason_say _) fun _ => hend
  refine .bind (stopsForReason_say _) fun _ => ?_
  split <;> split
  · exact .bind (stopsForReason_say _) fun _ => hfields
  · exact hfields
  · exact .bind (stopsForReason_say _) fun _ => hvalues
  · exact hvalues

theorem stopsForReason_saySummary (r : Report String) : StopsForReason (saySummary r) := by
  unfold saySummary
  split
  · exact stopsForReason_sayDetail _ _
  · refine .bind (stopsForReason_plain _) fun _ => ?_
    refine .bind (stopsForReason_mapM (fun row => stopsForReason_mapM stopsForReason_plain row) _) ?_
    exact fun _ => .bind stopsForReason_width fun _ => stopsForReason_modify _

theorem stopsForReason_runParse (clock : Clock) (i : Invocation) :
    StopsForReason (runParse clock i) := by
  refine .bind (stopsForReason_loadReferences _) fun refs => ?_
  refine .bind (stopsForReason_inferReport _ _ _ _ _) fun report => ?_
  split
  · exact stopsForReason_deliver _ _
  · exact stopsForReason_deliver _ _
  · refine .bind (stopsForReason_saySummary _) fun _ => ?_
    split
    · exact stopsForReason_writeOutput _ _
    · exact .pure _

theorem stopsForReason_runGenerate (i : Invocation) : StopsForReason (runGenerate i) := by
  refine .bind (stopsForReason_loadReport _) fun report => ?_
  refine .bind (stopsForReason_loadReferences _) fun refs => ?_
  refine .bind (stopsForReason_loadTemplate _) fun template => ?_
  refine .bind (stopsForReason_generateSource _ _ _) fun source => ?_
  split
  · refine .bind (stopsForReason_saveSource (fun _ => stopsForReason_fail _ _) _ _) fun _ => ?_
    exact .bind (stopsForReason_say _) fun _ => stopsForReason_say _
  · exact stopsForReason_echo _

theorem stopsForReason_runDocs (i : Invocation) : StopsForReason (runDocs i) := by
  refine .bind (stopsForReason_loadReport _) fun report => ?_
  refine .bind (stopsForReason_saveDocs (fun _ => stopsForReason_fail _ _) _ _ _) fun _ => ?_
  exact stopsForReason_say _

theorem stopsForReason_writePipeline (i : Invocation) (refs : Matcher Value)
    (report : Report String) : StopsForReason (writePipeline i refs report) := by
  have hcrash : ∀ x, StopsForReason (Run.crashing x) := fun _ => stopsForReason_crash _
  refine .bind (stopsForReason_writeOutput _ _) fun _ => ?_
  refine .bind (stopsForReason_say _) fun _ => ?_
  refine .bind (stopsForReason_loadTemplate _) fun template => ?_
  refine .bind (stopsForReason_generateSource _ _ _) fun source => ?_
  refine .bind (stopsForReason_saveSource hcrash _ _) fun _ => ?_
  refine .bind (stopsForReason_say _) fun _ => .bind (stopsForReason_say _) fun _ => ?_
  exact .bind (stopsForReason_saveDocs hcrash _ _ _) fun _ => stopsForReason_say _

theorem stopsForReason_runAll (clock : Clock) (i : Invocation) : StopsForReason (runAll clock i) := by
  refine .bind (stopsForReason_say _) fun _ => ?_
  refine .bind (stopsForReason_loadReferences _) fun refs => ?_
  refine .bind (stopsForReason_inferReport _ _ _ _ _) fun report => ?_
  refine .bind (stopsForReason_rescued (stopsForReason_writePipeline i refs report)) fun _ => ?_
  exact stopsForReason_say _

theorem stopsForReason_runInvocation (clock : Clock) (i : Invocation) :
    StopsForReason (runInvocation clock i) := by
  refine .bind (stopsForReason_modify _) fun _ => ?_
  cases i.name with
  | parse => exact stopsForReason_runParse clock i
  | generate => exact stopsForReason_runGenerate i
  | docs => exact stopsForReason_runDocs i
  | all => exact stopsForReason_runAll clock i

theorem stopsForReason_answer (clock : Clock) (environment : List (String × String))
    (arguments : List String) : StopsForReason (answer clock environment arguments) := by
  have husage : StopsForReason (Run.exit usageCode : Run Unit) := stopsForReason_exit (by decide)
  refine .bind stopsForReason_files fun files => ?_
  split
  · exact .bind (stopsForReason_modify _) fun _ => husage
  · exact stopsForReason_crash _
  · exact .bind (stopsForReason_modify _) fun _ => husage
  · exact stopsForReason_modify _
  · exact stopsForReason_runInvocation clock _

/-- The exit code of success is that of a command that ended well. -/
theorem run_exitCode_zero {clock : Clock} {environment : List (String × String)} {files : FileTree}
    {arguments : List String} {host : Host}
    (h : (run clock environment files arguments host).exitCode = 0) :
    Ends (answer clock environment arguments) (host.session files) ()
      (run clock environment files arguments host).session := by
  rcases hr : (answer clock environment arguments).run.run (host.session files) with ⟨r, s⟩
  unfold run at h ⊢
  cases hn : host.exhausted files arguments with
  | some t =>
    rw [hn] at h
    cases h
  | none =>
    simp only [hn, hr] at h ⊢
    match r with
    | .ok () => exact hr
    | .error (.exit code) => exact absurd h (stopsForReason_answer _ _ _ _ _ _ hr)
    | .error (.crash c) => cases h

end SampleTypes.Command
