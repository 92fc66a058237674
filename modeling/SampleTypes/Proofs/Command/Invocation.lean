import SampleTypes.Command.Run
import SampleTypes.Proofs.Basic
import SampleTypes.Proofs.Command.CommandLine
import SampleTypes.Proofs.Command.FileTree
import SampleTypes.Proofs.Command.Success

/-!
Commands that are given nothing but their input. The input is a file, and each option has the value
that it falls back to, so the command is carried out.
-/

namespace SampleTypes.Command

section

variable {files : FileTree} {path : String} {bytes : List UInt8}

theorem lookUp_file (h : files.read path = .ok bytes) :
    lookUp files path = .ok (some (.file bytes)) := by
  obtain ⟨l, hl, hg⟩ := FileTree.get_of_read h
  have hs : files.status path = .ok (.file bytes) := by
    simp only [FileTree.status, hl, hg, bind, Except.bind]
    rfl
  rw [lookUp, hs]

end

/-- The file holds a JSON document whose text names no half of a pair of surrogates alone. -/
structure HoldsDocument (files : FileTree) (path : String) (j : Json) : Prop where
  read : ∃ bytes raw, files.read path = .ok bytes ∧ Text.decodeUtf8 bytes = .ok raw ∧
    Json.namesHalf 0 (Text.normalizeLines raw) = false ∧
    Json.read (Text.normalizeLines raw) = .ok j

def carryOut (clock : Clock) (name : Name) (i : Invocation) : Run Unit :=
  match name with
  | .parse => runParse clock i
  | .generate => runGenerate i
  | .docs => runDocs i
  | .all => runAll clock i

section

variable {files : FileTree} {environment : List (String × String)} {name : Name} {input : String}
  {bytes : List UInt8}

def FallsBack (files : FileTree) (environment : List (String × String)) (name : Name) : Prop :=
  ∀ o ∈ name.options, ∃ values, checkFallback files environment o = .ok values

theorem checkFallback_none {o : OptionSpec} (h : fallback environment o = none) :
    ∃ values, checkFallback files environment o = .ok values := by
  rw [checkFallback, h]
  exact ⟨[], rfl⟩

theorem checkFallback_some {o : OptionSpec} {v : String} {value : OptionValue}
    (h : fallback environment o = some v) (hc : o.check files (some v) = .ok value) :
    ∃ values, checkFallback files environment o = .ok values := by
  rw [checkFallback, h]
  exact ⟨[(o.long, value)], congrArg (Except.map _) hc⟩

theorem checkValues_alone (hb : files.read input = .ok bytes) (hf : FallsBack files environment name) :
    ∃ i, checkValues files environment name false { arguments := [input] } = .ok i := by
  have hi : checkInput files [input] = .ok input := by
    rw [checkInput, lookUp_file hb]
  have ha : (name.options.filter fun o => (valueOf? o.long (lastValues [])).isNone) = name.options :=
    List.filter_eq_self.mpr fun o _ => rfl
  obtain ⟨others, ho⟩ := mapM_isOk.mpr hf
  refine ⟨⟨name, false, input, [] ++ others.flatten⟩, ?_⟩
  simp only [checkValues, ha, hi, ho]
  rfl

theorem readLine_alone (hi : IsPlain input) (hb : files.read input = .ok bytes)
    (hf : FallsBack files environment name) :
    ∃ i, readLine files environment [name.text, input] = .ok (.invoke i) ∧
      Invoked environment name input [] i := by
  obtain ⟨i, hv⟩ := checkValues_alone hb hf
  have hs : split name.options false [input] = .ok { arguments := [input] } := split_argument hi
  refine ⟨i, ?_, checkValues_invoked (by simp) (by simp) hv⟩
  rw [readLine_name, readCommand, hs]
  show Except.mapError _ ((checkValues files environment name false _) >>= _) = _
  rw [hv]
  rfl

theorem Invoked.given_none {i : Invocation} (h : Invoked environment name input [] i) {o : OptionSpec}
    (ho : o ∈ name.options) (hf : fallback environment o = none) : i.given? o.long = none := by
  have ht : i.text? o.long = none := (h.text ho).trans hf
  rw [Invocation.given?, ht]
  rfl

/-- A command with its input alone is carried out with the values that its options fall back to. -/
theorem answer_alone (clock : Clock) (host : Host) (hi : IsPlain input)
    (hb : files.read input = .ok bytes) (hf : FallsBack files environment name) :
    ∃ i, Invoked environment name input [] i ∧
      (answer clock environment [name.text, input]).run.run (host.session files) =
        (carryOut clock name i).run.run (host.session files) := by
  obtain ⟨i, hr, hinv⟩ := readLine_alone hi hb hf
  refine ⟨i, hinv, ?_⟩
  rw [answer, Run.bind_ok (Run.files_run _)]
  simp only [Host.session_files, hr]
  rw [runInvocation, hinv.command, hinv.silent]
  rfl

end

end SampleTypes.Command
