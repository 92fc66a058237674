import Mathlib.Data.List.Induction
import SampleTypes.Command.Line
import SampleTypes.Proofs.Basic

/-!
Command lines whose options are written with a value after each. The value of an option is the one
given, or else the one that it falls back to.
-/

namespace SampleTypes.Command

def OptionSpec.takesText (o : OptionSpec) : Bool :=
  match o.kind with
  | .flag => false
  | .whole => false
  | _ => true

def IsPlain (argument : String) : Prop := ∀ c cs, argument.toList ≠ '-' :: c :: cs

def written (spelling : String) (value : Option String) : List String :=
  match value with
  | some v => [spelling, v]
  | none => []

abbrev Chosen := List (OptionSpec × String)

def chosen (o : OptionSpec) (value : Option String) : Chosen := value.toList.map (o, ·)

def Chosen.given (choice : Chosen) : List Given := choice.map fun p => (p.1, some p.2)

def Chosen.values (choice : Chosen) : List (String × String) := choice.map fun p => (p.1.long, p.2)

def chosenFrom {α : Type} (option : α → OptionSpec) (value : α → Option String) (xs : List α) :
    Chosen :=
  xs.flatMap fun x => chosen (option x) (value x)

section

variable {options : List OptionSpec} {rest : List String}

theorem readArgument_plain {a : String} (h : IsPlain a) (options : List OptionSpec) :
    readArgument options a = .ok .argument := by
  unfold readArgument
  split
  · rename_i ht
    exact absurd ht (h _ _)
  · rename_i ht
    exact absurd ht (h _ _)
  · rfl

theorem split_argument {a : String} (h : IsPlain a) :
    split options false (a :: rest) = (split options false rest).map (Split.andArgument a) := by
  cases rest with
  | nil =>
    simp only [split, readArgument_plain h]
    rfl
  | cons b rest =>
    rw [split, readArgument_plain h]
    rfl

theorem split_written {spelling name : String} {o : OptionSpec}
    (h : readArgument options spelling = .ok (.waiting [] o name)) (value : Option String) :
    split options false (written spelling value ++ rest) = (split options false rest).map
      fun s => ⟨(chosen o value).given ++ s.given, s.arguments⟩ := by
  cases value with
  | none => cases hs : split options false rest <;> simp [written, chosen, Chosen.given, hs, Except.map]
  | some v =>
    simp only [written, List.cons_append, List.nil_append, split, h]
    rfl

end

/-! Arguments that are written like options. -/

def ShortTakeValues (options : List OptionSpec) : Prop :=
  ∀ o ∈ options, o.short.isSome → o.kind ≠ .flag

section

variable {options : List OptionSpec}

theorem longOption_mem {name : String} {o : OptionSpec} (h : longOption? options name = some o) :
    o ∈ options ∧ o.long = name :=
  ⟨List.mem_of_find?_eq_some h, by simpa using List.find?_some h⟩

theorem cutValue_none {cs : List Char} {name : String} (h : cutValue cs = (name, none)) :
    name = String.ofList cs := by
  dsimp only [cutValue] at h
  split at h
  · rename_i hd
    have hp := List.takeWhile_prefix (fun c => c != '=') (l := cs)
    have hl : cs.length ≤ (cs.takeWhile fun c => c != '=').length := List.drop_eq_nil_iff.mp hd
    rw [← (Prod.mk.inj h).1, hp.eq_of_length_le hl]
  · cases (Prod.mk.inj h).2

/-- What is read as a long option has the name of one, and holds its value if one is written. -/
theorem readLong_ok {name : String} {value : Option String} {r : Reading}
    (h : readLong options name value = .ok r) :
    name ∈ options.map OptionSpec.long ∧
      ∀ v, value = some v → ∃ o, o.kind ≠ .flag ∧ r = .given [(o, some v)] := by
  unfold readLong at h
  cases ho : longOption? options name with
  | none =>
    rw [ho] at h
    cases h
  | some o =>
    obtain ⟨hm, hname⟩ := longOption_mem ho
    refine ⟨hname ▸ List.mem_map_of_mem hm, ?_⟩
    rintro v rfl
    cases hk : o.kind <;> simp only [ho, hk] at h <;> cases h
    all_goals exact ⟨o, by simp [hk], rfl⟩

/-- The first of the short options takes the rest of the argument. -/
theorem shortOptions_ok (hshort : ShortTakeValues options) {c : Char} {cs : List Char} (hcs : cs ≠ [])
    {found : List Given × Option OptionSpec} (h : shortOptions options (c :: cs) = .ok found) :
    ∃ o v, o.kind ≠ .flag ∧ found = ([(o, some v)], none) := by
  unfold shortOptions at h
  cases ho : shortOption? options c with
  | none =>
    rw [ho] at h
    cases h
  | some o =>
    have hm : o ∈ options := List.mem_of_find?_eq_some ho
    have hs : o.short = some (String.ofList ['-', c]) := by simpa using List.find?_some ho
    have hk : o.kind ≠ .flag := hshort o hm (by simp [hs])
    have he : cs.isEmpty = false := by simpa using hcs
    simp only [ho, hk, if_false, he, Bool.false_eq_true] at h
    cases h
    exact ⟨o, _, hk, rfl⟩

/-- An argument that is written like an option, but is no name of one, holds an option with its
value. -/
theorem readArgument_optionLike {a : String} (hn : ¬ IsPlain a) (hl : 2 < a.length)
    (hlong : a ∉ options.map OptionSpec.long) (hshort : ShortTakeValues options) {r : Reading}
    (h : readArgument options a = .ok r) :
    ∃ o v, o.kind ≠ .flag ∧ r = .given [(o, some v)] := by
  obtain ⟨c, cs, ha⟩ : ∃ c cs, a.toList = '-' :: c :: cs := by
    simpa only [IsPlain, not_forall, not_not] using hn
  have hcs : cs ≠ [] := by
    rintro rfl
    have : a.length = 2 := by rw [← String.length_toList, ha]; rfl
    omega
  unfold readArgument at h
  split at h
  · rename_i ht
    exact absurd (ha.symm.trans ht) (by simp [hcs])
  · rename_i c' cs' _ ht
    obtain ⟨rfl, rfl⟩ : c' = c ∧ cs' = cs := by simpa [ha] using ht.symm
    rcases hv : cutValue ('-' :: c' :: cs') with ⟨name, value⟩
    simp only [hv] at h
    split at h
    · obtain ⟨hname, hvalue⟩ := readLong_ok h
      cases value with
      | none =>
        have hna : name = a := by rw [cutValue_none hv, ← ha, String.ofList_toList]
        exact absurd (hna ▸ hname) hlong
      | some v =>
        obtain ⟨o, hk, hr⟩ := hvalue v rfl
        exact ⟨o, v, hk, hr⟩
    · cases hs : shortOptions options (c' :: cs') with
      | error e =>
        rw [hs] at h
        cases h
      | ok found =>
        obtain ⟨o, v, hk, rfl⟩ := shortOptions_ok hshort hcs hs
        rw [hs] at h
        cases h
        exact ⟨o, v, hk, rfl⟩
  · rename_i ht
    exact absurd ha (ht _ _)

theorem split_optionLike {a : String} (hn : ¬ IsPlain a) (hl : 2 < a.length)
    (hlong : a ∉ options.map OptionSpec.long) (hshort : ShortTakeValues options)
    {rest : List String} {s : Split} (h : split options false (a :: rest) = .ok s) :
    ∃ o v s', o.kind ≠ .flag ∧ split options false rest = .ok s' ∧
      s = s'.andGiven (o, some v) := by
  cases rest with
  | nil =>
    simp only [split] at h
    cases hr : readArgument options a with
    | error e =>
      rw [hr] at h
      cases h
    | ok r =>
      obtain ⟨o, v, hk, rfl⟩ := readArgument_optionLike hn hl hlong hshort hr
      rw [hr] at h
      cases h
      exact ⟨o, v, {}, hk, rfl, rfl⟩
  | cons b rest =>
    rw [split] at h
    cases hr : readArgument options a with
    | error e =>
      rw [hr] at h
      cases h
    | ok r =>
      obtain ⟨o, v, hk, rfl⟩ := readArgument_optionLike hn hl hlong hshort hr
      simp only [hr] at h
      cases hs : split options false (b :: rest) with
      | error e =>
        rw [hs] at h
        cases h
      | ok s' =>
        rw [hs] at h
        cases h
        exact ⟨o, v, s', hk, rfl, rfl⟩

end

/-- Options that are given once each count as they are given. -/
theorem lastValues_once {given : List Given} (h : (given.map (·.1.long)).Nodup) :
    lastValues given = given.map fun g => (g.1.long, g) :=
  foldl_putValue h

/-- What is gone through without a fault gives what each member gives. -/
theorem mapM_eq_map {α β ε : Type} {f : α → Except ε β} {g : α → β} {xs : List α} {ys : List β}
    (h : xs.mapM f = .ok ys) (hg : ∀ x ∈ xs, ∀ y, f x = .ok y → y = g x) : ys = xs.map g := by
  induction xs generalizing ys with
  | nil =>
    cases h
    rfl
  | cons x xs ih =>
    rw [List.mapM_cons] at h
    cases hx : f x with
    | error e =>
      rw [hx] at h
      cases h
    | ok y =>
      cases hs : xs.mapM f with
      | error e =>
        rw [hx, hs] at h
        cases h
      | ok zs =>
        rw [hx, hs] at h
        cases h
        rw [List.map_cons, ← hg x List.mem_cons_self y hx,
          ← ih hs fun z hz => hg z (List.mem_cons_of_mem x hz)]

def Chosen.texts (choice : Chosen) : List (String × OptionValue) :=
  choice.map fun p => (p.1.long, .text p.2)

section

variable {files : FileTree} {environment : List (String × String)}

theorem check_text {o : OptionSpec} (ht : o.takesText = true) {v : String} {w : OptionValue}
    (h : o.check files (some v) = .ok w) : w = .text v := by
  unfold OptionSpec.takesText at ht
  unfold OptionSpec.check at h
  cases hk : o.kind with
  | flag => simp [hk] at ht
  | whole => simp [hk] at ht
  | text =>
    simp only [hk] at h
    cases h
    rfl
  | path =>
    simp only [hk] at h
    cases hl : lookUp files v with
    | error e =>
      rw [hl] at h
      cases h
    | ok n =>
      rw [hl] at h
      cases h
      rfl
  | directory =>
    simp only [hk] at h
    split at h
    · cases h
    · cases h
      rfl
    · cases h
  | choice choices =>
    simp only [hk] at h
    split at h
    · cases h
      rfl
    · cases h

theorem checkGiven_texts {choice : Chosen} (ht : ∀ p ∈ choice, p.1.takesText = true)
    {values : List (String × OptionValue)}
    (h : (choice.given.map fun g => (g.1.long, g)).mapM (checkGiven files) = .ok values) :
    values = choice.texts := by
  rw [Chosen.given, List.map_map, List.mapM_map] at h
  refine mapM_eq_map h fun p hp y hy => ?_
  obtain ⟨w, hw, rfl⟩ : ∃ w, p.1.check files (some p.2) = .ok w ∧ y = (p.1.long, w) := by
    cases hc : p.1.check files (some p.2) with
    | error e => simp [checkGiven, hc, Except.map] at hy
    | ok w =>
      refine ⟨w, rfl, ?_⟩
      simpa [checkGiven, hc, Except.map] using hy.symm
  rw [check_text (ht p hp) hw]

theorem checkFallback_texts {options : List OptionSpec}
    (ht : ∀ o ∈ options, o.takesText = true ∨ fallback environment o = none)
    {values : List (List (String × OptionValue))}
    (h : options.mapM (checkFallback files environment) = .ok values) :
    values.flatten = (chosenFrom id (fallback environment) options).texts := by
  have hv := mapM_eq_map h (g := fun o => (chosen o (fallback environment o)).texts) ?_
  · rw [hv, chosenFrom, Chosen.texts, List.map_flatMap, List.flatMap_def]
    rfl
  · intro o ho y hy
    unfold checkFallback at hy
    cases hf : fallback environment o with
    | none =>
      rw [hf] at hy
      cases hy
      rfl
    | some v =>
      have hto : o.takesText = true := (ht o ho).resolve_right (by simp [hf])
      simp only [hf] at hy
      cases hc : o.check files (some v) with
      | error e => simp [hc, Except.map] at hy
      | ok w =>
        obtain rfl := check_text hto hc
        rw [hc] at hy
        cases hy
        rfl

theorem checkInput_eq {input a : String} (h : checkInput files [input] = .ok a) : a = input := by
  simp only [checkInput] at h
  cases hl : lookUp files input with
  | error e =>
    rw [hl] at h
    cases h
  | ok n =>
    rw [hl] at h
    rcases n with _ | _ | bytes
    · cases h
    · cases h
    · cases h
      rfl

end

theorem valueOf_texts (name : String) (choice : Chosen) :
    valueOf? name choice.texts = (valueOf? name choice.values).map .text := by
  induction choice with
  | nil => rfl
  | cons p rest ih =>
    simp only [Chosen.texts, Chosen.values, List.map_cons, valueOf?] at ih ⊢
    split
    · rfl
    · exact ih

section

variable {α : Type} {option : α → OptionSpec} {value : α → Option String} {xs : List α}

theorem chosenFrom_values_cons (x : α) (rest : List α) :
    (chosenFrom option value (x :: rest)).values =
      (chosen (option x) (value x)).values ++ (chosenFrom option value rest).values := by
  simp [chosenFrom, Chosen.values]

theorem chosenFrom_none {name : String} (h : name ∉ xs.map fun x => (option x).long) :
    valueOf? name (chosenFrom option value xs).values = none := by
  refine valueOf_eq_none.mpr fun hm => h ?_
  simp only [chosenFrom, Chosen.values, chosen, List.mem_map, List.mem_flatMap] at hm
  obtain ⟨_, ⟨_, ⟨x, hx, _, _, rfl⟩, rfl⟩, rfl⟩ := hm
  exact List.mem_map_of_mem hx

theorem chosenFrom_value (hd : (xs.map fun x => (option x).long).Nodup) {x : α} (hx : x ∈ xs) :
    valueOf? (option x).long (chosenFrom option value xs).values = value x := by
  induction xs with
  | nil => cases hx
  | cons first rest ih =>
    obtain ⟨hf, hr⟩ := List.nodup_cons.mp hd
    rw [chosenFrom_values_cons]
    rcases List.mem_cons.mp hx with rfl | hm
    · cases hv : value x with
      | none => exact chosenFrom_none hf
      | some v => simp [chosen, Chosen.values, valueOf?]
    · have hne : (option first).long ≠ (option x).long :=
        fun he => hf (List.mem_map.mpr ⟨x, hm, he.symm⟩)
      refine (valueOf_append_none ?_ _).trans (ih hr hm)
      cases hv : value first <;> simp [chosen, Chosen.values, valueOf?, hne]

end

/-- A command with its input; each option has the value that was chosen for it or the one that it
falls back to. -/
structure Invoked (environment : List (String × String)) (name : Name) (input : String)
    (choice : Chosen) (i : Invocation) : Prop where
  command : i.name = name
  silent : i.verbose = false
  source : i.input = input
  values : ∀ o ∈ name.options, valueOf? o.long i.values =
    ((valueOf? o.long choice.values).or (fallback environment o)).map .text

namespace Invoked

variable {environment : List (String × String)} {name : Name} {input : String} {choice : Chosen}
  {i : Invocation}

theorem text (h : Invoked environment name input choice i) {o : OptionSpec} (ho : o ∈ name.options) :
    i.text? o.long = (valueOf? o.long choice.values).or (fallback environment o) := by
  rw [Invocation.text?, h.values o ho]
  cases (valueOf? o.long choice.values).or (fallback environment o) <;> rfl

theorem whole (h : Invoked environment name input choice i) {o : OptionSpec}
    (ho : o ∈ name.options) : i.whole? o.long = none := by
  rw [Invocation.whole?, h.values o ho]
  cases (valueOf? o.long choice.values).or (fallback environment o) <;> rfl

theorem has (h : Invoked environment name input choice i) {o : OptionSpec} (ho : o ∈ name.options) :
    i.has o.long = ((valueOf? o.long choice.values).or (fallback environment o)).isSome := by
  rw [Invocation.has, h.values o ho, Option.isSome_map]

end Invoked

theorem name_options_distinct (name : Name) : (name.options.map OptionSpec.long).Nodup := by
  cases name <;> decide

/-- Only options that take texts have a value without being given. -/
theorem name_options_fallback (environment : List (String × String)) (name : Name) :
    ∀ o ∈ name.options, o.takesText = true ∨ fallback environment o = none := by
  have hall : ∀ o ∈ name.options, o.takesText = true ∨ o.variableName = none ∧ o.default = none := by
    cases name <;> decide
  intro o ho
  refine (hall o ho).imp_right fun ⟨hv, hd⟩ => ?_
  simp [fallback, hv, hd]

section

variable {files : FileTree} {environment : List (String × String)} {name : Name} {input : String}
  {choice : Chosen}

theorem absent_names {given : Chosen} (o : OptionSpec) :
    (valueOf? o.long (given.given.map fun g => (g.1.long, g))).isNone =
      (valueOf? o.long given.values).isNone := by
  have hn : (given.given.map fun g => (g.1.long, g)).map Prod.fst = given.values.map Prod.fst := by
    simp [Chosen.given, Chosen.values, Function.comp_def]
  rw [Bool.eq_iff_iff, Option.isNone_iff_eq_none, Option.isNone_iff_eq_none, valueOf_eq_none,
    valueOf_eq_none, hn]

theorem checkValues_invoked (ht : ∀ p ∈ choice, p.1.takesText = true)
    (hd : (choice.map (·.1.long)).Nodup) {i : Invocation}
    (h : checkValues files environment name false ⟨choice.given, [input]⟩ = .ok i) :
    Invoked environment name input choice i := by
  have hg : (choice.given.map (·.1.long)).Nodup := by
    simpa [Chosen.given, Function.comp_def] using hd
  unfold checkValues at h
  simp only [lastValues_once hg, absent_names] at h
  set absent := name.options.filter fun o => (valueOf? o.long choice.values).isNone with ha
  cases hv : (choice.given.map fun g => (g.1.long, g)).mapM (checkGiven files) with
  | error e => rw [hv] at h; cases h
  | ok values =>
    cases hi : checkInput files [input] with
    | error e => rw [hv, hi] at h; cases h
    | ok a =>
      cases hf : absent.mapM (checkFallback files environment) with
      | error e => rw [hv, hi, hf] at h; cases h
      | ok others =>
        rw [hv, hi, hf] at h
        obtain rfl := checkInput_eq hi
        obtain rfl := checkGiven_texts ht hv
        have hb : ∀ o ∈ absent, o.takesText = true ∨ fallback environment o = none :=
          fun o ho => name_options_fallback environment name o (List.mem_of_mem_filter ho)
        have ho := checkFallback_texts hb hf
        cases h
        refine ⟨rfl, rfl, rfl, fun o hm => ?_⟩
        have hk := valueOf_texts o.long choice
        cases hc : valueOf? o.long choice.values with
        | some v =>
          rw [hc] at hk
          exact valueOf_append hk _
        | none =>
          rw [hc] at hk
          have hoa : o ∈ absent := List.mem_filter.mpr ⟨hm, by simp [hc]⟩
          have hda : (absent.map OptionSpec.long).Nodup :=
            (name_options_distinct name).sublist (List.filter_sublist.map _)
          refine (valueOf_append_none hk _).trans ?_
          rw [ho, valueOf_texts]
          exact congrArg (Option.map OptionValue.text) (chosenFrom_value hda hoa)

theorem readLine_name (arguments : List String) :
    readLine files environment (name.text :: arguments) =
      (readCommand files environment name false arguments).mapError fun e => (some name, e) := by
  have hout : split (Scope.options none) true (name.text :: arguments) =
      .ok { arguments := name.text :: arguments } := by
    have hr : readArgument (Scope.options none) name.text = .ok .argument := by
      cases name <;> rfl
    cases arguments <;> simp [split, hr]
  have hn : Name.ofText? name.text = some name := by cases name <;> decide
  have hh : asksForHelp { arguments := name.text :: arguments } = false := rfl
  simp only [readLine, List.isEmpty_cons, Bool.false_eq_true, if_false, hout, hn, hh,
    List.isEmpty_nil, Bool.not_true]

theorem asksForHelp_texts (ht : ∀ p ∈ choice, p.1.takesText = true) (arguments : List String) :
    asksForHelp ⟨choice.given, arguments⟩ = false := by
  refine List.any_eq_false.mpr fun g hg he => ?_
  obtain ⟨p, hp, rfl⟩ := List.mem_map.mp hg
  have hk : p.1 = helpOption := by simpa using he
  have hf := ht p hp
  rw [hk] at hf
  cases hf

theorem readLine_invoked (ht : ∀ p ∈ choice, p.1.takesText = true)
    (hd : (choice.map (·.1.long)).Nodup) {arguments : List String}
    (hs : split name.options false arguments = .ok ⟨choice.given, [input]⟩) {q : Request}
    (h : readLine files environment (name.text :: arguments) = .ok q) :
    ∃ i, q = .invoke i ∧ Invoked environment name input choice i := by
  simp only [readLine_name, readCommand, hs, Except.mapError, bind, Except.bind,
    asksForHelp_texts ht, Bool.false_eq_true, if_false] at h
  cases hc : checkValues files environment name false ⟨choice.given, [input]⟩ with
  | error e =>
    rw [hc] at h
    cases h
  | ok i =>
    rw [hc] at h
    cases h
    exact ⟨i, rfl, checkValues_invoked ht hd hc⟩

theorem checkValues_noInput (files : FileTree) (environment : List (String × String)) (name : Name)
    (verbose : Bool) {s : Split} (h : s.arguments = []) :
    ∃ e, checkValues files environment name verbose s = .error e := by
  simp only [checkValues, h]
  cases hm : (lastValues s.given).mapM (checkGiven files) with
  | error e => exact ⟨e, rfl⟩
  | ok values => exact ⟨_, rfl⟩

/-- Where the input is written like an option, there is none. -/
theorem readLine_optionLike {a : String} (hn : ¬ IsPlain a) (hl : 2 < a.length)
    (hlong : a ∉ name.options.map OptionSpec.long) (hshort : ShortTakeValues name.options)
    (ht : ∀ p ∈ choice, p.1.takesText = true) {rest : List String}
    (hs : split name.options false rest = .ok ⟨choice.given, []⟩) (q : Request) :
    readLine files environment (name.text :: a :: rest) ≠ .ok q := by
  intro h
  rw [readLine_name, readCommand] at h
  cases hr : split name.options false (a :: rest) with
  | error e =>
    rw [hr] at h
    cases h
  | ok s =>
    obtain ⟨o, v, s', hk, hs', rfl⟩ := split_optionLike hn hl hlong hshort hr
    cases hs.symm.trans hs'
    have hh : asksForHelp (Split.andGiven (o, some v) ⟨choice.given, []⟩) = false := by
      have ho : ¬ (o = helpOption) := fun he => hk (he ▸ rfl)
      have hc := asksForHelp_texts ht []
      simpa [asksForHelp, Split.andGiven, ho] using hc
    have hno : (Split.andGiven (o, some v) ⟨choice.given, []⟩).arguments = [] := rfl
    obtain ⟨e, hv⟩ := checkValues_noInput files environment name false hno
    simp only [hr, Except.mapError, bind, Except.bind, hh, hv, Bool.false_eq_true, if_false] at h
    cases h

end

/-! Command lines that are made of settings. -/

/-- Whether an option of the command is known by the spelling and waits for a text. -/
def fits (name : Name) (spelling : String) (o : OptionSpec) : Bool :=
  name.options.contains o && o.takesText &&
    (match readArgument name.options spelling with
      | .ok (.waiting [] p written) => p = o && written = spelling
      | _ => false)

structure Setting where
  spelling : String
  option : OptionSpec
  value : Option String

namespace Setting

def arguments (s : Setting) : List String := written s.spelling s.value

structure Fits (name : Name) (s : Setting) : Prop where
  known : s.option ∈ name.options
  takesText : s.option.takesText = true
  waits : readArgument name.options s.spelling = .ok (.waiting [] s.option s.spelling)

theorem Fits.of_fits {name : Name} {s : Setting} (h : fits name s.spelling s.option = true) :
    s.Fits name := by
  simp only [fits, Bool.and_eq_true, List.contains_iff_mem] at h
  obtain ⟨⟨hk, ht⟩, hw⟩ := h
  refine ⟨hk, ht, ?_⟩
  split at hw
  · rename_i p written hr
    obtain ⟨rfl, rfl⟩ : p = s.option ∧ written = s.spelling := by simpa using hw
    exact hr
  · cases hw

abbrev allChosen (settings : List Setting) : Chosen := chosenFrom option value settings

section

variable {name : Name} {settings : List Setting}

theorem split_arguments (h : ∀ s ∈ settings, s.Fits name) :
    split name.options false (settings.flatMap arguments) = .ok ⟨(allChosen settings).given, []⟩ := by
  induction settings with
  | nil => rfl
  | cons s rest ih =>
    obtain ⟨hs, hr⟩ := List.forall_mem_cons.mp h
    rw [List.flatMap_cons, arguments, split_written hs.waits, ih hr]
    simp [Except.map, allChosen, chosenFrom, Chosen.given]

theorem allChosen_takeText (h : ∀ s ∈ settings, s.Fits name) :
    ∀ p ∈ allChosen settings, p.1.takesText = true := by
  intro p hp
  obtain ⟨s, hs, hm⟩ := List.mem_flatMap.mp hp
  obtain ⟨v, -, rfl⟩ := List.mem_map.mp hm
  exact (h s hs).takesText

theorem allChosen_distinct (hd : (settings.map fun s => s.option.long).Nodup) :
    ((allChosen settings).map fun p => p.1.long).Nodup := by
  refine hd.sublist ?_
  clear hd
  induction settings with
  | nil => exact .slnil
  | cons s rest ih =>
    cases hv : s.value with
    | none => simpa [allChosen, chosenFrom, chosen, hv] using ih.cons _
    | some v => simpa [allChosen, chosenFrom, chosen, hv] using ih

end

end Setting

namespace Invoked

variable {environment : List (String × String)} {name : Name} {input : String}
  {settings : List Setting} {i : Invocation}

/-- A setting has its value, or the one that its option falls back to. -/
theorem setting (h : Invoked environment name input (Setting.allChosen settings) i)
    (hd : (settings.map fun s => s.option.long).Nodup) {s : Setting} (hs : s ∈ settings)
    (hf : s.Fits name) : i.text? s.option.long = s.value.or (fallback environment s.option) := by
  rw [h.text hf.known]
  exact congrArg (Option.or · _) (chosenFrom_value hd hs)

end Invoked

end SampleTypes.Command
