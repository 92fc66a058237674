import SampleTypes.Command.Run

/-!
Steps of commands that end well, taken apart: their parts all ended well, and what is printed and
logged on the way changes no file. A text with markup is printed without it, or its markup is a fault that
nobody handles; of steps that only print, one after another, the texts are put together.
-/

namespace SampleTypes.Command

section Ends

variable {α β : Type}

def Ends (m : Run α) (s : Session) (a : α) (t : Session) : Prop := m.run.run s = (.ok a, t)

/-- A step that succeeds hands its result and its session on. -/
theorem Run.bind_ok {m : Run α} {f : α → Run β} {s t : Session} {a : α}
    (h : m.run.run s = (.ok a, t)) : (m >>= f).run.run s = (f a).run.run t := by
  simp only [bind, ExceptT.bind, ExceptT.mk, ExceptT.run, StateT.run, StateT.bind] at h ⊢
  rw [h]
  rfl

theorem Run.bind_error {m : Run α} {f : α → Run β} {s t : Session} {e : Stop}
    (h : m.run.run s = (.error e, t)) : (m >>= f).run.run s = (.error e, t) := by
  simp only [bind, ExceptT.bind, ExceptT.mk, ExceptT.run, StateT.run, StateT.bind] at h ⊢
  rw [h]
  rfl

theorem Run.tryCatch_ok {body : Run α} {handle : Stop → Run α} {s t : Session} {a : α}
    (h : body.run.run s = (.ok a, t)) : (tryCatch body handle).run.run s = (.ok a, t) := by
  simp only [tryCatch, tryCatchThe, MonadExceptOf.tryCatch, ExceptT.tryCatch, ExceptT.mk, ExceptT.run,
    bind, StateT.run, StateT.bind] at h ⊢
  rw [h]
  rfl

theorem Run.tryCatch_error {body : Run α} {handle : Stop → Run α} {s t : Session} {e : Stop}
    (h : body.run.run s = (.error e, t)) :
    (tryCatch body handle).run.run s = (handle e).run.run t := by
  simp only [tryCatch, tryCatchThe, MonadExceptOf.tryCatch, ExceptT.tryCatch, ExceptT.mk, ExceptT.run,
    bind, StateT.run, StateT.bind] at h ⊢
  rw [h]

theorem Run.files_run (s : Session) : Run.files.run.run s = (.ok s.files, s) := rfl

theorem Ends.andThen {m : Run α} {f : α → Run β} {s t u : Session} {a : α} {b : β} (h : Ends m s a t)
    (k : Ends (f a) t b u) : Ends (m >>= f) s b u :=
  (Run.bind_ok h).trans k

theorem Ends.bind {m : Run α} {f : α → Run β} {s t : Session} {b : β} (h : Ends (m >>= f) s b t) :
    ∃ a u, Ends m s a u ∧ Ends (f a) u b t := by
  rcases hm : m.run.run s with ⟨r, u⟩
  cases r with
  | error e =>
    rw [Ends, Run.bind_error hm] at h
    cases h
  | ok a => exact ⟨a, u, hm, (Run.bind_ok hm).symm.trans h⟩

theorem Ends.pure {s t : Session} {a b : α} (h : Ends (pure a) s b t) : b = a ∧ s = t := by
  cases h
  exact ⟨rfl, rfl⟩

theorem Ends.files {s t : Session} {f : FileTree} (h : Ends Run.files s f t) :
    f = s.files ∧ s = t := by
  cases h
  exact ⟨rfl, rfl⟩

theorem not_ends_crash {c : Crash} {s t : Session} {a : α} : ¬ Ends (Run.crash c) s a t := nofun

theorem not_ends_exit {code : Nat} {s t : Session} {a : α} : ¬ Ends (Run.exit code) s a t := nofun

theorem not_ends_fail {what why : String} {s t : Session} {a : α} :
    ¬ Ends (Run.fail what why) s a t := by
  intro h
  obtain ⟨_, _, -, h⟩ := h.bind
  exact not_ends_exit h

theorem run_ends {clock : Clock} {environment : List (String × String)} {files : FileTree}
    {arguments : List String} {host : Host} {t : Session} (hn : host.exhausted files arguments = none)
    (h : Ends (answer clock environment arguments) (host.session files) () t) :
    run clock environment files arguments host = ⟨0, none, t⟩ := by
  simp only [run, hn]
  rw [h]

/-! What is printed and logged changes no file. -/

theorem Ends.modify {f : Session → Session} {s t : Session} {a : Unit}
    (h : Ends (modify f) s a t) : t = f s := by
  cases h
  rfl

theorem Ends.say {markup : String} {s t : Session} {a : Unit} (h : Ends (Run.say markup) s a t) :
    t.files = s.files := by
  obtain ⟨cs, u, hp, hw⟩ := h.bind
  obtain ⟨w, v, hg, hw⟩ := hw.bind
  cases hg
  rw [hw.modify]
  unfold Run.plain at hp
  split at hp
  · rw [hp.pure.2]
  · exact (not_ends_crash hp).elim

theorem Ends.log {entries : List LogEntry} {s t : Session} {a : Unit}
    (h : Ends (Run.log entries) s a t) : t.files = s.files := by
  rw [h.modify]

/-- A change that is saved has been made, as trouble is not got over. -/
theorem Ends.saving {onTrouble : Run.OnTrouble}
    (hn : ∀ x s a t, ¬ Ends (onTrouble x) s a t) {r : Except FileError FileTree} {s t : Session}
    {a : Unit} (h : Ends (Run.saving onTrouble r) s a t) : r = .ok t.files := by
  cases r with
  | error e => exact (hn _ _ _ _ h).elim
  | ok files =>
    cases h
    rfl

/-- A crash is only told of, so a step that is rescued and ends well has not crashed. -/
theorem Ends.rescued {what : String} {body : Run Unit} {s t : Session} {a : Unit}
    (h : Ends (Run.rescued what body) s a t) : Ends body s a t := by
  rcases hb : body.run.run s with ⟨r, u⟩
  cases r with
  | ok b => exact hb.trans ((Run.tryCatch_ok hb).symm.trans h)
  | error e =>
    have hh := (Run.tryCatch_error hb).symm.trans h
    cases e with
    | exit code => exact (not_ends_exit hh).elim
    | crash c =>
      dsimp only at hh
      split at hh
      · exact (not_ends_fail hh).elim
      · exact (not_ends_crash hh).elim

end Ends

def linesText (lines : List (List Char)) : String :=
  String.join (lines.map fun l => String.ofList (l ++ ['\n']))

def Session.printed (s : Session) (text : String) : Session := { s with out := s.out ++ text }

/-- On a console of this width, the step prints a text and does nothing else. -/
def Prints (width : Nat) (m : Run Unit) (text : String) : Prop :=
  ∀ s : Session, s.width = width → Ends m s () (s.printed text)

namespace Prints

variable {width : Nat}

theorem nothing : Prints width (pure ()) "" := by
  intro s _
  show Ends (pure ()) s () { s with out := s.out ++ "" }
  rw [String.append_empty]
  rfl

theorem bind {m n : Run Unit} {text more : String} (h : Prints width m text)
    (k : Prints width n more) : Prints width (m >>= fun _ => n) (text ++ more) := by
  intro s hs
  rw [Ends, Run.bind_ok (h s hs)]
  refine (k (s.printed text) hs).trans ?_
  simp only [Session.printed, String.append_assoc]

theorem echo (text : String) : Prints width (Run.echo text)
    (String.ofList (Console.withoutSequences 0 text.toList) ++ "\n") := by
  intro s _
  show Ends _ s () { s with out := s.out ++ (_ ++ "\n") }
  rw [← String.append_assoc]
  rfl

theorem say {markup : String} {cs : List Char} (h : Console.plainText markup = .ok cs) :
    Prints width (Run.say markup) (linesText (Console.wrap width cs)) := by
  intro s hs
  subst hs
  have hp : (Run.plain markup).run.run s = (.ok cs, s) := by
    rw [Run.plain, h]
    rfl
  rw [Ends, Run.say, Run.bind_ok hp]
  rfl

theorem forM {α : Type} {f : α → Run Unit} {text : α → String} {xs : List α}
    (h : ∀ x ∈ xs, Prints width (f x) (text x)) :
    Prints width (xs.forM f) (String.join (xs.map text)) := by
  induction xs with
  | nil => exact nothing
  | cons x xs ih =>
    obtain ⟨hx, hxs⟩ := List.forall_mem_cons.mp h
    rw [List.map_cons, String.join_cons]
    exact hx.bind (ih hxs)

end Prints

theorem say_fault {markup : String} {f : Console.MarkupFault}
    (h : Console.plainText markup = .error f) (s : Session) :
    (Run.say markup).run.run s = (.error (.crash (.markup f)), s) := by
  have hp : (Run.plain markup).run.run s = (.error (.crash (.markup f)), s) := by
    rw [Run.plain, h]
    rfl
  rw [Run.say, Run.bind_error hp]

end SampleTypes.Command
