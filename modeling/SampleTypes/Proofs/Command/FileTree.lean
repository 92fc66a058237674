import Mathlib.Data.List.Basic
import SampleTypes.Command.Files

/-!
What writing does to a tree of files. A tree only grows: directories stay, and of the files only the
one that is written changes. So every path that leads somewhere leads there still.
-/

namespace SampleTypes.FileTree

structure Grown (changed : Location → Prop) (t u : FileTree) : Prop where
  workingDirectory : u.workingDirectory = t.workingDirectory
  directory : ∀ l, t.get? l = some .directory → u.get? l = some .directory
  file : ∀ l bytes, t.get? l = some (.file bytes) → ¬ changed l → u.get? l = some (.file bytes)

section

variable {changed : Location → Prop} {t u v : FileTree}

theorem Grown.refl (changed : Location → Prop) (t : FileTree) : Grown changed t t :=
  ⟨rfl, fun _ h => h, fun _ _ h _ => h⟩

theorem Grown.trans (h : Grown changed t u) (k : Grown changed u v) : Grown changed t v :=
  ⟨k.workingDirectory.trans h.workingDirectory, fun l hl => k.directory l (h.directory l hl),
    fun l bytes hl hc => k.file l bytes (h.file l bytes hl hc) hc⟩

theorem Grown.mono {more : Location → Prop} (h : Grown changed t u) (hm : ∀ l, changed l → more l) :
    Grown more t u :=
  ⟨h.workingDirectory, h.directory, fun l bytes hl hc => h.file l bytes hl fun hk => hc (hm l hk)⟩

theorem Grown.walk (h : Grown changed t u) {l m : Location} {names : List String}
    (hw : t.walk l names = .ok m) : u.walk l names = .ok m := by
  induction names generalizing l with
  | nil => exact hw
  | cons name rest ih =>
    unfold FileTree.walk at hw ⊢
    cases hg : t.get? l with
    | none =>
      rw [hg] at hw
      cases hw
    | some n =>
      cases n with
      | file bytes =>
        rw [hg] at hw
        cases hw
      | directory =>
        rw [h.directory l hg]
        simp only [hg] at hw ⊢
        split_ifs at hw ⊢ with h1 h2 h3
        · exact ih hw
        · exact ih hw
        · exact ih hw

theorem Grown.locate (h : Grown changed t u) {path : String} {l : Location}
    (hl : t.locate path = .ok l) : u.locate path = .ok l := by
  unfold FileTree.locate at hl ⊢
  rw [h.workingDirectory]
  split_ifs at hl ⊢ <;> exact h.walk hl

end

section Put

variable {t : FileTree} {l k : Location} {n : FileNode}

theorem find_replaced (nodes : List (Location × FileNode)) (hk : k ≠ l) :
    (nodes.map fun m => if m.1 = l then (l, n) else m).find? (fun m => m.1 = k) =
      nodes.find? fun m => m.1 = k := by
  induction nodes with
  | nil => rfl
  | cons m rest ih =>
    by_cases hm : m.1 = l
    · have hmk : m.1 ≠ k := fun he => hk (he.symm.trans hm)
      simp [hm, Ne.symm hk, ih]
    · simp [hm, List.find?_cons, ih]

theorem find_new {nodes : List (Location × FileNode)} (h : ∃ m ∈ nodes, m.1 = l) :
    ((nodes.map fun m => if m.1 = l then (l, n) else m).find? fun m => m.1 = l) = some (l, n) := by
  induction nodes with
  | nil => simp at h
  | cons m rest ih =>
    by_cases hm : m.1 = l
    · simp [hm]
    · obtain ⟨k, hk, he⟩ := h
      rcases List.mem_cons.mp hk with rfl | hk
      · exact absurd he hm
      · simpa [hm] using ih ⟨k, hk, he⟩

theorem get_put_ne (hk : k ≠ l) : (t.put l n).get? k = t.get? k := by
  have hf : (t.put l n).nodes.find? (fun m => m.1 = k) = t.nodes.find? fun m => m.1 = k := by
    unfold put
    by_cases ha : t.nodes.any (fun m => m.1 = l) = true
    · simp only [ha, if_true, find_replaced t.nodes hk]
    · simp [ha, List.find?_append, Ne.symm hk]
  have hw : (t.put l n).workingDirectory = t.workingDirectory := rfl
  rw [get?, get?, hf, hw]

theorem get_put_self (hp : l.isPrefixOf t.workingDirectory = false) :
    (t.put l n).get? l = some n := by
  have hf : (t.put l n).nodes.find? (fun m => m.1 = l) = some (l, n) := by
    unfold put
    by_cases ha : t.nodes.any (fun m => m.1 = l) = true
    · have he : ∃ m ∈ t.nodes, m.1 = l := by simpa using ha
      simp only [ha, if_true, find_new he]
    · have hn : t.nodes.find? (fun m => m.1 = l) = none := by
        refine List.find?_eq_none.mpr fun m hm he => ha ?_
        exact List.any_eq_true.mpr ⟨m, hm, he⟩
      simp [ha, List.find?_append, hn]
  have hw : (t.put l n).workingDirectory = t.workingDirectory := rfl
  rw [get?, hf, hw, hp]
  rfl

theorem not_on_the_way (h : t.get? l ≠ some .directory) : l.isPrefixOf t.workingDirectory = false := by
  by_contra hp
  exact h (by simp [get?, eq_true_of_ne_false hp])

theorem put_file_grown (h : t.get? l ≠ some .directory) (bytes : List UInt8) :
    Grown (· = l) t (t.put l (.file bytes)) := by
  refine ⟨rfl, fun k hk => ?_, fun k b hk hc => ?_⟩
  · have hne : k ≠ l := fun he => h (he ▸ hk)
    rw [get_put_ne hne, hk]
  · rw [get_put_ne hc, hk]

theorem put_directory_grown (h : t.get? l = none) : Grown (fun _ => False) t (t.put l .directory) := by
  refine ⟨rfl, fun k hk => ?_, fun k b hk _ => ?_⟩
  all_goals
    have hne : k ≠ l := by
      rintro rfl
      rw [h] at hk
      cases hk
    rw [get_put_ne hne, hk]

end Put

section Write

variable {t u : FileTree} {path : String}

theorem write_ok {bytes : List UInt8} (h : t.write path bytes = .ok u) :
    ∃ l, t.locate (withoutSlashes path) = .ok l ∧ Grown (· = l) t u ∧
      u.get? l = some (.file bytes) := by
  unfold write at h
  cases hl : t.locate (withoutSlashes path) with
  | error e =>
    rw [hl] at h
    cases h
  | ok l =>
    have hput : t.get? l ≠ some .directory ∧ u = t.put l (.file bytes) := by
      simp only [hl, atPath, bind, Except.bind] at h
      cases hg : t.get? l with
      | none =>
        cases he : path.endsWith "/" <;> simp only [hg, he] at h <;> cases h
        exact ⟨nofun, rfl⟩
      | some n =>
        cases n with
        | directory =>
          simp only [hg] at h
          cases h
        | file old =>
          cases he : path.endsWith "/" <;> simp only [hg, he] at h <;> cases h
          exact ⟨nofun, rfl⟩
    obtain ⟨hn, rfl⟩ := hput
    exact ⟨l, rfl, put_file_grown hn bytes, get_put_self (not_on_the_way hn)⟩

theorem makeDirectory_ok (h : t.makeDirectory path = .ok u) : Grown (fun _ => False) t u := by
  unfold makeDirectory at h
  cases hl : t.locate (withoutSlashes path) with
  | error e =>
    rw [hl] at h
    cases h
  | ok l =>
    simp only [hl, atPath, bind, Except.bind] at h
    cases hg : t.get? l with
    | some n =>
      simp only [hg] at h
      cases h
    | none =>
      simp only [hg] at h
      cases h
      exact put_directory_grown hg

theorem makeDirectories_ok (h : t.makeDirectories path = .ok u) : Grown (fun _ => False) t u := by
  unfold makeDirectories at h
  generalize t.lineage path.length path = paths at h
  induction paths generalizing t with
  | nil =>
    cases h
    exact .refl _ _
  | cons p rest ih =>
    rw [List.foldlM_cons] at h
    cases hm : t.makeDirectory p with
    | ok v =>
      rw [hm] at h
      exact (makeDirectory_ok hm).trans (ih h)
    | error e =>
      simp only [hm] at h
      by_cases hd : t.isDirectory p = true
      · rw [if_pos hd] at h
        exact ih h
      · rw [if_neg hd] at h
        cases h

theorem writeWithParent_ok {text : String} (h : t.writeWithParent path text = .ok u) :
    ∃ l, u.locate (withoutSlashes path) = .ok l ∧ Grown (· = l) t u ∧
      u.get? l = some (.file (Text.encodeUtf8 text.toList)) := by
  obtain ⟨v, hv, hw⟩ : ∃ v, Grown (fun _ => False) t v ∧ v.writeText path text = .ok u := by
    simp only [writeWithParent, bind, Except.bind] at h
    by_cases hp : Path.parent path = ""
    · simp only [hp, if_true] at h
      exact ⟨t, .refl _ t, h⟩
    · simp only [hp, if_false] at h
      cases hm : t.makeDirectories (Path.parent path) with
      | error e =>
        rw [hm] at h
        cases h
      | ok v =>
        rw [hm] at h
        exact ⟨v, makeDirectories_ok hm, h⟩
  obtain ⟨l, hl, hg, hb⟩ := write_ok hw
  exact ⟨l, hg.locate hl, (hv.mono fun _ hf => hf.elim).trans hg, hb⟩

end Write

section Read

variable {t : FileTree} {path : String} {l : Location} {bytes : List UInt8}

theorem read_of_get (hl : t.locate path = .ok l) (hg : t.get? l = some (.file bytes)) :
    t.read path = .ok bytes := by
  simp [read, status, atPath, bind, Except.bind, hl, hg]
  rfl

theorem get_of_read (h : t.read path = .ok bytes) :
    ∃ l, t.locate path = .ok l ∧ t.get? l = some (.file bytes) := by
  cases hl : t.locate path with
  | error e =>
    simp only [read, status, atPath, bind, Except.bind, hl] at h
    cases h
  | ok l =>
    refine ⟨l, rfl, ?_⟩
    cases hg : t.get? l with
    | none =>
      simp only [read, status, atPath, bind, Except.bind, hl, hg] at h
      cases h
    | some n =>
      cases n with
      | directory =>
        simp only [read, status, atPath, bind, Except.bind, hl, hg] at h
        cases h
      | file old =>
        simp only [read, status, atPath, bind, Except.bind, hl, hg] at h
        cases h
        rfl

/-- What is read stays as it is, unless it is at a location that is changed. -/
theorem Grown.read {changed : Location → Prop} {u : FileTree} (h : Grown changed t u)
    (hr : t.read path = .ok bytes) (hc : ∀ l, t.locate path = .ok l → ¬ changed l) :
    u.read path = .ok bytes := by
  obtain ⟨l, hl, hg⟩ := get_of_read hr
  exact read_of_get (h.locate hl) (h.file l bytes hg (hc l hl))

end Read

/-! Paths that end with a name. -/

/-- A name of a file: it is not empty and has no slash, and it is none of those that stand for a
directory. -/
structure IsFileName (name : String) : Prop where
  nonempty : name ≠ ""
  noSlash : '/' ∉ name.toList
  notHere : name ≠ "."
  notAbove : name ≠ ".."

theorem walk_append (t : FileTree) (l : Location) (names more : List String) :
    t.walk l (names ++ more) = (t.walk l names).bind fun m => t.walk m more := by
  induction names generalizing l with
  | nil => rfl
  | cons name rest ih =>
    simp only [List.cons_append, walk]
    cases t.get? l with
    | none => rfl
    | some n =>
      cases n with
      | file bytes => rfl
      | directory =>
        dsimp only
        split_ifs
        · exact ih l
        · exact ih l.dropLast
        · rfl
        · exact ih (l ++ [name])

theorem walk_name {t : FileTree} {l m : Location} {name : String} (hn : IsFileName name)
    (h : t.walk l [name] = .ok m) : m = l ++ [name] := by
  simp only [walk] at h
  cases hg : t.get? l with
  | none =>
    rw [hg] at h
    cases h
  | some n =>
    cases n with
    | file bytes =>
      rw [hg] at h
      cases h
    | directory =>
      simp only [hg, hn.nonempty, hn.notHere, hn.notAbove, decide_false, Bool.or_self,
        Bool.false_eq_true, if_false] at h
      split_ifs at h
      cases h
      rfl

section Join

variable {directory name : String}

/-- What a joined path is made of: maybe something with a slash at its end, and the name. -/
theorem join_parts (hn : IsFileName name) (directory : String) :
    (Path.join directory name).toList = name.toList ∨
      ∃ front, (Path.join directory name).toList = front ++ '/' :: name.toList := by
  have hs : name.startsWith "/" = false := by
    refine String.startsWith_string_eq_false_iff.mpr fun hp => hn.noSlash ?_
    exact hp.subset (by simp)
  unfold Path.join
  simp only [hs, Bool.false_or, decide_eq_true_eq]
  split_ifs with hd he
  · exact Or.inl rfl
  · right
    rw [← String.endsWith_toSlice, String.Slice.endsWith_string_iff, String.copy_toSlice] at he
    obtain ⟨front, hf⟩ := he
    refine ⟨front, ?_⟩
    rw [String.toList_append, ← hf]
    simp
  · right
    exact ⟨directory.toList, by simp⟩

theorem join_names (hn : IsFileName name) (directory : String) :
    ∃ front, names (Path.join directory name) = front ++ [name] := by
  have hs : name.toList.splitOn '/' = [name.toList] := List.splitOn_eq_singleton hn.noSlash
  rcases join_parts hn directory with hp | ⟨front, hp⟩
  · exact ⟨[], by simp [names, hp, hs]⟩
  · exact ⟨(front.splitOn '/').map String.ofList, by
      simp [names, hp, List.splitOn_append_cons_self, hs]⟩

theorem join_last (hn : IsFileName name) (directory : String) :
    (Path.join directory name).toList.getLast? = name.toList.getLast? := by
  have hne : name.toList ≠ [] := fun he => hn.nonempty (String.toList_eq_nil_iff.mp he)
  rcases join_parts hn directory with hp | ⟨front, hp⟩
  · rw [hp]
  · rw [hp, List.getLast?_append, List.getLast?_cons]
    cases hl : name.toList.getLast? with
    | none => exact absurd (List.getLast?_eq_none_iff.mp hl) hne
    | some c => rfl

theorem join_ne_empty (hn : IsFileName name) (directory : String) :
    Path.join directory name ≠ "" := by
  intro he
  have hl := join_last hn directory
  rw [he] at hl
  exact hn.nonempty (String.toList_eq_nil_iff.mp (List.getLast?_eq_none_iff.mp hl.symm))

theorem join_length (hn : IsFileName name) (directory : String) :
    name.length ≤ (Path.join directory name).length := by
  have hl : (Path.join directory name).toList.length = (Path.join directory name).length :=
    String.length_toList
  rw [← hl, ← String.length_toList]
  rcases join_parts hn directory with hp | ⟨front, hp⟩
  · exact Nat.le_of_eq (congrArg List.length hp).symm
  · rw [hp, List.length_append, List.length_cons]
    omega

theorem withoutSlashes_join (hn : IsFileName name) (directory : String) :
    withoutSlashes (Path.join directory name) = Path.join directory name := by
  have hd : (Path.join directory name).toList.reverse.dropWhile (fun c => c = '/') =
      (Path.join directory name).toList.reverse := by
    cases hr : (Path.join directory name).toList.reverse with
    | nil => rfl
    | cons c cs =>
      have hl : name.toList.getLast? = some c := by
        rw [← join_last hn directory, ← List.head?_reverse, hr]
        rfl
      have hc : c ≠ '/' := fun he => hn.noSlash (he ▸ List.mem_of_getLast? hl)
      simp [hc]
  simp only [withoutSlashes, hd, List.reverse_reverse]
  split
  · rfl
  · exact String.ofList_toList

/-- A path that ends with a name leads to a location that does. -/
theorem locate_join {t : FileTree} (hn : IsFileName name) {l : Location}
    (h : t.locate (Path.join directory name) = .ok l) : l.getLast? = some name := by
  obtain ⟨front, hf⟩ := join_names hn directory
  have hwalk : ∀ start, t.walk start (names (Path.join directory name)) = .ok l →
      l.getLast? = some name := by
    intro start hw
    rw [hf, walk_append] at hw
    cases hm : t.walk start front with
    | error e =>
      rw [hm] at hw
      cases hw
    | ok m =>
      rw [hm] at hw
      rw [walk_name hn hw, List.getLast?_concat]
  unfold locate at h
  split_ifs at h
  · exact hwalk _ h
  · exact hwalk _ h

/-- What is read at one name stays as it is when files of another one are written. -/
theorem Grown.read_join {t u : FileTree} {other : String}
    (h : Grown (fun l => l.getLast? = some other) t u) (hn : IsFileName name) (hne : name ≠ other)
    {bytes : List UInt8} (hr : t.read (Path.join directory name) = .ok bytes) :
    u.read (Path.join directory name) = .ok bytes :=
  h.read hr fun _ hl hlast => hne (Option.some.inj ((locate_join hn hl).symm.trans hlast))

theorem writeText_join {t u : FileTree} (hn : IsFileName name) {text : String}
    (h : t.writeText (Path.join directory name) text = .ok u) :
    Grown (fun l => l.getLast? = some name) t u ∧
      u.read (Path.join directory name) = .ok (Text.encodeUtf8 text.toList) := by
  obtain ⟨l, hl, hg, hb⟩ := write_ok h
  rw [withoutSlashes_join hn] at hl
  refine ⟨hg.mono fun k hk => ?_, read_of_get (hg.locate hl) hb⟩
  exact hk ▸ locate_join hn hl

theorem writeWithParent_join {t u : FileTree} (hn : IsFileName name) {text : String}
    (h : t.writeWithParent (Path.join directory name) text = .ok u) :
    ∃ l, l.getLast? = some name ∧ Grown (· = l) t u ∧
      u.get? l = some (.file (Text.encodeUtf8 text.toList)) ∧
      u.read (Path.join directory name) = .ok (Text.encodeUtf8 text.toList) := by
  obtain ⟨l, hl, hg, hb⟩ := writeWithParent_ok h
  rw [withoutSlashes_join hn] at hl
  exact ⟨l, locate_join hn hl, hg, hb, read_of_get hl hb⟩

end Join

end SampleTypes.FileTree
