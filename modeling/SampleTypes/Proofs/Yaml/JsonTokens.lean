import Mathlib.Data.List.Basic
import SampleTypes.Proofs.Text.Stream
import SampleTypes.Proofs.Yaml.FlowTokens

/-!
The tokens of a JSON text. A document without numbers whose names are short words is read as the
same items and entries in the same brackets, if it can be read to its end.
-/

namespace SampleTypes.Yaml

inductive Shape where
  | scalar
  | sequence
  | mapping
  deriving DecidableEq, Repr

inductive Outline where
  | scalar
  | sequence
  | mapping (entries : List (String × Shape))
  deriving DecidableEq, Repr

def Outline.shape : Outline → Shape
  | .scalar => .scalar
  | .sequence => .sequence
  | .mapping _ => .mapping

def shapeOf : Json → Shape
  | .arr _ => .sequence
  | .obj _ => .mapping
  | _ => .scalar

def outlineOf : Json → Outline
  | .arr _ => .sequence
  | .obj members => .mapping (members.map fun m => (m.1, shapeOf m.2))
  | _ => .scalar

theorem shape_outlineOf (j : Json) : (outlineOf j).shape = shapeOf j := by
  cases j <;> rfl

/-- The parts that a document in brackets is made of. What is not the first of its kind has a comma
in front. -/
inductive Part where
  | node (o : Outline)
  | items (first : Bool)
  | entries (first : Bool) (members : List (String × Shape))

def lead (first : Bool) : List Token := if first then [] else [.comma]

inductive Flow : Part → List Token → Prop where
  | scalar (text : String) (plain : Bool) : Flow (.node .scalar) [.scalar text plain]
  | sequence {ts : List Token} (h : Flow (.items true) ts) :
      Flow (.node .sequence) (.openBracket :: ts)
  | mapping {members : List (String × Shape)} {ts : List Token}
      (h : Flow (.entries true members) ts) : Flow (.node (.mapping members)) (.openBrace :: ts)
  | noItem (first : Bool) : Flow (.items first) [.closeBracket]
  | item (first : Bool) {o : Outline} {ts us : List Token} (hn : Flow (.node o) ts)
      (hr : Flow (.items false) us) : Flow (.items first) (lead first ++ (ts ++ us))
  | noEntry (first : Bool) : Flow (.entries first []) [.closeBrace]
  | entry (first : Bool) (name : String) {o : Outline} {members : List (String × Shape)}
      {ts us : List Token} (hn : Flow (.node o) ts) (hr : Flow (.entries false members) us) :
      Flow (.entries first ((name, o.shape) :: members))
        (lead first ++ .key :: .scalar name false :: .value :: (ts ++ us))

/-- A name that is written as it is and read as one word, soon enough for a key. -/
def IsShortWord (name : String) : Prop :=
  name.toList.length ≤ 1000 ∧ ∀ c ∈ name.toList, isRunChar c = true ∧ Json.writeChar c = [c]

instance (name : String) : Decidable (IsShortWord name) :=
  @instDecidableAnd _ _ _ (List.decidableBAll _ _)

inductive Terse : Json → Prop where
  | null : Terse .null
  | bool (b : Bool) : Terse (.bool b)
  | str (s : String) : Terse (.str s)
  | arr {items : List Json} (h : ∀ j ∈ items, Terse j) : Terse (.arr items)
  | obj {members : List (String × Json)} (hn : ∀ m ∈ members, IsShortWord m.1)
      (h : ∀ m ∈ members, Terse m.2) : Terse (.obj members)

def EndsFlow (rest : List Char) : Prop :=
  ∃ x more, trim rest = x :: more ∧ flowMarks.contains x = true

theorem trim_lineStart (indent : Option Nat) (level : Nat) (rest : List Char) :
    trim (Json.lineStart indent level ++ rest) = trim rest := by
  cases indent with
  | none => rfl
  | some blanks =>
    refine trim_spaces (fun x hx => ?_) rest
    rcases List.mem_cons.mp hx with rfl | hx
    · decide
    · rw [List.eq_of_mem_replicate hx]
      decide

theorem separator_eq (indent : Option Nat) (level : Nat) (rest : List Char) :
    ∃ more, Json.separator indent level ++ rest = ',' :: more ∧ trim more = trim rest := by
  cases indent with
  | none => exact ⟨' ' :: rest, rfl, trim_space (by decide) rest⟩
  | some blanks => exact ⟨Json.lineStart (some blanks) level ++ rest, rfl, trim_lineStart _ _ _⟩

theorem EndsFlow.mark {x : Char} (hx : flowMarks.contains x = true) (hs : isSpace x = false)
    (indent : Option Nat) (level : Nat) (rest : List Char) :
    EndsFlow (Json.lineStart indent level ++ x :: rest) :=
  ⟨x, rest, (trim_lineStart _ _ _).trans (trim_other hs rest), hx⟩

theorem EndsFlow.separator (indent : Option Nat) (level : Nat) (rest : List Char) :
    EndsFlow (Json.separator indent level ++ rest) := by
  obtain ⟨more, he, -⟩ := separator_eq indent level rest
  exact ⟨',', more, he ▸ trim_other (by decide) more, by decide⟩

theorem EndsFlow.items {rest : List Char} (h : EndsFlow rest) (indent : Option Nat) (level : Nat)
    (items : List Json) : EndsFlow (Json.writeItems indent level items ++ rest) := by
  cases items with
  | nil => exact h
  | cons j js =>
    rw [Json.writeItems, List.append_assoc, List.append_assoc]
    exact .separator indent level _

theorem EndsFlow.members {rest : List Char} (h : EndsFlow rest) (indent : Option Nat) (level : Nat)
    (members : List (String × Json)) : EndsFlow (Json.writeMembers indent level members ++ rest) := by
  cases members with
  | nil => exact h
  | cons m ms =>
    obtain ⟨k, j⟩ := m
    rw [Json.writeMembers, List.append_assoc, List.append_assoc, List.append_assoc]
    exact .separator indent level _

namespace Reader

variable {tokens found : List Token} {rest rest' : List Char} {depth : Nat} {allowed : Bool}
  {indent : Option Nat} {level outer : Nat}

theorem Goes.near (h : Goes tokens rest found depth allowed) (hr : trim rest' = trim rest) :
    Goes tokens rest' found depth allowed := by
  obtain ⟨r, hreads, hc⟩ := h
  exact ⟨r, { hreads with ahead := hreads.ahead.trans hr.symm }, hc⟩

/-- The document is read, whatever is before and after it, as long as no word runs on. -/
def ReadsAs (tokens : List Token) (j : Json) : Prop :=
  ∀ {indent : Option Nat} {level : Nat} {rest : List Char} {found : List Token} {depth : Nat}
    {allowed : Bool}, (j.isContainer = true ∨ (depth ≠ 0 ∧ EndsFlow rest)) →
    Goes tokens (Json.write indent level j ++ rest) found depth allowed →
    ∃ ts, Flow (.node (outlineOf j)) ts ∧ Goes tokens rest (ts.reverse ++ found) depth false

theorem Goes.separator (h : Goes tokens (Json.separator indent level ++ rest) found depth allowed) :
    Goes tokens rest (.comma :: found) depth true := by
  obtain ⟨more, he, hm⟩ := separator_eq indent level rest
  rw [he] at h
  exact (h.comma (trim_other (by decide) more)).near hm.symm

theorem Goes.items {items : List Json} (hj : ∀ j ∈ items, ReadsAs tokens j)
    (h : Goes tokens (Json.writeItems indent level items ++
      (Json.lineStart indent outer ++ ']' :: rest)) found (depth + 1) allowed) :
    ∃ ts, Flow (.items false) ts ∧ Goes tokens rest (ts.reverse ++ found) depth false := by
  induction items generalizing found allowed with
  | nil =>
    exact ⟨_, .noItem false, h.closing (.inl ⟨rfl, rfl⟩)
      ((trim_lineStart _ _ _).trans (trim_other (by decide) rest))⟩
  | cons j js ih =>
    obtain ⟨hread, hjs⟩ := List.forall_mem_cons.mp hj
    rw [Json.writeItems, List.append_assoc, List.append_assoc] at h
    have hend := (EndsFlow.mark (x := ']') (by decide) (by decide) indent outer rest).items
      indent level js
    obtain ⟨ts, hts, hgo⟩ := hread (.inr ⟨Nat.succ_ne_zero depth, hend⟩) h.separator
    obtain ⟨us, hus, hgo⟩ := ih hjs hgo
    refine ⟨_, .item false hts hus, ?_⟩
    simpa [lead] using hgo

theorem Goes.member {name : String} {j : Json} (hn : IsShortWord name) (hj : ReadsAs tokens j)
    (hend : EndsFlow rest)
    (h : Goes tokens (Json.writeString name ++ ':' :: ' ' :: (Json.write indent level j ++ rest))
      found (depth + 1) true) :
    ∃ ts, Flow (.node (outlineOf j)) ts ∧
      Goes tokens rest ((.key :: .scalar name false :: .value :: ts).reverse ++ found)
        (depth + 1) false := by
  have hwritten : name.toList.flatMap Json.writeChar = name.toList :=
    (List.flatMap_congr fun c hc => (hn.2 c hc).2).trans (List.flatMap_singleton' _)
  have hquotable : Quotable name.toList := hwritten ▸ quotable_chars name.toList
  have htext : trim (Json.writeString name ++ ':' :: ' ' :: (Json.write indent level j ++ rest)) =
      '"' :: (name.toList ++ '"' :: ':' :: ' ' :: (Json.write indent level j ++ rest)) := by
    rw [Json.writeString, hwritten, List.cons_append, trim_other (by decide), List.append_assoc,
      List.singleton_append]
  obtain ⟨text, hword, hgo⟩ := h.key hquotable hn.1 htext
  obtain rfl := hword fun c hc => (hn.2 c hc).1
  have hspace : trim (Json.write indent level j ++ rest) =
      trim (' ' :: (Json.write indent level j ++ rest)) := (trim_space (by decide) _).symm
  obtain ⟨ts, hts, hgo⟩ := hj (.inr ⟨Nat.succ_ne_zero depth, hend⟩) (hgo.near hspace)
  refine ⟨ts, hts, ?_⟩
  simpa using hgo

theorem Goes.members {members : List (String × Json)} (hn : ∀ m ∈ members, IsShortWord m.1)
    (hj : ∀ m ∈ members, ReadsAs tokens m.2)
    (h : Goes tokens (Json.writeMembers indent level members ++
      (Json.lineStart indent outer ++ '\x7d' :: rest)) found (depth + 1) allowed) :
    ∃ ts, Flow (.entries false (members.map fun m => (m.1, shapeOf m.2))) ts ∧
      Goes tokens rest (ts.reverse ++ found) depth false := by
  induction members generalizing found allowed with
  | nil =>
    exact ⟨_, .noEntry false, h.closing (.inr ⟨rfl, rfl⟩)
      ((trim_lineStart _ _ _).trans (trim_other (by decide) rest))⟩
  | cons m ms ih =>
    obtain ⟨k, j⟩ := m
    obtain ⟨hname, hns⟩ := List.forall_mem_cons.mp hn
    obtain ⟨hread, hjs⟩ := List.forall_mem_cons.mp hj
    rw [Json.writeMembers, List.append_assoc, List.append_assoc, List.append_assoc] at h
    have hend := (EndsFlow.mark (x := '\x7d') (by decide) (by decide) indent outer rest).members
      indent level ms
    obtain ⟨ts, hts, hgo⟩ := h.separator.member hname hread hend
    obtain ⟨us, hus, hgo⟩ := ih hns hjs hgo
    rw [List.map_cons, ← shape_outlineOf]
    refine ⟨_, .entry false k hts hus, ?_⟩
    simpa [lead] using hgo

/-! How each kind of document is read. -/

theorem readsAs_word {j : Json} (word : List Char)
    (hm : word ∈ ["null".toList, "true".toList, "false".toList])
    (hw : ∀ indent level, Json.write indent level j = word) (hc : j.isContainer = false)
    (ho : outlineOf j = .scalar) : ReadsAs tokens j := by
  intro indent level rest found depth allowed hends h
  obtain ⟨hd, x, more, hr, hx⟩ := hends.resolve_left (by simp [hc])
  obtain ⟨depth, rfl⟩ := Nat.exists_eq_succ_of_ne_zero hd
  have hstart : ∀ word ∈ ["null".toList, "true".toList, "false".toList],
      word.head?.any (fun c => !isSpace c) = true := List.all_eq_true.mp (by decide)
  obtain ⟨c, cs, rfl⟩ : ∃ c cs, word = c :: cs :=
    List.exists_cons_of_ne_nil (by rintro rfl; cases hstart _ hm)
  have hspace : isSpace c = false := by simpa using hstart _ hm
  have htext : trim (Json.write indent level j ++ rest) = c :: cs ++ rest := by
    rw [hw, List.cons_append, trim_other hspace]
  rw [ho]
  exact ⟨_, .scalar _ true, h.word _ hm htext hr hx⟩

theorem readsAs_str (s : String) : ReadsAs tokens (.str s) := by
  intro indent level rest found depth allowed hc h
  have htext : trim (Json.write indent level (.str s) ++ rest) =
      '"' :: (s.toList.flatMap Json.writeChar ++ '"' :: rest) := by
    rw [Json.write, Json.writeString, List.cons_append, trim_other (by decide), List.append_assoc,
      List.singleton_append]
  obtain ⟨text, hgo⟩ := h.quoted (quotable_chars s.toList) htext
  exact ⟨_, .scalar text false, hgo⟩

theorem readsAs_arr {items : List Json} (hj : ∀ j ∈ items, ReadsAs tokens j) :
    ReadsAs tokens (.arr items) := by
  intro indent level rest found depth allowed hc h
  cases items with
  | nil =>
    have hgo := h.opening (.inl ⟨rfl, rfl⟩) (trim_other (by decide) (']' :: rest))
    exact ⟨_, .sequence (.noItem true), hgo.closing (.inl ⟨rfl, rfl⟩) (trim_other (by decide) rest)⟩
  | cons j js =>
    obtain ⟨hread, hjs⟩ := List.forall_mem_cons.mp hj
    have htext : trim (Json.write indent level (.arr (j :: js)) ++ rest) =
        '[' :: (Json.lineStart indent (level + 1) ++ (Json.write indent (level + 1) j ++
          (Json.writeItems indent (level + 1) js ++ (Json.lineStart indent level ++ ']' :: rest)))) := by
      rw [Json.write, List.cons_append, trim_other (by decide)]
      simp
    have hgo := h.opening (.inl ⟨rfl, rfl⟩) htext
    have hend := (EndsFlow.mark (x := ']') (by decide) (by decide) indent level rest).items
      indent (level + 1) js
    obtain ⟨ts, hts, hgo⟩ := hread (.inr ⟨Nat.succ_ne_zero depth, hend⟩)
      (hgo.near (trim_lineStart _ _ _).symm)
    obtain ⟨us, hus, hgo⟩ := hgo.items hjs
    refine ⟨_, .sequence (.item true hts hus), ?_⟩
    simpa [lead] using hgo

theorem readsAs_obj {members : List (String × Json)} (hn : ∀ m ∈ members, IsShortWord m.1)
    (hj : ∀ m ∈ members, ReadsAs tokens m.2) : ReadsAs tokens (.obj members) := by
  intro indent level rest found depth allowed hc h
  cases members with
  | nil =>
    have hgo := h.opening (.inr ⟨rfl, rfl⟩) (trim_other (by decide) ('\x7d' :: rest))
    exact ⟨_, .mapping (.noEntry true), hgo.closing (.inr ⟨rfl, rfl⟩) (trim_other (by decide) rest)⟩
  | cons m ms =>
    obtain ⟨k, j⟩ := m
    obtain ⟨hname, hns⟩ := List.forall_mem_cons.mp hn
    obtain ⟨hread, hjs⟩ := List.forall_mem_cons.mp hj
    have htext : trim (Json.write indent level (.obj ((k, j) :: ms)) ++ rest) =
        '\x7b' :: (Json.lineStart indent (level + 1) ++ (Json.writeString k ++ ':' :: ' ' ::
          (Json.write indent (level + 1) j ++ (Json.writeMembers indent (level + 1) ms ++
            (Json.lineStart indent level ++ '\x7d' :: rest))))) := by
      rw [Json.write, List.cons_append, trim_other (by decide)]
      simp
    have hgo := h.opening (.inr ⟨rfl, rfl⟩) htext
    have hend := (EndsFlow.mark (x := '\x7d') (by decide) (by decide) indent level rest).members
      indent (level + 1) ms
    obtain ⟨ts, hts, hgo⟩ := (hgo.near (trim_lineStart _ _ _).symm).member hname hread hend
    obtain ⟨us, hus, hgo⟩ := hgo.members hns hjs
    rw [outlineOf, List.map_cons, ← shape_outlineOf]
    refine ⟨_, .mapping (.entry true k hts hus), ?_⟩
    simpa [lead] using hgo

/-- A document is read as its own outline says, by induction on it. -/
theorem Goes.write {j : Json} (h : Terse j) : ReadsAs tokens j := by
  induction h with
  | null => exact readsAs_word "null".toList (by simp) (fun _ _ => rfl) rfl rfl
  | bool b =>
    cases b with
    | false => exact readsAs_word "false".toList (by simp) (fun _ _ => rfl) rfl rfl
    | true => exact readsAs_word "true".toList (by simp) (fun _ _ => rfl) rfl rfl
  | str s => exact readsAs_str s
  | arr _ ih => exact readsAs_arr ih
  | obj hn _ ih => exact readsAs_obj hn ih

end Reader

namespace Input

theorem isAllowed_printed {c : Char} (h : c = '\n' ∨ 0x20 ≤ c.toNat ∧ c.toNat ≤ 0x7E) :
    isAllowed c = true := by
  rcases h with rfl | h
  · decide
  · simp [isAllowed, h]

theorem fromPage_printed {text : List Char} (hp : Json.Printed text) {fuel n : Nat} {s : Text.Stream}
    (hs : s.Holds (text.drop n)) (hn : 0 < n) (hf : text.length < fuel) :
    fromPage fuel (.ok (text.take n, s)) = ⟨text, none⟩ := by
  induction fuel generalizing text n s with
  | zero => exact absurd hf (Nat.not_lt_zero _)
  | succ fuel ih =>
    cases text with
    | nil =>
      rw [List.take_nil]
      rfl
    | cons c rest =>
      obtain ⟨m, rfl⟩ := Nat.exists_eq_succ_of_ne_zero (Nat.pos_iff_ne_zero.mp hn)
      have hpage : (c :: rest.take m).all isAllowed = true :=
        List.all_eq_true.mpr fun x hx =>
          isAllowed_printed (hp x (List.mem_of_mem_take (i := m + 1) hx))
      obtain ⟨t, ht, hholds⟩ := hs.read pageSize
      have hmore : fromPage fuel (s.read pageSize) = ⟨rest.drop m, none⟩ := by
        rw [ht, List.drop_succ_cons]
        refine ih (fun x hx => hp x (List.mem_cons_of_mem _ (List.mem_of_mem_drop hx))) hholds
          (by decide) ?_
        rw [List.length_drop]
        rw [List.length_cons] at hf
        omega
      simp only [List.take_succ_cons, fromPage, hpage, if_true, hmore]
      rw [List.cons_append, List.take_append_drop]

theorem ofBytes_printed {text : List Char} (hp : Json.Printed text) :
    ofBytes (Text.encodeUtf8 text) = ⟨text, none⟩ := by
  obtain ⟨s, hs, hfront⟩ := (Text.Stream.holds_start hp.ascii hp.no_return).read pageSize
  obtain ⟨t, ht, hback⟩ := hfront.read pageSize
  have hfirst : firstPage { bytes := Text.encodeUtf8 text } =
      .ok (text.take (pageSize + pageSize), t) := by
    simp only [firstPage, hs, ht, bind, Except.bind, List.take_add]
    rfl
  rw [ofBytes, hfirst]
  refine fromPage_printed hp ?_ (by decide) (by rw [Text.encodeUtf8_length hp.ascii]; omega)
  rwa [List.drop_drop] at hback

/-- The tokens of the text of an array or an object, if there is no fault in it. -/
theorem scan_write {j : Json} (hj : Terse j) (hc : j.isContainer = true) {indent : Option Nat}
    {tokens : List Token} (h : scan ⟨Json.write indent 0 j, none⟩ = ⟨tokens, none⟩) :
    Flow (.node (outlineOf j)) tokens := by
  have hstart : Reader.Goes tokens (Json.write indent 0 j ++ []) [] 0 true := by
    rw [List.append_nil]
    exact ⟨{ cursor := { rest := Json.write indent 0 j } },
      ⟨rfl, rfl, rfl, rfl, rfl, fun _ => rfl, rfl, nofun⟩, _, h⟩
  obtain ⟨ts, hts, r, hreads, hcompletes⟩ := Reader.Goes.write hj (.inl hc) hstart
  have hall := hcompletes.finish hreads rfl
  rw [List.append_nil, List.reverse_reverse] at hall
  exact hall ▸ hts

end Input

end SampleTypes.Yaml
