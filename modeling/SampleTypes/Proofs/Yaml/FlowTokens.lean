import SampleTypes.Proofs.Yaml.PlainText
import SampleTypes.Proofs.Yaml.QuotedText
import SampleTypes.Proofs.Yaml.Reading

/-!
The tokens of a JSON text. Brackets, commas and scalars are read one by one, and a string with a colon
after it as a key.
-/

namespace SampleTypes.Yaml.Reader

section

variable {r : Reader} {rest more : List Char} {found : List Token} {depth : Nat} {allowed : Bool}

/-- The reader with another token, before the character that stands for it is passed. -/
theorem Reads.push (h : r.Reads rest found depth allowed) (t : Token) :
    (r.push t).Reads rest (t :: found) depth allowed :=
  { h with
    tokens := congrArg (t :: ·) h.tokens
    count := congrArg (· + 1) h.count }

theorem Reads.move (h : r.Reads rest found depth allowed) {c : Cursor} (hc : c.ahead = trim more)
    (he : c.ending = r.cursor.ending) : (r.moveTo c).Reads more found depth allowed :=
  { h with
    ahead := hc
    complete := he.trans h.complete }

theorem Reads.pass {x : Char} (h : r.Reads rest found depth allowed) (hr : r.cursor.rest = x :: more) :
    (r.moveTo r.cursor.forward).Reads more found depth allowed :=
  h.move (congrArg trim (Cursor.forward_rest hr)) (Cursor.forward_ending _)

theorem Reads.allow (h : r.Reads rest found depth allowed) (a : Bool) :
    (r.allow a).Reads rest found depth a :=
  { h with allowed := id }

theorem Reads.weaken (h : r.Reads rest found depth allowed) : r.Reads rest found depth false :=
  { h with allowed := nofun }

theorem Reads.withDepth (h : r.Reads rest found depth allowed) (d : Nat) (a : Bool) :
    ({ r with depth := d, keyAllowed := a } : Reader).Reads rest found d a :=
  { h with opened := rfl, allowed := id }

theorem Reads.dropKey (h : r.Reads rest found depth allowed) :
    ∃ s, r.dropKey = .ok s ∧ s.cursor = r.cursor ∧ s.Reads rest found depth allowed ∧
      s.keys = r.keys.filter fun k => k.1 != depth := by
  refine ⟨_, dropKey_ok h.optional, rfl, ?_, by rw [h.opened]⟩
  exact { h with optional := fun k hk => h.optional k (List.mem_filter.mp hk).1 }

theorem Reads.noteKey (h : r.Reads rest found depth allowed) :
    ∃ s, r.noteKey = .ok s ∧ s.cursor = r.cursor ∧ s.Reads rest found depth allowed ∧
      (r.keyAllowed = true → s.keys = (r.keys.filter fun k => k.1 != depth) ++
        [(depth, ⟨found.length, false, r.cursor.index, r.cursor.line, r.cursor.column⟩)]) := by
  cases hk : r.keyAllowed with
  | false => exact ⟨r, by simp [Reader.noteKey, hk], rfl, h, nofun⟩
  | true =>
    obtain ⟨s, hs, hc, hreads, hkeys⟩ := h.dropKey
    have hreq : (!r.inFlow && decide (r.indent = (r.cursor.column : Int))) = false := by
      have hne : r.indent ≠ (r.cursor.column : Int) := by
        rw [h.indent]
        omega
      simp [hne]
    simp only [Reader.noteKey, hk, if_true, hs, bind, Except.bind, hreq]
    refine ⟨_, rfl, hc, ?_, fun _ => ?_⟩
    · refine { hreads with optional := fun k hm => ?_ }
      rcases List.mem_append.mp hm with hm | hm
      · exact hreads.optional k hm
      · rw [List.mem_singleton.mp hm]
    · rw [hkeys, hreads.opened, h.count]

end

section

variable {tokens found : List Token} {rest more : List Char} {depth : Nat} {allowed : Bool}

/-- A character that begins neither a comment nor a mark between documents. -/
def IsInner (x : Char) : Prop := x ∉ ['#', byteOrderMark, '-', '.']

instance (x : Char) : Decidable (IsInner x) := inferInstanceAs (Decidable (x ∉ _))

theorem IsInner.no_mark {x : Char} (hx : IsInner x) {c : Cursor} (hr : c.rest = x :: more) :
    c.atMark Cursor.documentStart = false ∧ c.atMark Cursor.documentEnd = false := by
  simp only [IsInner, List.mem_cons, List.not_mem_nil, or_false, not_or] at hx
  constructor
  · simp [Cursor.atMark, hr, Cursor.documentStart, List.isPrefixOf, Ne.symm hx.2.2.1]
  · simp [Cursor.atMark, hr, Cursor.documentEnd, List.isPrefixOf, Ne.symm hx.2.2.2]

theorem Goes.inner {x : Char} (h : Goes tokens rest found depth allowed)
    (hr : trim rest = x :: more) (hx : IsInner x) :
    ∃ s t : Reader, s.Reads rest found depth allowed ∧ s.cursor.rest = x :: more ∧
      (s.cursor.atMark Cursor.documentStart = false ∧ s.cursor.atMark Cursor.documentEnd = false) ∧
      s.readToken x = .ok t ∧ ∀ {rest' found' depth' allowed'},
        t.Reads rest' found' depth' allowed' → Goes tokens rest' found' depth' allowed' := by
  have hx' := hx
  simp only [IsInner, List.mem_cons, not_or] at hx'
  obtain ⟨s, t, hs, hrest, ht, hgo⟩ := h.token hr hx'.1 hx'.2.1
  exact ⟨s, t, hs, hrest, hx.no_mark hrest, ht, hgo⟩

theorem Goes.opening {x : Char} {t : Token}
    (hx : (x = '[' ∧ t = .openBracket) ∨ (x = '\x7b' ∧ t = .openBrace))
    (h : Goes tokens rest found depth allowed) (hr : trim rest = x :: more) :
    Goes tokens more (t :: found) (depth + 1) true := by
  obtain ⟨s, u, hs, hrest, ⟨h1, h2⟩, hu, hgo⟩ :=
    h.inner hr (by rcases hx with ⟨rfl, -⟩ | ⟨rfl, -⟩ <;> decide)
  have hread : s.readToken x = s.readOpening t := by
    rcases hx with ⟨rfl, rfl⟩ | ⟨rfl, rfl⟩ <;> simp [readToken, h1, h2]
  obtain ⟨v, hv, hc, hreads, -⟩ := hs.noteKey
  simp only [hread, readOpening, hv, bind, Except.bind] at hu
  cases hu
  obtain rfl := hreads.opened
  exact hgo (((hreads.pass (hc ▸ hrest)).push t).withDepth (v.depth + 1) true)

theorem Goes.closing {x : Char} {t : Token}
    (hx : (x = ']' ∧ t = .closeBracket) ∨ (x = '\x7d' ∧ t = .closeBrace))
    (h : Goes tokens rest found (depth + 1) allowed) (hr : trim rest = x :: more) :
    Goes tokens more (t :: found) depth false := by
  obtain ⟨s, u, hs, hrest, ⟨h1, h2⟩, hu, hgo⟩ :=
    h.inner hr (by rcases hx with ⟨rfl, -⟩ | ⟨rfl, -⟩ <;> decide)
  have hread : s.readToken x = s.readClosing t := by
    rcases hx with ⟨rfl, rfl⟩ | ⟨rfl, rfl⟩ <;> simp [readToken, h1, h2]
  obtain ⟨v, hv, hc, hreads, -⟩ := hs.dropKey
  have hd : ¬ v.depth = 0 := by rw [hreads.opened]; omega
  simp only [hread, readClosing, hv, bind, Except.bind, hd, if_false] at hu
  cases hu
  have hd' : v.depth - 1 = depth := by rw [hreads.opened]; rfl
  obtain rfl := hd'
  exact hgo (((hreads.pass (hc ▸ hrest)).push t).withDepth (v.depth - 1) false)

theorem Goes.comma (h : Goes tokens rest found depth allowed) (hr : trim rest = ',' :: more) :
    Goes tokens more (.comma :: found) depth true := by
  obtain ⟨s, u, hs, hrest, ⟨h1, h2⟩, hu, hgo⟩ := h.inner hr (by decide)
  have hread : s.readToken ',' = s.readComma := by simp [readToken, h1, h2]
  obtain ⟨v, hv, hc, hreads, -⟩ := (hs.allow true).dropKey
  simp only [hread, readComma, hv, bind, Except.bind] at hu
  cases hu
  exact hgo ((hreads.pass (hc ▸ hrest)).push .comma)

theorem quotedText_passed {c d : Cursor} {body text : List Char} (hb : Quotable body)
    (hr : c.rest = '"' :: (body ++ '"' :: more)) (h : quotedText true c = .ok (text, d)) :
    c.Passed ('"' :: (body ++ ['"'])) d ∧ ((∀ x ∈ body, isRunChar x = true) → text = body) := by
  have hf : c.forward.rest = body ++ '"' :: more := Cursor.forward_rest hr
  exact ⟨(Cursor.passed_forward hr (by decide)).trans (quotedFrom_passed hb hf h),
    fun hw => quotedFrom_word hw hf h⟩

/-- A string is read up to its closing quote, and noted as a key before it where one is allowed. -/
theorem Reads.quoted {s t : Reader} {body : List Char} (hb : Quotable body)
    (hs : s.Reads rest found depth allowed) (hr : s.cursor.rest = '"' :: (body ++ '"' :: more))
    (ht : s.readToken '"' = .ok t) :
    ∃ text, t.Reads more (.scalar (String.ofList text) false :: found) depth false ∧
      s.cursor.Passed ('"' :: (body ++ ['"'])) t.cursor ∧
      ((∀ x ∈ body, isRunChar x = true) → text = body) ∧
      (s.keyAllowed = true → t.keys = (s.keys.filter fun k => k.1 != depth) ++
        [(depth, ⟨found.length, false, s.cursor.index, s.cursor.line, s.cursor.column⟩)]) := by
  obtain ⟨h1, h2⟩ := IsInner.no_mark (x := '"') (by decide) hr
  have hread : s.readToken '"' = s.readQuoted true := by simp [readToken, h1, h2]
  obtain ⟨v, hv, hc, hreads, hkeys⟩ := hs.noteKey
  simp only [hread, readQuoted, hv, bind, Except.bind] at ht
  cases hq : quotedText true v.cursor with
  | error e =>
    rw [hq] at ht
    cases ht
  | ok result =>
    obtain ⟨text, c⟩ := result
    obtain ⟨hp, hword⟩ := quotedText_passed hb (hc ▸ hr) hq
    simp only [hq] at ht
    cases ht
    have hcr : c.rest = more := hp.rest_eq (by rw [hc, hr]; simp)
    exact ⟨text, ((hreads.allow false).push _).move (congrArg trim hcr) hp.ending, hc ▸ hp, hword, hkeys⟩

theorem Goes.quoted {body : List Char} (hb : Quotable body)
    (h : Goes tokens rest found depth allowed) (hr : trim rest = '"' :: (body ++ '"' :: more)) :
    ∃ text, Goes tokens more (.scalar text false :: found) depth false := by
  obtain ⟨s, t, hs, hrest, ht, hgo⟩ := h.token hr (by decide) (by decide)
  obtain ⟨text, hreads, -⟩ := hs.quoted hb hrest ht
  exact ⟨_, hgo hreads⟩

/-- The key that has been noted last is the one of its depth. -/
theorem find_noted {keys : List (Nat × PossibleKey)} {k : PossibleKey}
    {p : Nat × PossibleKey → Bool} (hk : p (depth, k) = true) :
    ((((keys.filter fun k => k.1 != depth) ++ [(depth, k)]).filter p).filter p).find?
      (fun k => k.1 = depth) = some (depth, k) := by
  have hnone : (((keys.filter fun k => k.1 != depth).filter p).filter p).find?
      (fun k => k.1 = depth) = none := by
    refine List.find?_eq_none.mpr fun q hq he => ?_
    have hq := (List.mem_filter.mp (List.mem_filter.mp (List.mem_filter.mp hq).1).1).2
    simp_all
  simp only [List.filter_append, List.find?_append, hnone, Option.none_or]
  simp [hk]

/-- A token that has been noted becomes a key by the colon after it. -/
theorem Reads.value {r : Reader} {t : Token} {k : PossibleKey}
    (h : r.Reads rest (t :: found) (depth + 1) allowed) (hr : r.cursor.rest = ':' :: more)
    (hk : r.keys.find? (fun k => k.1 = r.depth) = some (depth + 1, k))
    (hp : k.position = found.length) :
    ∃ s, r.readToken ':' = .ok s ∧ s.Reads more (.value :: t :: .key :: found) (depth + 1) false := by
  obtain ⟨h1, h2⟩ := IsInner.no_mark (x := ':') (by decide) hr
  have hflow : r.inFlow = true := by simp [inFlow, h.opened]
  have hread : r.readToken ':' = r.readValue := by simp [readToken, h1, h2, hflow]
  have hcount : r.count - k.position = 1 := by
    rw [h.count, hp, List.length_cons]
    omega
  have hfound : r.found.take 1 ++ Token.key :: r.found.drop 1 = t :: .key :: found := by
    rw [h.tokens]
    rfl
  simp only [hread, readValue, hk, bind, Except.bind, pure, Except.pure]
  refine ⟨_, rfl, ?_⟩
  have hconfirm : r.confirmKey k = { r with
      keys := r.keys.filter fun p => p.1 != r.depth
      found := t :: .key :: found
      count := r.count + 1
      keyAllowed := false } := by
    have hinner : (({ r with keys := r.keys.filter fun p => p.1 != r.depth } : Reader).insert
        k.position .key).inFlow = true := hflow
    simp only [confirmKey, hinner, if_true]
    simp only [insert, Reader.allow, hcount, hfound]
  have hreads : (r.confirmKey k).Reads rest (t :: .key :: found) (depth + 1) false := by
    rw [hconfirm]
    exact { h with
      tokens := rfl
      count := congrArg (· + 1) h.count
      allowed := fun h => absurd h Bool.false_ne_true
      optional := fun q hq => h.optional q (List.mem_filter.mp hq).1 }
  exact (hreads.pass (by rw [hconfirm]; exact hr)).push .value

/-- What is noted before a short text on one line may be a key after it. -/
theorem not_stale {c d : Cursor} {text : List Char} (h : c.Passed text d)
    (hl : text.length ≤ longestKey) (position : Nat) :
    (⟨position, false, c.index, c.line, c.column⟩ : PossibleKey).isStale d = false := by
  have hnear : ¬ c.index + longestKey < d.index := by
    rw [h.index]
    omega
  simp [PossibleKey.isStale, h.line, hnear]

theorem Goes.key {body : List Char} (hb : Quotable body) (hl : body.length ≤ 1000)
    (h : Goes tokens rest found (depth + 1) true)
    (hr : trim rest = '"' :: (body ++ '"' :: ':' :: more)) :
    ∃ text, ((∀ x ∈ body, isRunChar x = true) → text = body) ∧
      Goes tokens more (.value :: .scalar (String.ofList text) false :: .key :: found)
        (depth + 1) false := by
  obtain ⟨r, hreads, hc⟩ := h
  obtain ⟨s, hs, hrest, hstep⟩ := hreads.arrive hr (by decide) (by decide)
  obtain ⟨t, ht, hgo⟩ := hc.token hstep
  obtain ⟨text, htext, hp, hword, hkeys⟩ := hs.quoted hb hrest ht
  have hcr : t.cursor.rest = ':' :: more := hp.rest_eq (by rw [hrest]; simp)
  have hfresh := not_stale hp (by simp [longestKey]; omega) found.length
  have hcolon := htext.fresh.here (x := ':') hcr (by decide) (by decide) (by decide)
  have hfind : t.fresh.fresh.keys.find? (fun k => k.1 = t.fresh.fresh.depth) =
      some (depth + 1, ⟨found.length, false, s.cursor.index, s.cursor.line, s.cursor.column⟩) := by
    have hd : t.fresh.fresh.depth = depth + 1 := htext.opened
    rw [hd]
    simp only [fresh, hkeys (hs.allowed rfl)]
    exact find_noted (by simpa using hfresh)
  obtain ⟨last, hlast, hlreads⟩ := htext.fresh.fresh.value hcr hfind rfl
  obtain ⟨u, hu, hgo'⟩ := (hgo htext).token hcolon
  obtain rfl := Except.ok.inj (hlast.symm.trans hu)
  exact ⟨text, hword, last.fresh, hlreads.fresh, hgo' hlreads⟩

theorem Goes.word (word : List Char) (hm : word ∈ ["null".toList, "true".toList, "false".toList])
    (h : Goes tokens rest found (depth + 1) allowed) (hr : trim rest = word ++ more) {x : Char}
    {others : List Char} (hmore : trim more = x :: others) (hx : flowMarks.contains x = true) :
    Goes tokens more (.scalar (String.ofList word) true :: found) (depth + 1) false := by
  have hall : ∀ word ∈ ["null".toList, "true".toList, "false".toList],
      (word.all isFlowWordChar && word.head?.any ['n', 't', 'f'].contains) = true :=
    List.all_eq_true.mp (by decide)
  obtain ⟨hw, hhead⟩ := Bool.and_eq_true_iff.mp (hall word hm)
  obtain ⟨c, cs, rfl⟩ : ∃ c cs, word = c :: cs :=
    List.exists_cons_of_ne_nil (by rintro rfl; cases hhead)
  have hfirst : c = 'n' ∨ c = 't' ∨ c = 'f' := by simpa using hhead
  have hinner : IsInner c := by rcases hfirst with rfl | rfl | rfl <;> decide
  obtain ⟨s, u, hs, hrest, ⟨h1, h2⟩, hu, hgo⟩ := h.inner hr hinner
  have hread : s.readToken c = s.readPlain := by
    have hplain : (!(isBlankOrTab c || indicators.contains c)) = true := by
      rcases hfirst with rfl | rfl | rfl <;> rfl
    have hstart : s.startsPlain c = true := by simp only [startsPlain, hplain, Bool.true_or]
    rcases hfirst with rfl | rfl | rfl <;> simp [readToken, h1, h2, hstart]
  obtain ⟨v, hv, hcur, hreads, -⟩ := hs.noteKey
  have hflow : v.inFlow = true := by simp [inFlow, hreads.opened]
  have hrest : v.cursor.rest = c :: cs ++ more := hcur ▸ hrest
  obtain ⟨htext, hahead, hending⟩ := plainText_word (List.cons_ne_nil c cs) (List.all_eq_true.mp hw) hrest
    hmore hx
  simp only [hread, readPlain, hv, hflow, bind, Except.bind, pure, Except.pure] at hu
  cases hu
  set p := plainText true (v.indent + 1) v.cursor
  rw [← htext]
  exact hgo (((hreads.allow p.hasBreak).push _).move hahead hending).weaken

end

end SampleTypes.Yaml.Reader
