/-
A RON document is read back from its text.

Whatever spells a document is read as it (`readsAs_of_spells`).  The induction is on the
spelling.  What is proved of a part is that it is read off the front of any text that does not
go on with a name or a number.

Reading counts down fuel with the nesting and with the place in a list.  A record takes two of
it before its first part, so twice the number of characters is always enough.
-/
import Worldsmith.Proofs.Ron.Spelling
import Worldsmith.Ron.Reader

namespace Worldsmith.Ron

open Text

/-! ### Reading -/

/-- With enough fuel the document is read off the front of a text that goes on otherwise. -/
structure ReadsAs (v : Ron) (cs : List Char) : Prop where
  opens : Opens cs
  value : ∀ fuel rest, 2 * cs.length ≤ fuel → Ends rest →
    Reader.value? {} fuel (cs ++ rest) = some (v, rest)

open Reader

variable {d : Dialect} {v : Ron} {c : Char} {cs rest gap : List Char} {fuel : Nat}

theorem Opens.pos_length (h : Opens cs) : 0 < cs.length := by
  obtain ⟨c, hc, -⟩ := h
  obtain ⟨cs, rfl⟩ := List.head?_eq_some_iff.mp hc
  exact Nat.succ_pos _

theorem ReadsAs.mk' (hopens : Opens cs)
    (h : ∀ fuel rest, 2 * cs.length ≤ fuel + 1 → Ends rest →
      Reader.value? {} (fuel + 1) (cs ++ rest) = some (v, rest)) : ReadsAs v cs where
  opens := hopens
  value fuel rest hfuel hrest := by
    have hpos := hopens.pos_length
    obtain ⟨fuel, rfl⟩ := Nat.exists_eq_succ_of_ne_zero (n := fuel) (by omega)
    exact h fuel rest hfuel hrest

/-! ### Values by what they begin with -/

/-- A value that begins with a bracket, or is one lexeme. -/
def bracketed? (d : Dialect) (fuel : Nat) (cs : List Char) : Option (Ron × List Char) :=
  match cs with
  | '(' :: r => parenthesis? d fuel none r
  | '[' :: r => (elements? d fuel ']' true r).map fun (vs, r) => (.list vs, r)
  | '{' :: r => (entries? d fuel true r).map fun (es, r) => (.map es, r)
  | cs => literal? cs

theorem bracketed?_literal (h : c ∉ ['(', '[', '{']) (cs : List Char) :
    bracketed? d fuel (c :: cs) = literal? (c :: cs) := by
  rw [bracketed?]
  all_goals
    rintro r heq
    exact h (by simp [(List.cons.inj heq).1])

/-- Where no reserved word stands, a name or a bracket decides. -/
theorem value?_of_notMem (h : cs.takeWhile isIdentifierContinue ∉ reserved)
    (hunit : after? "()".toList cs = none) :
    value? d (fuel + 1) cs = match name? cs with
      | some (n, r) => match skip? r with
        | none => none
        | some ('(' :: r) => parenthesis? d fuel (some n) r
        | some r => some (.name n, r)
      | none => bracketed? d fuel cs := by
  have hword : ∀ word ∈ reserved, word? word cs = none :=
    fun word hword => word?_eq_none hword fun heq => h (heq ▸ hword)
  have hfloat : floatWords.findSome? (word? · cs) = none :=
    List.findSome?_eq_none_iff.mpr fun word hmem => hword word (List.mem_append_right _ hmem)
  rw [value?.eq_def]
  simp only [hword "true".toList (by decide), hword "false".toList (by decide),
    hword "Some".toList (by decide), hword "None".toList (by decide), hunit, hfloat]
  cases name? cs <;> rfl

theorem value?_of_not_start (h : isIdentifierStart c = false)
    (hunit : after? "()".toList (c :: cs) = none) :
    value? d (fuel + 1) (c :: cs) = bracketed? d fuel (c :: cs) := by
  rw [value?_of_notMem (notMem_reserved h) hunit, name?_eq_none h]

/-- What has a name in front is read as what is in the parentheses. -/
theorem value?_named {name : String} (hname : isPlainName name = true)
    (hword : name.toList ∉ reserved) (cs : List Char) :
    value? d (fuel + 1) (name.toList ++ '(' :: cs) = parenthesis? d fuel (some name) cs := by
  have hends : Ends ('(' :: cs) := ends_mark (by decide) cs
  have hunit : after? "()".toList (name.toList ++ '(' :: cs) = none :=
    after?_eq_none (c := '(') (head?_name_ne hname (by decide) _)
  rw [value?_of_notMem (by rwa [takeWhile_name hname hends]) hunit, name?_append hname hends]
  simp only
  rw [skip?_of_opens (opens_cons (by decide))]
  rfl

theorem value?_unnamed (h : cs.head? ≠ some ')') :
    value? d (fuel + 1) ('(' :: cs) = parenthesis? d fuel none cs := by
  have hunit : after? "()".toList ('(' :: cs) = none :=
    (after?_cons '(' [')'] cs).trans (after?_eq_none h)
  rw [value?_of_not_start (isIdentifierStart_mark (by decide)) hunit]
  rfl

/-! ### Lexemes as values -/

theorem readsAs_bool (b : Bool) :
    ReadsAs (.bool b) (if b then "true".toList else "false".toList) := by
  cases b with
  | true =>
      refine .mk' (opens_cons (by decide)) fun fuel rest _ hrest => ?_
      rw [if_pos rfl, value?.eq_def]
      simp only [word?_reserved "true".toList (by decide) hrest]
  | false =>
      refine .mk' (opens_cons (by decide)) fun fuel rest _ hrest => ?_
      have hother := word?_other "true".toList "false".toList (by decide)
        (by decide) (by decide) hrest
      rw [if_neg Bool.false_ne_true, value?.eq_def]
      simp only [hother, word?_reserved "false".toList (by decide) hrest]

theorem readsAs_absent : ReadsAs .absent "None".toList := by
  refine .mk' (opens_cons (by decide)) fun fuel rest _ hrest => ?_
  have hother : ∀ word ∈ ["true".toList, "false".toList, "Some".toList],
      word? word ("None".toList ++ rest) = none := by
    have hall : ∀ word ∈ ["true".toList, "false".toList, "Some".toList],
        word ∈ reserved ∧ word ≠ "None".toList := by
      decide
    exact fun word hword =>
      word?_other _ _ (hall word hword).1 (by decide) (hall word hword).2 hrest
  rw [value?.eq_def]
  simp only [hother "true".toList (by decide), hother "false".toList (by decide),
    hother "Some".toList (by decide), word?_reserved "None".toList (by decide) hrest]

theorem readsAs_unit : ReadsAs .unit "()".toList := by
  refine .mk' (opens_cons (by decide)) fun fuel rest _ _ => ?_
  exact value?_unit {} fuel rest

theorem readsAs_text (s : String) : ReadsAs (.text s) (textSpelling s) := by
  have hopens : Opens (textSpelling s) := by
    rw [textSpelling, toList_writeText]
    exact opens_cons (by decide)
  refine .mk' hopens fun fuel rest _ hrest => ?_
  have hstart : isIdentifierStart '"' = false := isIdentifierStart_mark (by decide)
  have htext := text?_writeText s rest
  rw [textSpelling]
  rw [toList_writeText, List.cons_append] at htext ⊢
  rw [value?_of_not_start hstart rfl, bracketed?_literal (by decide), literal?]
  simp only [htext]
  rfl

theorem readsAs_number {n : Nat} (hn : n ≤ 0xffffffffffffffff) :
    ReadsAs (.number (decimal n).toList) (decimal n).toList := by
  have hdigits := isDigits_decimal n
  obtain ⟨hne, hall⟩ := isDigits_iff.mp hdigits
  have hsmall : digitsValue (decimal n).toList ≤ 0xffffffffffffffff := by
    rwa [digitsValue_decimal]
  generalize (decimal n).toList = ds at *
  obtain ⟨d, ds, rfl⟩ := List.exists_cons_of_ne_nil hne
  have hdigit := hall d List.mem_cons_self
  have hd := digitFacts hdigit
  refine .mk' (opens_cons (isOutside_eq_false hd.space hd.mark)) fun fuel rest _ hrest => ?_
  have hbracket : d ∉ ['(', '[', '{'] :=
    fun hmem => hd.mark ((by decide : ['(', '[', '{'] ⊆ marks) hmem)
  have hunit : after? "()".toList (d :: (ds ++ rest)) = none :=
    after?_eq_none (c := '(') fun h => hbracket (by simp [Option.some.inj h])
  have hnumber := number?_digits hdigits hrest hsmall
  have hspelling : (d :: (ds ++ rest)).take ((d :: (ds ++ rest)).length - rest.length)
      = d :: ds := by
    rw [← List.cons_append, List.length_append, Nat.add_sub_cancel, List.take_left]
  rw [List.cons_append] at hnumber ⊢
  rw [value?_of_not_start hd.start hunit, bracketed?_literal hbracket, literal?]
  simp only [hdigit, Bool.true_or, if_true, hnumber, Option.map_some, hspelling]

/-! ### Optional values -/

theorem readsAs_present {gap' : List Char} (hgap : Blanks gap) (hgap' : Blanks gap')
    (h : ReadsAs v cs) :
    ReadsAs (.present 1 v) ("Some".toList ++ '(' :: (gap ++ (cs ++ (gap' ++ [')'])))) := by
  refine .mk' (opens_cons (by decide)) fun fuel rest hfuel hrest => ?_
  have hends : ∀ cs, Ends ('(' :: cs) := ends_mark (by decide)
  simp only [List.length_append, List.length_cons] at hfuel
  obtain ⟨fuel, rfl⟩ := Nat.exists_eq_succ_of_ne_zero (n := fuel)
    (by have := h.opens.pos_length; omega)
  have hclose : Ends (gap' ++ ')' :: rest) := hgap'.ends_append (ends_mark (by decide) rest)
  simp only [List.append_assoc, List.cons_append, List.nil_append]
  rw [value?.eq_def]
  simp only [word?_other "true".toList "Some".toList (by decide) (by decide)
      (by decide) (hends _),
    word?_other "false".toList "Some".toList (by decide) (by decide)
      (by decide) (hends _),
    word?_reserved "Some".toList (by decide) (hends _)]
  rw [Reader.optional?, skip?_of_opens (opens_cons (by decide))]
  show (skip? (gap ++ (cs ++ (gap' ++ ')' :: rest)))).bind _ = _
  rw [skip?_gap hgap (h.opens.append _), Option.bind_some, if_neg Bool.false_ne_true,
    h.value fuel _ (by omega) hclose]
  show (comma? (gap' ++ ')' :: rest)).bind _ = _
  rw [comma?_other hgap' (by decide) (by decide)]
  rfl

/-! ### Parts -/

/-- A part begins with its key, and a colon comes next. -/
theorem Part.Stands.exists_colon {spell : String → List Char} {p : Part}
    (h : p.Stands spell cs) (rest : List Char) :
    ∃ gap r, Blanks gap ∧ cs ++ rest = spell p.key ++ (gap ++ ':' :: r) := by
  obtain ⟨h₁, -, -⟩ := h
  rename_i gap₁ gap₂ gap₃
  exact ⟨gap₁, gap₂ ++ (p.text ++ (gap₃ ++ rest)), h₁, by simp⟩

/-- What reads parts one by one reads a whole listing of them. -/
theorem read_listing {β : Type} {closing : Char} {spell : String → List Char}
    {read : Nat → Bool → List Char → Option (List β × List Char)} {make : Part → β}
    {good : Part → Prop} (hclosing : closing = ')' ∨ closing = '}')
    (hopens : ∀ p, good p → Opens (spell p.key))
    (hclose : ∀ fuel free rest, read (fuel + 1) free (closing :: rest) = some ([], rest))
    (hpart : ∀ {p cs fuel free rest r}, good p → p.Stands spell cs → 2 * cs.length ≤ fuel →
      Ends rest → (∀ gap, Blanks gap → comma? (gap ++ rest) = some (free, r)) →
      read (fuel + 1) true (cs ++ rest)
        = (read fuel free r).map fun x => (make p :: x.1, x.2))
    {ps : List Part} (h : Listing closing spell ps cs) (hps : ∀ p ∈ ps, good p)
    (hfuel : 2 * cs.length ≤ fuel) (rest : List Char) :
    read fuel true (cs ++ rest) = some (ps.map make, rest) := by
  have houtside : isOutside closing = false := by rcases hclosing with rfl | rfl <;> decide
  have hends : ∀ rest, Ends (closing :: rest) :=
    ends_mark (by rcases hclosing with rfl | rfl <;> decide)
  have hcomma : closing ≠ ',' := by rcases hclosing with rfl | rfl <;> decide
  -- Each part is read with less fuel than the one before it.
  induction h generalizing fuel with
  | nil =>
      obtain ⟨fuel, rfl⟩ := Nat.exists_eq_succ_of_ne_zero (n := fuel) (by simp at hfuel; omega)
      exact hclose fuel true rest
  | @last p cs hp =>
      simp only [List.length_append, List.length_singleton] at hfuel
      obtain ⟨fuel, rfl⟩ := Nat.exists_eq_add_of_le' (m := 2) (n := fuel) (by omega)
      rw [List.append_assoc, List.singleton_append,
        hpart (hps p (by simp)) hp (by omega) (hends rest)
          (fun gap hgap => comma?_other hgap houtside hcomma),
        hclose]
      rfl
  | @cons p ps cs gap cs' hp hgap hrest ih =>
      simp only [List.length_append, List.length_cons] at hfuel
      obtain ⟨fuel, rfl⟩ := Nat.exists_eq_succ_of_ne_zero (n := fuel) (by omega)
      have hfirst : Opens (cs' ++ rest) := by
        cases hrest with
        | nil => exact opens_cons houtside
        | last hp' =>
            obtain ⟨-, -, -⟩ := hp'
            simp only [List.append_assoc]
            exact (hopens _ (hps _ (by simp))).append _
        | cons hp' =>
            obtain ⟨-, -, -⟩ := hp'
            simp only [List.append_assoc]
            exact (hopens _ (hps _ (by simp))).append _
      have hcommas : ∀ gap', Blanks gap' →
          comma? (gap' ++ ',' :: (gap ++ (cs' ++ rest))) = some (true, cs' ++ rest) :=
        fun gap' hgap' => comma?_comma hgap' hgap hfirst
      rw [List.append_assoc, List.cons_append, List.append_assoc,
        hpart (hps p List.mem_cons_self) hp (by omega) (ends_mark (by decide) _) hcommas,
        ih (fun p hp => hps p (List.mem_cons_of_mem _ hp)) (by omega)]
      rfl

/-! ### Records -/

/-- A part whose value is read as it should be. -/
structure Part.Reads (p : Part) : Prop where
  value : ReadsAs p.value p.text

/-- And whose key is a name. -/
structure Part.ReadsField (p : Part) : Prop extends p.Reads where
  key : isPlainName p.key = true

theorem fields?_part {p : Part} {free : Bool} {r : List Char} (hp : p.ReadsField)
    (h : p.Stands String.toList cs) (hfuel : 2 * cs.length ≤ fuel) (hrest : Ends rest)
    (hcomma : ∀ gap, Blanks gap → comma? (gap ++ rest) = some (free, r)) :
    fields? {} (fuel + 1) true (cs ++ rest)
      = (fields? {} fuel free r).map fun x => ((p.key, p.value) :: x.1, x.2) := by
  obtain ⟨h₁, h₂, h₃⟩ := h
  rename_i gap₁ gap₂ gap₃
  simp only [List.length_append, List.length_cons] at hfuel
  have hends : Ends (gap₁ ++ ':' :: (gap₂ ++ (p.text ++ (gap₃ ++ rest)))) :=
    h₁.ends_append (ends_mark (by decide) _)
  have hclosing : ∀ cs, after? [')'] (p.key.toList ++ cs) = none :=
    fun cs => after?_eq_none (head?_name_ne hp.key (by decide) cs)
  simp only [List.append_assoc, List.cons_append]
  rw [fields?, skip?_of_opens ((opens_name hp.key).append _)]
  simp only [Option.bind_eq_bind, Option.bind_some, hclosing, Bool.not_true, Bool.false_eq_true,
    if_false]
  rw [properName?_append hp.key hends]
  simp only [Option.bind_some]
  rw [skip?_gap h₁ (opens_cons (by decide))]
  simp only [Option.bind_some, after?, List.isPrefixOf, beq_self_eq_true, Bool.true_and, if_true,
    List.length_singleton, List.drop_one, List.tail_cons]
  rw [skip?_gap h₂ (hp.value.opens.append _)]
  simp only [Option.bind_some]
  rw [hp.value.value fuel _ (by omega) (h₃.ends_append hrest)]
  simp only [Option.bind_some]
  rw [hcomma gap₃ h₃]
  simp only [Option.bind_some]
  cases fields? {} fuel free r <;> rfl

/-- A name and a colon tell that fields follow. -/
theorem holdsFields?_listing {ps : List Part} (hne : ps ≠ [])
    (h : Listing ')' String.toList ps cs) (hps : ∀ p ∈ ps, isPlainName p.key = true) :
    Opens cs ∧ cs.head? ≠ some ')' ∧ ∀ rest, holdsFields? (cs ++ rest) = some true := by
  have hfirst : ∀ {p cs}, p ∈ ps → p.Stands String.toList cs → ∀ rest,
      (Opens (cs ++ rest) ∧ (cs ++ rest).head? ≠ some ')')
        ∧ holdsFields? (cs ++ rest) = some true := by
    intro p cs hp hstands rest
    obtain ⟨gap, r, hgap, heq⟩ := hstands.exists_colon rest
    have hends : Ends (gap ++ ':' :: r) := hgap.ends_append (ends_mark (by decide) r)
    rw [heq]
    refine ⟨⟨(opens_name (hps p hp)).append _, head?_name_ne (hps p hp) (by decide) _⟩, ?_⟩
    rw [holdsFields?, name?_append (hps p hp) hends]
    simp only
    rw [skip?_gap hgap (opens_cons (by decide))]
    rfl
  cases h with
  | nil => exact absurd rfl hne
  | last hp =>
      obtain ⟨⟨hopens, hhead⟩, -⟩ := hfirst (by simp) hp [')']
      refine ⟨hopens, hhead, fun rest => ?_⟩
      rw [List.append_assoc]
      exact (hfirst (by simp) hp _).2
  | cons hp hgap hrest =>
      obtain ⟨⟨hopens, hhead⟩, -⟩ := hfirst (by simp) hp (',' :: (_ ++ _))
      refine ⟨hopens, hhead, fun rest => ?_⟩
      rw [List.append_assoc]
      exact (hfirst (by simp) hp _).2

/-- **A record is read back**, with its name or without one. -/
theorem readsAs_record {name? : Option String} {ps : List Part}
    (hname : ∀ name ∈ name?, isPlainName name = true ∧ name.toList ∉ reserved) (hne : ps ≠ [])
    (hgap : Blanks gap) (hcs : Listing ')' String.toList ps cs) (h : ∀ p ∈ ps, p.ReadsField) :
    ReadsAs (.record name? (ps.map fun p => (p.key, p.value)))
      ((name?.getD "").toList ++ '(' :: (gap ++ cs)) := by
  obtain ⟨hopens, hhead, hfields⟩ := holdsFields?_listing hne hcs fun p hp => (h p hp).key
  have hparenthesis : ∀ fuel rest, 2 * cs.length + 1 ≤ fuel →
      parenthesis? {} fuel name? (gap ++ (cs ++ rest))
        = some (.record name? (ps.map fun p => (p.key, p.value)), rest) := by
    intro fuel rest hfuel
    obtain ⟨fuel, rfl⟩ := Nat.exists_eq_succ_of_ne_zero (n := fuel) (by omega)
    have hread : fields? {} fuel true (cs ++ rest)
        = some (ps.map fun p => (p.key, p.value), rest) :=
      read_listing (.inl rfl) (fun p hp => opens_name hp.key) (fields?_closing {}) fields?_part hcs
        h (by omega) rest
    rw [parenthesis?, skip?_gap hgap (hopens.append rest)]
    simp only [Option.bind_eq_bind, Option.bind_some, hfields, if_true, hread]
    rfl
  cases hsome : name? with
  | none =>
      rw [hsome] at hparenthesis
      refine .mk' (opens_cons (by decide)) fun fuel rest hfuel _ => ?_
      -- What is in the parentheses keeps them from being taken for the empty ones.
      have hinside : (gap ++ (cs ++ rest)).head? ≠ some ')' := by
        cases gap with
        | nil =>
            obtain ⟨c, hc, -⟩ := hopens
            rw [List.nil_append, List.head?_append, hc]
            rwa [hc] at hhead
        | cons c gap =>
            intro hc
            have hspace := hgap c List.mem_cons_self
            rw [Option.some.inj hc] at hspace
            exact absurd hspace (by decide)
      simp only [Option.getD_none, String.toList_empty, List.nil_append, List.length_cons,
        List.length_append] at hfuel ⊢
      rw [List.cons_append, List.append_assoc, value?_unnamed hinside,
        hparenthesis fuel rest (by omega)]
  | some name =>
      rw [hsome] at hparenthesis
      obtain ⟨hplain, hword⟩ := hname name hsome
      refine .mk' ((opens_name hplain).append _) fun fuel rest hfuel _ => ?_
      simp only [Option.getD_some, List.length_cons, List.length_append] at hfuel ⊢
      rw [List.append_assoc, List.cons_append, List.append_assoc, value?_named hplain hword,
        hparenthesis fuel rest (by omega)]

/-! ### Maps -/

theorem opens_textSpelling (s : String) : Opens (textSpelling s) := by
  rw [textSpelling, toList_writeText]
  exact opens_cons (by decide)

theorem entries?_part {p : Part} {free : Bool} {r : List Char} (hp : p.Reads)
    (h : p.Stands textSpelling cs) (hfuel : 2 * cs.length ≤ fuel) (hrest : Ends rest)
    (hcomma : ∀ gap, Blanks gap → comma? (gap ++ rest) = some (free, r)) :
    entries? {} (fuel + 1) true (cs ++ rest)
      = (entries? {} fuel free r).map fun x => ((.text p.key, p.value) :: x.1, x.2) := by
  obtain ⟨h₁, h₂, h₃⟩ := h
  rename_i gap₁ gap₂ gap₃
  simp only [List.length_append, List.length_cons] at hfuel
  have hends : Ends (gap₁ ++ ':' :: (gap₂ ++ (p.text ++ (gap₃ ++ rest)))) :=
    h₁.ends_append (ends_mark (by decide) _)
  have hclosing : ∀ cs, after? ['}'] (textSpelling p.key ++ cs) = none := by
    intro cs
    rw [textSpelling, toList_writeText]
    rfl
  simp only [List.append_assoc, List.cons_append]
  rw [entries?, skip?_of_opens ((opens_textSpelling p.key).append _)]
  simp only [Option.bind_eq_bind, Option.bind_some, hclosing, Bool.not_true, Bool.false_eq_true,
    if_false]
  rw [(readsAs_text p.key).value fuel _ (by omega) hends]
  simp only [Option.bind_some]
  rw [skip?_gap h₁ (opens_cons (by decide))]
  simp only [Option.bind_some, after?, List.isPrefixOf, beq_self_eq_true, Bool.true_and, if_true,
    List.length_singleton, List.drop_one, List.tail_cons]
  rw [skip?_gap h₂ (hp.value.opens.append _)]
  simp only [Option.bind_some]
  rw [hp.value.value fuel _ (by omega) (h₃.ends_append hrest)]
  simp only [Option.bind_some]
  rw [hcomma gap₃ h₃]
  simp only [Option.bind_some]
  cases entries? {} fuel free r <;> rfl

/-- **A map is read back.** -/
theorem readsAs_map {ps : List Part} (hgap : Blanks gap) (hcs : Listing '}' textSpelling ps cs)
    (h : ∀ p ∈ ps, p.Reads) :
    ReadsAs (.map (ps.map fun p => (.text p.key, p.value))) ('{' :: (gap ++ cs)) := by
  refine .mk' (opens_cons (by decide)) fun fuel rest hfuel _ => ?_
  have hstart : isIdentifierStart '{' = false := isIdentifierStart_mark (by decide)
  simp only [List.length_cons, List.length_append] at hfuel
  have hread : entries? {} fuel true (cs ++ rest)
      = some (ps.map fun p => (.text p.key, p.value), rest) :=
    read_listing (.inr rfl) (fun p _ => opens_textSpelling p.key) (entries?_closing {})
      entries?_part hcs h (by omega) rest
  have hopens : Opens (cs ++ rest) := by
    cases hcs with
    | nil => exact opens_cons (by decide)
    | last hp =>
        obtain ⟨-, -, -⟩ := hp
        simp only [List.append_assoc]
        exact (opens_textSpelling _).append _
    | cons hp =>
        obtain ⟨-, -, -⟩ := hp
        simp only [List.append_assoc]
        exact (opens_textSpelling _).append _
  have hskip : entries? {} fuel true (gap ++ (cs ++ rest))
      = entries? {} fuel true (cs ++ rest) := by
    cases fuel with
    | zero => rw [entries?, entries?]
    | succ fuel => rw [entries?, entries?, skip?_gap hgap hopens, skip?_of_opens hopens]
  rw [List.cons_append, List.append_assoc, value?_of_not_start hstart rfl]
  show (entries? {} fuel true (gap ++ (cs ++ rest))).map _ = _
  rw [hskip, hread]
  rfl

/-! ### Documents -/

/-- **Whatever spells a document is read as it.** -/
theorem readsAs_of_spells (h : Spells v cs) : ReadsAs v cs := by
  induction h with
  | bool b => exact readsAs_bool b
  | number n hn => exact readsAs_number hn
  | text s => exact readsAs_text s
  | absent => exact readsAs_absent
  | present hgap hgap' _ ih => exact readsAs_present hgap hgap' ih
  | unit => exact readsAs_unit
  | record hname hne hgap hcs hkeys _ ih =>
      exact readsAs_record hname hne hgap hcs fun p hp => ⟨⟨ih p hp⟩, hkeys p hp⟩
  | map hgap hcs _ ih => exact readsAs_map hgap hcs fun p hp => ⟨ih p hp⟩

/-- **A document is read back from any of its texts**, in the plain dialect. -/
theorem parse?_of_spells {before after : List Char} (hbefore : Blanks before)
    (hafter : Blanks after) (h : Spells v cs) :
    parse? (String.ofList (before ++ (cs ++ after))) = some ({}, v) := by
  obtain ⟨hopens, hvalue⟩ := readsAs_of_spells h
  have hskip : skip? (before ++ (cs ++ after)) = some (cs ++ after) :=
    skip?_gap hbefore (hopens.append after)
  have hattributes : attributes? {} ((cs ++ after).length + 1) (cs ++ after)
      = some ({}, cs ++ after) := by
    obtain ⟨c, hc, hinside⟩ := hopens
    obtain ⟨cs, rfl⟩ := List.head?_eq_some_iff.mp hc
    rw [attributes?]
    rintro r heq
    obtain ⟨rfl, -⟩ := List.cons.inj heq
    cases hinside
  have hread := hvalue (3 * (cs ++ after).length + 3) after
    (by simp only [List.length_append]; omega)
    (by simpa using hafter.ends_append ends_nil)
  have hrest : skip? after = some [] := by
    have hall := skip?_append hafter []
    rwa [List.append_nil, skip?] at hall
  rw [parse?, String.toList_ofList, hskip]
  simp only [Option.bind_eq_bind, Option.bind_some, hattributes, hread, hrest]
  rfl

end Worldsmith.Ron
