/-
The lexemes of RON are read back from what is written.

A name and a number have no end of their own: they go on for as long as their characters do.
All these characters may stand in a raw identifier, so `Ends` says of a rest that it goes on
with none of them, and every lexeme is read off the front of a text up to such a rest
(`takeWhile_append`).

Words that are no names are told by the whole word that the text begins with (`word?_eq`).
-/
import Worldsmith.Proofs.Text
import Worldsmith.Ron.Number
import Worldsmith.Ron.Writer

namespace Worldsmith.Ron

open Text

/-! ### Where a lexeme ends -/

/-- What may follow a name or a number without becoming part of it. -/
def Ends (rest : List Char) : Prop := ∀ c ∈ rest.head?, isRawIdentifier c = false

variable {c : Char} {cs rest gap : List Char}

theorem ends_nil : Ends [] := by
  simp [Ends]

theorem ends_cons : Ends (c :: rest) ↔ isRawIdentifier c = false := by
  simp [Ends]

/-- A row of characters of a lexeme is read up to where it ends. -/
theorem takeWhile_append {p : Char → Bool} (hp : ∀ c, p c = true → isRawIdentifier c = true)
    (hcs : ∀ c ∈ cs, p c = true) (hrest : Ends rest) :
    (cs ++ rest).takeWhile p = cs ∧ (cs ++ rest).dropWhile p = rest := by
  rw [List.takeWhile_append_of_pos hcs, List.dropWhile_append_of_pos hcs]
  cases rest with
  | nil => simp
  | cons c rest =>
      have hc : p c = false :=
        Bool.eq_false_iff.mpr fun htrue => absurd (hp c htrue) (by simp [ends_cons.mp hrest])
      simp [hc]

theorem isRawIdentifier_of_continue (c : Char) (h : isIdentifierContinue c = true) :
    isRawIdentifier c = true := by
  simp [isRawIdentifier, h]

/-! ### Characters

What the tables of Unicode say about single characters is evaluated here, for all of them that
the notation gives a meaning to. -/

/-- The characters that stand between lexemes, or begin a comment or an attribute. -/
def marks : List Char := ['(', ')', '[', ']', '{', '}', ':', ',', '"', '/', '#']

/-- The letters and signs that are read in numbers, but for those that stand for digits. -/
def letters : List Char := ['b', 'o', 'x', 'e', 'E', '.', '+', '-', '_']

theorem not_identifier_of_mem_marks (h : c ∈ marks) :
    isIdentifierStart c = false ∧ isRawIdentifier c = false := by
  have hall : (marks.all fun c => !isIdentifierStart c && !isRawIdentifier c) = true := by
    decide +kernel
  simpa using List.all_eq_true.mp hall c h

theorem isRawIdentifier_of_mem_letters (h : c ∈ letters) : isRawIdentifier c = true := by
  have hall : letters.all isRawIdentifier = true := by
    decide +kernel
  exact List.all_eq_true.mp hall c h

theorem isIdentifierStart_mark (h : c ∈ marks) : isIdentifierStart c = false :=
  (not_identifier_of_mem_marks h).1

theorem ends_mark (h : c ∈ marks) (cs : List Char) : Ends (c :: cs) :=
  ends_cons.mpr (not_identifier_of_mem_marks h).2

/-- What holds of the first characters of Unicode holds of a character of that range. -/
theorem of_ascii {P : Char → Prop} (h : ∀ n < 128, P (Char.ofNat n)) (hc : c.toNat < 128) : P c :=
  Char.ofNat_toNat c ▸ h c.toNat hc

theorem isRawIdentifier_of_isIntegerChar (c : Char) (h : isIntegerChar c = true) :
    isRawIdentifier c = true := by
  have hascii : c.toNat < 128 := by
    rw [isIntegerChar, Bool.or_eq_true] at h
    rcases h with hdigit | hline
    · rw [hexDigit?] at hdigit
      split at hdigit
      · rename_i hrange
        exact Nat.lt_of_le_of_lt (show c.toNat ≤ '9'.toNat from hrange.2) (by decide)
      · split at hdigit
        · rename_i hrange
          exact Nat.lt_of_le_of_lt (show c.toNat ≤ 'f'.toNat from hrange.2) (by decide)
        · split at hdigit
          · rename_i hrange
            exact Nat.lt_of_le_of_lt (show c.toNat ≤ 'F'.toNat from hrange.2) (by decide)
          · cases hdigit
    · obtain rfl := eq_of_beq hline
      decide
  have hall : ∀ n < 128, isIntegerChar (Char.ofNat n) = true →
      isRawIdentifier (Char.ofNat n) = true := by
    decide +kernel
  exact of_ascii (P := fun c => isIntegerChar c = true → isRawIdentifier c = true) hall hascii h

/-- What tells a digit from everything else. -/
structure DigitFacts (c : Char) : Prop where
  integer : isIntegerChar c = true
  float : isFloatChar c = true
  other : c ∉ letters
  value : hexDigit? c = some (c.toNat - '0'.toNat)
  small : c.toNat - '0'.toNat < 10
  start : isIdentifierStart c = false
  mark : c ∉ marks
  space : isSpace c = false

theorem digitFacts (h : c.isDigit = true) : DigitFacts c := by
  have hascii : c.toNat < 128 := by
    have hrange : 48 ≤ c.val ∧ c.val ≤ 57 := by simpa [Char.isDigit] using h
    exact Nat.lt_of_le_of_lt (UInt32.le_iff_toNat_le.mp hrange.2) (by decide)
  have hall : ∀ n < 128, (Char.ofNat n).isDigit = true →
      (isIntegerChar (Char.ofNat n) = true ∧ isFloatChar (Char.ofNat n) = true)
      ∧ (hexDigit? (Char.ofNat n) = some ((Char.ofNat n).toNat - '0'.toNat)
        ∧ (Char.ofNat n).toNat - '0'.toNat < 10)
      ∧ (Char.ofNat n ∉ letters ∧ Char.ofNat n ∉ marks)
      ∧ isIdentifierStart (Char.ofNat n) = false ∧ isSpace (Char.ofNat n) = false := by
    decide +kernel
  refine of_ascii (P := fun c => c.isDigit = true → DigitFacts c) (fun n hn hdigit => ?_) hascii h
  obtain ⟨⟨hinteger, hfloat⟩, ⟨hvalue, hsmall⟩, ⟨hother, hmark⟩, hstart, hspace⟩ := hall n hn hdigit
  exact ⟨hinteger, hfloat, hother, hvalue, hsmall, hstart, hmark, hspace⟩

theorem isRawIdentifier_of_isFloatChar (c : Char) (h : isFloatChar c = true) :
    isRawIdentifier c = true := by
  rw [isFloatChar, Bool.or_eq_true] at h
  rcases h with hdigit | hother
  · exact isRawIdentifier_of_isIntegerChar c (digitFacts hdigit).integer
  · refine isRawIdentifier_of_mem_letters (List.subset_def.mp ?_ (of_decide_eq_true hother))
    simp [letters]

/-! ### Blanks -/

/-- A row of characters that may stand between lexemes. -/
def Blanks (cs : List Char) : Prop := ∀ c ∈ cs, isSpace c = true

/-- The characters that begin something else than a value: a blank, a comment or an attribute. -/
def isOutside (c : Char) : Bool := isSpace c || c == '/' || c == '#'

/-- Neither a blank nor a comment stands first, and no attribute either. -/
def Opens (cs : List Char) : Prop := ∃ c ∈ cs.head?, isOutside c = false

theorem blanks_nil : Blanks [] := by
  simp [Blanks]

theorem isOutside_eq_false (hspace : isSpace c = false) (hmark : c ∉ marks) :
    isOutside c = false := by
  have hslash : c ≠ '/' := fun h => hmark (by simp [h, marks])
  have hhash : c ≠ '#' := fun h => hmark (by simp [h, marks])
  simp [isOutside, hspace, hslash, hhash]

theorem opens_cons (h : isOutside c = false) : Opens (c :: cs) := ⟨c, rfl, h⟩

theorem Opens.append (h : Opens cs) (rest : List Char) : Opens (cs ++ rest) := by
  obtain ⟨c, hc, h⟩ := h
  exact ⟨c, by rw [List.head?_append, hc]; rfl, h⟩

theorem Blanks.ends_append (hgap : Blanks gap) (hrest : Ends rest) : Ends (gap ++ rest) := by
  cases gap with
  | nil => exact hrest
  | cons c gap =>
      have hall : ([' ', '\t', '\n', '\r', '\x0b', '\x0c', '\u0085', '\u200e', '\u200f', '\u2028',
          '\u2029'].all fun c => !isRawIdentifier c) = true := by
        decide +kernel
      have hspace := of_decide_eq_true (hgap c List.mem_cons_self)
      exact ends_cons.mpr (by simpa using List.all_eq_true.mp hall c hspace)

theorem skip?_of_opens (h : Opens cs) : skip? cs = some cs := by
  obtain ⟨c, hc, hinside⟩ := h
  obtain ⟨cs, rfl⟩ := List.head?_eq_some_iff.mp hc
  have hplain : (isSpace c = false ∧ c ≠ '/') ∧ c ≠ '#' := by simpa [isOutside] using hinside
  rw [skip?.eq_def]
  simp [hplain]

/-- **Blanks are passed over.** -/
theorem skip?_append (hgap : Blanks gap) (cs : List Char) : skip? (gap ++ cs) = skip? cs := by
  induction gap with
  | nil => rfl
  | cons c gap ih =>
      rw [List.cons_append, skip?.eq_def]
      simp only [if_pos (hgap c List.mem_cons_self)]
      exact ih fun c hc => hgap c (List.mem_cons_of_mem _ hc)

theorem skip?_gap (hgap : Blanks gap) (h : Opens cs) : skip? (gap ++ cs) = some cs := by
  rw [skip?_append hgap, skip?_of_opens h]

theorem comma?_comma {gap' : List Char} (hgap : Blanks gap) (hgap' : Blanks gap') (h : Opens cs) :
    comma? (gap ++ ',' :: (gap' ++ cs)) = some (true, cs) := by
  rw [comma?, skip?_gap hgap (opens_cons (by decide))]
  show (skip? (gap' ++ cs)).bind _ = _
  rw [skip?_gap hgap' h]
  rfl

theorem comma?_other (hgap : Blanks gap) (hc : isOutside c = false) (hcomma : c ≠ ',') :
    comma? (gap ++ c :: cs) = some (false, c :: cs) := by
  rw [comma?, skip?_gap hgap (opens_cons hc), Option.bind_eq_bind, Option.bind_some]
  split
  · rename_i heq
    exact absurd (List.cons.inj heq).1 hcomma
  · rfl

/-! ### Words and names -/

/-- **A word is read where the text begins with just that word.** -/
theorem word?_eq {word : List Char} (hword : ∀ c ∈ word, isIdentifierContinue c = true)
    (cs : List Char) :
    word? word cs = if cs.takeWhile isIdentifierContinue = word
      then some (cs.dropWhile isIdentifierContinue) else none := by
  by_cases hprefix : word <+: cs
  · obtain ⟨rest, rfl⟩ := hprefix
    rw [word?, after?_append, List.takeWhile_append_of_pos hword,
      List.dropWhile_append_of_pos hword]
    cases rest with
    | nil => simp [endsWord, Option.filter]
    | cons c rest => cases hc : isIdentifierContinue c <;> simp [endsWord, Option.filter, hc]
  · have hnone : after? word cs = none := by
      rw [after?, if_neg fun h => hprefix (List.isPrefixOf_iff_prefix.mp h)]
    have hother : cs.takeWhile isIdentifierContinue ≠ word := by
      rintro rfl
      exact hprefix (List.takeWhile_prefix _)
    rw [word?, hnone, if_neg hother]
    rfl

/-- The words that are no names. -/
def reserved : List (List Char) :=
  ["true".toList, "false".toList, "Some".toList, "None".toList] ++ floatWords

/-- They begin like names, and so do the names of types. -/
theorem word_facts {word : List Char} (h : word ∈ reserved ++ integerTypes.map Prod.fst) :
    word.head?.any isIdentifierStart = true ∧ ∀ c ∈ word, isIdentifierContinue c = true := by
  have hall : ((reserved ++ integerTypes.map Prod.fst).all fun word =>
      word.head?.any isIdentifierStart && word.all isIdentifierContinue) = true := by
    decide +kernel
  simpa using List.all_eq_true.mp hall word h

theorem continue_of_mem_reserved {word : List Char} (h : word ∈ reserved) :
    ∀ c ∈ word, isIdentifierContinue c = true :=
  (word_facts (List.mem_append_left _ h)).2

theorem word?_reserved (word : List Char) (hword : word ∈ reserved) (hrest : Ends rest) :
    word? word (word ++ rest) = some rest := by
  have hall := continue_of_mem_reserved hword
  obtain ⟨htake, hdrop⟩ := takeWhile_append isRawIdentifier_of_continue hall hrest
  rw [word?_eq hall, htake, hdrop, if_pos rfl]

/-- No word is read where the text begins with another one. -/
theorem word?_eq_none {word : List Char} (hword : word ∈ reserved)
    (h : cs.takeWhile isIdentifierContinue ≠ word) : word? word cs = none := by
  rw [word?_eq (continue_of_mem_reserved hword), if_neg h]

theorem word?_other (word word' : List Char) (hword : word ∈ reserved) (hword' : word' ∈ reserved)
    (hne : word ≠ word') (hrest : Ends rest) : word? word (word' ++ rest) = none := by
  refine word?_eq_none hword ?_
  rw [(takeWhile_append isRawIdentifier_of_continue (continue_of_mem_reserved hword') hrest).1]
  exact hne.symm

/-- No reserved word stands where no name may start. -/
theorem notMem_reserved (h : isIdentifierStart c = false) :
    (c :: cs).takeWhile isIdentifierContinue ∉ reserved := by
  intro hmem
  have hhead := (word_facts (List.mem_append_left _ hmem)).1
  rw [List.takeWhile_cons] at hhead
  split at hhead
  · rw [List.head?_cons, Option.any_some, h] at hhead
    cases hhead
  · cases hhead

/-- A name whose first letter cannot open anything else. -/
def isPlainName (name : String) : Bool :=
  match name.toList with
  | [] => false
  | c :: cs => isIdentifierStart c && c != 'b' && c != 'r' && (c :: cs).all isIdentifierContinue

theorem exists_of_isPlainName {name : String} (h : isPlainName name = true) :
    ∃ c cs, name.toList = c :: cs ∧ isIdentifierStart c = true ∧ c ≠ 'b' ∧ c ≠ 'r'
      ∧ ∀ d ∈ c :: cs, isIdentifierContinue d = true := by
  rw [isPlainName] at h
  split at h
  · cases h
  · rename_i c cs hname
    simp only [Bool.and_eq_true, bne_iff_ne, List.all_eq_true] at h
    obtain ⟨⟨⟨hstart, hb⟩, hr⟩, hall⟩ := h
    exact ⟨c, cs, hname, hstart, hb, hr, hall⟩

theorem opensLiteral_eq_false (hb : c ≠ 'b') (hr : c ≠ 'r') : opensLiteral (c :: cs) = false := by
  simp [opensLiteral, List.isPrefixOf, beq_eq_false_iff_ne.mpr hb.symm,
    beq_eq_false_iff_ne.mpr hr.symm]

section Plain

variable {name : String} (hname : isPlainName name = true)
include hname

/-- **A name is read back.** -/
theorem name?_append (hrest : Ends rest) : name? (name.toList ++ rest) = some (name, rest) := by
  obtain ⟨c, cs, heq, hstart, hb, hr, hall⟩ := exists_of_isPlainName hname
  have htail : ∀ d ∈ cs, isIdentifierContinue d = true :=
    fun d hd => hall d (List.mem_cons_of_mem _ hd)
  obtain ⟨htake, hdrop⟩ := takeWhile_append isRawIdentifier_of_continue htail hrest
  rw [heq, List.cons_append, name?, if_neg (by simp [opensLiteral_eq_false hb hr]), if_pos hstart,
    htake, hdrop, ← heq, String.ofList_toList]
  exact fun _ hraw => absurd hraw hr

theorem properName?_append (hrest : Ends rest) :
    properName? (name.toList ++ rest) = some (name, rest) := by
  have hends : rest.head?.any isRawIdentifier = false := by
    cases rest with
    | nil => rfl
    | cons c rest => exact ends_cons.mp hrest
  rw [properName?, name?_append hname hrest]
  simp [hends]

/-- It is the word that the text begins with. -/
theorem takeWhile_name (hrest : Ends rest) :
    (name.toList ++ rest).takeWhile isIdentifierContinue = name.toList := by
  obtain ⟨c, cs, heq, -, -, -, hall⟩ := exists_of_isPlainName hname
  rw [heq]
  exact (takeWhile_append isRawIdentifier_of_continue hall hrest).1

theorem head?_name_ne {mark : Char} (hmark : mark ∈ marks) (rest : List Char) :
    (name.toList ++ rest).head? ≠ some mark := by
  obtain ⟨c, cs, heq, hstart, -⟩ := exists_of_isPlainName hname
  rw [heq, List.cons_append, List.head?_cons]
  intro hc
  rw [Option.some.inj hc, isIdentifierStart_mark hmark] at hstart
  cases hstart

theorem opens_name : Opens name.toList := by
  obtain ⟨c, cs, heq, -, -, -, hall⟩ := exists_of_isPlainName hname
  have hc := isRawIdentifier_of_continue c (hall c List.mem_cons_self)
  have hspace : isSpace c = false := Bool.eq_false_iff.mpr fun hspace => by
    have hblanks : Blanks [c] := by simpa [Blanks]
    exact absurd hc (by simp [ends_cons.mp (hblanks.ends_append ends_nil)])
  have hmark : c ∉ marks := fun hmem => by
    rw [(not_identifier_of_mem_marks hmem).2] at hc
    cases hc
  rw [heq]
  exact opens_cons (isOutside_eq_false hspace hmark)

end Plain

/-- Where no name may start, none is read. -/
theorem name?_eq_none (h : isIdentifierStart c = false) : name? (c :: cs) = none := by
  rw [name?, if_neg (c := isIdentifierStart c = true) (by simp [h]), ite_self]
  rintro r rfl
  exact absurd h (by decide +kernel)

/-! ### Text -/

theorem toList_writeText (s : String) :
    (writeText s).toList = '"' :: (s.toList.flatMap escapeChar ++ ['"']) := by
  simp [writeText]

/-- An escaped character is read as that character. -/
theorem quotedText?_escapeChar (c : Char) (read : List Char) (fuel : Nat) (rest : List Char) :
    quotedText? read (fuel + 1) (escapeChar c ++ rest) = quotedText? (c :: read) fuel rest := by
  rw [escapeChar]
  split
  · rename_i hspecial
    have hcases : c = '"' ∨ c = '\\' := by simpa using hspecial
    rcases hcases with rfl | rfl <;> rfl
  · rename_i hplain
    have hne : c ≠ '"' ∧ c ≠ '\\' := by simpa using hplain
    rw [List.singleton_append, quotedText?, if_neg hne.1, if_neg hne.2]

theorem quotedText?_flatMap (cs read : List Char) {fuel : Nat} (hfuel : cs.length < fuel) :
    quotedText? read fuel (cs.flatMap escapeChar ++ '"' :: rest)
      = some (String.ofList (read.reverse ++ cs), rest) := by
  obtain ⟨fuel, rfl⟩ := Nat.exists_eq_succ_of_ne_zero (Nat.ne_zero_of_lt hfuel)
  induction cs generalizing read fuel with
  | nil => simp [quotedText?]
  | cons c cs ih =>
      obtain ⟨fuel, rfl⟩ := Nat.exists_eq_succ_of_ne_zero (n := fuel) (by simp at hfuel; omega)
      rw [List.flatMap_cons, List.append_assoc, quotedText?_escapeChar,
        ih (c :: read) fuel (by simp at hfuel ⊢; omega)]
      simp

theorem length_le_flatMap_escapeChar (cs : List Char) :
    cs.length ≤ (cs.flatMap escapeChar).length := by
  induction cs with
  | nil => exact Nat.le_refl _
  | cons c cs ih =>
      have hone : 1 ≤ (escapeChar c).length := by
        rw [escapeChar]
        split <;> simp
      rw [List.flatMap_cons, List.length_append, List.length_cons]
      omega

/-- **Text is read back.** -/
theorem text?_writeText (s : String) (rest : List Char) :
    text? ((writeText s).toList ++ rest) = some (s, rest) := by
  have hlength := length_le_flatMap_escapeChar s.toList
  rw [toList_writeText, List.cons_append, text?, List.append_assoc, List.singleton_append,
    quotedText?_flatMap _ _ (by simp only [List.length_append, List.length_cons]; omega),
    List.reverse_nil, List.nil_append, String.ofList_toList]

/-! ### Numbers -/

theorem valueIn?_digits (hcs : ∀ c ∈ cs, c.isDigit = true) :
    valueIn? 10 cs = some (digitsValue cs) := by
  rw [valueIn?, digitsValue]
  generalize 0 = n
  induction cs generalizing n with
  | nil => rfl
  | cons c cs ih =>
      have hc := digitFacts (hcs c List.mem_cons_self)
      have hline : c ≠ '_' := fun h => hc.other (by simp [h, letters])
      rw [List.foldlM_cons, List.foldl_cons, if_neg hline, hc.value, Option.bind_some,
        if_pos hc.small]
      exact ih (fun c hc => hcs c (List.mem_cons_of_mem _ hc)) _

section Digits

variable (hdigits : isDigits cs = true)
include hdigits

/-- A row of digits has no sign. -/
theorem sign_digits : sign (cs ++ rest) = (false, cs ++ rest) := by
  obtain ⟨hne, hall⟩ := isDigits_iff.mp hdigits
  obtain ⟨d, ds, rfl⟩ := List.exists_cons_of_ne_nil hne
  have hd := digitFacts (hall d List.mem_cons_self)
  rw [List.cons_append, sign]
  · rintro r heq
    exact hd.other (by simp [(List.cons.inj heq).1, letters])
  · rintro r heq
    exact hd.other (by simp [(List.cons.inj heq).1, letters])

/-- It announces no base. -/
theorem base_digits (hrest : Ends rest) : base (cs ++ rest) = (10, cs ++ rest) := by
  obtain ⟨-, hall⟩ := isDigits_iff.mp hdigits
  -- the letter of a base is no digit, and the rest does not begin with one
  have hletter : ∀ letter ∈ ['b', 'o', 'x'], ∀ r, cs ++ rest ≠ '0' :: letter :: r := by
    intro letter hletter r heq
    have hmem : letter ∈ letters := List.mem_append_left _ hletter
    match cs, hall, heq with
    | [], _, _ => simp [isDigits] at hdigits
    | [d], _, heq =>
        obtain ⟨-, rfl⟩ := List.cons.inj heq
        exact absurd (isRawIdentifier_of_mem_letters hmem) (by simp [ends_cons.mp hrest])
    | d :: d' :: ds, hall, heq =>
        obtain ⟨rfl, -⟩ := List.cons.inj (List.cons.inj heq).2
        exact (digitFacts (hall d' (by simp))).other hmem
  rw [base]
  · exact hletter 'b' (by simp)
  · exact hletter 'o' (by simp)
  · exact hletter 'x' (by simp)

theorem integer_digits (hrest : Ends rest) :
    Integer.ofText (cs ++ rest) = ⟨false, 10, cs, none, rest⟩ := by
  obtain ⟨-, hall⟩ := isDigits_iff.mp hdigits
  obtain ⟨htake, hdrop⟩ := takeWhile_append isRawIdentifier_of_isIntegerChar
    (fun c hc => (digitFacts (hall c hc)).integer) hrest
  have hnone : (integerTypes.findSome? fun t => (word? t.1 rest).map (t.1, ·)) = none := by
    have hword : rest.takeWhile isIdentifierContinue = [] :=
      (takeWhile_append isRawIdentifier_of_continue (List.forall_mem_nil _) hrest).1
    refine List.findSome?_eq_none_iff.mpr fun t ht => ?_
    obtain ⟨hhead, hcontinue⟩ :=
      word_facts (List.mem_append_right _ (List.mem_map_of_mem ht))
    have hne : [] ≠ t.1 := fun h => by
      rw [← h] at hhead
      cases hhead
    rw [word?_eq hcontinue, hword, if_neg hne]
    rfl
  simp only [Integer.ofText, sign_digits hdigits, base_digits hdigits hrest, htake, hdrop, hnone]

theorem value?_digits :
    Integer.value? ⟨false, 10, cs, none, rest⟩ = some (digitsValue cs : Int) := by
  obtain ⟨hne, hall⟩ := isDigits_iff.mp hdigits
  obtain ⟨d, ds, rfl⟩ := List.exists_cons_of_ne_nil hne
  have hline : d ≠ '_' :=
    fun h => (digitFacts (hall d List.mem_cons_self)).other (by simp [h, letters])
  rw [Integer.value?, valueIn?_digits hall]
  simp [hline]

/-- **A number is read back** in the spelling that it has. -/
theorem number?_digits (hrest : Ends rest) (hsmall : digitsValue cs ≤ 0xffffffffffffffff) :
    number? (cs ++ rest) = some rest := by
  obtain ⟨-, hall⟩ := isDigits_iff.mp hdigits
  obtain ⟨hinteger, -⟩ := takeWhile_append isRawIdentifier_of_isIntegerChar
    (fun c hc => (digitFacts (hall c hc)).integer) hrest
  obtain ⟨hfloat, -⟩ := takeWhile_append isRawIdentifier_of_isFloatChar
    (fun c hc => (digitFacts (hall c hc)).float) hrest
  have hfits : Integer.fits ⟨false, 10, cs, none, rest⟩ (digitsValue cs : Int) = true := by
    simpa [Integer.fits] using Int.ofNat_le.mpr hsmall
  simp only [number?, sign_digits hdigits, hinteger, hfloat, Nat.lt_irrefl, if_false,
    integer_digits hdigits hrest, value?_digits hdigits]
  simp [Option.filter, hfits]

end Digits

theorem digitsValue_decimal (n : Nat) : digitsValue (decimal n).toList = n := by
  have hvalue := decimal?_decimal n
  rw [decimal?, if_pos (isDigits_decimal n)] at hvalue
  exact Option.some.inj hvalue

/-- **A number of 32 bits is read out** of its decimal form. -/
theorem word32?_decimal (n : UInt32) : word32? (decimal n.toNat).toList = some n := by
  have hdigits := isDigits_decimal n.toNat
  have hinteger := integer_digits hdigits ends_nil
  have hvalue : Integer.value? ⟨false, 10, (decimal n.toNat).toList, none, []⟩
      = some (n.toNat : Int) := by
    rw [value?_digits hdigits, digitsValue_decimal]
  rw [List.append_nil] at hinteger
  have hlt : n.toNat < UInt32.size := n.toNat_lt
  rw [word32?, hinteger]
  simp only [hvalue, List.isEmpty_nil, Option.any_none]
  show (if h : n.toNat < UInt32.size then some (UInt32.ofNatLT n.toNat h) else none) = some n
  rw [dif_pos hlt, UInt32.ofNatLT_toNat]

end Worldsmith.Ron
