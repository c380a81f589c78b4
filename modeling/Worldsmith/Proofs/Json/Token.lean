/-
Text and numbers of a JSON document are read back from what is written.

Both are read off the front of a longer text, so what is said here is said for any rest.
Text ends at its closing quote, which no escaped character holds.  A number has no end of its
own: it goes on for as long as digits, a point or an exponent follow, and `EndsNumber` says of
a rest that none does.
-/
import Mathlib.Data.List.DropRight
import Mathlib.Tactic.IntervalCases
import Worldsmith.Json.Reader
import Worldsmith.Json.Writer
import Worldsmith.Proofs.Text

namespace Worldsmith

/-! ### White space

Reading begins at the first character that is none. -/

namespace Json.Reader

variable (fuel : Nat) (cs : List Char)

theorem value?_skipSpace : value? fuel (skipSpace cs) = value? fuel cs := by
  cases fuel with
  | zero => rw [value?, value?]
  | succ fuel => rw [value?, value?, skipSpace, skipSpace, List.dropWhile_idempotent]

theorem elements?_skipSpace : elements? fuel (skipSpace cs) = elements? fuel cs := by
  cases fuel with
  | zero => rw [elements?, elements?]
  | succ fuel => rw [elements?, elements?, value?_skipSpace]

theorem members?_skipSpace : members? fuel (skipSpace cs) = members? fuel cs := by
  cases fuel with
  | zero => rw [members?, members?]
  | succ fuel => rw [members?, members?, skipSpace, skipSpace, List.dropWhile_idempotent]

end Json.Reader

/-! ### Code points -/

namespace Text

theorem char?_toNat (c : Char) : char? c.toNat = some c := by
  have hvalid : c.toNat.isValidChar := c.valid
  rw [char?, if_pos hvalid, Char.ofNat_toNat]

/-- No character is half of a surrogate pair. -/
theorem isHighSurrogate_toNat (c : Char) : isHighSurrogate c.toNat = false := by
  have hvalid : c.toNat < 0xD800 ∨ 0xDFFF < c.toNat ∧ c.toNat < 0x110000 := c.valid
  simp only [isHighSurrogate, Bool.and_eq_false_iff, decide_eq_false_iff_not]
  omega

theorem charsOfUnits?_map_toNat (cs : List Char) :
    charsOfUnits? (cs.map Char.toNat) = some cs := by
  induction cs with
  | nil => rfl
  | cons c cs ih =>
      cases cs with
      | nil => simp [charsOfUnits?, char?_toNat]
      | cons d cs =>
          rw [List.map_cons, List.map_cons, charsOfUnits?, isHighSurrogate_toNat, Bool.false_and,
            if_neg Bool.false_ne_true, char?_toNat, ← List.map_cons, ih]
          rfl

theorem textOfUnits?_map_toNat (s : String) :
    textOfUnits? (s.toList.map Char.toNat) = some s := by
  rw [textOfUnits?, charsOfUnits?_map_toNat, Option.map_some, String.ofList_toList]

end Text

namespace Json

open Text

/-! ### Text -/

namespace Reader

/-- The short escapes are read by the table they are written by. -/
theorem units?_shortEscape {c letter : Char} (h : shortEscapes.lookup c = some letter)
    (read : List Nat) (rest : List Char) :
    units? read ('\\' :: letter :: rest) = units? (c.toNat :: read) rest := by
  obtain ⟨before, after, hsplit, -⟩ := List.lookup_eq_some_iff.mp h
  have hmem : (c, letter) ∈ shortEscapes := by
    rw [hsplit]
    exact List.mem_append_right _ List.mem_cons_self
  simp only [shortEscapes, List.mem_cons, List.not_mem_nil, or_false, Prod.mk.injEq] at hmem
  obtain ⟨rfl, rfl⟩ | ⟨rfl, rfl⟩ | ⟨rfl, rfl⟩ | ⟨rfl, rfl⟩ | ⟨rfl, rfl⟩ | ⟨rfl, rfl⟩ | ⟨rfl, rfl⟩ :=
    hmem
  all_goals simp [units?, shortEscape?, shortEscapes]

/-- A control character has a code of four digits. -/
theorem codeEscape_eq {c : Char} (h : c < ' ') :
    ∃ x₁ x₂ x₃ x₄, codeEscape c = ['\\', 'u', x₁, x₂, x₃, x₄]
      ∧ code? x₁ x₂ x₃ x₄ = some c.toNat := by
  have hlt : c.toNat < 32 := h
  rw [codeEscape]
  generalize c.toNat = n at hlt ⊢
  interval_cases n
  all_goals exact ⟨_, _, _, _, rfl, rfl⟩

/-- An escaped character is read as that character. -/
theorem units?_escapeChar (c : Char) (read : List Nat) (rest : List Char) :
    units? read (escapeChar c ++ rest) = units? (c.toNat :: read) rest := by
  rw [escapeChar]
  cases hshort : shortEscapes.lookup c with
  | some letter => exact units?_shortEscape hshort read rest
  | none =>
      by_cases hcontrol : c < ' '
      · obtain ⟨x₁, x₂, x₃, x₄, hescape, hcode⟩ := codeEscape_eq hcontrol
        simp only [if_pos hcontrol, hescape, List.cons_append, List.nil_append]
        rw [units?, hcode]
      · have hquote : c ≠ '"' := by
          rintro rfl
          exact absurd hshort (by decide)
        have hslash : c ≠ '\\' := by
          rintro rfl
          exact absurd hshort (by decide)
        simp only [if_neg hcontrol, List.cons_append, List.nil_append]
        rw [units?, if_neg hcontrol]
        · exact hquote
        · intro _ _ _ _ _ heq
          exact absurd heq hslash
        · intro _ _ heq
          exact absurd heq hslash

theorem units?_flatMap_escapeChar (cs : List Char) (read : List Nat) (rest : List Char) :
    units? read (cs.flatMap escapeChar ++ '"' :: rest)
      = some (read.reverse ++ cs.map Char.toNat, rest) := by
  induction cs generalizing read with
  | nil => simp [units?]
  | cons c cs ih =>
      rw [List.flatMap_cons, List.append_assoc, units?_escapeChar, ih]
      simp

end Reader

theorem toList_writeText (s : String) :
    (writeText s).toList = '"' :: (s.toList.flatMap escapeChar ++ ['"']) := by
  simp [writeText]

/-- **Text is read back** once its opening quote is off. -/
theorem units?_writeText (s : String) (rest : List Char) :
    Reader.units? [] (s.toList.flatMap escapeChar ++ '"' :: rest)
      = some (s.toList.map Char.toNat, rest) := by
  simp [Reader.units?_flatMap_escapeChar]

/-! ### Numbers -/

/-- What may follow a number without becoming part of it. -/
def EndsNumber (rest : List Char) : Prop :=
  ∀ c ∈ rest.head?, c.isDigit = false ∧ c ≠ '.' ∧ c ≠ 'e' ∧ c ≠ 'E'

theorem endsNumber_nil : EndsNumber [] := by
  simp [EndsNumber]

theorem endsNumber_cons {c : Char} {rest : List Char} :
    EndsNumber (c :: rest) ↔ c.isDigit = false ∧ c ≠ '.' ∧ c ≠ 'e' ∧ c ≠ 'E' := by
  simp [EndsNumber]

theorem fraction?_of_endsNumber {rest : List Char} (h : EndsNumber rest) :
    Reader.fraction? rest = some (false, rest) := by
  cases rest with
  | nil => rfl
  | cons c rest =>
      obtain ⟨-, hpoint, hlower, hupper⟩ := endsNumber_cons.mp h
      have hexponent : ¬ (c = 'e' ∨ c = 'E') := by
        rintro (heq | heq)
        · exact hlower heq
        · exact hupper heq
      have hnone : Reader.exponent? false (c :: rest) = some (false, c :: rest) := by
        simp only [Reader.exponent?, if_neg hexponent]
      rw [Reader.fraction?, hnone]
      intro r heq
      exact hpoint (List.cons.inj heq).1

/-- **A number is read back**, whatever its sign. -/
theorem number?_decimal (negative : Bool) (n : Nat) {rest : List Char} (h : EndsNumber rest)
    (hsign : negative = true → n ≠ 0) :
    Reader.number? negative ((decimal n).toList ++ rest)
      = some (.int (if negative then -(n : Int) else n), rest) := by
  have hdigits : ∀ c ∈ (decimal n).toList, c.isDigit = true :=
    (isDigits_iff.mp (isDigits_decimal n)).2
  have hne : (decimal n).toList ≠ [] := (isDigits_iff.mp (isDigits_decimal n)).1
  have htake : rest.takeWhile Char.isDigit = [] := by
    cases rest with
    | nil => rfl
    | cons c rest => simp [(endsNumber_cons.mp h).1]
  have hdrop : rest.dropWhile Char.isDigit = rest := by
    cases rest with
    | nil => rfl
    | cons c rest => simp [(endsNumber_cons.mp h).1]
  have hvalue : digitsValue (decimal n).toList = n := by
    rw [toList_decimal]
    exact Nat.ofDigitChars_ten_toDigits
  -- a leading zero stands alone
  have hzeros : ((decimal n).toList.isEmpty
      || (decide ((decimal n).toList.head? = some '0') && (decimal n).toList.length != 1))
      = false := by
    rw [Bool.or_eq_false_iff]
    refine ⟨by simpa using hne, ?_⟩
    by_cases hhead : (decimal n).toList.head? = some '0'
    · rw [toList_decimal] at hhead
      obtain rfl := eq_zero_of_head?_toDigits hhead
      decide
    · simp [hhead]
  have hzero : (negative && n == 0) = false := by
    cases negative with
    | false => rfl
    | true => simpa using hsign rfl
  rw [Reader.number?, List.takeWhile_append_of_pos hdigits, List.dropWhile_append_of_pos hdigits,
    htake, hdrop, List.append_nil, fraction?_of_endsNumber h]
  simp [hzeros, hvalue, hzero]

end Json

end Worldsmith
