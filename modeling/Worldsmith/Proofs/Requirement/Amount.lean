/-
The text of an amount, as it is given, checked, written and found again.

An amount is read from text by one function, checked by another, and told from the end of a name
by a third.  They do not take the same texts: only the first knows a plus sign, only the first
minds how large a number is, and the check has nothing against a number of any size.  `Numeral`
says of a row of digits what it stands for, by the place of each digit and without any of the
three.

What keeps them together is the text that is written.  It is `Plain`, without a plus sign and
without leading zeros, and all three agree on it: whatever passes the check is found again as
what it was (`readings_agree`).
-/
import Mathlib.Data.Nat.Digits.Defs
import Worldsmith.Proofs.Requirement.Faults

namespace Worldsmith

/-! ### Rows of digits -/

namespace Text

/-- A row of ASCII digits, and the number that it stands for in base ten. -/
structure Numeral (cs : List Char) (n : Nat) : Prop where
  nonempty : cs ≠ []
  digits : ∀ c ∈ cs, '0' ≤ c ∧ c ≤ '9'
  /-- The last digit counts once, and each digit ten times the one after it. -/
  value : Nat.ofDigits 10 (cs.reverse.map fun c => c.toNat - '0'.toNat) = n

/-- A row of digits without leading zeros. -/
structure Plain (cs : List Char) (n : Nat) : Prop extends Numeral cs n where
  noZero : cs.head? = some '0' → cs = ['0']

variable {cs : List Char} {n : Nat}

theorem isDigit_iff {c : Char} : c.isDigit = true ↔ '0' ≤ c ∧ c ≤ '9' := by
  simp [Char.isDigit, Char.le_def]

/-- Reading digits from the left gives the number that their places make up. -/
theorem digitsValue_eq_ofDigits (cs : List Char) :
    digitsValue cs = Nat.ofDigits 10 (cs.reverse.map fun c => c.toNat - '0'.toNat) := by
  rw [digitsValue, List.foldl_eq_foldr_reverse, Nat.ofDigits_eq_foldr, List.foldr_map]
  congr 1
  funext c n
  exact Nat.add_comm _ _

theorem isDigits_iff_exists_numeral : isDigits cs = true ↔ ∃ n, Numeral cs n := by
  rw [isDigits_iff]
  simp only [isDigit_iff]
  constructor
  · intro h
    exact ⟨_, h.1, h.2, rfl⟩
  · rintro ⟨n, h⟩
    exact ⟨h.nonempty, h.digits⟩

theorem Numeral.digitsValue_eq (h : Numeral cs n) : digitsValue cs = n :=
  (digitsValue_eq_ofDigits cs).trans h.value

theorem decimal?_eq_some_iff : decimal? cs = some n ↔ Numeral cs n := by
  rw [decimal?, Option.ite_none_right_eq_some]
  constructor
  · rintro ⟨hdigits, hvalue⟩
    obtain ⟨m, hm⟩ := isDigits_iff_exists_numeral.mp hdigits
    obtain rfl : m = n := hm.digitsValue_eq.symm.trans (Option.some.inj hvalue)
    exact hm
  · intro h
    exact ⟨isDigits_iff_exists_numeral.mpr ⟨n, h⟩, congrArg some h.digitsValue_eq⟩

/-- A row of digits holds no other sign. -/
theorem Numeral.not_mem (h : Numeral cs n) {c : Char} (hc : c.isDigit = false) : c ∉ cs := by
  intro hmem
  rw [isDigit_iff.mpr (h.digits c hmem)] at hc
  cases hc

theorem plain_decimal (n : Nat) : Plain (decimal n).toList n where
  toNumeral := decimal?_eq_some_iff.mp (decimal?_decimal n)
  noZero := by
    intro hhead
    rw [toList_decimal] at hhead
    obtain rfl := eq_zero_of_head?_toDigits hhead
    decide

/-- Zero is written in zeros only. -/
theorem numeral_zero_iff : Numeral cs 0 ↔ cs ≠ [] ∧ ∀ c ∈ cs, c = '0' := by
  constructor
  · intro h
    refine ⟨h.nonempty, fun c hc => ?_⟩
    have hplace : c.toNat - '0'.toNat = 0 := by
      refine Nat.digits_zero_of_eq_zero (by decide) h.value _ (List.mem_map.mpr ⟨c, ?_, rfl⟩)
      exact List.mem_reverse.mpr hc
    have hlow : '0'.toNat ≤ c.toNat := (h.digits c hc).1
    exact Char.toNat_inj.mp (by omega)
  · rintro ⟨hne, hzeros⟩
    refine ⟨hne, fun c hc => by rw [hzeros c hc]; decide, ?_⟩
    have hcs : cs = List.replicate cs.length '0' := List.eq_replicate_iff.mpr ⟨rfl, hzeros⟩
    rw [hcs, List.reverse_replicate, List.map_replicate]
    exact Nat.ofDigits_replicate_zero

end Text

namespace Amount

open Text

/-! ### Texts that amounts are read from -/

/-- Text that is a number, perhaps with a plus sign and with leading zeros. -/
def IsNumber (text : String) (n : Nat) : Prop :=
  ∃ cs, Numeral cs n ∧ (text.toList = cs ∨ text.toList = '+' :: cs)

/-- Text that is a share: digits and a percent sign. -/
def IsShare (text : String) : Prop := ∃ cs, (∃ n, Numeral cs n) ∧ text.toList = cs ++ ['%']

variable {text : String} {n : Nat}

theorem isNumber_iff : IsNumber text n ↔ decimal? (withoutPlus text.toList) = some n := by
  rw [decimal?_eq_some_iff]
  constructor
  · rintro ⟨cs, hcs, htext | htext⟩
    · have hplus : withoutPlus cs = cs := by
        unfold withoutPlus
        split
        · exact absurd List.mem_cons_self (hcs.not_mem (c := '+') (by decide))
        · rfl
      rwa [htext, hplus]
    · rwa [htext]
  · intro h
    refine ⟨withoutPlus text.toList, h, ?_⟩
    unfold withoutPlus
    split
    · rename_i hplus
      exact .inr hplus
    · exact .inl rfl

theorem isShare_iff : IsShare text ↔ (percent text).fault? = none := by
  simp only [fault?_percent_eq_none_iff, isDigits_iff_exists_numeral, IsShare]

/-- **Which texts give a good amount.** -/
theorem fault?_ofText_iff :
    (ofText text).fault? = none ↔ (∃ n < 2 ^ 32, IsNumber text n) ∨ IsShare text := by
  rw [fault?_ofText_eq_none_iff, IsGood, ← fault?_percent_eq_none_iff, ← isShare_iff]
  refine or_congr_left (exists_congr fun n => ?_)
  rw [isNumber_iff, and_comm, UInt32.size]
  norm_num

theorem exists_toNat_eq (h : n < 2 ^ 32) : ∃ k : UInt32, k.toNat = n :=
  ⟨.ofNat n, UInt32.toNat_ofNat_of_lt' h⟩

/-- Numbers of 32 bits are read as what they stand for. -/
theorem ofText_of_isNumber {k : UInt32} (h : IsNumber text k.toNat) : ofText text = .count k := by
  unfold ofText
  extract_lets digits
  have hdigits : decimal? digits = some k.toNat := isNumber_iff.mp h
  simp only [hdigits, dif_pos k.toNat_lt_size, UInt32.ofNatLT_toNat]

/-- A share is kept as it is. -/
theorem ofText_of_isShare (h : IsShare text) : ofText text = .percent text :=
  ofText_text (a := .percent text) (isShare_iff.mp h)

theorem ofText_eq_count_iff {k : UInt32} : ofText text = .count k ↔ IsNumber text k.toNat := by
  refine ⟨fun h => ?_, ofText_of_isNumber⟩
  have hgood : (ofText text).fault? = none := by rw [h]; rfl
  rcases fault?_ofText_iff.mp hgood with ⟨n, hn, hnumber⟩ | hshare
  · obtain ⟨k', rfl⟩ := exists_toNat_eq hn
    rw [ofText_of_isNumber hnumber] at h
    rwa [← count.inj h]
  · rw [ofText_of_isShare hshare] at h
    cases h

/-! ### Texts that amounts are written as -/

/-- The text of an amount stands for it, and is all that is ever written for it. -/
structure ReadsBack (a : Amount) : Prop where
  /-- At the end of a name it is found to be an amount. -/
  found : isWritten a.text.toList = true
  read : ofText a.text = a
  /-- Reading and writing once more changes nothing. -/
  fixed : (ofText a.text).text = a.text
  plain : ∀ k, a = .count k → Plain a.text.toList k.toNat

theorem readsBack_of_fault? {a : Amount} (h : a.fault? = none) : ReadsBack a where
  found := isWritten_text h
  read := ofText_text h
  fixed := congrArg Amount.text (ofText_text h)
  plain := by
    rintro k rfl
    exact plain_decimal k.toNat

/-- What is found to be an amount at the end of a name. -/
theorem isWritten_iff_numeral {cs : List Char} :
    isWritten cs = true ↔
      ∃ digits, (∃ n, Numeral digits n) ∧ (cs = digits ∨ cs = digits ++ ['%']) := by
  simp only [isWritten_iff, Written, isDigits_iff_exists_numeral]

/-- **The readings of an amount agree.**  Text gives a good amount when it is a number of 32 bits
or a share, and then the amount is that number or keeps the text of the share; what is found
behind a name is digits, with or without a percent sign.  And whatever amount is good, given as
text or not, has plain text that is found and read as the same amount. -/
theorem readings_agree :
    (∀ text, (ofText text).fault? = none ↔ (∃ n < 2 ^ 32, IsNumber text n) ∨ IsShare text)
      ∧ (∀ text n, IsNumber text n → n < 2 ^ 32 →
        ∃ k : UInt32, k.toNat = n ∧ ofText text = .count k)
      ∧ (∀ text, IsShare text → ofText text = .percent text ∧ (ofText text).text = text)
      ∧ (∀ cs, isWritten cs = true ↔
        ∃ digits, (∃ n, Numeral digits n) ∧ (cs = digits ∨ cs = digits ++ ['%']))
      ∧ ∀ a : Amount, a.fault? = none → a.ReadsBack := by
  refine ⟨fun text => fault?_ofText_iff, fun text n hnumber hn => ?_, fun text hshare => ?_,
    fun cs => isWritten_iff_numeral, fun a => readsBack_of_fault?⟩
  · obtain ⟨k, rfl⟩ := exists_toNat_eq hn
    exact ⟨k, rfl, ofText_of_isNumber hnumber⟩
  · have hread := ofText_of_isShare hshare
    exact ⟨hread, congrArg Amount.text hread⟩

/-- A number of 33 bits is found behind a name, but it is no good amount. -/
example : isWritten "4294967296".toList = true
    ∧ (ofText "4294967296").fault? = some (.invalidAmount "4294967296") := by
  decide +kernel

theorem readings_agree_seventy :
    IsNumber "+0070" 70
      ∧ (∃ k : UInt32, k.toNat = 70 ∧ ofText "+0070" = .count k)
      ∧ IsShare "070%"
      ∧ (ofText "070%" = .percent "070%" ∧ (ofText "070%").text = "070%")
      ∧ (ofText "+0070").fault? = none
      ∧ (ofText "+0070").ReadsBack
      ∧ (ofText "+0070").text = "70" := by
  have hnumber : IsNumber "+0070" 70 := isNumber_iff.mpr (by decide +kernel)
  have hshare : IsShare "070%" := isShare_iff.mpr (by decide +kernel)
  have hgood : (ofText "+0070").fault? = none := by decide +kernel
  exact ⟨hnumber, readings_agree.2.1 _ _ hnumber (by decide), hshare,
    readings_agree.2.2.1 _ hshare, hgood, readings_agree.2.2.2.2 _ hgood, by decide +kernel⟩

end Amount

end Worldsmith
