/-
A subject that may be written is read back from its token.

A token is cut without regard to what its name holds: a sigil off the front, an amount off
the end.  `Legal` says of a name what makes both cuts harmless, and it is just what the
check before writing accepts.  The name may be as wild as it likes otherwise: brackets,
operators, colons and at signs all come back as part of it.

Amounts take the same way twice, once in the check and once in reading.  A count is
written in digits and a percentage has a percent sign behind them, so neither is mistaken
for the other.
-/
import Mathlib.Tactic.Common
import Worldsmith.Proofs.Text
import Worldsmith.Requirement.Subject

namespace Worldsmith

open Text

/-! ### Amounts -/

namespace Amount

theorem eq_of_beforePercent? {cs digits : List Char} (h : beforePercent? cs = some digits) :
    cs = digits ++ ['%'] := by
  unfold beforePercent? at h
  split at h
  · rename_i hlast
    obtain ⟨ys, rfl⟩ := List.getLast?_eq_some_iff.mp hlast
    obtain rfl : ys = digits := by simpa using h
    rfl
  · simp at h

theorem beforePercent?_append (digits : List Char) :
    beforePercent? (digits ++ ['%']) = some digits := by
  simp [beforePercent?]

theorem beforePercent?_eq_none {cs : List Char} (h : '%' ∉ cs) : beforePercent? cs = none := by
  unfold beforePercent?
  split
  · rename_i hlast
    exact absurd (List.mem_of_getLast? hlast) h
  · rfl

/-- What is written as an amount holds nothing but digits and percent signs. -/
theorem not_mem_of_isWritten {c : Char} (hdigit : c.isDigit = false) (hpercent : c ≠ '%')
    {cs : List Char} (h : isWritten cs = true) : c ∉ cs := by
  unfold isWritten at h
  cases hcs : beforePercent? cs with
  | none =>
      rw [hcs] at h
      exact not_mem_of_isDigits hdigit h
  | some digits =>
      rw [hcs] at h
      have hd : c ∉ digits := not_mem_of_isDigits hdigit h
      rw [eq_of_beforePercent? hcs]
      simp [hd, hpercent]

/-- Text that reads as an amount: digits, with at most one percent sign behind them. -/
def Written (cs : List Char) : Prop :=
  ∃ digits, isDigits digits = true ∧ (cs = digits ∨ cs = digits ++ ['%'])

theorem isWritten_iff {cs : List Char} : isWritten cs = true ↔ Written cs := by
  rw [isWritten]
  constructor
  · intro h
    cases hcs : beforePercent? cs with
    | none =>
        rw [hcs] at h
        exact ⟨cs, h, .inl rfl⟩
    | some digits =>
        rw [hcs] at h
        exact ⟨digits, h, .inr (eq_of_beforePercent? hcs)⟩
  · intro h
    obtain ⟨digits, hdigits, rfl | rfl⟩ := h
    · have hpercent : '%' ∉ cs := not_mem_of_isDigits (by decide) hdigits
      rw [beforePercent?_eq_none hpercent]
      exact hdigits
    · rw [beforePercent?_append]
      exact hdigits

/-- A good percentage is a row of digits and a percent sign. -/
theorem fault?_percent_eq_none_iff {text : String} :
    (percent text).fault? = none ↔
      ∃ digits, isDigits digits = true ∧ text.toList = digits ++ ['%'] := by
  have hfault : (percent text).fault? = none ↔
      isDigits ((beforePercent? text.toList).getD []) = true := by
    simp [fault?]
  rw [hfault]
  constructor
  · intro hdigits
    cases hcs : beforePercent? text.toList with
    | none => rw [hcs] at hdigits; simp [isDigits] at hdigits
    | some digits =>
        rw [hcs] at hdigits
        exact ⟨digits, hdigits, eq_of_beforePercent? hcs⟩
  · intro h
    obtain ⟨digits, hdigits, htext⟩ := h
    rw [htext, beforePercent?_append]
    exact hdigits

theorem isWritten_text {a : Amount} (h : a.fault? = none) : isWritten a.text.toList = true := by
  cases a with
  | count n =>
      have hdigits := isDigits_decimal n.toNat
      have hpercent : '%' ∉ (decimal n.toNat).toList :=
        not_mem_of_isDigits (by decide) hdigits
      show isDigits ((beforePercent? (decimal n.toNat).toList).getD _) = true
      rw [beforePercent?_eq_none hpercent]
      exact hdigits
  | percent text =>
      obtain ⟨digits, hdigits, htext⟩ := fault?_percent_eq_none_iff.mp h
      show isDigits ((beforePercent? text.toList).getD _) = true
      rw [htext, beforePercent?_append]
      exact hdigits

/-- The text that a number is read from: a plus sign in front of it does not count. -/
def withoutPlus : List Char → List Char
  | '+' :: cs => cs
  | cs => cs

/-- Text that is a good amount: a number of 32 bits, or digits and a percent sign. -/
def IsGood (text : String) : Prop :=
  (∃ n, decimal? (withoutPlus text.toList) = some n ∧ n < UInt32.size)
    ∨ ∃ digits, isDigits digits = true ∧ text.toList = digits ++ ['%']

theorem fault?_ofText_eq_none_iff {text : String} :
    (ofText text).fault? = none ↔ IsGood text := by
  unfold ofText
  extract_lets digits
  have hdigits : withoutPlus text.toList = digits := rfl
  rw [IsGood, ← fault?_percent_eq_none_iff, hdigits]
  cases decimal? digits with
  | none => simp
  | some n =>
      by_cases hn : n < UInt32.size
      · simp [hn, fault?]
      · simp [hn]

theorem ofText_of_no_plus {text : String} (h : '+' ∉ text.toList) :
    ofText text = match decimal? text.toList with
      | some n => if h : n < UInt32.size then .count (.ofNatLT n h) else .percent text
      | none => .percent text := by
  unfold ofText
  split
  · rename_i cs hcs
    exact absurd (by simp [hcs]) h
  · rfl

/-- **A good amount is read back from its text.** -/
theorem ofText_text {a : Amount} (h : a.fault? = none) : ofText a.text = a := by
  have hplus : '+' ∉ a.text.toList :=
    not_mem_of_isWritten (by decide) (by decide) (isWritten_text h)
  rw [ofText_of_no_plus hplus]
  cases a with
  | count n =>
      have hn : n.toNat < UInt32.size := n.toNat_lt_size
      simp only [text, decimal?_decimal, dif_pos hn, UInt32.ofNatLT_toNat]
  | percent text =>
      obtain ⟨digits, -, htext⟩ := fault?_percent_eq_none_iff.mp h
      have hnone : decimal? text.toList = none := by
        have hmem : '%' ∈ text.toList := by simp [htext]
        rw [decimal?, if_neg fun hd => not_mem_of_isDigits (by decide) hd hmem]
      simp only [Amount.text, hnone]

end Amount

/-! ### Subjects -/

namespace Subject

/-- Which subjects may be written. -/
structure Legal (s : Subject) : Prop where
  nonempty : s.name ≠ ""
  /-- A bar would end the token. -/
  noBar : '|' ∉ s.name.toList
  /-- An item must not pass for a category. -/
  noSigil : ∀ name, s = .item name → name.toList.head? ≠ some '@'
  /-- Nor may the end of a name pass for an amount. -/
  noAmount : ∀ before after, s.name.toList = before ++ ':' :: after →
    Amount.isWritten after = false

/-- A colon that an amount stands behind is the last one. -/
theorem cutLast_of_written {after : List Char} (h : Amount.Written after)
    (before : List Char) : cutLast ':' (before ++ ':' :: after) = some (before, after) :=
  cutLast_append (Amount.not_mem_of_isWritten (by decide) (by decide) (Amount.isWritten_iff.mpr h))
    before

theorem endsInAmount_eq_false_iff {name : String} :
    endsInAmount name = false ↔ ∀ before after, name.toList = before ++ ':' :: after →
      Amount.isWritten after = false := by
  constructor
  · intro h before after hname
    by_contra hw
    have hw : Amount.isWritten after = true := by simpa using hw
    rw [endsInAmount, hname, cutLast_of_written (Amount.isWritten_iff.mp hw)] at h
    cases hw.symm.trans h
  · intro h
    unfold endsInAmount
    split
    · rename_i before after hcut
      exact h before after (eq_of_cutLast hcut)
    · rfl

/-- **The check lets through the legal subjects and no others.** -/
theorem fault?_eq_none_iff {s : Subject} : s.fault? = none ↔ s.Legal := by
  have hlegal : s.Legal ↔ s.name ≠ "" ∧ '|' ∉ s.name.toList ∧
      (∀ name, s = .item name → name.toList.head? ≠ some '@') ∧
      endsInAmount s.name = false := by
    rw [endsInAmount_eq_false_iff]
    exact ⟨fun h => ⟨h.1, h.2, h.3, h.4⟩, fun h => ⟨h.1, h.2.1, h.2.2.1, h.2.2.2⟩⟩
  rw [hlegal]
  cases s with
  | item name =>
      by_cases hempty : name = "" <;> by_cases hbar : '|' ∈ name.toList <;>
        simp [fault?, Subject.name, hempty, hbar, startsWithSigil]
  | category name =>
      by_cases hempty : name = "" <;> by_cases hbar : '|' ∈ name.toList <;>
        simp [fault?, Subject.name, hempty, hbar]

/-- The text of an amount behind its colon. -/
def suffix : Option String → List Char
  | none => []
  | some amount => ':' :: amount.toList

/-- A subject as it is written between two bars, with the text of its amount. -/
def written (s : Subject) (amount? : Option String) : List Char :=
  s.sigil.toList ++ (s.name.toList ++ suffix amount?)

/-- A name and the text of an amount that make up what stands behind a sigil.  What can be an
amount is one. -/
structure Splits (body : List Char) (name : String) (amount? : Option String) : Prop where
  eq : body = name.toList ++ suffix amount?
  amount : ∀ amount, amount? = some amount → Amount.Written amount.toList
  noAmount : amount? = none → ∀ before after, name.toList = before ++ ':' :: after →
    ¬ Amount.Written after

/-- A subject and the text of an amount that are cut out of a token.  What can be a sigil is
one, and so is what can be an amount. -/
structure Cuts (token : List Char) (s : Subject) (amount? : Option String) : Prop where
  eq : token = s.written amount?
  amount : ∀ amount, amount? = some amount → Amount.Written amount.toList
  noSigil : ∀ name, s = .item name → name.toList.head? ≠ some '@'
  noAmount : amount? = none → ∀ before after, s.name.toList = before ++ ':' :: after →
    ¬ Amount.Written after

theorem splitAmount_of_splits {body : List Char} {name : String} {amount? : Option String}
    (h : Splits body name amount?) : splitAmount body = (name, amount?) := by
  cases amount? with
  | none =>
      obtain rfl : body = name.toList := h.eq.trans (List.append_nil _)
      unfold splitAmount
      split
      · rename_i before after hcut
        have hnot := h.noAmount rfl before after (eq_of_cutLast hcut)
        rw [if_neg (Amount.isWritten_iff.not.mpr hnot), String.ofList_toList]
      · rw [String.ofList_toList]
  | some amount =>
      have hw := h.amount amount rfl
      rw [h.eq, suffix, splitAmount, cutLast_of_written hw]
      simp only [if_pos (Amount.isWritten_iff.mpr hw), String.ofList_toList]

theorem splits_splitAmount (body : List Char) :
    Splits body (splitAmount body).1 (splitAmount body).2 := by
  -- the name is all there is when no amount stands behind the last colon
  have hwhole : (∀ name amount, cutLast ':' body = some (name, amount) →
      ¬ Amount.Written amount) → Splits body (String.ofList body) none := by
    intro h
    refine ⟨by simp [suffix], by simp, fun _ before after hname hafter => ?_⟩
    rw [String.toList_ofList] at hname
    exact h before after (hname ▸ cutLast_of_written hafter before) hafter
  unfold splitAmount
  split
  · rename_i name amount hcut
    split
    · rename_i hw
      refine ⟨by simpa [suffix] using eq_of_cutLast hcut, fun a ha => ?_, by simp⟩
      obtain rfl := Option.some.inj ha
      rw [String.toList_ofList]
      exact Amount.isWritten_iff.mp hw
    · rename_i hw
      refine hwhole fun name' amount' hcut' => ?_
      obtain ⟨-, rfl⟩ := Prod.mk.inj (Option.some.inj (hcut.symm.trans hcut'))
      exact Amount.isWritten_iff.not.mp hw
  · rename_i hcut
    refine hwhole fun name amount hcut' => ?_
    rw [hcut] at hcut'
    cases hcut'

@[simp] theorem written_item (name : String) (amount? : Option String) :
    (item name).written amount? = name.toList ++ suffix amount? := by
  simp [written, sigil, Subject.name]

@[simp] theorem written_category (name : String) (amount? : Option String) :
    (category name).written amount? = '@' :: (name.toList ++ suffix amount?) := by
  simp [written, sigil, Subject.name]

theorem Cuts.splits {token : List Char} {s : Subject} {amount? : Option String}
    (h : Cuts token s amount?) : Splits (s.name.toList ++ suffix amount?) s.name amount? :=
  ⟨rfl, h.amount, h.noAmount⟩

/-- Only the name of an item can begin with an at sign that is no sigil, and it must not. -/
theorem Cuts.head?_item {token : List Char} {name : String} {amount? : Option String}
    (h : Cuts token (.item name) amount?) : token.head? ≠ some '@' := by
  have hname := h.noSigil name rfl
  rw [h.eq, written_item]
  cases hcs : name.toList with
  | nil => cases amount? <;> simp [suffix]
  | cons c cs => simpa [hcs] using hname

/-- **There is one way of cutting a token**, and it is how tokens are read. -/
theorem ofToken_eq_iff {token : List Char} {s : Subject} {amount? : Option String} :
    ofToken token = (s, amount?) ↔ Cuts token s amount? := by
  constructor
  · intro h
    unfold ofToken at h
    split at h
    · rename_i body
      obtain ⟨rfl, rfl⟩ := Prod.mk.inj h
      have hsplits := splits_splitAmount body
      refine ⟨?_, hsplits.amount, by simp, hsplits.noAmount⟩
      rw [written_category, ← hsplits.eq]
    · rename_i hsigil
      obtain ⟨rfl, rfl⟩ := Prod.mk.inj h
      have hsplits := splits_splitAmount token
      refine ⟨?_, hsplits.amount, fun name hname hhead => ?_, hsplits.noAmount⟩
      · rw [written_item, ← hsplits.eq]
      · obtain rfl := Subject.item.inj hname
        obtain ⟨cs, hcs⟩ := List.head?_eq_some_iff.mp hhead
        refine hsigil (cs ++ suffix (splitAmount token).2) ?_
        rw [← List.cons_append, ← hcs, ← hsplits.eq]
  · intro h
    have hsplit := splitAmount_of_splits h.splits
    have heq := h.eq
    cases s with
    | category name =>
        rw [written_category] at heq
        rw [heq, ofToken]
        exact congrArg (fun p => (Subject.category p.1, p.2)) hsplit
    | item name =>
        rw [written_item] at heq
        unfold ofToken
        split
        · exact absurd rfl h.head?_item
        · rw [heq]
          exact congrArg (fun p => (Subject.item p.1, p.2)) hsplit

/-- Every token can be cut. -/
theorem exists_cuts (token : List Char) : ∃ s amount?, Cuts token s amount? := by
  cases hcut : ofToken token with
  | mk s amount? => exact ⟨s, amount?, ofToken_eq_iff.mp hcut⟩

/-- What stands behind a name in a token. -/
def amountSuffix : Option Amount → List Char
  | none => []
  | some a => ':' :: a.text.toList

/-- What stands between the bars of a token. -/
def body (s : Subject) (amount? : Option Amount) : List Char :=
  s.sigil.toList ++ (s.name.toList ++ amountSuffix amount?)

theorem toList_token (s : Subject) (amount? : Option Amount) :
    (s.token amount?).toList = '|' :: (s.body amount? ++ ['|']) := by
  cases amount? <;> simp [token, body, amountSuffix]

theorem body_eq_written (s : Subject) (amount? : Option Amount) :
    s.body amount? = s.written (amount?.map Amount.text) := by
  cases amount? <;> rfl

theorem Legal.cuts {s : Subject} (hs : s.Legal) {amount? : Option Amount}
    (ha : ∀ a ∈ amount?, a.fault? = none) :
    Cuts (s.body amount?) s (amount?.map Amount.text) where
  eq := s.body_eq_written amount?
  amount text htext := by
    obtain ⟨a, hmem, rfl⟩ := Option.map_eq_some_iff.mp htext
    exact Amount.isWritten_iff.mp (Amount.isWritten_text (ha a hmem))
  noSigil := hs.noSigil
  noAmount _ before after hname hafter := by
    have hnot := hs.noAmount before after hname
    rw [Amount.isWritten_iff.mpr hafter] at hnot
    cases hnot

/-- **A legal subject and a good amount are read back from their token.** -/
theorem ofToken_body {s : Subject} (hs : s.Legal) {amount? : Option Amount}
    (ha : ∀ a ∈ amount?, a.fault? = none) :
    ofToken (s.body amount?) = (s, amount?.map Amount.text) :=
  ofToken_eq_iff.mpr (hs.cuts ha)

theorem bar_not_mem_body {s : Subject} (hs : s.Legal) {amount? : Option Amount}
    (ha : ∀ a ∈ amount?, a.fault? = none) : '|' ∉ s.body amount? := by
  have hsigil : '|' ∉ s.sigil.toList := by cases s <;> simp [sigil]
  have hsuffix : '|' ∉ amountSuffix amount? := by
    cases amount? with
    | none => simp [amountSuffix]
    | some a =>
        have hw := Amount.isWritten_text (ha a rfl)
        have := Amount.not_mem_of_isWritten (c := '|') (by decide) (by decide) hw
        simp [amountSuffix, this]
  simp [body, hsigil, hs.noBar, hsuffix]

end Subject

end Worldsmith
