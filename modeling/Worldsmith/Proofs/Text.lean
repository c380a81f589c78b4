/-
Text that was put together comes apart again.

A subject is cut at its last colon, a path at its slashes, and a number is read off its
digits, all long after they were written.  What makes this safe is the same in every case: the
piece that follows holds no character at which the cut is made.  The lemmas below say so for
the cuts and for decimal numbers, and everything that is read back rests on them.
-/
import Worldsmith.Text.Cut
import Worldsmith.Text.Decimal
import Worldsmith.Text.Lines

namespace Worldsmith.Text

/-! ### Cutting -/

theorem after?_append (start cs : List Char) : after? start (start ++ cs) = some cs := by
  have h : start.isPrefixOf (start ++ cs) = true :=
    List.isPrefixOf_iff_prefix.mpr (List.prefix_append start cs)
  unfold after?
  rw [if_pos h, List.drop_left]

theorem after?_cons (c : Char) (start cs : List Char) :
    after? (c :: start) (c :: cs) = after? start cs := by
  simp [after?, List.isPrefixOf]

theorem after?_eq_none {c : Char} {start cs : List Char} (h : cs.head? ≠ some c) :
    after? (c :: start) cs = none := by
  have hother : (c :: start).isPrefixOf cs = false := by
    rw [Bool.eq_false_iff]
    intro hprefix
    obtain ⟨rest, rfl⟩ := List.isPrefixOf_iff_prefix.mp hprefix
    exact h rfl
  rw [after?, hother]
  rfl

theorem cutLast_eq_none {c : Char} {cs : List Char} (h : c ∉ cs) : cutLast c cs = none := by
  induction cs with
  | nil => rfl
  | cons x xs ih =>
      have hx : x ≠ c := fun hxc => h (by simp [hxc])
      rw [cutLast, ih (fun hc => h (by simp [hc]))]
      simp only [if_neg hx]

/-- The cut is made where the rest holds no further `c`. -/
theorem cutLast_append {c : Char} {after : List Char} (h : c ∉ after) (before : List Char) :
    cutLast c (before ++ c :: after) = some (before, after) := by
  induction before with
  | nil => rw [List.nil_append, cutLast, cutLast_eq_none h]; simp
  | cons x xs ih => rw [List.cons_append, cutLast, ih]

theorem eq_of_cutLast {c : Char} {cs before after : List Char}
    (h : cutLast c cs = some (before, after)) : cs = before ++ c :: after := by
  induction cs generalizing before with
  | nil => simp [cutLast] at h
  | cons x xs ih =>
      rw [cutLast] at h
      split at h
      · rename_i b a hcut
        obtain ⟨rfl, rfl⟩ : x :: b = before ∧ a = after := by simpa using h
        rw [ih hcut, List.cons_append]
      · split at h
        · rename_i hx
          obtain ⟨rfl, rfl⟩ : [] = before ∧ xs = after := by simpa using h
          rw [hx, List.nil_append]
        · simp at h

theorem cutAll_ne_nil (c : Char) (cs : List Char) : cutAll c cs ≠ [] := by
  cases cs with
  | nil => simp [cutAll]
  | cons x xs =>
      rw [cutAll]
      split
      · simp
      · split <;> simp

theorem cutAll_of_notMem {c : Char} {cs : List Char} (h : c ∉ cs) : cutAll c cs = [cs] := by
  induction cs with
  | nil => rfl
  | cons x xs ih =>
      have hx : x ≠ c := fun hxc => h (by simp [hxc])
      rw [cutAll, if_neg hx, ih (fun hc => h (by simp [hc]))]

theorem cutAll_append (c : Char) (before after : List Char) :
    cutAll c (before ++ c :: after) = cutAll c before ++ cutAll c after := by
  induction before with
  | nil => simp [cutAll]
  | cons x xs ih =>
      rw [List.cons_append, cutAll, cutAll, ih]
      split
      · rfl
      · cases hpieces : cutAll c xs with
        | nil => exact absurd hpieces (cutAll_ne_nil c xs)
        | cons piece pieces => rfl

theorem length_cutAll (c : Char) (cs : List Char) :
    (cutAll c cs).length = cs.count c + 1 := by
  induction cs with
  | nil => rfl
  | cons x xs ih =>
      rw [cutAll]
      split
      · rename_i hx
        rw [hx, List.length_cons, ih, List.count_cons_self]
      · rename_i hx
        rw [List.count_cons_of_ne hx, ← ih]
        cases hpieces : cutAll c xs with
        | nil => exact absurd hpieces (cutAll_ne_nil c xs)
        | cons piece pieces => rfl

theorem notMem_of_mem_cutAll {c : Char} {cs piece : List Char} (h : piece ∈ cutAll c cs) :
    c ∉ piece := by
  induction cs generalizing piece with
  | nil =>
      obtain rfl := List.mem_singleton.mp h
      exact List.not_mem_nil
  | cons x xs ih =>
      rw [cutAll] at h
      split at h
      · rcases List.mem_cons.mp h with rfl | h
        · exact List.not_mem_nil
        · exact ih h
      · rename_i hx
        cases hpieces : cutAll c xs with
        | nil => exact absurd hpieces (cutAll_ne_nil c xs)
        | cons first pieces =>
            rw [hpieces] at h ih
            rcases List.mem_cons.mp h with rfl | h
            · simpa [Ne.symm hx] using ih List.mem_cons_self
            · exact ih (List.mem_cons_of_mem _ h)

/-- Pieces that were put together with `c` between them are what the cuts give. -/
theorem cutAll_intercalate {c : Char} {pieces : List (List Char)} (hpieces : pieces ≠ [])
    (h : ∀ piece ∈ pieces, c ∉ piece) : cutAll c ([c].intercalate pieces) = pieces := by
  induction pieces with
  | nil => exact absurd rfl hpieces
  | cons piece pieces ih =>
      have hpiece := cutAll_of_notMem (h piece List.mem_cons_self)
      cases pieces with
      | nil => simpa using hpiece
      | cons piece' pieces =>
          rw [List.intercalate_cons_cons, List.append_assoc, List.singleton_append, cutAll_append,
            hpiece, ih (List.cons_ne_nil _ _) fun p hp => h p (List.mem_cons_of_mem _ hp)]
          rfl

theorem intercalate_cutAll (c : Char) (cs : List Char) : [c].intercalate (cutAll c cs) = cs := by
  induction cs with
  | nil => rfl
  | cons x xs ih =>
      rw [cutAll]
      split
      · rename_i hx
        rw [hx, List.intercalate_cons_of_ne_nil (cutAll_ne_nil c xs), ih]
        rfl
      · cases hpieces : cutAll c xs with
        | nil => exact absurd hpieces (cutAll_ne_nil c xs)
        | cons piece pieces =>
            rw [hpieces] at ih
            rw [List.intercalate_cons_cons_left, ih]

/-! ### Lines -/

/-- The lines make up the text. -/
theorem flatten_fullLines (cs : List Char) : (fullLines cs).flatten = cs := by
  have hpieces : ∀ pieces : List (List Char), pieces ≠ [] →
      (pieces.dropLast.map (· ++ ['\n']) ++ (pieces.getLast?.filter (!·.isEmpty)).toList).flatten
        = ['\n'].intercalate pieces := by
    intro pieces hne
    induction pieces with
    | nil => exact absurd rfl hne
    | cons piece pieces ih =>
        cases pieces with
        | nil => cases piece <;> simp [Option.filter]
        | cons piece' pieces =>
            rw [List.intercalate_cons_cons, ← ih (List.cons_ne_nil _ _)]
            simp
  rw [fullLines]
  split
  · rename_i hnil
    exact absurd hnil (cutAll_ne_nil _ _)
  · rw [hpieces _ (cutAll_ne_nil _ _), intercalate_cutAll]

/-! ### Digits -/

theorem isDigits_iff {cs : List Char} :
    isDigits cs = true ↔ cs ≠ [] ∧ ∀ c ∈ cs, c.isDigit = true := by
  simp [isDigits]

theorem not_mem_of_isDigits {c : Char} (hc : c.isDigit = false) {cs : List Char}
    (h : isDigits cs = true) : c ∉ cs := by
  intro hmem
  have hdigit := (isDigits_iff.mp h).2 c hmem
  rw [hc] at hdigit
  exact Bool.noConfusion hdigit

theorem toList_decimal (n : Nat) : (decimal n).toList = Nat.toDigits 10 n := by
  rw [decimal, String.toList_ofList]

theorem isDigits_decimal (n : Nat) : isDigits (decimal n).toList = true := by
  rw [toList_decimal, isDigits_iff]
  exact ⟨Nat.toDigits_ne_nil,
    fun c hc => Nat.isDigit_of_mem_toDigits (by omega) (by omega) hc⟩

/-- A number that is written begins with a zero only if it is zero. -/
theorem eq_zero_of_head?_toDigits {n : Nat} (h : (Nat.toDigits 10 n).head? = some '0') :
    n = 0 := by
  induction n using Nat.strongRecOn with
  | ind n ih =>
      by_cases hlt : n < 10
      · have hread := Nat.ofDigitChars_ten_toDigits (n := n)
        rw [Nat.toDigits_of_lt_base hlt] at h hread
        rw [Option.some.inj h] at hread
        exact hread.symm
      · -- what stands before the last digit is a tenth of the number
        obtain ⟨d, ds, hdigits⟩ := List.exists_cons_of_ne_nil
          (Nat.toDigits_ne_nil (b := 10) (n := n / 10))
        rw [Nat.toDigits_of_base_le (by decide) (Nat.not_lt.mp hlt), hdigits] at h
        have hzero := ih (n / 10) (by omega) (by rw [hdigits]; exact h)
        omega

/-- **A number is read back from its decimal form.** -/
theorem decimal?_decimal (n : Nat) : decimal? (decimal n).toList = some n := by
  have hvalue : digitsValue (decimal n).toList = n := by
    rw [toList_decimal]
    exact Nat.ofDigitChars_ten_toDigits
  rw [decimal?, if_pos (isDigits_decimal n), hvalue]

end Worldsmith.Text
