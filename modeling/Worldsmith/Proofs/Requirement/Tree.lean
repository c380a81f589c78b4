/-
Trees of requirements: what their text is made of.

The check of a tree and its text are two traversals, each of them mutual with one over the
operands of a combination.  Here they are said of one tree at a time: a tree has no fault
when its own node has none and no operand has one, and the text of a combination is that of
its operands with separators between.

Only a raw leaf holds text from outside.  `EachRaw p` says that every such text has the
property `p`, and induction on it is induction over the tree with the operands of a
combination all at hand.
-/
import Mathlib.Tactic.Common
import Worldsmith.Proofs.Requirement.Token
import Worldsmith.Requirement.Text

namespace Worldsmith.Requirement

/-- Every text that an author wrote into the tree himself has the property `p`. -/
inductive EachRaw (p : String → Prop) : Requirement → Prop
  | subject (s : Subject) : EachRaw p (.subject s)
  | threshold (s : Subject) (amount : Amount) : EachRaw p (.threshold s amount)
  | combination {op : Operator} {rs : List Requirement} (h : ∀ r ∈ rs, EachRaw p r) :
      EachRaw p (.combination op rs)
  | gate {g : Gate} {r : Requirement} (h : EachRaw p r) : EachRaw p (.gate g r)
  | raw {text : String} (h : p text) : EachRaw p (.raw text)

/-- The tree has no such text: it is structure throughout. -/
abbrev RawFree (r : Requirement) : Prop := r.EachRaw fun _ => False

/-! ### Trees without a fault -/

theorem faultIn?_eq_none_iff {rs : List Requirement} :
    faultIn? rs = none ↔ ∀ r ∈ rs, r.fault? = none := by
  induction rs with
  | nil => simp [faultIn?]
  | cons r rs ih => rw [faultIn?, List.forall_mem_cons, ← ih, Option.orElse_eq_orElse,
      Option.orElse_eq_or, Option.or_eq_none_iff]

theorem fault?_subject_eq_none_iff {s : Subject} :
    (subject s).fault? = none ↔ s.fault? = none := by
  rw [fault?]

theorem fault?_threshold_eq_none_iff {s : Subject} {amount : Amount} :
    (threshold s amount).fault? = none ↔ s.fault? = none ∧ amount.fault? = none := by
  rw [fault?, Option.orElse_eq_orElse, Option.orElse_eq_or, Option.or_eq_none_iff]

theorem fault?_combination_eq_none_iff {op : Operator} {rs : List Requirement} :
    (combination op rs).fault? = none ↔ 2 ≤ rs.length ∧ ∀ r ∈ rs, r.fault? = none := by
  rw [fault?, ← faultIn?_eq_none_iff]
  split
  · rename_i hlt
    have hge : ¬ 2 ≤ rs.length := Nat.not_le.mpr hlt
    simp [hge]
  · rename_i hge
    simp [Nat.not_lt.mp hge]

theorem fault?_gate_eq_none_iff {g : Gate} {r : Requirement} :
    (gate g r).fault? = none ↔ r.fault? = none := by
  rw [fault?]

/-- A tree has text when it has no fault, and then its text is what is written. -/
theorem compile_eq_ok_iff {r : Requirement} {text : String} :
    r.compile = .ok text ↔ r.fault? = none ∧ r.text = text := by
  unfold compile
  cases r.fault? with
  | none => simp
  | some e => simp

theorem compile_eq_error_iff {r : Requirement} {cause : RequirementError} :
    r.compile = .error cause ↔ r.fault? = some cause := by
  rw [compile]
  cases r.fault? with
  | none => simp
  | some e => simp

/-! ### Text as characters -/

theorem toList_text_subject (s : Subject) :
    (subject s).text.toList = '|' :: (s.body none ++ ['|']) := by
  rw [text, Subject.toList_token]

theorem toList_text_threshold (s : Subject) (amount : Amount) :
    (threshold s amount).text.toList = '|' :: (s.body (some amount) ++ ['|']) := by
  rw [text, Subject.toList_token]

/-- An operator with its blanks. -/
def separator (op : Operator) : String := " " ++ op.text ++ " "

theorem toList_text_combination (op : Operator) (rs : List Requirement) :
    (combination op rs).text.toList
      = '(' :: ((textsJoined (separator op) rs).toList ++ [')']) := by
  simp [text, separator]

theorem toList_text_gate (g : Gate) (r : Requirement) :
    (gate g r).text.toList = '{' :: (g.text.toList ++ '(' :: (r.text.toList ++ [')', '}'])) := by
  simp [text]

theorem textsJoined_singleton (sep : String) (r : Requirement) :
    textsJoined sep [r] = r.text := by
  rw [textsJoined]

theorem toList_textsJoined_cons_cons (sep : String) (r r' : Requirement)
    (rs : List Requirement) :
    (textsJoined sep (r :: r' :: rs)).toList
      = r.text.toList ++ (sep.toList ++ (textsJoined sep (r' :: rs)).toList) := by
  rw [textsJoined]
  · simp
  · simp

/-- Only raw text can be empty: all else is written with brackets or bars. -/
theorem text_eq_empty_iff {r : Requirement} : r.text = "" ↔ r = .raw "" := by
  have hlist : ∀ s : Requirement, s.text = "" ↔ s.text.toList = [] := by simp
  cases r with
  | subject s => rw [hlist, toList_text_subject]; simp
  | threshold s amount => rw [hlist, toList_text_threshold]; simp
  | combination op rs => rw [hlist, toList_text_combination]; simp
  | gate g r => rw [hlist, toList_text_gate]; simp
  | raw text => simp [Requirement.text]

end Worldsmith.Requirement
