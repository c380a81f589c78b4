/-
Which fault of a tree is reported.

A tree may have many faults, and a node of it several.  `Node.Has` lists them, each by itself
and whatever else is wrong, and `Node.Sound` says what a node without any looks like.
`nodes` puts what stands at the nodes in a row: a node before what is below it, and operands
from left to right.

The check is a single recursion that stops at the first fault it meets.  What it comes to is a
search of that row (`fault?_eq_findSome?`), so a tree has text when all its nodes are sound, and
otherwise the gravest fault of the first node that is not is reported (`compile_outcome`).
-/
import Worldsmith.Proofs.Requirement.Tree

namespace Worldsmith

open Text (isDigits)

/-- The order in which the faults of a name and of its amount are looked for.  The others are
faults of nodes that can have no second one. -/
def RequirementError.rank : RequirementError → Nat
  | .emptyName => 0
  | .reservedCharacter _ => 1
  | .ambiguousName _ => 2
  | .invalidAmount _ => 3
  | .tooFewOperands .. | .amountOnNonSubject _ => 4

/-- Of the faults that there are, one that none goes before. -/
def RequirementError.Gravest (has : RequirementError → Prop) (e : RequirementError) : Prop :=
  has e ∧ ∀ e', has e' → e.rank ≤ e'.rank

open RequirementError (Gravest)

/-! ### Names and amounts -/

/-- What can be wrong with the name of a subject. -/
inductive Subject.Has : Subject → RequirementError → Prop
  | empty {s : Subject} (h : s.name = "") : Has s .emptyName
  | bar {s : Subject} (h : '|' ∈ s.name.toList) : Has s (.reservedCharacter s.name)
  | sigil {name : String} (h : name.toList.head? = some '@') :
      Has (.item name) (.ambiguousName name)
  | amount {s : Subject} {before after : List Char} (h : s.name.toList = before ++ ':' :: after)
      (hafter : Amount.Written after) : Has s (.ambiguousName s.name)

/-- A number, or digits and a percent sign. -/
inductive Amount.Valid : Amount → Prop
  | count (n : UInt32) : Valid (.count n)
  | percent {text : String} {digits : List Char} (hdigits : isDigits digits = true)
      (htext : text.toList = digits ++ ['%']) : Valid (.percent text)

theorem Amount.fault?_eq_none_iff {a : Amount} : a.fault? = none ↔ a.Valid := by
  cases a with
  | count n => exact ⟨fun _ => .count n, fun _ => rfl⟩
  | percent text =>
      rw [fault?_percent_eq_none_iff]
      constructor
      · intro h
        obtain ⟨digits, hdigits, htext⟩ := h
        exact .percent hdigits htext
      · intro h
        cases h with
        | percent hdigits htext => exact ⟨_, hdigits, htext⟩

theorem Amount.fault?_eq_some {a : Amount} {e : RequirementError} (h : a.fault? = some e) :
    e = .invalidAmount a.text := by
  cases a with
  | count n => cases h
  | percent text =>
      rw [fault?] at h
      split at h
      · cases h
      · exact (Option.some.inj h).symm

namespace Subject

/-- A legal name has none of these faults. -/
theorem Legal.not_has {s : Subject} (hs : s.Legal) {e : RequirementError} : ¬ s.Has e := by
  intro h
  cases h with
  | empty h => exact hs.nonempty h
  | bar h => exact hs.noBar h
  | sigil h => exact hs.noSigil _ rfl h
  | amount h hafter =>
      have hnot := hs.noAmount _ _ h
      rw [Amount.isWritten_iff.mpr hafter] at hnot
      cases hnot

/-- The faults of a name go before that of its amount. -/
theorem Has.rank_lt {s : Subject} {e : RequirementError} (h : s.Has e) : e.rank < 3 := by
  cases h <;> simp [RequirementError.rank]

/-- A name has one fault of each rank. -/
theorem Has.eq_of_rank {s : Subject} {e e' : RequirementError} (h : s.Has e) (h' : s.Has e')
    (hrank : e.rank = e'.rank) : e = e' := by
  cases h <;> cases h' <;> simp [RequirementError.rank, Subject.name] at hrank ⊢

theorem ambiguous_of_endsInAmount {s : Subject} (h : endsInAmount s.name = true) :
    s.Has (.ambiguousName s.name) := by
  unfold endsInAmount at h
  split at h
  · rename_i before after hcut
    exact .amount (Text.eq_of_cutLast hcut) (Amount.isWritten_iff.mp h)
  · cases h

/-- What the check finds in a name is there, and nothing graver is. -/
theorem gravest_of_fault? {s : Subject} {e : RequirementError} (h : s.fault? = some e) :
    Gravest s.Has e := by
  unfold fault? at h
  split at h
  · rename_i hempty
    obtain rfl := Option.some.inj h
    exact ⟨.empty hempty, fun _ _ => Nat.zero_le _⟩
  rename_i hempty
  split at h
  · rename_i hbar
    obtain rfl := Option.some.inj h
    refine ⟨.bar hbar, fun e' h' => ?_⟩
    cases h' with
    | empty h => exact absurd h hempty
    | bar | sigil | amount => simp [RequirementError.rank]
  rename_i hbar
  -- with the graver faults ruled out, only the last is left
  have hrest : s.Has (.ambiguousName s.name) → Gravest s.Has (.ambiguousName s.name) := by
    intro hs
    refine ⟨hs, fun e' h' => ?_⟩
    cases h' with
    | empty h => exact absurd h hempty
    | bar h => exact absurd h hbar
    | sigil | amount => simp [RequirementError.rank]
  cases s with
  | item name =>
      obtain ⟨hlook, he⟩ := Option.ite_none_right_eq_some.mp h
      obtain rfl := Option.some.inj he
      refine hrest ?_
      rcases Bool.or_eq_true_iff.mp hlook with hsigil | hamount
      · exact .sigil (of_decide_eq_true hsigil)
      · exact ambiguous_of_endsInAmount hamount
  | category name =>
      obtain ⟨hlook, he⟩ := Option.ite_none_right_eq_some.mp h
      obtain rfl := Option.some.inj he
      exact hrest (ambiguous_of_endsInAmount hlook)

end Subject

namespace Requirement

/-! ### Nodes -/

/-- A node of a tree without what is below it.  Of its operands a combination keeps the
number. -/
inductive Node where
  | subject (s : Subject)
  | threshold (s : Subject) (amount : Amount)
  | combination (op : Operator) (operands : Nat)
  | gate (g : Gate)
  | raw (text : String)

mutual

/-- The nodes of a tree in the order of its text. -/
def nodes : Requirement → List Node
  | .subject s => [.subject s]
  | .threshold s amount => [.threshold s amount]
  | .combination op operands => .combination op operands.length :: nodesOfAll operands
  | .gate g inner => .gate g :: inner.nodes
  | .raw text => [.raw text]

def nodesOfAll : List Requirement → List Node
  | [] => []
  | r :: rs => r.nodes ++ nodesOfAll rs

end

namespace Node

/-- Nothing is wrong with the node. -/
inductive Sound : Node → Prop
  | subject {s : Subject} (h : s.Legal) : Sound (.subject s)
  | threshold {s : Subject} {amount : Amount} (h : s.Legal) (hamount : amount.Valid) :
      Sound (.threshold s amount)
  | combination {op : Operator} {operands : Nat} (h : 2 ≤ operands) :
      Sound (.combination op operands)
  | gate (g : Gate) : Sound (.gate g)
  | raw (text : String) : Sound (.raw text)

/-- What can be wrong with a node. -/
inductive Has : Node → RequirementError → Prop
  | subject {s : Subject} {e : RequirementError} (h : s.Has e) : Has (.subject s) e
  | threshold {s : Subject} {amount : Amount} {e : RequirementError} (h : s.Has e) :
      Has (.threshold s amount) e
  | amount {s : Subject} {amount : Amount} (h : ¬ amount.Valid) :
      Has (.threshold s amount) (.invalidAmount amount.text)
  | operands {op : Operator} {operands : Nat} (h : operands < 2) :
      Has (.combination op operands) (.tooFewOperands op operands)

/-- The fault that is found at the node. -/
def fault? : Node → Option RequirementError
  | .subject s => s.fault?
  | .threshold s amount => s.fault? <|> amount.fault?
  | .combination op operands =>
    if operands < 2 then some (.tooFewOperands op operands) else none
  | .gate _ | .raw _ => none

theorem fault?_eq_none_iff {n : Node} : n.fault? = none ↔ n.Sound := by
  constructor
  · intro h
    cases n with
    | subject s => exact .subject (Subject.fault?_eq_none_iff.mp h)
    | threshold s amount =>
        rw [fault?, Option.orElse_eq_orElse, Option.orElse_eq_or, Option.or_eq_none_iff] at h
        exact .threshold (Subject.fault?_eq_none_iff.mp h.1) (Amount.fault?_eq_none_iff.mp h.2)
    | combination op operands =>
        exact .combination (Nat.not_lt.mp fun hlt => by simp [fault?, hlt] at h)
    | gate g => exact .gate g
    | raw text => exact .raw text
  · intro h
    cases h with
    | subject h => exact Subject.fault?_eq_none_iff.mpr h
    | threshold h hamount =>
        rw [fault?, Subject.fault?_eq_none_iff.mpr h]
        exact Amount.fault?_eq_none_iff.mpr hamount
    | combination h => exact if_neg (Nat.not_lt.mpr h)
    | gate | raw => rfl

theorem Sound.not_has {n : Node} (hn : n.Sound) {e : RequirementError} : ¬ n.Has e := by
  intro h
  cases h with
  | subject h =>
      cases hn with
      | subject hs => exact hs.not_has h
  | threshold h =>
      cases hn with
      | threshold hs _ => exact hs.not_has h
  | amount h =>
      cases hn with
      | threshold _ hamount => exact h hamount
  | operands h =>
      cases hn with
      | combination hop => exact Nat.not_lt.mpr hop h

/-- What is found at a node is there, and nothing graver is. -/
theorem gravest_of_fault? {n : Node} {e : RequirementError} (h : n.fault? = some e) :
    Gravest n.Has e := by
  cases n with
  | subject s =>
      obtain ⟨hs, hmin⟩ := Subject.gravest_of_fault? h
      refine ⟨.subject hs, fun e' h' => ?_⟩
      cases h' with
      | subject h' => exact hmin e' h'
  | threshold s amount =>
      rw [fault?, Option.orElse_eq_orElse, Option.orElse_eq_or, Option.or_eq_some_iff] at h
      rcases h with h | ⟨hnone, h⟩
      · obtain ⟨hs, hmin⟩ := Subject.gravest_of_fault? h
        refine ⟨.threshold hs, fun e' h' => ?_⟩
        cases h' with
        | threshold h' => exact hmin e' h'
        | amount h' => exact Nat.le_of_lt hs.rank_lt
      · have hlegal := Subject.fault?_eq_none_iff.mp hnone
        obtain rfl := Amount.fault?_eq_some h
        have hinvalid : ¬ amount.Valid := fun hvalid => by
          rw [Amount.fault?_eq_none_iff.mpr hvalid] at h
          cases h
        refine ⟨.amount hinvalid, fun e' h' => ?_⟩
        cases h' with
        | threshold h' => exact absurd h' hlegal.not_has
        | amount h' => exact Nat.le_refl _
  | combination op operands =>
      obtain ⟨hlt, he⟩ := Option.ite_none_right_eq_some.mp h
      obtain rfl := Option.some.inj he
      refine ⟨.operands hlt, fun e' h' => ?_⟩
      cases h' with
      | operands h' => exact Nat.le_refl _
  | gate | raw => cases h

theorem Has.eq_of_rank {n : Node} {e e' : RequirementError} (h : n.Has e) (h' : n.Has e')
    (hrank : e.rank = e'.rank) : e = e' := by
  cases h with
  | subject h =>
      cases h' with
      | subject h' => exact h.eq_of_rank h' hrank
  | threshold h =>
      cases h' with
      | threshold h' => exact h.eq_of_rank h' hrank
      | amount => exact absurd hrank (Nat.ne_of_lt h.rank_lt)
  | amount h =>
      cases h' with
      | threshold h' => exact absurd hrank.symm (Nat.ne_of_lt h'.rank_lt)
      | amount => rfl
  | operands h =>
      cases h' with
      | operands => rfl

/-- **Of the faults of a node the gravest is found.** -/
theorem fault?_eq_some_iff {n : Node} {e : RequirementError} :
    n.fault? = some e ↔ Gravest n.Has e := by
  refine ⟨gravest_of_fault?, fun h => ?_⟩
  cases hfault : n.fault? with
  | none => exact absurd h.1 (fault?_eq_none_iff.mp hfault).not_has
  | some e' =>
      obtain ⟨hhas, hmin⟩ := gravest_of_fault? hfault
      have hrank : e'.rank = e.rank := Nat.le_antisymm (hmin e h.1) (h.2 e' hhas)
      rw [hhas.eq_of_rank h.1 hrank]

end Node

/-! ### Trees -/

mutual

/-- The check is a search of the nodes. -/
theorem fault?_eq_findSome? : (r : Requirement) → r.fault? = r.nodes.findSome? Node.fault?
  | .subject s => by rw [fault?, nodes, List.findSome?_singleton, Node.fault?]
  | .threshold s amount => by rw [fault?, nodes, List.findSome?_singleton, Node.fault?]
  | .combination op operands => by
      rw [fault?, nodes, List.findSome?_cons, Node.fault?, ← faultIn?_eq_findSome? operands]
      split <;> rfl
  | .gate g inner => by
      rw [fault?, nodes, List.findSome?_cons, Node.fault?, ← fault?_eq_findSome? inner]
  | .raw text => by rw [fault?, nodes, List.findSome?_singleton, Node.fault?]

theorem faultIn?_eq_findSome? :
    (rs : List Requirement) → faultIn? rs = (nodesOfAll rs).findSome? Node.fault?
  | [] => by rw [faultIn?, nodesOfAll, List.findSome?_nil]
  | r :: rs => by
      rw [faultIn?, nodesOfAll, List.findSome?_append, ← fault?_eq_findSome? r,
        ← faultIn?_eq_findSome? rs, Option.orElse_eq_orElse, Option.orElse_eq_or]

end

/-- **A tree has text when each of its nodes is sound.**  Otherwise the nodes up to some other
are, and the gravest fault of that one is reported. -/
theorem compile_outcome (r : Requirement) :
    ((∃ text, r.compile = .ok text) ↔ ∀ n ∈ r.nodes, n.Sound)
      ∧ ∀ e, r.compile = .error e ↔
          ∃ before n after, r.nodes = before ++ n :: after ∧ (∀ m ∈ before, m.Sound)
            ∧ Gravest n.Has e := by
  constructor
  · have hcompile : (∃ text, r.compile = .ok text) ↔ r.fault? = none := by
      simp [compile_eq_ok_iff]
    rw [hcompile, fault?_eq_findSome?, List.findSome?_eq_none_iff]
    simp only [Node.fault?_eq_none_iff]
  · intro e
    rw [compile_eq_error_iff, fault?_eq_findSome?, List.findSome?_eq_some_iff]
    simp only [Node.fault?_eq_none_iff, Node.fault?_eq_some_iff]
    constructor
    · intro h
      obtain ⟨before, n, after, hnodes, hn, hbefore⟩ := h
      exact ⟨before, n, after, hnodes, hbefore, hn⟩
    · intro h
      obtain ⟨before, n, after, hnodes, hbefore, hn⟩ := h
      exact ⟨before, n, after, hnodes, hn, hbefore⟩

/-- The name and the amount of the second leaf are bad, and a combination further on lacks an
operand. -/
example : (combination .and [
    .gate .optAll (.subject (.item "a:b")),
    .threshold (.item "@c|d:1") (.percent "lots"),
    .combination .or [.subject (.item "")]]).compile
      = .error (.reservedCharacter "@c|d:1") := rfl

end Requirement

end Worldsmith
