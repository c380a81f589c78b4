/-
Reading the text of a requirement by its grammar.

The first character tells what is read: a bar begins a subject, a parenthesis a
combination and a brace a gate.  The operators of a combination must all be the same.
Nothing is said here about names or amounts: any token is a subject, be it one that
could have been written or not.
-/
import Worldsmith.Requirement.Text

namespace Worldsmith.Requirement

namespace Grammar

open Text (after?)

/-- What stands before the next bar, and what follows that bar. -/
def token? (cs : List Char) : Option (List Char × List Char) :=
  match cs.dropWhile (· ≠ '|') with
  | _ :: r => some (cs.takeWhile (· ≠ '|'), r)
  | [] => none

/-- The leaf that a token stands for. -/
def leaf (token : List Char) : Requirement :=
  match Subject.ofToken token with
  | (s, some amount) => .threshold s (Amount.ofText amount)
  | (s, none) => .subject s

/-- An operator between its blanks. -/
def operator? (cs : List Char) : Option (Operator × List Char) :=
  match after? " and ".toList cs with
  | some r => some (.and, r)
  | none => (after? " or ".toList cs).map fun r => (.or, r)

/-- A macro and the parenthesis it opens. -/
def gate? (cs : List Char) : Option (Gate × List Char) :=
  match after? "OptOne(".toList cs with
  | some r => some (.optOne, r)
  | none => (after? "OptAll(".toList cs).map fun r => (.optAll, r)

mutual

/-- A requirement from the front of the text, and the rest. -/
def requirement? : Nat → List Char → Option (Requirement × List Char)
  | 0, _ => none
  | _ + 1, [] => none
  | fuel + 1, c :: cs =>
    if c = '|' then (token? cs).map fun (token, r) => (leaf token, r)
    else if c = '(' then do
      let (first, r) ← requirement? fuel cs
      let (op, r) ← operator? r
      let (others, r) ← operands? fuel op r
      return (.combination op (first :: others), r)
    else if c = '{' then do
      let (g, r) ← gate? cs
      let (inner, r) ← requirement? fuel r
      return (.gate g inner, ← after? ")\x7d".toList r)
    else none

/-- The operands after an operator, up to the closing parenthesis. -/
def operands? : Nat → Operator → List Char → Option (List Requirement × List Char)
  | 0, _, _ => none
  | fuel + 1, op, cs => do
    let (operand, r) ← requirement? fuel cs
    match after? [')'] r with
    | some r => return ([operand], r)
    | none => do
      let (next, r) ← operator? r
      if next ≠ op then none
      let (others, r) ← operands? fuel op r
      return (operand :: others, r)

end

end Grammar

/-- The tree that text was written from; nothing if it is no text of the grammar. -/
def parse? (text : String) : Option Requirement := do
  let (r, rest) ← Grammar.requirement? (text.toList.length + 1) text.toList
  if rest.isEmpty then return r else none

end Worldsmith.Requirement
