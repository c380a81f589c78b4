/-
The text of a requirement in the engine's grammar.

    requirement := subject | combination | gate | raw text
    subject     := "|" ["@"] name [":" amount] "|"
    combination := "(" requirement (" " operator " " requirement)+ ")"
    gate        := "{" macro "(" requirement ")" "}"
    amount      := digits ["%"]

Every combination stands in its own parentheses, so the text never depends on which
operator binds closer.  `text` writes any tree; `fault?` finds the first node, reading
the tree from the root and from the left, that has no place in the grammar; `compile`
puts the two together.
-/
import Worldsmith.Requirement.Subject

namespace Worldsmith.Requirement

mutual

/-- The first fault of the tree.  A combination's own comes before those inside it. -/
def fault? : Requirement → Option RequirementError
  | .subject s => s.fault?
  | .threshold s amount => s.fault? <|> amount.fault?
  | .combination op operands =>
    if operands.length < 2 then some (.tooFewOperands op operands.length)
    else faultIn? operands
  | .gate _ inner => inner.fault?
  | .raw _ => none

/-- The first fault of a list of trees. -/
def faultIn? : List Requirement → Option RequirementError
  | [] => none
  | r :: rs => r.fault? <|> faultIn? rs

end

mutual

/-- The tree written out, whether or not it reads back. -/
def text : Requirement → String
  | .subject s => s.token none
  | .threshold s amount => s.token (some amount)
  | .combination op operands => "(" ++ textsJoined (" " ++ op.text ++ " ") operands ++ ")"
  | .gate g inner => "\x7b" ++ g.text ++ "(" ++ inner.text ++ ")\x7d"
  | .raw text => text

/-- The trees written out, with a separator between two of them. -/
def textsJoined (separator : String) : List Requirement → String
  | [] => ""
  | [r] => r.text
  | r :: rs => r.text ++ separator ++ textsJoined separator rs

end

/-- The text of a requirement that has no fault. -/
def compile (r : Requirement) : Except RequirementError String :=
  match r.fault? with
  | some e => .error e
  | none => .ok r.text

end Worldsmith.Requirement
