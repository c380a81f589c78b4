/-
Subjects as text, and which names may stand in one.

A subject is written between two bars, a category with an at sign before its name, and
an amount after a colon.  A name may hold colons, at signs, brackets and operators of
its own, as long as it reads back as the same subject: it must not hold a bar, an item
must not look like a category, and no name may end in what looks like an amount.
-/
import Worldsmith.Requirement.Amount
import Worldsmith.Text.Cut

namespace Worldsmith.Subject

open Text

def sigil : Subject → String
  | .item _ => ""
  | .category _ => "@"

/-- The subject in the engine's grammar, with its amount if it has one. -/
def token (s : Subject) (amount? : Option Amount) : String :=
  "|" ++ s.sigil ++ s.name ++ (match amount? with | some a => ":" ++ a.text | none => "") ++ "|"

/-- What a token holds after its sigil: the name, and the amount if it ends in one. -/
def splitAmount (body : List Char) : String × Option String :=
  match cutLast ':' body with
  | some (name, amount) =>
    if Amount.isWritten amount then (String.ofList name, some (String.ofList amount))
    else (String.ofList body, none)
  | none => (String.ofList body, none)

/-- The subject that stands between two bars, and its amount as it is written. -/
def ofToken (token : List Char) : Subject × Option String :=
  match token with
  | '@' :: body => (.category (splitAmount body).1, (splitAmount body).2)
  | body => (.item (splitAmount body).1, (splitAmount body).2)

/-- Would an item of this name be taken for a category? -/
def startsWithSigil (name : String) : Bool := name.toList.head? = some '@'

/-- Does the name end in a colon and what looks like an amount? -/
def endsInAmount (name : String) : Bool :=
  match cutLast ':' name.toList with
  | some (_, after) => Amount.isWritten after
  | none => false

/-- What keeps the subject from being written, the gravest first. -/
def fault? (s : Subject) : Option RequirementError :=
  if s.name = "" then some .emptyName
  else if '|' ∈ s.name.toList then some (.reservedCharacter s.name)
  else match s with
    | .item name =>
      if startsWithSigil name || endsInAmount name then some (.ambiguousName name) else none
    | .category name => if endsInAmount name then some (.ambiguousName name) else none

end Worldsmith.Subject
