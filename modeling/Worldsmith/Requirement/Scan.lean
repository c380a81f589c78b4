/-
The subjects that requirement text mentions.

Text is read without its grammar: whatever stands between the first bar and the second,
the third and the fourth, and so on, is a subject with or without an amount, and all
else is skipped.  This works on text that an author wrote by hand as well, and a bar
without a partner is passed over.
-/
import Worldsmith.Requirement.Subject

namespace Worldsmith

/-- A subject found in requirement text, with its amount as it was written. -/
structure Mention where
  subject : Subject
  amount? : Option String
  deriving DecidableEq, Repr

namespace Mention

/-- What stands between two bars.  Nothing but a sigil or an amount is no mention. -/
def ofToken? (token : List Char) : Option Mention :=
  let (subject, amount?) := Subject.ofToken token
  if subject.name = "" then none else some ⟨subject, amount?⟩

mutual

/-- The mentions in text that begins outside a token. -/
def scanOutside : List Char → List Mention
  | [] => []
  | c :: cs => if c = '|' then scanInside [] cs else scanOutside cs

/-- The mentions in text that begins inside a token; `token` holds what has been read of
it, backwards.  Without a closing bar there is none. -/
def scanInside (token : List Char) : List Char → List Mention
  | [] => []
  | c :: cs =>
    if c = '|' then (ofToken? token.reverse).toList ++ scanOutside cs
    else scanInside (c :: token) cs

end

/-- Every mention in the text, from left to right. -/
def scan (text : String) : List Mention := scanOutside text.toList

end Mention

end Worldsmith
