/-
Cutting text: at a character, or behind a beginning.
-/
namespace Worldsmith.Text

/-- The text after `start`, if it starts so. -/
def after? (start : List Char) (cs : List Char) : Option (List Char) :=
  if start.isPrefixOf cs then some (cs.drop start.length) else none

/-- The text before and after the last `c`, if there is one. -/
def cutLast (c : Char) : List Char → Option (List Char × List Char)
  | [] => none
  | x :: xs =>
    match cutLast c xs with
    | some (before, after) => some (x :: before, after)
    | none => if x = c then some ([], xs) else none

/-- The pieces between the occurrences of `c`, one more than there are of these. -/
def cutAll (c : Char) : List Char → List (List Char)
  | [] => [[]]
  | x :: xs =>
    if x = c then [] :: cutAll c xs
    else match cutAll c xs with
      | piece :: pieces => (x :: piece) :: pieces
      | [] => [[x]]

end Worldsmith.Text
