/-
Lines of text.

A line feed ends a line, and so does a carriage return with a line feed.  Text that ends
in a line feed has no further line after it.
-/
import Worldsmith.Text.Cut

namespace Worldsmith.Text

/-- The lines of the text, each with the line feed that ends it. -/
def fullLines (cs : List Char) : List (List Char) :=
  match cutAll '\n' cs with
  | [] => []
  | pieces =>
    pieces.dropLast.map (· ++ ['\n']) ++ (pieces.getLast?.filter (!·.isEmpty)).toList

/-- The line without its end. -/
def withoutLineEnd (cs : List Char) : List Char :=
  if cs.getLast? = some '\n' then
    if cs.dropLast.getLast? = some '\r' then cs.dropLast.dropLast else cs.dropLast
  else cs

/-- The lines of the text without their ends. -/
def lines (s : String) : List String :=
  (fullLines s.toList).map (String.ofList ∘ withoutLineEnd)

end Worldsmith.Text
