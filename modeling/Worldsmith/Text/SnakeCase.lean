/-
Snake case: any text as lower-case words joined by underscores.

The words of a text are its runs of letters and digits, cut once more where the letter
case tells words apart: between a lower-case letter and an upper-case one, and before
the last of several upper-case letters when a lower-case one follows, so that
`HTTPServer` is `http_server`.  A character without case carries on with the case
before it.
-/
import Worldsmith.Text.Letters

namespace Worldsmith.Text

/-- The case of what has been read of a word, as far as it is known. -/
inductive WordCase where
  | fresh
  | lower
  | upper
  deriving DecidableEq, Repr

/-- The case after one more character. -/
def WordCase.next (w : WordCase) (c : Char) : WordCase :=
  if isLowercase c then .lower else if isUppercase c then .upper else w

/-- The maximal runs of letters and digits, with empty ones between two separators. -/
def alphanumericRuns : List Char → List (List Char)
  | [] => [[]]
  | c :: cs =>
    if isAlphanumeric c then
      match alphanumericRuns cs with
      | run :: runs => (c :: run) :: runs
      | [] => [[c]]
    else [] :: alphanumericRuns cs

/-- One run cut at its case boundaries.  `word` holds what is open, backwards,
and `w` its case; a character is only cut off together with a look at the one after. -/
def caseWords (w : WordCase) (word : List Char) : List Char → List (List Char)
  | [] => []
  | [c] => [(c :: word).reverse]
  | c :: d :: cs =>
    if w.next c = .lower ∧ isUppercase d then
      (c :: word).reverse :: caseWords .fresh [] (d :: cs)
    else if w = .upper ∧ isUppercase c ∧ isLowercase d then
      word.reverse :: caseWords .fresh [c] (d :: cs)
    else caseWords (w.next c) (c :: word) (d :: cs)

/-- A word in lower case.  A capital sigma that ends the word becomes the final form. -/
def lowerWord : List Char → List Char
  | [] => []
  | ['Σ'] => ['ς']
  | c :: cs => lowercase c ++ lowerWord cs

/-- The words of the text in lower case, joined by underscores. -/
def snakeCase (s : String) : String :=
  String.ofList <| List.intercalate ['_'] <|
    ((alphanumericRuns s.toList).flatMap (caseWords .fresh [])).map lowerWord

end Worldsmith.Text
