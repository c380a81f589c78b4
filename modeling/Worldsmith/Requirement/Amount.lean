/-
Amounts as text.

An amount is written as a plain number or as digits and a percent sign.  Reading is more
generous than writing: a number may carry a plus sign and leading zeros, and text that is
no number of 32 bits is kept as a percentage, which may then turn out to be none.
-/
import Worldsmith.Requirement.Basic

namespace Worldsmith.Amount

open Text

/-- The amount that text stands for. -/
def ofText (text : String) : Amount :=
  let digits := match text.toList with
    | '+' :: cs => cs
    | cs => cs
  match decimal? digits with
  | some n => if h : n < UInt32.size then .count (.ofNatLT n h) else .percent text
  | none => .percent text

def text : Amount → String
  | .count n => decimal n.toNat
  | .percent text => text

/-- The text up to a percent sign at its end. -/
def beforePercent? (cs : List Char) : Option (List Char) :=
  if cs.getLast? = some '%' then some cs.dropLast else none

/-- Does text read as an amount: digits, with at most one percent sign after them? -/
def isWritten (cs : List Char) : Bool := isDigits ((beforePercent? cs).getD cs)

/-- A count is always good; a percentage has to be digits and a percent sign. -/
def fault? : Amount → Option RequirementError
  | .count _ => none
  | .percent text =>
    if isDigits ((beforePercent? text.toList).getD []) then none
    else some (.invalidAmount text)

end Worldsmith.Amount
