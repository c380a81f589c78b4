/-
Numbers in decimal.

Digits here are the ten ASCII ones only: a number in a requirement or a file is never
written with another script's digits.
-/
namespace Worldsmith.Text

/-- Are there digits, and nothing else? -/
def isDigits (cs : List Char) : Bool := !cs.isEmpty && cs.all Char.isDigit

/-- The value of a row of digits in base ten. -/
def digitsValue (cs : List Char) : Nat :=
  cs.foldl (fun n c => 10 * n + (c.toNat - '0'.toNat)) 0

/-- The number written in decimal; leading zeros are no fault. -/
def decimal? (cs : List Char) : Option Nat :=
  if isDigits cs then some (digitsValue cs) else none

/-- The number in decimal, without leading zeros. -/
def decimal (n : Nat) : String := String.ofList (Nat.toDigits 10 n)

/-- Splits off a sign: whether it is a minus, and the rest. -/
def sign (cs : List Char) : Bool × List Char :=
  match cs with
  | '-' :: r => (true, r)
  | '+' :: r => (false, r)
  | r => (false, r)

/-- Is this a floating-point number?  Digits with a point anywhere among them, and an
exponent behind. -/
def isFloat (cs : List Char) : Bool :=
  let (_, body) := sign cs
  let whole := body.takeWhile Char.isDigit
  let afterWhole := body.dropWhile Char.isDigit
  let (places, afterPlaces) := match afterWhole with
    | '.' :: r => (r.takeWhile Char.isDigit, r.dropWhile Char.isDigit)
    | r => ([], r)
  (!whole.isEmpty || !places.isEmpty) && match afterPlaces with
    | [] => true
    | e :: r => (e = 'e' || e = 'E') && isDigits (sign r).2

end Worldsmith.Text
