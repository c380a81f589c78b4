/-
The numbers of RON.

An integer is written in base two, eight, ten or sixteen, with a sign in front,
underscores between its digits, and the name of a type behind it, which it then has to
fit.  Anything else that a floating-point number may look like is a number too, and so
is an integer that is too large for any type.
-/
import Worldsmith.Ron.Lexeme
import Worldsmith.Text.Decimal

namespace Worldsmith.Ron

open Text

def isFloatChar (c : Char) : Bool := c.isDigit || c ∈ ['e', 'E', '.', '+', '-', '_']

def isIntegerChar (c : Char) : Bool := (hexDigit? c).isSome || c == '_'

/-- The least and the greatest value of a type of integers, under the type's name. -/
def integerTypes : List (List Char × Int × Int) :=
  [("i8".toList, -0x80, 0x7f), ("u8".toList, 0, 0xff),
    ("i16".toList, -0x8000, 0x7fff), ("u16".toList, 0, 0xffff),
    ("i32".toList, -0x80000000, 0x7fffffff), ("u32".toList, 0, 0xffffffff),
    ("i64".toList, -0x8000000000000000, 0x7fffffffffffffff),
    ("u64".toList, 0, 0xffffffffffffffff)]

/-- The base that the text announces, and the text after that. -/
def base (cs : List Char) : Nat × List Char :=
  match cs with
  | '0' :: 'b' :: r => (2, r)
  | '0' :: 'o' :: r => (8, r)
  | '0' :: 'x' :: r => (16, r)
  | r => (10, r)

/-- The value of digits in a base; underscores count for nothing. -/
def valueIn? (base : Nat) (digits : List Char) : Option Nat :=
  digits.foldlM (fun n c =>
    if c = '_' then some n
    else (hexDigit? c).bind fun d => if d < base then some (base * n + d) else none) 0

/-- How far into the digits the first one is that the base does not have. -/
def faultyDigit (base : Nat) (digits : List Char) : Nat :=
  (digits.takeWhile fun c => c == '_' || (hexDigit? c).any (· < base)).length

/-- The text of an integer in parts. -/
structure Integer where
  negative : Bool
  base : Nat
  digits : List Char
  /-- The name of the type behind it, if there is one. -/
  type? : Option (List Char)
  rest : List Char

/-- Takes an integer apart.  The name of a type is looked for only where the digits after
the sign, read in base sixteen, end, so one behind an octal or hexadecimal number is not
seen. -/
def Integer.ofText (cs : List Char) : Integer :=
  let (negative, body) := sign cs
  let (base, digits) := Ron.base body
  let after := body.dropWhile isIntegerChar
  match integerTypes.findSome? fun t => (word? t.1 after).map (t.1, ·) with
  | some (type, rest) => ⟨negative, base, digits.takeWhile isIntegerChar, some type, rest⟩
  | none =>
    ⟨negative, base, digits.takeWhile isIntegerChar, none, digits.dropWhile isIntegerChar⟩

/-- The value, if the digits are good. -/
def Integer.value? (i : Integer) : Option Int := do
  if i.digits.isEmpty || i.digits.head? = some '_' then none
  let n ← valueIn? i.base i.digits
  return if i.negative then -(n : Int) else n

/-- Does the value fit its type?  Without one it has to fit into 64 bits. -/
def Integer.fits (i : Integer) (value : Int) : Bool :=
  match i.type?.bind (integerTypes.lookup ·) with
  | some (least, greatest) => least ≤ value && value ≤ greatest
  | none => if i.negative then -0x8000000000000000 ≤ value else value ≤ 0xffffffffffffffff

/-- The number of 32 bits that the spelling stands for. -/
def word32? (spelling : List Char) : Option UInt32 := do
  let i := Integer.ofText spelling
  if !i.rest.isEmpty || i.type?.any (· ≠ "u32".toList) then none
  match ← i.value? with
  | .ofNat n => if h : n < UInt32.size then some (.ofNatLT n h) else none
  | .negSucc _ => none

/-! ### Floating-point numbers -/

/-- The spelling without its underscores, which may stand after a digit or an exponent
mark but not after a point. -/
def withoutUnderscores? (allowed : Bool) : List Char → Option (List Char)
  | [] => some []
  | c :: cs =>
    if c = '_' then if allowed then withoutUnderscores? allowed cs else none
    else
      let allowed := if c.isDigit || c = 'e' || c = 'E' then true else if c = '.' then false else allowed
      (withoutUnderscores? allowed cs).map (c :: ·)

/-- The words that stand for a floating-point number without digits. -/
def floatWords : List (List Char) :=
  ["inf", "inff32", "inff64", "NaN", "NaNf32", "NaNf64"].map String.toList

/-- The text after a floating-point number. -/
def float? (cs : List Char) : Option (List Char) :=
  match floatWords.findSome? (word? · (sign cs).2) with
  | some r => some r
  | none => do
    let spelling := cs.takeWhile isFloatChar
    if spelling.isEmpty then none
    if !isFloat (← withoutUnderscores? false spelling) then none
    let r := cs.dropWhile isFloatChar
    return ((word? ['f', '3', '2'] r) <|> (word? ['f', '6', '4'] r)).getD r

/-- How far an integer that cannot be read was followed before its fault showed. -/
def Integer.followed (i : Integer) (cs : List Char) : Nat :=
  let signLength := cs.length - (sign cs).2.length
  let baseLength := if i.base = 10 then 0 else 2
  if i.digits.isEmpty || i.digits.head? = some '_' then signLength + baseLength
  else
    match valueIn? i.base i.digits with
    | none => signLength + baseLength + faultyDigit i.base i.digits
    | some _ => cs.length - i.rest.length

/-- The text after a number of any kind.  What is no integer may still be a
floating-point number, if that goes at least as far as the fault in the integer. -/
def number? (cs : List Char) : Option (List Char) :=
  let body := (sign cs).2
  if (body.takeWhile isIntegerChar).length < (body.takeWhile isFloatChar).length then float? cs
  else
    let i := Integer.ofText cs
    match i.value?.filter i.fits with
    | some _ => some i.rest
    | none => (float? cs).filter fun r => i.followed cs ≤ cs.length - r.length

end Worldsmith.Ron
