/-
Characters from numbers: hexadecimal digits, surrogate pairs and UTF-8.

Formats that spell characters by number do so in three ways.  A code point may be given
as it is; in two halves of a surrogate pair, each of sixteen bits; or as the bytes of
its UTF-8 form.  A half without its partner is no character, and neither is a sequence
of bytes that is not the shortest for what it says.
-/
namespace Worldsmith.Text

def hexDigit? (c : Char) : Option Nat :=
  if '0' ≤ c ∧ c ≤ '9' then some (c.toNat - '0'.toNat)
  else if 'a' ≤ c ∧ c ≤ 'f' then some (c.toNat - 'a'.toNat + 10)
  else if 'A' ≤ c ∧ c ≤ 'F' then some (c.toNat - 'A'.toNat + 10)
  else none

/-- The character of a code point, if it is one of Unicode's and no surrogate. -/
def char? (n : Nat) : Option Char := if n.isValidChar then some (Char.ofNat n) else none

def isHighSurrogate (n : Nat) : Bool := 0xD800 ≤ n && n ≤ 0xDBFF

def isLowSurrogate (n : Nat) : Bool := 0xDC00 ≤ n && n ≤ 0xDFFF

/-- The code point of a surrogate pair. -/
def pairValue (high low : Nat) : Nat := 0x10000 + 0x400 * (high - 0xD800) + (low - 0xDC00)

/-- The characters of a sequence of code points and surrogates, in which every surrogate
has its partner. -/
def charsOfUnits? : List Nat → Option (List Char)
  | [] => some []
  | [n] => (char? n).map ([·])
  | m :: n :: ns =>
    if isHighSurrogate m && isLowSurrogate n then do
      return (← char? (pairValue m n)) :: (← charsOfUnits? ns)
    else do
      return (← char? m) :: (← charsOfUnits? (n :: ns))

def textOfUnits? (ns : List Nat) : Option String := (charsOfUnits? ns).map String.ofList

/-! ### UTF-8 -/

/-- The number of bytes after the first one of a character. -/
def utf8Following? (first : Nat) : Option Nat :=
  if first < 0x80 then some 0
  else if 0xC0 ≤ first ∧ first < 0xE0 then some 1
  else if 0xE0 ≤ first ∧ first < 0xF0 then some 2
  else if 0xF0 ≤ first ∧ first < 0xF8 then some 3
  else none

/-- The character that the bytes are the UTF-8 form of. -/
def charOfUtf8? (first : Nat) (following : List Nat) : Option Char := do
  if following.any fun b => b < 0x80 || 0xC0 ≤ b then none
  let value (high : Nat) := following.foldl (fun n b => 64 * n + (b - 0x80)) high
  match following.length with
  | 0 => if first < 0x80 then char? first else none
  | 1 => if 0x80 ≤ value (first - 0xC0) then char? (value (first - 0xC0)) else none
  | 2 => if 0x800 ≤ value (first - 0xE0) then char? (value (first - 0xE0)) else none
  | 3 => if 0x10000 ≤ value (first - 0xF0) then char? (value (first - 0xF0)) else none
  | _ => none

end Worldsmith.Text
