/-
Reading a JSON document.

The reader takes the format to the letter: nothing but white space around the one
value, no comma after the last element, no leading zeros, no control characters in
text.  It sets no bound on nesting or on the size of numbers.

The functions below read from the front of the text and give back what they read and
the rest.  Those that call one another count down `fuel`; two for each character are
always enough, since no two calls in a row leave the text as it was.
-/
import Worldsmith.Json.Basic
import Worldsmith.Text.Decimal
import Worldsmith.Text.Units

namespace Worldsmith.Json.Reader

open Text

def skipSpace (cs : List Char) : List Char := cs.dropWhile Json.isSpace

/-! ### Text -/

/-- The code that four hexadecimal digits stand for. -/
def code? (a b c d : Char) : Option Nat := do
  return 4096 * (← hexDigit? a) + 256 * (← hexDigit? b) + 16 * (← hexDigit? c) + (← hexDigit? d)

/-- The character that a backslash and a letter stand for.  A slash may be escaped too. -/
def shortEscape? (letter : Char) : Option Char :=
  if letter = '/' then some '/'
  else (shortEscapes.find? fun e => e.2 = letter).map Prod.fst

/-- Text after its opening quote: the code points and halves of surrogate pairs.  `read`
holds those already read, backwards. -/
def units? (read : List Nat) : List Char → Option (List Nat × List Char)
  | [] => none
  | '"' :: cs => some (read.reverse, cs)
  | '\\' :: 'u' :: a :: b :: c :: d :: cs =>
    match code? a b c d with
    | some code => units? (code :: read) cs
    | none => none
  | '\\' :: letter :: cs =>
    match shortEscape? letter with
    | some c => units? (c.toNat :: read) cs
    | none => none
  | c :: cs => if c < ' ' then none else units? (c.toNat :: read) cs

/-! ### Numbers -/

/-- What follows the whole part of a number: a fraction, an exponent, both or neither.
Gives the rest, and whether there was anything. -/
def exponent? (seen : Bool) (cs : List Char) : Option (Bool × List Char) :=
  match cs with
  | c :: r =>
    if c = 'e' ∨ c = 'E' then
      let r := match r with
        | s :: r' => if s = '+' ∨ s = '-' then r' else r
        | [] => r
      if isDigits (r.takeWhile Char.isDigit) then some (true, r.dropWhile Char.isDigit) else none
    else some (seen, cs)
  | [] => some (seen, cs)

def fraction? (cs : List Char) : Option (Bool × List Char) :=
  match cs with
  | '.' :: r =>
    if isDigits (r.takeWhile Char.isDigit) then exponent? true (r.dropWhile Char.isDigit) else none
  | _ => exponent? false cs

/-- A number after its sign. -/
def number? (negative : Bool) (cs : List Char) : Option (Json × List Char) := do
  let digits := cs.takeWhile Char.isDigit
  if digits.isEmpty || (digits.head? = some '0' && digits.length != 1) then none
  let (broken, rest) ← fraction? (cs.dropWhile Char.isDigit)
  let n := digitsValue digits
  let value : Json :=
    if broken || (negative && n == 0) then .foreign
    else .int (if negative then -(n : Int) else n)
  return (value, rest)

/-! ### Values -/

/-- Text as a value. -/
def ofUnits (codes : List Nat) : Json :=
  match textOfUnits? codes with
  | some s => .text s
  | none => .foreign

mutual

def value? : Nat → List Char → Option (Json × List Char)
  | 0, _ => none
  | fuel + 1, cs =>
    match skipSpace cs with
    | 'n' :: 'u' :: 'l' :: 'l' :: r => some (.null, r)
    | 't' :: 'r' :: 'u' :: 'e' :: r => some (.bool true, r)
    | 'f' :: 'a' :: 'l' :: 's' :: 'e' :: r => some (.bool false, r)
    | '"' :: r => (units? [] r).map fun (codes, r) => (ofUnits codes, r)
    | '[' :: r =>
      match skipSpace r with
      | ']' :: r => some (.list [], r)
      | r => (elements? fuel r).map fun (js, r) => (.list js, r)
    | '{' :: r =>
      match skipSpace r with
      | '}' :: r => some (.object [], r)
      | r => (members? fuel r).map fun (ms?, r) => ((ms?.map Json.object).getD .foreign, r)
    | '-' :: r => number? true r
    | r => number? false r

/-- One element at least, and the closing bracket. -/
def elements? : Nat → List Char → Option (List Json × List Char)
  | 0, _ => none
  | fuel + 1, cs => do
    let (j, r) ← value? fuel cs
    match skipSpace r with
    | ',' :: r => do
      let (js, r) ← elements? fuel r
      return (j :: js, r)
    | ']' :: r => return ([j], r)
    | _ => none

/-- One member at least, and the closing brace.  There are no members to speak of when a
name is no text. -/
def members? : Nat → List Char → Option (Option (List (String × Json)) × List Char)
  | 0, _ => none
  | fuel + 1, cs =>
    match skipSpace cs with
    | '"' :: r => do
      let (codes, r) ← units? [] r
      match skipSpace r with
      | ':' :: r => do
        let (j, r) ← value? fuel r
        let member? := (textOfUnits? codes).map fun name => (name, j)
        match skipSpace r with
        | ',' :: r => do
          let (ms?, r) ← members? fuel r
          return (member?.bind fun m => ms?.map (m :: ·), r)
        | '}' :: r => return (member?.map ([·]), r)
        | _ => none
      | _ => none
    | _ => none

end

end Reader

/-- The document that the text is, if it is one. -/
def parse? (s : String) : Option Json :=
  let cs := s.toList
  match Reader.value? (2 * cs.length + 2) cs with
  | some (j, rest) => if (Reader.skipSpace rest).isEmpty then some j else none
  | none => none

end Worldsmith.Json
