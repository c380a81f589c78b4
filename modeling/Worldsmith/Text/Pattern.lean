/-
Regular expressions: which texts are well formed ones.

A pattern is a row of characters, classes in brackets, escapes and groups, each of which
may be repeated; bars stand between alternatives.  Only the sets that a pattern names
count, not which texts it finds.  No part of this notation are counts in braces, marks
for the edges of words, and references to what a group has found.
-/
import Worldsmith.Text.Cut
import Worldsmith.Text.Letters
import Worldsmith.Text.Units

namespace Worldsmith.Text.Pattern

/-! ### Escapes -/

/-- The character whose code point is written with `n` hexadecimal digits. -/
def codePoint? (n : Nat) (cs : List Char) : Option (Char × List Char) := do
  let digits := cs.take n
  if digits.length ≠ n then none
  let value ← digits.foldlM (fun m d => (hexDigit? d).map (16 * m + ·)) 0
  return (← char? value, cs.drop n)

/-- The letters that stand for a control character. -/
def controls : List (Char × Char) :=
  [('a', '\x07'), ('f', '\x0c'), ('t', '\t'), ('n', '\n'), ('r', '\r'), ('v', '\x0b')]

/-- What follows a backslash: a character, or no single one where a set is meant.  Any
sign of ASCII may be escaped, but letters and digits only where that has a meaning. -/
def escape? : List Char → Option (Option Char × List Char)
  | [] => none
  | c :: r =>
    if c = 'x' then (codePoint? 2 r).map fun (d, r) => (some d, r)
    else if c = 'u' then (codePoint? 4 r).map fun (d, r) => (some d, r)
    else if c = 'U' then (codePoint? 8 r).map fun (d, r) => (some d, r)
    else if c = 'p' || c = 'P' then
      if r.head?.any (·.toUpper ∈ ['C', 'L', 'M', 'N', 'P', 'S', 'Z']) then some (none, r.drop 1)
      else none
    else if c ∈ ['d', 'D', 's', 'S', 'w', 'W'] then some (none, r)
    else match controls.lookup c with
      | some d => some (some d, r)
      | none =>
        if c.toNat < 0x80 && !c.isAlphanum && c ≠ '<' && c ≠ '>' then some (some c, r) else none

/-! ### Classes -/

/-- The text behind the marks that open a class.  A closing bracket right after them is
a member of it, and so are hyphens. -/
def classBody (cs : List Char) : List Char :=
  match (after? ['^'] cs).getD cs with
  | ']' :: r => r
  | r => r.dropWhile (· = '-')

/-- A member of a class: a character, or no single one for a set. -/
def member? : List Char → Option (Option Char × List Char)
  | [] => none
  | '\\' :: r => escape? r
  | c :: r => some (some c, r)

/-- The text behind a class, from within it; `level` more classes are open around it.  A
range has to run upwards, from one character to another. -/
def afterClass? : Nat → Nat → List Char → Option (List Char)
  | 0, _, _ => none
  | _ + 1, _, [] => none
  | fuel + 1, level, ']' :: r => if level = 0 then some r else afterClass? fuel (level - 1) r
  | fuel + 1, level, '[' :: r => afterClass? fuel (level + 1) (classBody r)
  | fuel + 1, level, cs => do
    match [['&', '&'], ['-', '-'], ['~', '~']].findSome? (after? · cs) with
    | some r => afterClass? fuel level r
    | none => do
      let (least?, r) ← member? cs
      match r with
      | '-' :: c :: r' =>
        if c = ']' || c = '-' then afterClass? fuel level r
        else do
          let (greatest?, r) ← member? (c :: r')
          if (← greatest?) < (← least?) then none
          afterClass? fuel level r
      | r => afterClass? fuel level r

/-! ### Groups -/

/-- The switches of a group. -/
def isSwitch (c : Char) : Bool := c ∈ ['i', 'm', 's', 'U', 'u', 'x', 'R', '-']

/-- What follows the question mark that opens a group: its name, or switches.  Tells
whether the group stays open, as it does unless it only holds switches. -/
def afterMark? (cs : List Char) : Option (Bool × List Char) :=
  match (after? ['P', '<'] cs) <|> (after? ['<'] cs) with
  | some r => do
    let name := r.takeWhile (· ≠ '>')
    if !name.head?.any fun c => c = '_' || isAlphanumeric c && !c.isDigit then none
    if !name.all fun c => isAlphanumeric c || c ∈ ['_', '.', '[', ']'] then none
    return (true, ← after? ['>'] (r.drop name.length))
  | none =>
    let switches := cs.takeWhile isSwitch
    if !switches.Nodup || switches.getLast? = some '-' then none
    else match cs.drop switches.length with
      | ':' :: r => some (true, r)
      | ')' :: r => if switches.isEmpty then none else some (false, r)
      | _ => none

/-! ### Patterns -/

/-- Is the rest of a pattern well formed, with `level` groups open?  `repeatable` tells
that a part stands before it which may be repeated. -/
def continues : Nat → Nat → Bool → List Char → Bool
  | 0, _, _, _ => false
  | _ + 1, level, _, [] => level = 0
  | fuel + 1, level, repeatable, c :: r =>
    if c = '\\' then
      if r.head?.any (· ∈ ['A', 'z']) then continues fuel level true (r.drop 1)
      else match escape? r with
        | some (_, r) => continues fuel level true r
        | none => false
    else if c = '[' then
      match afterClass? (r.length + 1) 0 (classBody r) with
      | some r => continues fuel level true r
      | none => false
    else if c = '(' then
      match r with
      | '?' :: r =>
        match afterMark? r with
        | some (stays, r) => continues fuel (if stays then level + 1 else level) false r
        | none => false
      | r => continues fuel (level + 1) false r
    else if c = ')' then level ≠ 0 && continues fuel (level - 1) true r
    else if c = '|' then continues fuel level false r
    else if c = '\x7b' then false
    else if c ∈ ['*', '+', '?'] then repeatable && continues fuel level true r
    else continues fuel level true r

end Pattern

/-- Is this a regular expression? -/
def isPattern (cs : List Char) : Bool := Pattern.continues (cs.length + 1) 0 false cs

end Worldsmith.Text
