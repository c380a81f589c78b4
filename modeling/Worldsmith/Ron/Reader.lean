/-
Reading a RON document.

The functions below read from the front of the text and give back what they read and
the rest.  Those that call one another count down `fuel`; three for each character are
always enough.  How deeply a document may be nested is not their business: that depends
on what it is read as.
-/
import Worldsmith.Ron.Number

namespace Worldsmith.Ron

namespace Reader

open Text (after?)

/-- What a parenthesis holds, from a look at its first element: fields when that is a
name and a colon, and otherwise values. -/
def holdsFields? (cs : List Char) : Option Bool :=
  match name? cs with
  | none => some false
  | some (_, r) => (skip? r).map fun r => r.head? = some ':'

/-- Does text open here, quoted or raw? -/
def opensText (cs : List Char) : Bool :=
  match cs with
  | 'r' :: r => (r.dropWhile (· = '#')).head? = some '"'
  | r => r.head? = some '"'

/-- Passes over a character, text and bytes, if they stand here.  Text that opens has to
close. -/
def skipQuoted? (cs : List Char) : Option (List Char) := do
  let r := (character? cs).getD cs
  let r ← if opensText r then (text? r).map Prod.snd else some r
  match r with
  | 'b' :: s => if opensText s then byteText? r else some r
  | r => some r

/-- Does a comma come before the bracket that closes, with something behind it?  `level`
counts the brackets that are open; those in text and in comments do not count. -/
def commaAhead? : Nat → Nat → List Char → Option Bool
  | 0, _, _ => none
  | fuel + 1, level, cs => do
    match ← skipQuoted? (← skip? cs) with
    | [] => none
    | c :: r =>
      if c ∈ ['(', '[', '\x7b'] then commaAhead? fuel (level + 1) r
      else if c ∈ [')', ']', '\x7d'] then
        if level = 0 then some false else commaAhead? fuel (level - 1) r
      else if c = ',' && level = 0 then (skip? r).map fun r => r.head? != some ')'
      else commaAhead? fuel level r

/-- Does a parenthesis hold several values, from a look at where its first comma is? -/
def holdsSeveral? (cs : List Char) : Option Bool :=
  match name? cs with
  | none => commaAhead? (cs.length + 1) 0 cs
  | some (_, r) => commaAhead? (r.length + 1) 0 r

/-- A value that is one lexeme, from its first character on. -/
def literal? (cs : List Char) : Option (Ron × List Char) :=
  match cs with
  | [] => none
  | c :: _ =>
    if c.isDigit || c = '+' || c = '-' || c = '.' then
      (number? cs).map fun r => (.number (cs.take (cs.length - r.length)), r)
    else if c = '"' || c = 'r' then (text? cs).map fun (s, r) => (.text s, r)
    else if c = '\'' then (character? cs).map (.literal, ·)
    else if c = 'b' then ((byteCharacter? cs) <|> (byteText? cs)).map (.literal, ·)
    else none

mutual

/-- A value.  The words that are no names come first, then names, then the rest. -/
def value? (d : Dialect) : Nat → List Char → Option (Ron × List Char)
  | 0, _ => none
  | fuel + 1, cs =>
    if let some r := word? "true".toList cs then some (.bool true, r)
    else if let some r := word? "false".toList cs then some (.bool false, r)
    else if let some r := word? "Some".toList cs then optional? d fuel r
    else if let some r := word? "None".toList cs then some (.absent, r)
    else if let some r := after? "()".toList cs then some (.unit, r)
    else if let some r := floatWords.findSome? (word? · cs) then some (.literal, r)
    else if let some (n, r) := name? cs then
      match skip? r with
      | none => none
      | some ('(' :: r) => parenthesis? d fuel (some n) r
      | some r => some (.name n, r)
    else match cs with
      | '(' :: r => parenthesis? d fuel none r
      | '[' :: r => (elements? d fuel ']' true r).map fun (vs, r) => (.list vs, r)
      | '{' :: r => (entries? d fuel true r).map fun (es, r) => (.map es, r)
      | cs => literal? cs

/-- What follows the word `Some`: a value in parentheses, or just a value where the word
is not needed. -/
def optional? (d : Dialect) : Nat → List Char → Option (Ron × List Char)
  | 0, _ => none
  | fuel + 1, cs => do
    match ← skip? cs with
    | '(' :: r => do
      let r ← skip? r
      if d.openSome then openOptional? d fuel r
      else do
        let (v, r) ← value? d fuel r
        let (_, r) ← comma? r
        return (.present 1 v, ← after? [')'] r)
    | r => do
      if !d.implicitSome then none
      let (v, r) ← value? d fuel r
      return (.present 1 v, r)

/-- What follows the parenthesis of `Some` where it may hold fields or several values.
The look ahead has to agree with what is there.  One value that it takes for several is
two steps further in, and one that it cannot look past may be read but not passed over. -/
def openOptional? (d : Dialect) : Nat → List Char → Option (Ron × List Char)
  | 0, _ => none
  | fuel + 1, cs => do
    if let some r := after? [')'] cs then return (.present 1 .unit, r)
    if ← holdsFields? cs then
      let (fs, r) ← fields? d fuel true cs
      return (.present 1 (.record none fs), r)
    else
      let (vs, r) ← elements? d fuel ')' true cs
      match vs, holdsSeveral? cs with
      | [v], some false => return (.present 1 v, r)
      | [v], some true => return (.present 3 v, r)
      | [v], none => return (.present (maxDepth + 1) v, r)
      | vs, some true => return (.present 1 (.tuple none vs), r)
      | _, _ => none

/-- What follows an opening parenthesis, which may have had a name before it. -/
def parenthesis? (d : Dialect) : Nat → Option String → List Char → Option (Ron × List Char)
  | 0, _, _ => none
  | fuel + 1, n?, cs => do
    let cs ← skip? cs
    if ← holdsFields? cs then
      let (fs, r) ← fields? d fuel true cs
      return (.record n? fs, r)
    else
      let (vs, r) ← elements? d fuel ')' true cs
      return (.tuple n? vs, r)

/-- Values up to the closing bracket.  `free` tells that another one may begin, which
takes a comma after each. -/
def elements? (d : Dialect) : Nat → Char → Bool → List Char → Option (List Ron × List Char)
  | 0, _, _, _ => none
  | fuel + 1, closing, free, cs => do
    let cs ← skip? cs
    match after? [closing] cs with
    | some r => return ([], r)
    | none => do
      if !free then none
      let (v, r) ← value? d fuel cs
      let (free, r) ← comma? r
      let (vs, r) ← elements? d fuel closing free r
      return (v :: vs, r)

/-- Fields up to the closing parenthesis. -/
def fields? (d : Dialect) : Nat → Bool → List Char → Option (List (String × Ron) × List Char)
  | 0, _, _ => none
  | fuel + 1, free, cs => do
    let cs ← skip? cs
    match after? [')'] cs with
    | some r => return ([], r)
    | none => do
      if !free then none
      let (n, r) ← properName? cs
      let r ← after? [':'] (← skip? r)
      let (v, r) ← value? d fuel (← skip? r)
      let (free, r) ← comma? r
      let (fs, r) ← fields? d fuel free r
      return ((n, v) :: fs, r)

/-- Entries of a map up to the closing brace. -/
def entries? (d : Dialect) : Nat → Bool → List Char → Option (List (Ron × Ron) × List Char)
  | 0, _, _ => none
  | fuel + 1, free, cs => do
    let cs ← skip? cs
    match after? ['}'] cs with
    | some r => return ([], r)
    | none => do
      if !free then none
      let (k, r) ← value? d fuel cs
      let r ← after? [':'] (← skip? r)
      let (v, r) ← value? d fuel (← skip? r)
      let (free, r) ← comma? r
      let (es, r) ← entries? d fuel free r
      return ((k, v) :: es, r)

end

section Closed

variable (d : Dialect) (fuel : Nat) (free : Bool) (rest : List Char)

theorem value?_unit : value? d (fuel + 1) ('(' :: ')' :: rest) = some (.unit, rest) := by
  rw [value?.eq_def]
  rfl

theorem fields?_closing : fields? d (fuel + 1) free (')' :: rest) = some ([], rest) := by
  rw [fields?]
  rfl

theorem entries?_closing : entries? d (fuel + 1) free ('}' :: rest) = some ([], rest) := by
  rw [entries?]
  rfl

end Closed

/-! ### Extensions -/

/-- The dialect with one more extension.  One of them concerns only values that content
never has. -/
def enable? (d : Dialect) (extension : String) : Option Dialect :=
  if extension = "implicit_some" then some { d with implicitSome := true }
  else if extension = "explicit_struct_names" then some { d with explicitNames := true }
  else if extension = "unwrap_variant_newtypes" then some { d with openSome := true }
  else if extension = "unwrap_newtypes" then some d
  else none

/-- The lexemes one after the other, with blanks between and behind them. -/
def sequence? : List String → List Char → Option (List Char)
  | [], cs => some cs
  | s :: ss, cs => do sequence? ss (← skip? (← after? s.toList cs))

/-- The names of extensions, with commas between them. -/
def extensions? (d : Dialect) : Nat → List Char → Option (Dialect × List Char)
  | 0, _ => none
  | fuel + 1, cs => do
    let (n, r) ← properName? cs
    let d ← enable? d n
    let (more, r) ← comma? r
    if more && !endsWord r then extensions? d fuel r
    else if endsWord r then return (d, r)
    else none

/-- The attributes before the value. -/
def attributes? (d : Dialect) : Nat → List Char → Option (Dialect × List Char)
  | 0, _ => none
  | fuel + 1, cs =>
    match cs with
    | '#' :: _ => do
      let r ← sequence? ["#", "!", "[", "enable", "("] cs
      let (d, r) ← extensions? d (r.length + 1) r
      attributes? d fuel (← sequence? [")", "]"] (← skip? r))
    | cs => some (d, cs)

end Reader

open Reader in
/-- The document that the text is, if it is one, and the dialect that it asks for. -/
def parse? (s : String) : Option (Dialect × Ron) := do
  let cs ← skip? s.toList
  let (d, cs) ← attributes? {} (cs.length + 1) cs
  let (v, r) ← value? d (3 * cs.length + 3) cs
  if (← skip? r).isEmpty then return (d, v) else none

end Worldsmith.Ron
