/-
JSON documents as text.

One function writes a document in any layout; a layout says what stands before an
element and what between a member's name and its value.  Text is escaped only where it
has to be: quotes, backslashes and control characters.
-/
import Worldsmith.Json.Basic
import Worldsmith.Text.Decimal

namespace Worldsmith.Json

/-- The space around the parts of a document. -/
structure Layout where
  /-- What stands before an element or a closing bracket, at a depth of nesting. -/
  lineBreak : Nat → String
  /-- What stands between a name and its value. -/
  colon : String

/-- Everything on one line and without spaces. -/
def Layout.compact : Layout := ⟨fun _ => "", ":"⟩

/-- An element to a line, indented by four spaces for each level. -/
def Layout.indented : Layout := ⟨fun depth => "\n" ++ "".pushn ' ' (4 * depth), ": "⟩

/-- A control character by its code, with four digits. -/
def codeEscape (c : Char) : List Char :=
  let digits := Nat.toDigits 16 c.toNat
  ['\\', 'u'] ++ List.replicate (4 - digits.length) '0' ++ digits

def escapeChar (c : Char) : List Char :=
  match shortEscapes.lookup c with
  | some letter => ['\\', letter]
  | none => if c < ' ' then codeEscape c else [c]

/-- Text in quotes. -/
def writeText (s : String) : String :=
  String.ofList ('"' :: s.toList.flatMap escapeChar ++ ['"'])

def writeInt : Int → String
  | .ofNat n => Text.decimal n
  | .negSucc n => "-" ++ Text.decimal (n + 1)

mutual

/-- The document in a layout; `depth` counts the brackets around it. -/
def write (l : Layout) (depth : Nat) : Json → String
  | .null => "null"
  | .bool b => if b then "true" else "false"
  | .int n => writeInt n
  | .text s => writeText s
  | .list [] => "[]"
  | .list (j :: js) =>
    "[" ++ l.lineBreak (depth + 1) ++ write l (depth + 1) j
      ++ writeElements l (depth + 1) js ++ l.lineBreak depth ++ "]"
  | .object [] => "\x7b\x7d"
  | .object ((name, j) :: ms) =>
    "\x7b" ++ l.lineBreak (depth + 1) ++ writeText name ++ l.colon ++ write l (depth + 1) j
      ++ writeMembers l (depth + 1) ms ++ l.lineBreak depth ++ "\x7d"
  | .foreign => "-0"

/-- The elements after the first. -/
def writeElements (l : Layout) (depth : Nat) : List Json → String
  | [] => ""
  | j :: js => "," ++ l.lineBreak depth ++ write l depth j ++ writeElements l depth js

/-- The members after the first. -/
def writeMembers (l : Layout) (depth : Nat) : List (String × Json) → String
  | [] => ""
  | (name, j) :: ms =>
    "," ++ l.lineBreak depth ++ writeText name ++ l.colon ++ write l depth j
      ++ writeMembers l depth ms

end

section Leaves

variable (l : Layout) (depth : Nat)

@[simp] theorem write_null : write l depth .null = "null" := by
  rw [write]

@[simp] theorem write_bool (b : Bool) :
    write l depth (.bool b) = if b then "true" else "false" := by
  rw [write]

@[simp] theorem write_int (n : Int) : write l depth (.int n) = writeInt n := by
  rw [write]

@[simp] theorem write_text (s : String) : write l depth (.text s) = writeText s := by
  rw [write]

end Leaves

/-- The document on one line. -/
def compact (j : Json) : String := write .compact 0 j

/-- The document over many lines, for people to read. -/
def indented (j : Json) : String := write .indented 0 j

end Worldsmith.Json
