/-
RON documents as text.

Everything is written on one line, with a blank after a colon and after a comma.  In
text only quotes and backslashes are escaped, since any other character may stand in it
as it is.
-/
import Worldsmith.Ron.Basic

namespace Worldsmith.Ron

def escapeChar (c : Char) : List Char := if c = '"' || c = '\\' then ['\\', c] else [c]

/-- Text in quotes. -/
def writeText (s : String) : String :=
  String.ofList ('"' :: s.toList.flatMap escapeChar ++ ['"'])

mutual

def write : Ron → String
  | .unit => "()"
  | .bool b => if b then "true" else "false"
  | .number spelling => String.ofList spelling
  | .text s => writeText s
  | .literal => "inf"
  | .absent => "None"
  | .present _ v => "Some(" ++ v.write ++ ")"
  | .list vs => "[" ++ writeElements vs ++ "]"
  | .map es => "\x7b" ++ writeEntries es ++ "\x7d"
  | .name n => n
  | .tuple name? vs => name?.getD "" ++ "(" ++ writeElements vs ++ ")"
  | .record name? fs => name?.getD "" ++ "(" ++ writeFields fs ++ ")"

def writeElements : List Ron → String
  | [] => ""
  | [v] => v.write
  | v :: vs => v.write ++ ", " ++ writeElements vs

def writeEntries : List (Ron × Ron) → String
  | [] => ""
  | [(k, v)] => k.write ++ ": " ++ v.write
  | (k, v) :: es => k.write ++ ": " ++ v.write ++ ", " ++ writeEntries es

def writeFields : List (String × Ron) → String
  | [] => ""
  | [(n, v)] => n ++ ": " ++ v.write
  | (n, v) :: fs => n ++ ": " ++ v.write ++ ", " ++ writeFields fs

end

@[simp] theorem write_unit : write .unit = "()" := by
  rw [write]

@[simp] theorem write_bool (b : Bool) : write (.bool b) = if b then "true" else "false" := by
  rw [write]

@[simp] theorem write_number (spelling : List Char) :
    write (.number spelling) = String.ofList spelling := by
  rw [write]

@[simp] theorem write_text (s : String) : write (.text s) = writeText s := by
  rw [write]

@[simp] theorem write_absent : write .absent = "None" := by
  rw [write]

end Worldsmith.Ron
