/-
Text quoted for a message.

Names come from authors' files and may hold anything, so a message never prints one
bare: it stands in double quotes, with a backslash before quotes and backslashes, the
usual short escapes for line ends, tabs and the null character, and the code point in
braces for every other character that would not show.
-/
import Worldsmith.Text.Visible

namespace Worldsmith.Text

/-- How one character is written between the quotes. -/
def quoteChar (c : Char) : List Char :=
  match c with
  | '"' => ['\\', '"']
  | '\\' => ['\\', '\\']
  | '\n' => ['\\', 'n']
  | '\r' => ['\\', 'r']
  | '\t' => ['\\', 't']
  | '\x00' => ['\\', '0']
  | c => if isHidden c then ['\\', 'u', '{'] ++ Nat.toDigits 16 c.toNat ++ ['}'] else [c]

/-- The text in double quotes, with nothing in it that would not show. -/
def quoted (s : String) : String :=
  String.ofList ('"' :: s.toList.flatMap quoteChar ++ ['"'])

/-- A list of texts, each quoted, in square brackets. -/
def quotedList (ss : List String) : String :=
  "[" ++ ", ".intercalate (ss.map quoted) ++ "]"

end Worldsmith.Text
