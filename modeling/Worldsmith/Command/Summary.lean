/-
What the commands print.
-/
import Worldsmith.Shell.Path
import Worldsmith.Shell.Style
import Worldsmith.Text.Lines
import Worldsmith.World.Basic

namespace Worldsmith.Summary

open Text (decimal)

/-- Text with blanks after it, up to a width. -/
def padRight (width : Nat) (s : String) : String := s.pushn ' ' (width - s.length)

/-- Text with blanks before it, up to a width. -/
def padLeft (width : Nat) (s : String) : String := "".pushn ' ' (width - s.length) ++ s

variable (coloured : Bool)

/-! ### Generating -/

def compiled (w : World) : String :=
  Style.paint coloured [.green, .bold] "Compiled" ++ " "
    ++ decimal w.itemCount ++ " items, "
    ++ decimal w.locations.size ++ " locations, "
    ++ decimal w.categories.size ++ " categories, "
    ++ decimal w.options.size ++ " options"

def dryRun (directory : Path) : String :=
  Style.paint coloured [.dim] ("Dry run: nothing written to " ++ directory.text)

def written (path : Path) : String := "  " ++ Style.paint coloured [.cyan] "→" ++ " " ++ path.text

/-! ### Checking -/

def resolved : String := Style.paint coloured [.green, .bold] "✓ All references resolve"

def unresolved (e : WorldError) : String :=
  "  " ++ Style.paint coloured [.red, .bold] "✗" ++ " " ++ e.message

/-! ### Counting -/

/-- A row of the table of sizes. -/
def size (name : String) (n : Nat) : String :=
  "  " ++ Style.paint coloured [.cyan] (padRight 12 name) ++ " " ++ padLeft 6 (decimal n)

/-- An option and its help, line by line. -/
def help (name : String) (o : ToggleOption) : List String :=
  let heading := name ++ " (default: " ++ (if o.default then "true" else "false") ++ ")"
  ("  " ++ Style.paint coloured [.cyan] heading)
    :: (Text.lines o.description.show).map fun line =>
      "      " ++ Style.paint coloured [.dim] line

/-- The sizes of the tables and of the pool, and the help of the options. -/
def stats (w : World) : List String :=
  Style.paint coloured [.bold] "World tables"
    :: TableName.all.map (fun t => size coloured t.text (w.size t))
    ++ [size coloured "item pool" w.itemCount]
    ++ (if w.options.isEmpty then [] else ["", Style.paint coloured [.bold] "Options"])
    ++ w.options.entries.flatMap fun e => help coloured e.1 e.2

end Worldsmith.Summary
