/-
Paths of files, as text.

A path is kept as it was given: joining and looking at the extension work on the text,
and nothing is resolved until a disk is asked.
-/
import Worldsmith.Text.Cut

namespace Worldsmith

structure Path where
  text : String
  deriving DecidableEq, Repr

namespace Path

/-- The absolute path of the names on the way from the root. -/
def ofPlace (names : List String) : Path := ⟨"/" ++ "/".intercalate names⟩

def isAbsolute (p : Path) : Bool := p.text.toList.head? = some '/'

/-- A path inside a directory.  An absolute path is inside none, so it stands for itself;
the directory gets a slash unless it is empty or ends in one. -/
def join (dir p : Path) : Path :=
  if p.isAbsolute then p
  else if dir.text = "" || dir.text.toList.getLast? = some '/' then ⟨dir.text ++ p.text⟩
  else ⟨dir.text ++ "/" ++ p.text⟩

/-- The names between the slashes, with empty ones. -/
def steps (p : Path) : List String := (Text.cutAll '/' p.text.toList).map String.ofList

/-- Is a single dot the last of the steps, but for slashes after it? -/
def endsInDot (p : Path) : Bool := (p.steps.filter (· ≠ "")).getLast? = some "."

/-- The steps to the directory above, passing over what `.` and slashes add at the end. -/
def parentSteps (p : Path) : List String :=
  ((p.steps.reverse.dropWhile fun s => s = "" || s = ".").drop 1).reverse

/-- The last name, passing over empty ones and single dots.  Two dots are no name. -/
def fileName? (p : Path) : Option String :=
  ((p.steps.filter fun s => s ≠ "" && s ≠ ".").getLast?).filter (· ≠ "..")

/-- A directory and all those above it, the nearest first. -/
def ancestors (p : Path) : List Path :=
  let names := p.steps.filter (· ≠ "")
  (List.range (names.length + 1)).map fun n => ofPlace (names.take (names.length - n))

/-- What follows the last dot of the name, unless the name begins with it. -/
def extension? (p : Path) : Option String := do
  let (stem, extension) ← Text.cutLast '.' (← p.fileName?).toList
  if stem.isEmpty then none else some (String.ofList extension)

end Path

end Worldsmith
