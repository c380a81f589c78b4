/-
Access to files.

What the program does with files is five operations, so it can be run on a real disk or
on a `Workspace`, which is a disk as a value.  A failed operation says no more than that
it failed.  It may have left something behind all the same: a file that was opened to be
written does not hold any more what it held before.
-/
import Worldsmith.Shell.Disk

namespace Worldsmith

class MonadFiles (m : Type → Type) where
  /-- The directory in which relative paths begin. -/
  currentDirectory : m Path
  isDirectory : Path → m Bool
  isFile : Path → m Bool
  /-- The text of a file, if there is one and it can be read. -/
  read? : Path → m (Option String)
  /-- Makes a file or replaces one, and says whether that was possible. -/
  write : Path → String → m Bool
  /-- Makes a directory and those above it, and says whether it is there now. -/
  makeDirectories : Path → m Bool

/-- A disk as it is seen from one of its directories, and what its system makes of attempts
to change it. -/
structure Workspace where
  disk : Disk := {}
  here : Place := []
  /-- What the file at a place holds after an attempt to write a text to it, unless the
  system does not open it.  The attempt has succeeded when that is all of the text.  What
  is stored is text, as all files are: no character is stored by half. -/
  stored? : Place → String → Option String := fun _ text => some text
  /-- Does the system let a directory be made at a place? -/
  allows : Place → Bool := fun _ => true

namespace Workspace

variable (w : Workspace)

/-- What is in the file at a path after an attempt to write a text to it, and the disk
then; nothing where no file is opened. -/
def fill? (p : Path) (text : String) : Option (String × Disk) := do
  let place ← w.disk.locate? w.here p
  let left ← w.stored? place text
  return (left, ← w.disk.write? w.here p left)

/-- Writes a file.  One that was opened is not what it was, even if writing fails. -/
def write (p : Path) (text : String) : Bool × Workspace :=
  match w.fill? p text with
  | none => (false, w)
  | some (left, disk) => (left = text, { w with disk })

def makeDirectories (p : Path) : Bool × Workspace :=
  let (made, disk) := w.disk.makeDirectories w.allows w.here p
  (made, { w with disk })

instance : MonadFiles (StateM Workspace) where
  currentDirectory := do return .ofPlace (← get).here
  isDirectory p := do return (← get).disk.isDirectory (← get).here p
  isFile p := do return (← get).disk.isFile (← get).here p
  read? p := do return (← get).disk.read? (← get).here p
  write p text := modifyGet (write · p text)
  makeDirectories p := modifyGet (makeDirectories · p)

end Workspace

end Worldsmith
