/-
Disks: directories and text files.

A disk maps places to what is there; a place is the list of names on the way from the
root, which is always a directory.  A path says how to get to a place from another one,
and each name on it but the last must be that of a directory.

There is nothing else on a disk.  It has no links, so a place is the only one where its
file is found, and all files are text that anyone may read.
-/
import Worldsmith.Shell.Path
import Worldsmith.Table

namespace Worldsmith

/-- Where something is: the names on the way from the root. -/
abbrev Place : Type := List String

inductive Node where
  | directory
  | file (text : String)
  deriving DecidableEq, Repr

structure Disk where
  nodes : Table Place Node := ∅

namespace Disk

variable (d : Disk)

def node? (place : Place) : Option Node :=
  if place.isEmpty then some .directory else d.nodes.get? place

/-- The place that the steps lead to.  Each is taken from a directory. -/
def walk? (place : Place) : List String → Option Place
  | [] => some place
  | step :: steps =>
    if d.node? place ≠ some .directory then none
    else if step = "" ∨ step = "." then walk? place steps
    else if step = ".." then walk? place.dropLast steps
    else walk? (place ++ [step]) steps

/-- The place that a path leads to, be there something or not. -/
def locate? (here : Place) (p : Path) : Option Place :=
  if p.text = "" then none else d.walk? (if p.isAbsolute then [] else here) p.steps

/-- What is at a path. -/
def at? (here : Place) (p : Path) : Option Node := (d.locate? here p).bind d.node?

def isDirectory (here : Place) (p : Path) : Bool := d.at? here p = some .directory

/-- The text of the file at a path. -/
def read? (here : Place) (p : Path) : Option String :=
  match d.at? here p with
  | some (.file text) => some text
  | _ => none

def isFile (here : Place) (p : Path) : Bool := (d.read? here p).isSome

/-- The disk with a file at the path, in the place of one that was there.  The directory
must be there, and the path must not lead to a directory itself.  The text is all that the
file holds then, be it all that was to be written or not (`Workspace.write`). -/
def write? (here : Place) (p : Path) (text : String) : Option Disk := do
  let place ← d.locate? here p
  if d.node? place = some .directory then none
  return ⟨d.nodes.set place (.file text)⟩

/-- The disk with the directories on the steps, those that are missing made, and whether
all of them are there.  A directory is made where the system allows it, and those that
were made stay when a later one is not. -/
def makeSteps (allows : Place → Bool) (d : Disk) (place : Place) : List String → Bool × Disk
  | [] => (true, d)
  | step :: steps =>
    if step = "" ∨ step = "." then makeSteps allows d place steps
    else if step = ".." then makeSteps allows d place.dropLast steps
    else
      let next := place ++ [step]
      match d.node? next with
      | some .directory => makeSteps allows d next steps
      | some (.file _) => (false, d)
      | none =>
        if allows next then makeSteps allows ⟨d.nodes.set next .directory⟩ next steps
        else (false, d)

/-- The disk with a directory at the path, and those above it, and whether it is there.
The empty path needs none.  Nothing is made for a single dot at the end of a path, so that
one must lead to a directory when those above are there. -/
def makeDirectories (allows : Place → Bool) (here : Place) (p : Path) : Bool × Disk :=
  if p.text = "" || d.isDirectory here p then (true, d)
  else if p.endsInDot then
    let (made, d) := d.makeSteps allows (if p.isAbsolute then [] else here) p.parentSteps
    (made && d.isDirectory here p, d)
  else d.makeSteps allows (if p.isAbsolute then [] else here) p.steps

/-- The disk with the directories of a path, where a system allows all of them and they
can be made. -/
def makeDirectories? (here : Place) (p : Path) : Option Disk :=
  match d.makeDirectories (fun _ => true) here p with
  | (true, d) => some d
  | (false, _) => none

end Disk

end Worldsmith
