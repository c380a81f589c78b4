/-
Why a command fails, and what it says then.

A failure is told from the outside in: what the command was about, and then what stopped
it, and then the cause of that where there is one.
-/
import Worldsmith.Catalog.Builder
import Worldsmith.Catalog.File
import Worldsmith.Command.Settings

namespace Worldsmith

inductive Failure where
  /-- No catalog was given, and the directory holds none. -/
  | noCatalog (directory : Path)
  | notLoaded (path : Path) (cause : Catalog.LoadError)
  | notCompiled (path : Path) (cause : CatalogError)
  /-- The tables were to be checked and have a reference that leads nowhere. -/
  | invalid (cause : WorldError)
  | unresolved (count : Nat)
  /-- The tables go into the directory, and it cannot be made itself, or the file at the
  path cannot be written in full. -/
  | notWritten (directory path : Path)
  deriving DecidableEq, Repr

/-- The error and its causes. -/
def CatalogError.causes (e : CatalogError) : List String :=
  match e with
  | .world (.invalidRequirement _ cause) => [e.message, cause.message]
  | _ => [e.message]

/-- What is said, the outermost first. -/
def Failure.messages : Failure → List String
  | .noCatalog directory => [Settings.noCatalogMessage directory]
  | .notLoaded path cause => ["Failed to load content: " ++ path.text, cause.message]
  | .notCompiled path cause => ("Failed to compile content: " ++ path.text) :: cause.causes
  | .invalid cause =>
    ["Reference validation failed (run `check` for the full list)", cause.message]
  | .unresolved count => [Text.decimal count ++ " unresolved reference(s)"]
  | .notWritten directory path =>
    ["Failed to write tables to " ++ directory.text, "failed to write " ++ path.text]

end Worldsmith
