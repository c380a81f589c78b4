/-
Catalogs in files.

The name of a file tells its format, and one that does not is turned away before
anything is read.
-/
import Worldsmith.Catalog.Json
import Worldsmith.Catalog.Ron
import Worldsmith.Event
import Worldsmith.Json.Reader
import Worldsmith.Ron.Reader
import Worldsmith.Shell.Files

namespace Worldsmith.Catalog

/-- The formats that catalogs are written in. -/
inductive Format where
  | json
  | ron
  deriving DecidableEq, Repr

namespace Format

def text : Format → String
  | .json => "JSON"
  | .ron => "RON"

/-- The format that the ending of a file's name stands for. -/
def ofPath? (p : Path) : Option Format :=
  match p.extension? with
  | some "json" => some .json
  | some "ron" => some .ron
  | _ => none

end Format

/-- Why a file gives no catalog. -/
inductive LoadError where
  | unknownFormat (path : Path)
  | unreadable (path : Path)
  | malformed (format : Format) (path : Path)
  deriving DecidableEq, Repr

def LoadError.message : LoadError → String
  | .unknownFormat path =>
    "unsupported content format " ++ path.text ++ " (expected .json or .ron)"
  | .unreadable path => "failed to read " ++ path.text
  | .malformed format path => "failed to parse " ++ format.text ++ " content at " ++ path.text

/-- The catalog that text in a format describes. -/
def ofText? : Format → String → Option Catalog
  | .json, text => (Json.parse? text).bind ofJson?
  | .ron, text => (Ron.parse? text).bind fun (dialect, v) => ofRon? dialect v

/-- The catalog that text describes, where `path` is only there to be named in an error. -/
def parse (format : Format) (path : Path) (text : String) : Except LoadError Catalog :=
  match ofText? format text with
  | some c => .ok c
  | none => .error (.malformed format path)

/-- The catalog in a file. -/
def load {m : Type → Type} [Monad m] [MonadFiles m] (path : Path) :
    m (Except LoadError Catalog) := do
  match Format.ofPath? path with
  | none => return .error (.unknownFormat path)
  | some format =>
    match ← MonadFiles.read? path with
    | none => return .error (.unreadable path)
    | some text => return parse format path text

/-- The event that ends the loading of a catalog. -/
def loaded (c : Catalog) (path : Path) : Event :=
  .loaded path.text c.campaigns.size c.extraEpisodes.size c.characters.size c.cards.size

/-- The names of the files that are looked for where none is given, in this order. -/
def defaultFiles : List Path := [⟨"content.json"⟩, ⟨"content.ron"⟩]

end Worldsmith.Catalog
