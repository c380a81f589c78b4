/-
Settings: which catalog to build, and where the tables go.

They come from the environment, and the command line may override them.  What neither
gives is looked for: a data directory in the project or else one of the user's own, and
in it a catalog of a usual name.
-/
import Worldsmith.Catalog.File
import Worldsmith.Shell.EnvFile

namespace Worldsmith

/-- What a run of the program is told by the system. -/
structure Surroundings where
  environment : Environment := ∅
  /-- The user's home, where the environment does not say. -/
  home? : Option Path := none

structure Settings where
  /-- The directory of the catalog and of the tables. -/
  directory? : Option Path := none
  /-- The catalog, seen from that directory. -/
  catalog? : Option Path := none
  /-- Are references checked before the tables are written? -/
  strict : Bool := false
  deriving DecidableEq, Repr

namespace Settings

/-- The spellings of yes and no. -/
def flag? (text : String) : Option Bool :=
  let word := String.ofList ((Text.trim text.toList).map Char.toLower)
  if word ∈ ["1", "true", "yes", "on"] then some true
  else if word ∈ ["0", "false", "no", "off", ""] then some false
  else none

def ofEnvironment (env : Environment) : Settings where
  directory? := (env.get? "WORLD_DATA_DIR").map Path.mk
  catalog? := (env.get? "WORLD_CONTENT_FILE").map Path.mk
  strict := ((env.get? "WORLD_STRICT").bind flag?).getD false

/-- The settings with those of the command line in front.  The check can be turned on
there, but not off. -/
def override (s : Settings) (directory? catalog? : Option Path) (strict : Bool) : Settings where
  directory? := directory?.or s.directory?
  catalog? := catalog?.or s.catalog?
  strict := s.strict || strict

/-! ### The data directory -/

/-- The directory in a project that data are expected in. -/
def projectDirectory : Path := ⟨"src/data"⟩

/-- The user's home, unless there is none. -/
def home? (s : Surroundings) : Option Path :=
  match s.environment.get? "HOME" with
  | some home => if home = "" then s.home? else some ⟨home⟩
  | none => s.home?

/-- The directory for data of the user's programs. -/
def userDirectory (s : Surroundings) (home : Path) : Path :=
  let directory? := ((s.environment.get? "XDG_DATA_HOME").map Path.mk).filter Path.isAbsolute
  directory?.getD (home.join ⟨".local/share"⟩)

/-- The directory for data of this program. -/
def fallbackDirectory (s : Surroundings) : Path :=
  match home? s with
  | some home => (userDirectory s home).join ⟨"world-builder"⟩
  | none => ⟨"./data"⟩

variable {m : Type → Type} [Monad m] [MonadFiles m]

/-- The directory of the catalog and of the tables. -/
def directory (settings : Settings) (s : Surroundings) : m Path := do
  match settings.directory? with
  | some directory => return directory
  | none =>
    if ← MonadFiles.isDirectory projectDirectory then return projectDirectory
    return fallbackDirectory s

/-! ### The catalog -/

/-- The catalog to build; `none` if none is given and the directory holds none. -/
def catalogIn? (settings : Settings) (directory : Path) : m (Option Path) :=
  match settings.catalog? with
  | some path => return some (directory.join path)
  | none => (Catalog.defaultFiles.map directory.join).findM? MonadFiles.isFile

/-- What to say when there is no catalog. -/
def noCatalogMessage (directory : Path) : String :=
  "No content.json or content.ron in " ++ directory.text
    ++ "\nSet WORLD_DATA_DIR or pass --data-dir / --content."

end Settings

end Worldsmith
