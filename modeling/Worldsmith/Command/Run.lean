/-
Running a command.

Every command finds the catalog, loads it and builds its world; what differs is what it
does with the world.  Only `generate` changes a file, and it does so last of all, when
nothing but the writing itself can fail any more.
-/
import Worldsmith.Catalog.World
import Worldsmith.Command.Arguments
import Worldsmith.Command.Failure
import Worldsmith.Command.Summary
import Worldsmith.Shell.LogFilter
import Worldsmith.World.Artifact
import Worldsmith.World.Unresolved

namespace Worldsmith

/-- What a run has said so far. -/
structure Report where
  output : List String := []
  events : List Event := []

namespace Command

variable {m : Type → Type} [Monad m] [MonadFiles m]

/-- The steps of a command. -/
abbrev Run (m : Type → Type) := ExceptT Failure (StateT Report m)

/-- Prints a line.  This is taken not to fail: whoever runs the program reads all that it
prints. -/
def print (line : String) : Run m Unit :=
  modify fun r => { r with output := r.output ++ [line] }

def log (es : List Event) : Run m Unit :=
  modify fun r => { r with events := r.events ++ es }

/-- Something done with files. -/
def ask {α : Type} (x : m α) : Run m α := ExceptT.lift (StateT.lift x)

/-! ### From the settings to the world -/

/-- The settings of a command in an environment. -/
def settings (env : Environment) : Command → Settings
  | .generate w strict _ => (Settings.ofEnvironment env).override w.directory? w.catalog? strict
  | .check w => (Settings.ofEnvironment env).override w.directory? w.catalog? true
  | .stats w => (Settings.ofEnvironment env).override w.directory? w.catalog? false

/-- The world of the catalog that the settings lead to. -/
def world (settings : Settings) (s : Surroundings) : Run m World := do
  let directory ← ask (settings.directory s)
  let some path ← ask (settings.catalogIn? directory) | throw (.noCatalog directory)
  log [.compiling path.text]
  match ← ask (Catalog.load path) with
  | .error e => throw (.notLoaded path e)
  | .ok catalog =>
    log [catalog.loaded path]
    let (result, events) := catalog.compile
    log events
    match result with
    | .error e => throw (.notCompiled path e)
    | .ok world => return world

/-! ### The commands -/

/-- Writes the documents into a directory, one after the other, and gives the paths. -/
def writeAll (directory : Path) : List Artifact → Run m (List Path)
  | [] => return []
  | a :: as => do
    let path := directory.join ⟨a.fileName⟩
    unless ← ask (MonadFiles.write path a.text) do throw (.notWritten directory path)
    log [.wrote path.text]
    return path :: (← writeAll directory as)

/-- Makes the directory if need be, and writes the tables of a world into it. -/
def write (directory : Path) (w : World) : Run m (List Path) := do
  unless ← ask (MonadFiles.makeDirectories directory) do throw (.notWritten directory directory)
  writeAll directory w.artifacts

def perform (s : Surroundings) (c : Command) : Run m Unit := do
  let coloured := Style.isForced s.environment
  let settings := c.settings s.environment
  let world ← world settings s
  match c with
  | .generate _ _ dryRun =>
    if settings.strict then
      if let .error e := world.validate then throw (.invalid e)
    print (Summary.compiled coloured world)
    let directory ← ask (settings.directory s)
    if dryRun then print (Summary.dryRun coloured directory)
    else (← write directory world).forM fun path => print (Summary.written coloured path)
  | .check _ =>
    match world.unresolved with
    | [] => print (Summary.resolved coloured)
    | es =>
      es.forM fun e => print (Summary.unresolved coloured e)
      throw (.unresolved es.length)
  | .stats _ => (Summary.stats coloured world).forM print

end Command

/-! ### The program -/

/-- How a run ended. -/
inductive Ending where
  | success
  | failure (f : Failure)
  | usage (e : UsageError)
  deriving DecidableEq, Repr

/-- The code by which the system is told. -/
def Ending.code : Ending → UInt32
  | .success => 0
  | .failure _ => 1
  | .usage _ => 2

structure Outcome where
  ending : Ending
  /-- The lines that were printed. -/
  output : List String := []
  /-- The events that the log shows. -/
  log : List Event := []

namespace Program

def version : String := "world-builder 0.1.0"

def help : List String := [
  "Compile world content into the four tables",
  "",
  "world-builder generate [--data-dir DIR] [--content FILE] [--strict] [--dry-run]",
  "world-builder check [--data-dir DIR] [--content FILE]",
  "world-builder stats [--data-dir DIR] [--content FILE]"]

/-- Runs the program with the arguments of the command line. -/
def run {m : Type → Type} [Monad m] [MonadFiles m] (s : Surroundings) (args : List String) :
    m Outcome := do
  let environment ← EnvFile.extend s.environment
  let s := { s with environment }
  match Arguments.parse args with
  | .error e => return { ending := .usage e }
  | .ok .showHelp => return { ending := .success, output := help }
  | .ok .showVersion => return { ending := .success, output := [version] }
  | .ok (.perform c) =>
    let (result, report) ← (c.perform s).run.run {}
    return {
      ending := match result with
        | .ok () => .success
        | .error f => .failure f
      output := report.output
      log := report.events.filter (LogFilter.ofEnvironment environment).shows }

end Program

end Worldsmith
