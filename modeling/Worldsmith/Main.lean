/-
The command line program.

Files are those of the system.  The log and what goes wrong are written to the standard
error, and everything else to the standard output.
-/
import Worldsmith.Command.Run

namespace Worldsmith

/-- Does an action end without an error? -/
def succeeds (x : IO Unit) : IO Bool := do
  try x; return true
  catch _ => return false

instance : MonadFiles IO where
  currentDirectory := do return ⟨(← IO.currentDir).toString⟩
  isDirectory p := do (← IO.FS.realPath p.text).isDir
  isFile p := do
    let path ← IO.FS.realPath p.text
    return (← path.pathExists) && !(← path.isDir)
  read? p := do
    try return some (← IO.FS.readFile p.text)
    catch _ => return none
  write p text := succeeds (IO.FS.writeFile p.text text)
  makeDirectories p :=
    if p.text = "" then return true else succeeds (IO.FS.createDirAll p.text)

/-- The variables as the system lists them, each with its value and ended by a zero. -/
def systemEnvironment : IO Environment := do
  let listed ← try IO.FS.readFile "/proc/self/environ" catch _ => pure ""
  return Table.ofList <| (listed.splitOn "\x00").filterMap fun entry =>
    match entry.splitOn "=" with
    | name :: value :: more => some (name, "=".intercalate (value :: more))
    | _ => none

/-- An event as a line of the log. -/
def logLine (e : Event) : String := e.level.text ++ " " ++ e.source ++ ": " ++ e.message

end Worldsmith

open Worldsmith in
def main (args : List String) : IO UInt32 := do
  let outcome ← Program.run { environment := ← systemEnvironment } args
  outcome.log.forM fun e => IO.eprintln (logLine e)
  outcome.output.forM fun line => IO.println line
  match outcome.ending with
  | .success => pure ()
  | .failure f => IO.eprintln ("Error: " ++ "\nCaused by: ".intercalate f.messages)
  | .usage e => IO.eprintln ("error: " ++ e.message)
  return outcome.ending.code
