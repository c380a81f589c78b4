/-
Events: what a run of the program reports while it works.

An event says what happened; its level, the part of the program it belongs to, and its
wording are functions of it.  Whether it is shown is for the reader of the log to say.
-/
import Worldsmith.World.Error

namespace Worldsmith

open Text (quoted quotedList decimal)

/-- How much an event matters.  A log that shows one level shows the graver ones too. -/
inductive Level where
  | error
  | warn
  | info
  | debug
  | trace
  deriving DecidableEq, Repr

namespace Level

def rank : Level → Nat
  | .error => 1
  | .warn => 2
  | .info => 3
  | .debug => 4
  | .trace => 5

def text : Level → String
  | .error => "ERROR"
  | .warn => "WARN"
  | .info => "INFO"
  | .debug => "DEBUG"
  | .trace => "TRACE"

end Level

inductive Event where
  /-- The content file has been found. -/
  | compiling (path : String)
  | loaded (path : String) (campaigns extras characters cards : Nat)
  | registered (table : TableName) (name : String)
  | packGated (pack : String) (options : List String)
  | campaignAdded (campaign unlock : String) (packs : Nat)
  | victoryAdded (location requires : String)
  | compiled (campaigns extras characters cards packs : Nat)
  | finished (items entries locations categories options : Nat)
  | wrote (path : String)
  deriving DecidableEq, Repr

namespace Event

/-- The one field that every event carries: its wording. -/
def field : String := "message"

def level : Event → Level
  | .compiling _ | .victoryAdded .. | .compiled .. | .finished .. | .wrote _ => .info
  | .loaded .. | .registered .. | .packGated .. | .campaignAdded .. => .debug

/-- The part of the program that an event belongs to, by which a log may be filtered. -/
def source : Event → String
  | .compiling _ => "world_builder::commands"
  | .loaded .. => "world_content::loaders::content"
  | .registered .. | .finished .. => "world_core::registry"
  | .packGated .. => "world_content::dlc"
  | .campaignAdded .. | .victoryAdded .. | .compiled .. => "world_content::compiler"
  | .wrote _ => "world_content::output"

/-- Counts with what they count, separated by commas. -/
def counts (cs : List (Nat × String)) : String :=
  ", ".intercalate (cs.map fun c => decimal c.1 ++ " " ++ c.2)

def message : Event → String
  | .compiling path => "compiling " ++ path
  | .loaded path campaigns extras characters cards =>
    "loaded content from " ++ path ++ ": "
      ++ counts [(campaigns, "campaigns"), (extras, "extra episodes"),
        (characters, "characters"), (cards, "cards")]
  | .registered table name => "registered " ++ table.text ++ " entry " ++ quoted name
  | .packGated pack options =>
    "pack " ++ quoted pack ++ " gated by option " ++ quotedList options
  | .campaignAdded campaign unlock packs =>
    "campaign " ++ quoted campaign ++ ": unlocked by " ++ quoted unlock ++ ", "
      ++ counts [(packs, "packs")]
  | .victoryAdded location requires =>
    "victory at " ++ quoted location ++ " requires " ++ requires
  | .compiled campaigns extras characters cards packs =>
    "compiled "
      ++ counts [(campaigns, "campaigns"), (extras, "extra episodes"),
        (characters, "characters"), (cards, "cards")]
      ++ " (" ++ counts [(packs, "packs")] ++ ")"
  | .finished items entries locations categories options =>
    "finalized world: " ++ counts [(items, "items")] ++ " (" ++ counts [(entries, "entries")]
      ++ "), "
      ++ counts [(locations, "locations"), (categories, "categories"), (options, "options")]
  | .wrote path => "wrote " ++ path

end Event

end Worldsmith
