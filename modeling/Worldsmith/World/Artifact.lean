/-
The documents that a world is published as.

There are four, one for each table.  Items and locations are lists of objects that hold
their name; categories and options are objects in which the name is the key.  An
attribute that is absent, off or empty is left out, but for the attributes of an option,
which are all written.
-/
import Worldsmith.Json.Writer
import Worldsmith.World.Basic

namespace Worldsmith

/-! ### Attributes -/

namespace Json

/-- A member that is there only when the flag is set. -/
def flagMember (name : String) (b : Bool) : List (String × Json) :=
  if b then [(name, .bool true)] else []

/-- A member that is there only when the list holds something. -/
def textsMember (name : String) (ss : List String) : List (String × Json) :=
  if ss.isEmpty then [] else [(name, .list (ss.map .text))]

def textMember? (name : String) (s? : Option String) : List (String × Json) :=
  match s? with
  | some s => [(name, .text s)]
  | none => []

end Json

open Json (flagMember textsMember textMember?)

def ItemFlags.members (f : ItemFlags) : List (String × Json) :=
  flagMember "progression" f.progression
    ++ flagMember "progression_skip_balancing" f.progressionSkipBalancing
    ++ flagMember "useful" f.useful
    ++ flagMember "trap" f.trap
    ++ flagMember "filler" f.filler
    ++ flagMember "early" f.early
    ++ flagMember "local" f.localOnly
    ++ flagMember "local_early" f.localEarly

/-- Named numbers as a member, unless there are none. -/
def valueMember (value : Table String Int64) : List (String × Json) :=
  if value.isEmpty then []
  else [("value", .object (value.entries.map fun e => (e.1, .int e.2.toInt)))]

def Item.toJson (i : Item) : Json :=
  .object <|
    [("name", .text i.name)]
      ++ (match i.count? with | some n => [("count", .int n.toNat)] | none => [])
      ++ i.flags.members
      ++ valueMember i.value
      ++ textsMember "category" i.categories

def Location.toJson (l : Location) : Json :=
  .object <|
    [("name", .text l.name)]
      ++ textMember? "region" l.region?
      ++ textsMember "category" l.categories
      ++ textMember? "requires" l.requires?
      ++ textsMember "place_item" l.placedItems
      ++ textsMember "place_item_category" l.placedItemCategories
      ++ flagMember "victory" l.victory

def Category.toJson (c : Category) : Json :=
  .object (flagMember "hidden" c.hidden ++ textsMember "yaml_option" c.options)

def HelpText.toJson : HelpText → Json
  | .text s => .text s
  | .lines ss => .list (ss.map .text)

def ToggleOption.toJson (o : ToggleOption) : Json :=
  .object [
    ("type", .text "Toggle"),
    ("description", o.description.toJson),
    ("default", .bool o.default)]

/-- Help text from a document: one text, or a list of texts. -/
def HelpText.ofJson? : Json → Option HelpText
  | .text s => some (.text s)
  | .list js => (js.mapM Json.text?).map .lines
  | _ => none

/-! ### The four documents -/

/-- A document and the file it is written to. -/
structure Artifact where
  fileName : String
  document : Json

/-- The text of the file. -/
def Artifact.text (a : Artifact) : String := a.document.indented

namespace World

variable (w : World)

def itemsDocument : Json := .list (w.items.values.map Item.toJson)

def locationsDocument : Json := .list (w.locations.values.map Location.toJson)

def categoriesDocument : Json :=
  .object (w.categories.entries.map fun e => (e.1, e.2.toJson))

/-- The engine's own options, of which a world has none, and those of the world. -/
def optionsDocument : Json :=
  .object [
    ("core", .object []),
    ("user", .object (w.options.entries.map fun e => (e.1, e.2.toJson)))]

/-- The documents in the order in which they are written. -/
def artifacts : List Artifact := [
  ⟨"items.json", w.itemsDocument⟩,
  ⟨"locations.json", w.locationsDocument⟩,
  ⟨"categories.json", w.categoriesDocument⟩,
  ⟨"options.json", w.optionsDocument⟩]

end World

end Worldsmith
