/-
The entities of a world: categories, toggle options, items and locations.

Each is made from a name and a specification, in which references may still be written
in any of their forms and a requirement is still a tree.  The entity that comes out
holds plain names and requirement text, and is never changed again but for the options
of a category, to which more may be added.
-/
import Worldsmith.Requirement.Text
import Worldsmith.Table
import Worldsmith.Text.Blank
import Worldsmith.World.Error
import Worldsmith.World.Reference

namespace Worldsmith

/-- The help text of an option: one text, or one text for each line. -/
inductive HelpText where
  | text (s : String)
  | lines (ss : List String)
  deriving DecidableEq, Repr

/-- The help as it is shown, over one line or several. -/
def HelpText.show : HelpText → String
  | .text s => s
  | .lines ss => "\n".intercalate ss

/-- A choice that the player makes, on or off. -/
structure ToggleOption where
  name : String
  description : HelpText
  default : Bool
  deriving DecidableEq, Repr

instance : Named ToggleOption := ⟨ToggleOption.name⟩

/-- A grouping of items or locations, which point at it by name.  It is part of a game
when its options are on. -/
structure Category where
  name : String
  hidden : Bool
  options : List String
  deriving DecidableEq, Repr

instance : Named Category := ⟨Category.name⟩

/-- How the engine is to treat an item.  The flags do not exclude one another. -/
structure ItemFlags where
  progression : Bool := false
  progressionSkipBalancing : Bool := false
  useful : Bool := false
  trap : Bool := false
  filler : Bool := false
  early : Bool := false
  localOnly : Bool := false
  localEarly : Bool := false
  deriving DecidableEq, Repr

/-- Something that the players collect. -/
structure Item where
  name : String
  /-- The number of copies, where it was given. -/
  count? : Option UInt32
  flags : ItemFlags
  /-- Named numbers, such as what the item is worth. -/
  value : Table String Int64
  categories : List String

instance : Named Item := ⟨Item.name⟩

/-- The number of copies in the pool, one unless it was given. -/
def Item.count (i : Item) : Nat := (i.count?.map UInt32.toNat).getD 1

/-- A check that yields an item once its requirement is met. -/
structure Location where
  name : String
  region? : Option String
  categories : List String
  /-- The text of the requirement. -/
  requires? : Option String
  /-- Items that are found here and nowhere else. -/
  placedItems : List String
  /-- Categories whose items may be found here. -/
  placedItemCategories : List String
  /-- Does reaching it win the game? -/
  victory : Bool
  deriving DecidableEq, Repr

instance : Named Location := ⟨Location.name⟩

/-! ### Specifications -/

structure ToggleOption.Spec where
  description : HelpText := .text ""
  default : Bool := false

structure Category.Spec where
  hidden : Bool := false
  options? : Option (Reference ToggleOption) := none

structure Item.Spec where
  count? : Option UInt32 := none
  flags : ItemFlags := {}
  value : Table String Int64 := ∅
  categories? : Option (Reference Category) := none

structure Location.Spec where
  region? : Option String := none
  categories? : Option (Reference Category) := none
  requires? : Option Requirement := none
  placedItems? : Option (Reference Item) := none
  placedItemCategories? : Option (Reference Category) := none
  victory : Bool := false

/-! ### Making an entity -/

/-- A name is any text that is not blank. -/
def checkName (table : TableName) (name : String) : Except WorldError Unit :=
  if Text.isBlank name then .error (.emptyName table) else .ok ()

def ToggleOption.make (name : String) (spec : ToggleOption.Spec) :
    Except WorldError ToggleOption := do
  checkName .options name
  return { name, description := spec.description, default := spec.default }

def Category.make (name : String) (spec : Category.Spec) : Except WorldError Category := do
  checkName .categories name
  return { name, hidden := spec.hidden, options := Reference.namesOf? spec.options? }

/-- A category with more options after those it has. -/
def Category.gate (c : Category) (options : Reference ToggleOption) : Category :=
  { c with options := c.options ++ options.names }

def Item.make (name : String) (spec : Item.Spec) : Except WorldError Item := do
  checkName .items name
  if spec.count? = some 0 then throw (.invalidCount name)
  return {
    name, count? := spec.count?, flags := spec.flags, value := spec.value
    categories := Reference.namesOf? spec.categories? }

/-- The text of a location's requirement.  Empty text is no requirement. -/
def Location.requirementText (name : String) :
    Option Requirement → Except WorldError (Option String)
  | none => .ok none
  | some r =>
    match r.compile with
    | .error cause => .error (.invalidRequirement name cause)
    | .ok text => .ok (if text = "" then none else some text)

def Location.make (name : String) (spec : Location.Spec) : Except WorldError Location := do
  checkName .locations name
  let requires? ← Location.requirementText name spec.requires?
  return {
    name, region? := spec.region?, categories := Reference.namesOf? spec.categories?, requires?
    placedItems := Reference.namesOf? spec.placedItems?
    placedItemCategories := Reference.namesOf? spec.placedItemCategories?
    victory := spec.victory }

end Worldsmith
