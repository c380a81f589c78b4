/-
Builders: a world on its way from a catalog.

A builder holds the world so far, the categories of the packs it has met, and the
category of completed campaigns once there is one.  A step either goes on or stops with
an error, and in both cases the builder keeps what was registered before: a world that
was being filled when a step failed is left as the step left it.

The first time a pack is met, an option that enables it and a hidden category gated by
that option are registered; from then on the builder remembers the category.
-/
import Worldsmith.Catalog.Basic
import Worldsmith.Event
import Worldsmith.Text.SnakeCase
import Worldsmith.World.Basic

namespace Worldsmith

open Text (quoted)

/-- Why a catalog makes no world. -/
inductive CatalogError where
  | world (e : WorldError)
  /-- A victory counts completed campaigns, but nothing tracks their completion. -/
  | completionUntracked (location : String)
  deriving DecidableEq, Repr

def CatalogError.message : CatalogError → String
  | .world e => e.message
  | .completionUntracked location =>
    "victory goal " ++ quoted location
      ++ " counts completed campaigns, but completion tracking is off"

structure Builder where
  world : World := {}
  /-- The gating categories of the packs met so far. -/
  packs : Table String Category := ∅
  /-- The category of completed campaigns. -/
  completed? : Option Category := none
  events : List Event := []

/-- The steps of building. -/
abbrev Build := ExceptT CatalogError (StateM Builder)

namespace Build

def report (e : Event) : Build Unit :=
  modify fun b => { b with events := b.events ++ [e] }

/-- Registers an entity in the builder's world. -/
def register {ε : Type} [Named ε] (table : TableName)
    (add : World → Except WorldError (ε × World)) : Build ε := do
  match add (← get).world with
  | .error e => throw (.world e)
  | .ok (entity, world) =>
    modify fun b => { b with world }
    report (.registered table (Named.nameOf entity))
    return entity

def addItem (name : String) (spec : Item.Spec) : Build Item :=
  register .items (·.addItem name spec)

def addLocation (name : String) (spec : Location.Spec) : Build Location :=
  register .locations (·.addLocation name spec)

def addCategory (name : String) (spec : Category.Spec) : Build Category :=
  register .categories (·.addCategory name spec)

def addOption (name : String) (spec : ToggleOption.Spec) : Build ToggleOption :=
  register .options (·.addOption name spec)

end Build

/-! ### Packs -/

namespace Pack

/-- The name of the option that enables a pack. -/
def optionName (pack : String) : String := "enable_" ++ Text.snakeCase pack ++ "_dlc"

/-- The name of the category that a pack's content belongs to. -/
def categoryName (pack : String) : String := pack ++ " DLC"

/-- What the option says to the player. -/
def description (pack : String) : String := "Enables the " ++ pack ++ " DLC."

end Pack

namespace Build

/-- The gating category of a pack, registered when the pack is met for the first time. -/
def packCategory (pack : String) : Build Category := do
  match (← get).packs.get? pack with
  | some category => return category
  | none =>
    let option ← addOption (Pack.optionName pack)
      { description := .text (Pack.description pack), default := true }
    let category ← addCategory (Pack.categoryName pack)
      { hidden := true, options? := some (.entity option) }
    report (.packGated pack category.options)
    modify fun b => { b with packs := b.packs.set pack category }
    return category

/-- The gating categories of content that may belong to a pack. -/
def packCategories : Option String → Build (List Category)
  | none => return []
  | some pack => do return [← packCategory pack]

end Build

end Worldsmith
