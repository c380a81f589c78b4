/-
The world of a catalog.

The sections of the catalog are registered in a fixed order: the category of completed
campaigns, campaigns, extra episodes, characters, cards and the victory.  Names are
derived from the catalog's by endings in parentheses, so two of them may coincide; the
world then refuses the second.

A campaign and an extra episode each have an item that unlocks them.  Where completion
is tracked, there is a second item for completing them, which is placed at the location
for just that.  Characters and cards are useful items, gated by an option of their own.
-/
import Worldsmith.Catalog.Builder

namespace Worldsmith

/-! ### Names -/

namespace Names

/-! Categories that some option may gate, and those that only sort locations. -/

def campaigns : String := "Campaigns"
def completedCampaigns : String := "Completed Campaigns"
def characters : String := "Characters"
def cards : String := "Cards"
def oranges : String := "Oranges"
def goals : String := "(Goals)"
def extras : String := "(Extras)"
def extrasCompletion : String := "(Extras Completion)"
def victory : String := "((Victory))"

/-! Options. -/

def randomizeCharacters : String := "randomize_characters"
def randomizeCards : String := "randomize_cards"

/-- What an option says that puts a kind of content into the pool. -/
def randomizeHelp (kind : String) : String :=
  "Add " ++ kind ++ " to the pool, requiring unlocking them to use them. "
    ++ "Disable this to allow using all " ++ kind ++ " throughout the game."

/-! Items and locations. -/

def orange : String := "Orange"

/-- The item that unlocks a campaign.  A character of the same name owns the bare name. -/
def campaignUnlock (c : Catalog) (campaign : String) : String :=
  if c.characters.contains campaign then campaign ++ " (Campaign)" else campaign

/-- The category of a campaign's own locations. -/
def campaignEpisodes (campaign : String) : String := "(Campaign) " ++ campaign

/-- The location of a campaign's regular episode, of which `i` come before it. -/
def episode (campaign : String) (i : Nat) : String :=
  campaign ++ " (Episode " ++ Text.decimal (i + 1) ++ ")"

def finalEpisode (campaign : String) : String := campaign ++ " (Final Episode)"

/-- The item for completing a campaign, and the location it is placed at. -/
def campaignCompletion (campaign : String) : String := campaign ++ " (All Episodes)"

/-- The category of that location. -/
def campaignCompletionCategory (campaign : String) : String :=
  "(Campaign Completion) " ++ campaign

/-- The item that unlocks an extra episode. -/
def extraUnlock (extra : String) : String := extra ++ " (Extra)"

/-- The item for completing an extra episode. -/
def extraComplete (extra : String) : String := extra ++ " (Complete)"

/-- The location at which that item is placed. -/
def extraCompletion (extra : String) : String := extra ++ " (Completion)"

/-- The location of a character's goal. -/
def characterGoal (character goal : String) : String := character ++ ": " ++ goal

end Names

/-! ### Sections -/

namespace Catalog

/-- A category and after it those of the packs. -/
def withPacks (first : Reference Category) (packs : List Category) : Reference Category :=
  .list (first :: packs.map .entity)

/-- Owning the item. -/
def owning (i : Item) : Requirement := .subject (.item i.name)

/-- An item that content cannot be reached without. -/
def progression (categories : Reference Category) : Item.Spec :=
  { flags := { progression := true }, categories? := some categories }

open Build

/-- There is one location for each regular episode and one for the final episode, or just
one where there are no regular ones. -/
def addCampaign (c : Catalog) (name : String) (campaign : Campaign) : Build Unit := do
  let packs ← packCategories campaign.pack?
  let unlock ← addItem (Names.campaignUnlock c name)
    (progression (withPacks (.name Names.campaigns) packs))
  let addEpisode (location : String) : Build Unit := do
    let _ ← addLocation location {
      categories? := some (withPacks (.name (Names.campaignEpisodes name)) packs)
      requires? := some (owning unlock) }
  match campaign.regularEpisodes with
  | 0 => addEpisode name
  | n =>
    n.forM fun i _ => addEpisode (Names.episode name i)
    addEpisode (Names.finalEpisode name)
  if let some completed := (← get).completed? then
    let completion ← addItem (Names.campaignCompletion name)
      (progression (withPacks (.entity completed) packs))
    let _ ← addLocation completion.name {
      categories? := some (withPacks (.name (Names.campaignCompletionCategory name)) packs)
      requires? := some (owning unlock)
      placedItems? := some (.entity completion) }
  report (.campaignAdded name unlock.name packs.length)

def addExtraEpisode (name : String) (extra : ExtraEpisode) : Build Unit := do
  let packs ← packCategories extra.pack?
  let unlock ← addItem (Names.extraUnlock name)
    (progression (withPacks (.name Names.campaigns) packs))
  let _ ← addLocation name {
    categories? := some (withPacks (.name Names.extras) packs)
    requires? := some (owning unlock) }
  if let some completed := (← get).completed? then
    let completion ← addItem (Names.extraComplete name)
      (progression (withPacks (.entity completed) packs))
    let _ ← addLocation (Names.extraCompletion name) {
      categories? := some (withPacks (.name Names.extrasCompletion) packs)
      requires? := some (owning unlock)
      placedItems? := some (.entity completion) }

/-- The category of a kind of content, gated by an option that is on by default. -/
def addGatedCategory (category option kind : String) : Build Category := do
  let option ← addOption option { description := .text (Names.randomizeHelp kind), default := true }
  addCategory category { options? := some (.entity option) }

def addCharacters (c : Catalog) : Build Unit := do
  if c.characters.isEmpty then return
  let category ← addGatedCategory Names.characters Names.randomizeCharacters "characters"
  c.characters.entries.forM fun (name, _) => do
    let _ ← addItem name { flags := { useful := true }, categories? := some (.entity category) }
  c.characters.entries.forM fun (name, character) => do
    if let some goal := character.goal? then
      let _ ← addLocation (Names.characterGoal name goal) {
        categories? := some (.name Names.goals)
        requires? := some (.gate .optOne (.subject (.item name))) }

def addCards (c : Catalog) : Build Unit := do
  if c.cards.isEmpty then return
  let category ← addGatedCategory Names.cards Names.randomizeCards "cards"
  c.cards.entries.forM fun (name, card) => do
    let _ ← addItem name {
      count? := some card.count, flags := { useful := true }
      categories? := some (.entity category) }

/-- The location of the victory and its requirement.  Oranges are registered for it. -/
def victoryGoal : Victory → Build (String × Requirement)
  | .oranges location count percent => do
    let orange ← addItem Names.orange
      { progression (.name Names.oranges) with count? := some count }
    return (location, .threshold (.item orange.name) (Amount.ofText percent))
  | .completedCampaigns location percent => do
    match (← get).completed? with
    | some completed =>
      return (location, .threshold (.category completed.name) (Amount.ofText percent))
    | none => throw (.completionUntracked location)

def addVictory (v : Victory) : Build Unit := do
  let (location, requires) ← victoryGoal v
  let location ← addLocation location {
    categories? := some (.name Names.victory), requires? := some requires, victory := true }
  report (.victoryAdded location.name (location.requires?.getD ""))

/-- Registers everything that the catalog gives rise to. -/
def build (c : Catalog) : Build Unit := do
  if c.trackCompletion then
    let completed ← addCategory Names.completedCampaigns { hidden := true }
    modify fun b => { b with completed? := some completed }
  c.campaigns.entries.forM fun (name, campaign) => c.addCampaign name campaign
  c.extraEpisodes.entries.forM fun (name, extra) => addExtraEpisode name extra
  c.addCharacters
  c.addCards
  if let some victory := c.victory? then addVictory victory
  report (.compiled c.campaigns.size c.extraEpisodes.size c.characters.size c.cards.size
    (← get).packs.size)

end Catalog

/-! ### Compilers -/

/-- A catalog together with what building it has left behind: the packs that were met and
the category of completed campaigns.  Both are kept from one build to the next. -/
structure Compiler where
  catalog : Catalog
  packs : Table String Category := ∅
  completed? : Option Category := none

/-- What comes of building a catalog into a world. -/
structure Compilation where
  result : Except CatalogError Unit
  world : World
  compiler : Compiler
  events : List Event

/-- Builds the catalog into a world that may hold other things already. -/
def Compiler.compileInto (c : Compiler) (w : World) : Compilation :=
  let (result, b) :=
    c.catalog.build.run.run { world := w, packs := c.packs, completed? := c.completed? }
  ⟨result, b.world, { c with packs := b.packs, completed? := b.completed? }, b.events⟩

/-- The event that ends the building of a world. -/
def World.finished (w : World) : Event :=
  .finished w.itemCount w.items.size w.locations.size w.categories.size w.options.size

/-- The catalog's world and the events of building it. -/
def Catalog.compile (c : Catalog) : Except CatalogError World × List Event :=
  let r := Compiler.compileInto { catalog := c } {}
  match r.result with
  | .error e => (.error e, r.events)
  | .ok () => (.ok r.world, r.events ++ [r.world.finished])

end Worldsmith
