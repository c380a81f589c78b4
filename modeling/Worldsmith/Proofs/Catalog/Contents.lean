/-
What a catalog's world holds, written out.

`items` and `locations` list the entities of a catalog in order and in full.  Requirements are
the text that the engine reads, categories are plain names, and nothing is said of how the
world comes about.  `copies` is the number of items in the pool.

`contents_of_compile` shows that these are the tables of every catalog that compiles.  In the
build, items and locations take turns, with the packs in between.  `Asks` tells them apart: it
gives the items and the locations that a list of registrations asks for, and appending such
lists appends both.  So each section is done once, from the entities of its parts.
-/
import Mathlib.Algebra.GroupWithZero.Nat
import Worldsmith.Proofs.Catalog.Building
import Worldsmith.Proofs.Catalog.Names

namespace Worldsmith

open Registration (entriesIn)

theorem World.itemCount_eq (w : World) : w.itemCount = (w.items.values.map Item.count).sum := by
  rw [itemCount, List.sum, List.foldr_map]

namespace Catalog

/-! ### The entities -/

namespace Contents

/-- An item that the player needs, to begin a part of the game or as a sign of having
finished it. -/
def key (name category : String) (pack? : Option String) : Item where
  name := name
  count? := none
  flags := { progression := true }
  value := ∅
  categories := category :: pack?.toList.map Pack.categoryName

/-- A character or a card. -/
def useful (name category : String) (count? : Option UInt32) : Item where
  name := name
  count? := count?
  flags := { useful := true }
  value := ∅
  categories := [category]

def orange (count : UInt32) : Item where
  name := Names.orange
  count? := some count
  flags := { progression := true }
  value := ∅
  categories := [Names.oranges]

/-- Owning an item, as the engine reads it. -/
def owned (item : String) : String := "|" ++ item ++ "|"

/-- A location behind an item, and the items that are placed there. -/
def locked (name category : String) (pack? : Option String) (unlock : String)
    (placed : List String) : Location where
  name := name
  region? := none
  categories := category :: pack?.toList.map Pack.categoryName
  requires? := some (owned unlock)
  placedItems := placed
  placedItemCategories := []
  victory := false

/-- A character's goal, open to those who own the character if it has to be owned. -/
def goal (character what : String) : Location where
  name := Names.characterGoal character what
  region? := none
  categories := [Names.goals]
  requires? := some ("\x7bOptOne(" ++ owned character ++ ")\x7d")
  placedItems := []
  placedItemCategories := []
  victory := false

/-- The location that wins the game, behind a share of a subject. -/
def ending (name subject percent : String) : Location where
  name := name
  region? := none
  categories := [Names.victory]
  requires? := some ("|" ++ subject ++ ":" ++ (Amount.ofText percent).text ++ "|")
  placedItems := []
  placedItemCategories := []
  victory := true

end Contents

open Contents

variable (c : Catalog)

/-! ### The tables -/

/-- Where completion is tracked, there is an item as a sign of it. -/
def completionItems (reward : String) (pack? : Option String) : List Item :=
  if c.trackCompletion then [key reward Names.completedCampaigns pack?] else []

/-- And there is a location for it. -/
def completionLocations (name category : String) (pack? : Option String)
    (unlock reward : String) : List Location :=
  if c.trackCompletion then [locked name category pack? unlock [reward]] else []

def campaignItems (name : String) (campaign : Campaign) : List Item :=
  key (Names.campaignUnlock c name) Names.campaigns campaign.pack?
    :: c.completionItems (Names.campaignCompletion name) campaign.pack?

def extraItems (name : String) (extra : ExtraEpisode) : List Item :=
  key (Names.extraUnlock name) Names.campaigns extra.pack?
    :: c.completionItems (Names.extraComplete name) extra.pack?

def victoryItems : Victory → List Item
  | .oranges _ count _ => [orange count]
  | .completedCampaigns .. => []

/-- **The items of a catalog.** -/
def items : List Item :=
  (c.campaigns.entries.flatMap fun e => c.campaignItems e.1 e.2)
    ++ (c.extraEpisodes.entries.flatMap fun e => c.extraItems e.1 e.2)
    ++ (c.characters.entries.map fun e => useful e.1 Names.characters none)
    ++ (c.cards.entries.map fun e => useful e.1 Names.cards (some e.2.count))
    ++ c.victory?.toList.flatMap victoryItems

def campaignLocations (name : String) (campaign : Campaign) : List Location :=
  (episodeNames name campaign).map (fun episode =>
      locked episode (Names.campaignEpisodes name) campaign.pack? (Names.campaignUnlock c name) [])
    ++ c.completionLocations (Names.campaignCompletion name)
      (Names.campaignCompletionCategory name) campaign.pack? (Names.campaignUnlock c name)
      (Names.campaignCompletion name)

def extraLocations (name : String) (extra : ExtraEpisode) : List Location :=
  locked name Names.extras extra.pack? (Names.extraUnlock name) []
    :: c.completionLocations (Names.extraCompletion name) Names.extrasCompletion extra.pack?
      (Names.extraUnlock name) (Names.extraComplete name)

def victoryLocations : Victory → List Location
  | .oranges location _ percent => [ending location Names.orange percent]
  | .completedCampaigns location percent =>
    [ending location ("@" ++ Names.completedCampaigns) percent]

/-- **The locations of a catalog.** -/
def locations : List Location :=
  (c.campaigns.entries.flatMap fun e => c.campaignLocations e.1 e.2)
    ++ (c.extraEpisodes.entries.flatMap fun e => c.extraLocations e.1 e.2)
    ++ (c.characters.entries.flatMap fun e => e.2.goal?.toList.map (goal e.1))
    ++ c.victory?.toList.flatMap victoryLocations

/-- **The number of copies of a catalog's items.** -/
def copies : Nat :=
  (c.campaigns.size + c.extraEpisodes.size) * (if c.trackCompletion then 2 else 1)
    + c.characters.size + (c.cards.values.map fun card => card.count.toNat).sum
    + match c.victory? with
      | some (.oranges _ count _) => count.toNat
      | _ => 0

/-! ### What registrations ask for -/

theorem names_inPack {first : Reference Category} {category : String}
    (h : first.names = [category]) (pack? : Option String) :
    (inPack first pack?).names = category :: pack?.toList.map Pack.categoryName := by
  cases pack? <;> simp [inPack, withPacks, Reference.names, Reference.namesOfAll, h,
    Named.nameOf, Pack.category, Category.ofSpec]

theorem entity_keyItem {first : Reference Category} {category : String}
    (h : first.names = [category]) (name : String) (pack? : Option String) :
    (keyItem name first pack?).entity = .item (key name category pack?) := by
  simp [keyItem, progression, Registration.entity, Item.ofSpec, Reference.namesOf?,
    names_inPack h, key]

theorem entity_unlockItem (name : String) (pack? : Option String) :
    (keyItem name (.name Names.campaigns) pack?).entity
      = .item (key name Names.campaigns pack?) :=
  entity_keyItem rfl name pack?

theorem entity_completionItem (name : String) (pack? : Option String) :
    (keyItem name (.entity completed) pack?).entity
      = .item (key name Names.completedCampaigns pack?) :=
  entity_keyItem rfl name pack?

theorem entity_characterItem (name : String) :
    (characterItem name).entity = .item (useful name Names.characters none) :=
  rfl

theorem entity_cardItem (name : String) (card : Card) :
    (cardItem name card).entity = .item (useful name Names.cards (some card.count)) :=
  rfl

theorem entity_orangeItem (count : UInt32) :
    (orangeItem count).entity = .item (orange count) :=
  rfl

theorem text_owned (item : String) : (Requirement.subject (.item item)).text = owned item := by
  simp [Requirement.text, Subject.token, Subject.sigil, Subject.name, owned]

theorem entity_lockedLocation (name category : String) (pack? : Option String)
    (unlock : String) :
    (lockedLocation name (.name category) pack? unlock).entity
      = .location (locked name category pack? unlock []) := by
  rw [lockedLocation, Registration.entity, Location.ofSpec_of_requires rfl (by simp), text_owned]
  have hpack := names_inPack (rfl : (Reference.name category).names = [category]) pack?
  simp [Reference.namesOf?, hpack, locked]

theorem entity_rewardLocation (name category : String) (pack? : Option String)
    (unlock reward : String) :
    (rewardLocation name (.name category) pack? unlock reward).entity
      = .location (locked name category pack? unlock [reward]) := by
  rw [rewardLocation, Registration.entity, Location.ofSpec_of_requires rfl (by simp), text_owned]
  have hpack := names_inPack (rfl : (Reference.name category).names = [category]) pack?
  simp [Reference.namesOf?, hpack, locked, Reference.names, Named.nameOf, Item.ofSpec]

theorem entity_goalLocation (character what : String) :
    (goalLocation character what).entity = .location (goal character what) := by
  rw [goalLocation, Registration.entity, Location.ofSpec_of_requires rfl (by simp),
    Requirement.text, text_owned]
  rfl

theorem entity_victoryLocation (name : String) (s : Subject) (percent : String) :
    (victoryLocation name (.threshold s (Amount.ofText percent))).entity
      = .location (ending name (s.sigil ++ s.name) percent) := by
  rw [victoryLocation, Registration.entity, Location.ofSpec_of_requires rfl (by simp)]
  simp [Reference.namesOf?, Reference.names, Requirement.text, Subject.token, ending,
    String.append_assoc]

/-! ### Items and locations apart -/

/-- Registrations ask for these items and for these locations, each in this order.  They may
ask for categories and options at any point. -/
structure Asks (rs : List Registration) (is : List Item) (ls : List Location) : Prop where
  items : entriesIn .items rs = is.map fun i => (i.name, .item i)
  locations : entriesIn .locations rs = ls.map fun l => (l.name, .location l)

namespace Asks

theorem nil : Asks [] [] [] := ⟨rfl, rfl⟩

theorem item {r : Registration} {i : Item} (h : r.entity = .item i) : Asks [r] [i] [] := by
  have htable : r.table = .items := by rw [← r.table_entity, h]; rfl
  have hname : r.name = i.name := by rw [← r.name_entity, h]; rfl
  constructor <;> simp [Registration.entriesIn_singleton, htable, hname, h]

theorem location {r : Registration} {l : Location} (h : r.entity = .location l) :
    Asks [r] [] [l] := by
  have htable : r.table = .locations := by rw [← r.table_entity, h]; rfl
  have hname : r.name = l.name := by rw [← r.name_entity, h]; rfl
  constructor <;> simp [Registration.entriesIn_singleton, htable, hname, h]

theorem append {rs rs' : List Registration} {is is' : List Item} {ls ls' : List Location}
    (h : Asks rs is ls) (h' : Asks rs' is' ls') : Asks (rs ++ rs') (is ++ is') (ls ++ ls') where
  items := by rw [Registration.entriesIn_append, h.items, h'.items, List.map_append]
  locations := by
    rw [Registration.entriesIn_append, h.locations, h'.locations, List.map_append]

section Lists

variable {α : Type}

theorem flatMap {f : α → List Registration} {is : α → List Item} {ls : α → List Location}
    (h : ∀ x, Asks (f x) (is x) (ls x)) (xs : List α) :
    Asks (xs.flatMap f) (xs.flatMap is) (xs.flatMap ls) := by
  induction xs with
  | nil => exact nil
  | cons x xs ih => exact (h x).append ih

theorem mapItem {f : α → Registration} {i : α → Item}
    (h : ∀ x, (f x).entity = .item (i x)) (xs : List α) : Asks (xs.map f) (xs.map i) [] := by
  induction xs with
  | nil => exact nil
  | cons x xs ih => exact (item (h x)).append ih

theorem mapLocation {f : α → Registration} {l : α → Location}
    (h : ∀ x, (f x).entity = .location (l x)) (xs : List α) :
    Asks (xs.map f) [] (xs.map l) := by
  induction xs with
  | nil => exact nil
  | cons x xs ih => exact (location (h x)).append ih

end Lists

end Asks

/-! ### Sections -/

theorem asks_tracking : Asks c.trackingRegistrations [] [] := by
  unfold trackingRegistrations
  split
  · exact ⟨rfl, rfl⟩
  · exact .nil

theorem asks_completion (reward location category : String) (pack? : Option String)
    (unlock : String) :
    Asks (c.completionRegistrations reward location (.name category) pack? unlock)
      (c.completionItems reward pack?)
      (c.completionLocations location category pack? unlock reward) := by
  unfold completionRegistrations completionItems completionLocations
  split
  · exact (Asks.item (entity_completionItem reward pack?)).append
      (.location (entity_rewardLocation location category pack? unlock reward))
  · exact .nil

theorem asks_campaign (name : String) (campaign : Campaign) :
    Asks (c.campaignRegistrations name campaign) (c.campaignItems name campaign)
      (c.campaignLocations name campaign) := by
  have hunlock := Asks.item (entity_unlockItem (Names.campaignUnlock c name) campaign.pack?)
  have hepisodes := Asks.mapLocation (fun episode => entity_lockedLocation episode
    (Names.campaignEpisodes name) campaign.pack? (Names.campaignUnlock c name))
    (episodeNames name campaign)
  -- an item adds nothing to the locations, nor a location to the items, by computation
  exact (hunlock.append hepisodes).append (c.asks_completion _ _ _ _ _)

theorem asks_extra (name : String) (extra : ExtraEpisode) :
    Asks (c.extraRegistrations name extra) (c.extraItems name extra)
      (c.extraLocations name extra) := by
  have hunlock := Asks.item (entity_unlockItem (Names.extraUnlock name) extra.pack?)
  have hepisode := Asks.location
    (entity_lockedLocation name Names.extras extra.pack? (Names.extraUnlock name))
  exact (hunlock.append hepisode).append (c.asks_completion _ _ _ _ _)

/-- Packs register no item and no location. -/
theorem asks_packed :
    Asks (Step.registrations [] c.packedSteps)
      ((c.campaigns.entries.flatMap fun e => c.campaignItems e.1 e.2)
        ++ c.extraEpisodes.entries.flatMap fun e => c.extraItems e.1 e.2)
      ((c.campaigns.entries.flatMap fun e => c.campaignLocations e.1 e.2)
        ++ c.extraEpisodes.entries.flatMap fun e => c.extraLocations e.1 e.2) := by
  have hcampaigns := Asks.flatMap (fun e => c.asks_campaign e.1 e.2) c.campaigns.entries
  have hextras := Asks.flatMap (fun e => c.asks_extra e.1 e.2) c.extraEpisodes.entries
  have hboth := hcampaigns.append hextras
  -- `Asks` is about two tables only, and in those the packs leave no trace
  constructor
  · rw [entriesIn, c.filter_packed (.inl rfl)]
    exact hboth.items
  · rw [entriesIn, c.filter_packed (.inr rfl)]
    exact hboth.locations

theorem asks_gated (category option kind : String) :
    Asks (gatedRegistrations category option kind) [] [] :=
  ⟨rfl, rfl⟩

theorem asks_characters :
    Asks c.characterRegistrations
      (c.characters.entries.map fun e => useful e.1 Names.characters none)
      (c.characters.entries.flatMap fun e => e.2.goal?.toList.map (goal e.1)) := by
  unfold characterRegistrations
  split
  · rename_i hempty
    have hnil : c.characters.entries = [] := List.isEmpty_iff.mp hempty
    rw [hnil]
    exact .nil
  · have hgated := asks_gated Names.characters Names.randomizeCharacters "characters"
    have hitems := Asks.mapItem (fun e : String × Character => entity_characterItem e.1)
      c.characters.entries
    have hgoals := Asks.flatMap (fun e : String × Character =>
      Asks.mapLocation (entity_goalLocation e.1) e.2.goal?.toList) c.characters.entries
    have hnone : (c.characters.entries.flatMap fun _ => ([] : List Item)) = [] :=
      List.flatMap_eq_nil_iff.mpr fun _ _ => rfl
    rw [hnone] at hgoals
    simpa using (hgated.append hitems).append hgoals

theorem asks_cards :
    Asks c.cardRegistrations
      (c.cards.entries.map fun e => useful e.1 Names.cards (some e.2.count)) [] := by
  unfold cardRegistrations
  split
  · rename_i hempty
    have hnil : c.cards.entries = [] := List.isEmpty_iff.mp hempty
    rw [hnil]
    exact .nil
  · have hitems := Asks.mapItem (fun e : String × Card => entity_cardItem e.1 e.2) c.cards.entries
    exact (asks_gated _ _ _).append hitems

theorem asks_victory (v : Victory) :
    Asks (victoryRegistrations v) (victoryItems v) (victoryLocations v) := by
  cases v with
  | oranges location count percent =>
      have hlocation := Asks.location
        (entity_victoryLocation location (.item Names.orange) percent)
      exact (Asks.item (entity_orangeItem count)).append hlocation
  | completedCampaigns location percent =>
      exact .location
        (entity_victoryLocation location (.category Names.completedCampaigns) percent)

/-- **What a catalog registers are its items and its locations.** -/
theorem asks_registrations : Asks c.registrations c.items c.locations := by
  have hvictory := Asks.flatMap asks_victory c.victory?.toList
  have hall := (((c.asks_tracking.append c.asks_packed).append c.asks_characters).append
    c.asks_cards).append hvictory
  rw [registrations_eq, items, locations]
  simpa using hall

/-! ### Copies -/

/-- Content that comes in the same number each time. -/
theorem sum_count_flatMap {α : Type} {f : α → List Item} {k : Nat}
    (h : ∀ x, ((f x).map Item.count).sum = k) (xs : List α) :
    ((xs.flatMap f).map Item.count).sum = xs.length * k := by
  induction xs with
  | nil => simp
  | cons x xs ih =>
      rw [List.flatMap_cons, List.map_append, List.sum_append_nat, h, ih, List.length_cons,
        Nat.succ_mul, Nat.add_comm]

theorem sum_count_completion (unlock reward category : String) (pack? : Option String) :
    ((key unlock category pack? :: c.completionItems reward pack?).map Item.count).sum
      = if c.trackCompletion then 2 else 1 := by
  unfold completionItems
  cases c.trackCompletion <;> rfl

theorem sum_count_items : (c.items.map Item.count).sum = c.copies := by
  have hcampaigns : ((c.campaigns.entries.flatMap fun e =>
      c.campaignItems e.1 e.2).map Item.count).sum
        = c.campaigns.size * if c.trackCompletion then 2 else 1 :=
    sum_count_flatMap (fun _ => c.sum_count_completion _ _ _ _) _
  have hextras : ((c.extraEpisodes.entries.flatMap fun e =>
      c.extraItems e.1 e.2).map Item.count).sum
        = c.extraEpisodes.size * if c.trackCompletion then 2 else 1 :=
    sum_count_flatMap (fun _ => c.sum_count_completion _ _ _ _) _
  have hcharacters : ((c.characters.entries.map fun e =>
      useful e.1 Names.characters none).map Item.count).sum = c.characters.size := by
    simp [Function.comp_def, useful, Item.count, Table.size]
  have hcards : ((c.cards.entries.map fun e =>
      useful e.1 Names.cards (some e.2.count)).map Item.count).sum
        = (c.cards.values.map fun card => card.count.toNat).sum := by
    simp [Function.comp_def, useful, Item.count, Table.values]
  have hvictory : ((c.victory?.toList.flatMap victoryItems).map Item.count).sum
      = match c.victory? with
        | some (.oranges _ count _) => count.toNat
        | _ => 0 := by
    rcases c.victory? with _ | ⟨location, count, percent⟩ | ⟨location, percent⟩ <;>
      simp [victoryItems, orange, Item.count]
  rw [items, copies, Nat.add_mul]
  simp only [List.map_append, List.sum_append_nat, hcampaigns, hextras, hcharacters, hcards,
    hvictory]

/-- **What a catalog compiles to.**  Its world has the items and the locations of the catalog,
each under its own name, and nothing else in these tables. -/
theorem contents_of_compile {w : World} (h : c.compile.1 = .ok w) :
    w.items.entries = c.items.map (fun i => (i.name, i))
      ∧ w.locations.entries = c.locations.map (fun l => (l.name, l))
      ∧ w.itemCount = c.copies := by
  have hentries : ∀ t, w.entries t = entriesIn t c.registrations := by
    intro t
    rw [World.entries_enterAll (c.compile_eq_ok_iff.mp h).2, World.entries_empty, List.nil_append]
  have hasks := c.asks_registrations
  have hitems : w.items.entries = c.items.map fun i => (i.name, i) := by
    refine World.eq_of_map_entity (fun _ _ h => Entity.item.inj h) ?_
    rw [List.map_map]
    exact (hentries .items).trans hasks.items
  have hlocations : w.locations.entries = c.locations.map fun l => (l.name, l) := by
    refine World.eq_of_map_entity (fun _ _ h => Entity.location.inj h) ?_
    rw [List.map_map]
    exact (hentries .locations).trans hasks.locations
  refine ⟨hitems, hlocations, ?_⟩
  rw [World.itemCount_eq, ← sum_count_items, Table.values, hitems]
  simp [Function.comp_def]

/-- A catalog with a campaign that a character shares its name with, and with a character
without a goal before one that has a goal. -/
def circus : Catalog where
  campaigns := Table.ofList [
    ("Anna", { episodes? := some 2, pack? := some "Tent" }), ("Parade", {})]
  extraEpisodes := Table.ofList [("Encore", {})]
  characters := Table.ofList [("Otto", {}), ("Anna", { goal? := some "fly" })]
  cards := Table.ofList [("Hoop", { count := 3 })]
  victory? := some (.oranges "Curtain" 20 "+007")
  trackCompletion := true

theorem contents_of_compile_circus :
    ∃ w, circus.compile.1 = .ok w
      ∧ w.items.entries.map (fun e => (e.1, e.2.categories)) = [
        ("Anna (Campaign)", ["Campaigns", "Tent DLC"]),
        ("Anna (All Episodes)", ["Completed Campaigns", "Tent DLC"]),
        ("Parade", ["Campaigns"]),
        ("Parade (All Episodes)", ["Completed Campaigns"]),
        ("Encore (Extra)", ["Campaigns"]),
        ("Encore (Complete)", ["Completed Campaigns"]),
        ("Otto", ["Characters"]),
        ("Anna", ["Characters"]),
        ("Hoop", ["Cards"]),
        ("Orange", ["Oranges"])]
      ∧ w.locations.entries.map (fun e => (e.1, e.2.requires?, e.2.placedItems)) = [
        ("Anna (Episode 1)", some "|Anna (Campaign)|", []),
        ("Anna (Episode 2)", some "|Anna (Campaign)|", []),
        ("Anna (Final Episode)", some "|Anna (Campaign)|", []),
        ("Anna (All Episodes)", some "|Anna (Campaign)|", ["Anna (All Episodes)"]),
        ("Parade", some "|Parade|", []),
        ("Parade (All Episodes)", some "|Parade|", ["Parade (All Episodes)"]),
        ("Encore", some "|Encore (Extra)|", []),
        ("Encore (Completion)", some "|Encore (Extra)|", ["Encore (Complete)"]),
        ("Anna: fly", some "\x7bOptOne(|Anna|)\x7d", []),
        ("Curtain", some "|Orange:7|", [])]
      ∧ w.itemCount = 31 := by
  have hok : circus.compile.1.toOption.isSome = true := by decide +kernel
  cases hcompile : circus.compile.1 with
  | error e => rw [hcompile] at hok; cases hok
  | ok w =>
      obtain ⟨hitems, hlocations, hcount⟩ := contents_of_compile circus hcompile
      refine ⟨w, rfl, ?_, ?_, ?_⟩
      · rw [hitems]
        decide +kernel
      · rw [hlocations]
        decide +kernel
      · rw [hcount]
        decide +kernel

end Catalog

end Worldsmith
