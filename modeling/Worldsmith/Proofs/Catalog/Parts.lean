/-
The parts of a catalog's game, and where each entity of its world comes from.

A campaign and an extra episode are the same to a world: an item that unlocks it, locations
behind that item and, where completion is tracked, another item that is found at a location
for just that.  `Part` holds what is different about them, the names and the pack, so that
nothing has to be said twice.

`HasItem` and `HasLocation` list what else there is besides parts.  They say the same as the
lists of `Proofs/Catalog/Contents.lean` but one entity at a time, and of a location they keep
the tree that its requirement was written from.  So a property of all items or all locations
of a world is shown case by case, and in no case does the text have to be looked into: it is
that of a tree without a fault.
-/
import Worldsmith.Proofs.Catalog.Buildable
import Worldsmith.Proofs.Catalog.Contents

namespace Worldsmith.Catalog

open Contents

/-- A campaign or an extra episode. -/
structure Part where
  pack? : Option String
  /-- The item that unlocks it. -/
  unlock : String
  /-- The item for completing it. -/
  reward : String
  /-- Its locations, and their category. -/
  episodes : List String
  category : String
  /-- The location where the reward is found, and the category of that location. -/
  completion : String
  completionCategory : String

variable (c : Catalog)

def campaignPart (name : String) (campaign : Campaign) : Part where
  pack? := campaign.pack?
  unlock := Names.campaignUnlock c name
  reward := Names.campaignCompletion name
  episodes := episodeNames name campaign
  category := Names.campaignEpisodes name
  completion := Names.campaignCompletion name
  completionCategory := Names.campaignCompletionCategory name

def extraPart (name : String) (extra : ExtraEpisode) : Part where
  pack? := extra.pack?
  unlock := Names.extraUnlock name
  reward := Names.extraComplete name
  episodes := [name]
  category := Names.extras
  completion := Names.extraCompletion name
  completionCategory := Names.extrasCompletion

/-- The parts of the game, in order. -/
def parts : List Part :=
  (c.campaigns.entries.map fun e => c.campaignPart e.1 e.2)
    ++ c.extraEpisodes.entries.map fun e => extraPart e.1 e.2

theorem mem_parts_iff {p : Part} :
    p ∈ c.parts ↔
      (∃ e ∈ c.campaigns.entries, c.campaignPart e.1 e.2 = p)
        ∨ ∃ e ∈ c.extraEpisodes.entries, extraPart e.1 e.2 = p := by
  rw [parts, List.mem_append, List.mem_map, List.mem_map]

/-! ### Items -/

def partItems (p : Part) : List Item :=
  key p.unlock Names.campaigns p.pack? :: c.completionItems p.reward p.pack?

/-- The items, those of all parts together. -/
theorem items_eq :
    c.items = c.parts.flatMap c.partItems
      ++ (c.characters.entries.map fun e => useful e.1 Names.characters none)
      ++ (c.cards.entries.map fun e => useful e.1 Names.cards (some e.2.count))
      ++ c.victory?.toList.flatMap victoryItems := by
  rw [items, parts, List.flatMap_append, List.flatMap_map, List.flatMap_map]
  rfl

/-- **Where an item comes from.** -/
inductive HasItem : Item → Prop
  | unlock {p : Part} (hp : p ∈ c.parts) : HasItem (key p.unlock Names.campaigns p.pack?)
  | reward {p : Part} (hp : p ∈ c.parts) (htrack : c.trackCompletion = true) :
      HasItem (key p.reward Names.completedCampaigns p.pack?)
  | character {name : String} {character : Character}
      (he : (name, character) ∈ c.characters.entries) :
      HasItem (useful name Names.characters none)
  | card {name : String} {card : Card} (he : (name, card) ∈ c.cards.entries) :
      HasItem (useful name Names.cards (some card.count))
  | orange {location : String} {count : UInt32} {percent : String}
      (hv : c.victory? = some (.oranges location count percent)) : HasItem (orange count)

theorem hasItem_iff {i : Item} : c.HasItem i ↔ i ∈ c.items := by
  rw [items_eq, List.mem_append, List.mem_append, List.mem_append, List.mem_flatMap,
    List.mem_map, List.mem_map, List.mem_flatMap]
  constructor
  · intro h
    cases h with
    | unlock hp => exact .inl (.inl (.inl ⟨_, hp, List.mem_cons_self⟩))
    | reward hp htrack =>
        refine .inl (.inl (.inl ⟨_, hp, List.mem_cons_of_mem _ ?_⟩))
        rw [completionItems, if_pos htrack]
        exact List.mem_cons_self
    | character he => exact .inl (.inl (.inr ⟨_, he, rfl⟩))
    | card he => exact .inl (.inr ⟨_, he, rfl⟩)
    | orange hv => exact .inr ⟨_, Option.mem_toList.mpr hv, List.mem_cons_self⟩
  · rintro (((⟨p, hp, hi⟩ | ⟨e, he, rfl⟩) | ⟨e, he, rfl⟩) | ⟨v, hv, hi⟩)
    · rcases List.mem_cons.mp hi with rfl | hreward
      · exact .unlock hp
      · unfold completionItems at hreward
        split at hreward
        · rename_i htrack
          obtain rfl := List.mem_singleton.mp hreward
          exact .reward hp htrack
        · cases hreward
    · exact .character he
    · exact .card he
    · cases v with
      | oranges location count percent =>
          obtain rfl := List.mem_singleton.mp hi
          exact .orange (Option.mem_toList.mp hv)
      | completedCampaigns location percent => cases hi

/-! ### Locations -/

def partLocations (p : Part) : List Location :=
  (p.episodes.map fun episode => locked episode p.category p.pack? p.unlock [])
    ++ c.completionLocations p.completion p.completionCategory p.pack? p.unlock p.reward

/-- The locations, those of all parts together. -/
theorem locations_eq :
    c.locations = c.parts.flatMap c.partLocations
      ++ (c.characters.entries.flatMap fun e => e.2.goal?.toList.map (goal e.1))
      ++ c.victory?.toList.flatMap victoryLocations := by
  rw [locations, parts, List.flatMap_append, List.flatMap_map, List.flatMap_map]
  rfl

/-- **Where a location comes from**, and what it requires. -/
inductive HasLocation : Location → Requirement → Prop
  | episode {p : Part} (hp : p ∈ c.parts) {name : String} (hname : name ∈ p.episodes) :
      HasLocation (locked name p.category p.pack? p.unlock []) (.subject (.item p.unlock))
  | completion {p : Part} (hp : p ∈ c.parts) (htrack : c.trackCompletion = true) :
      HasLocation (locked p.completion p.completionCategory p.pack? p.unlock [p.reward])
        (.subject (.item p.unlock))
  | goal {name what : String} {character : Character}
      (he : (name, character) ∈ c.characters.entries) (hgoal : character.goal? = some what) :
      HasLocation (goal name what) (.gate .optOne (.subject (.item name)))
  | oranges {location percent : String} {count : UInt32}
      (hv : c.victory? = some (.oranges location count percent)) :
      HasLocation (ending location Names.orange percent)
        (.threshold (.item Names.orange) (Amount.ofText percent))
  | completedCampaigns {location percent : String}
      (hv : c.victory? = some (.completedCampaigns location percent)) :
      HasLocation (ending location ("@" ++ Names.completedCampaigns) percent)
        (.threshold (.category Names.completedCampaigns) (Amount.ofText percent))

theorem hasLocation_iff {l : Location} : (∃ r, c.HasLocation l r) ↔ l ∈ c.locations := by
  rw [locations_eq, List.mem_append, List.mem_append, List.mem_flatMap, List.mem_flatMap,
    List.mem_flatMap]
  constructor
  · intro h
    obtain ⟨r, h⟩ := h
    cases h with
    | episode hp hname =>
        exact .inl (.inl ⟨_, hp, List.mem_append_left _ (List.mem_map_of_mem hname)⟩)
    | completion hp htrack =>
        refine .inl (.inl ⟨_, hp, List.mem_append_right _ ?_⟩)
        rw [completionLocations, if_pos htrack]
        exact List.mem_cons_self
    | goal he hgoal =>
        exact .inl (.inr ⟨_, he, List.mem_map_of_mem (Option.mem_toList.mpr hgoal)⟩)
    | oranges hv => exact .inr ⟨_, Option.mem_toList.mpr hv, List.mem_cons_self⟩
    | completedCampaigns hv => exact .inr ⟨_, Option.mem_toList.mpr hv, List.mem_cons_self⟩
  · rintro ((⟨p, hp, hl⟩ | ⟨e, he, hl⟩) | ⟨v, hv, hl⟩)
    · rcases List.mem_append.mp hl with hepisode | hcompletion
      · obtain ⟨name, hname, rfl⟩ := List.mem_map.mp hepisode
        exact ⟨_, .episode hp hname⟩
      · unfold completionLocations at hcompletion
        split at hcompletion
        · rename_i htrack
          obtain rfl := List.mem_singleton.mp hcompletion
          exact ⟨_, .completion hp htrack⟩
        · cases hcompletion
    · obtain ⟨what, hgoal, rfl⟩ := List.mem_map.mp hl
      exact ⟨_, .goal he (Option.mem_toList.mp hgoal)⟩
    · have hv := Option.mem_toList.mp hv
      cases v with
      | oranges location count percent =>
          obtain rfl := List.mem_singleton.mp hl
          exact ⟨_, .oranges hv⟩
      | completedCampaigns location percent =>
          obtain rfl := List.mem_singleton.mp hl
          exact ⟨_, .completedCampaigns hv⟩

theorem text_share (s : Subject) (percent : String) :
    (Requirement.threshold s (Amount.ofText percent)).text
      = "|" ++ (s.sigil ++ s.name) ++ ":" ++ (Amount.ofText percent).text ++ "|" := by
  simp [Requirement.text, Subject.token, String.append_assoc]

namespace HasLocation

variable {c} {l : Location} {r : Requirement}

/-- The location's text is that of the tree. -/
theorem requires?_eq (h : c.HasLocation l r) : l.requires? = some r.text := by
  cases h with
  | episode hp hname => rw [text_owned]; rfl
  | completion hp htrack => rw [text_owned]; rfl
  | goal he hgoal => rw [Requirement.text, text_owned]; rfl
  | oranges hv => rw [text_share]; rfl
  | completedCampaigns hv => rw [text_share]; rfl

theorem rawFree (h : c.HasLocation l r) : r.RawFree := by
  cases h with
  | episode hp hname => exact .subject _
  | completion hp htrack => exact .subject _
  | goal he hgoal => exact .gate (.subject _)
  | oranges hv => exact .threshold _ _
  | completedCampaigns hv => exact .threshold _ _

end HasLocation

/-! ### Catalogs that compile -/

section Compiled

variable {c} {w : World} (h : c.compile.1 = .ok w)
include h

theorem mem_items_iff {name : String} {i : Item} :
    (name, i) ∈ w.items.entries ↔ i.name = name ∧ c.HasItem i := by
  rw [← World.mem_entries_items, c.entries_of_compile h, c.asks_registrations.items,
    List.mem_map, hasItem_iff]
  constructor
  · rintro ⟨i', hi, heq⟩
    obtain ⟨rfl, hitem⟩ := Prod.mk.inj heq
    obtain rfl := Entity.item.inj hitem
    exact ⟨rfl, hi⟩
  · rintro ⟨rfl, hi⟩
    exact ⟨i, hi, rfl⟩

theorem mem_locations_iff {name : String} {l : Location} :
    (name, l) ∈ w.locations.entries ↔ l.name = name ∧ ∃ r, c.HasLocation l r := by
  rw [← World.mem_entries_locations, c.entries_of_compile h, c.asks_registrations.locations,
    List.mem_map, hasLocation_iff]
  constructor
  · rintro ⟨l', hl, heq⟩
    obtain ⟨rfl, hlocation⟩ := Prod.mk.inj heq
    obtain rfl := Entity.location.inj hlocation
    exact ⟨rfl, hl⟩
  · rintro ⟨rfl, hl⟩
    exact ⟨l, hl, rfl⟩

theorem mem_locations_values_iff {l : Location} :
    l ∈ w.locations.values ↔ ∃ r, c.HasLocation l r := by
  rw [Table.values, List.mem_map]
  constructor
  · rintro ⟨e, he, rfl⟩
    exact ((mem_locations_iff h).mp he).2
  · intro hl
    exact ⟨(l.name, l), (mem_locations_iff h).mpr ⟨rfl, hl⟩, rfl⟩

/-- **Items of one name are one item**, wherever they come from. -/
theorem HasItem.unique {i i' : Item} (hi : c.HasItem i) (hi' : c.HasItem i')
    (hname : i.name = i'.name) : i = i' :=
  Table.eq_of_mem_entries ((mem_items_iff h).mpr ⟨rfl, hi⟩)
    ((mem_items_iff h).mpr ⟨hname.symm, hi'⟩)

/-- A location's requirement can be written. -/
theorem HasLocation.fault? {l : Location} {r : Requirement} (hl : c.HasLocation l r) :
    r.fault? = none := by
  obtain ⟨hcampaigns, hextras, hgoals, -, hvictory⟩ := c.specFault?_registrations_iff.mp
    fun r hr => (Registration.fault?_eq_none_iff.mp (c.fault?_of_compile h r hr)).2
  have hunlock : ∀ p ∈ c.parts, (Subject.item p.unlock).fault? = none := by
    intro p hp
    rw [Subject.fault?_eq_none_iff]
    rcases c.mem_parts_iff.mp hp with ⟨e, he, rfl⟩ | ⟨e, he, rfl⟩
    · exact hcampaigns e he
    · exact hextras e he
  cases hl with
  | episode hp hname => exact Requirement.fault?_subject_eq_none_iff.mpr (hunlock _ hp)
  | completion hp htrack => exact Requirement.fault?_subject_eq_none_iff.mpr (hunlock _ hp)
  | goal he hgoal =>
      rw [Requirement.fault?_gate_eq_none_iff, Requirement.fault?_subject_eq_none_iff,
        Subject.fault?_eq_none_iff]
      exact hgoals _ he (by simp [hgoal])
  | oranges hv =>
      refine Requirement.fault?_threshold_eq_none_iff.mpr ⟨by decide, ?_⟩
      exact Amount.fault?_ofText_eq_none_iff.mpr (hvictory _ hv).2
  | completedCampaigns hv =>
      refine Requirement.fault?_threshold_eq_none_iff.mpr ⟨by decide, ?_⟩
      exact Amount.fault?_ofText_eq_none_iff.mpr (hvictory _ hv).2

end Compiled

end Worldsmith.Catalog
