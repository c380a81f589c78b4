/-
What is placed where, and what it takes to get there.

The engine puts an item where it is placed and nowhere else.  A world in which that location
is behind the item itself, or behind another item that is placed behind the first, cannot be
won.  `PlacesSafely` says of the tables alone what rules this out: whatever is placed is
behind one item that is not, and is never asked for by name.

In a catalog's world only the signs of completion are placed, and they are the items of a
category of their own.  Names do not tell them from other items, for those are the author's.
But what a requirement asks for by name is an item too, of another category, and the world has
no two items of one name.
-/
import Mathlib.Data.List.Flatten
import Mathlib.Logic.Relation
import Worldsmith.Proofs.Catalog.Parts
import Worldsmith.Proofs.Requirement.Grammar
import Worldsmith.Proofs.Requirement.Mentions

namespace Worldsmith

/-! ### Worlds that place items safely -/

namespace Requirement

mutual

/-- The subjects outside every gate, from left to right. -/
def ungated : Requirement → List Subject
  | .subject s => [s]
  | .threshold s _ => [s]
  | .combination _ rs => ungatedOfAll rs
  | .gate _ _ => []
  | .raw _ => []

def ungatedOfAll : List Requirement → List Subject
  | [] => []
  | r :: rs => r.ungated ++ ungatedOfAll rs

end

theorem ungatedOfAll_eq (rs : List Requirement) : ungatedOfAll rs = rs.flatMap ungated := by
  induction rs with
  | nil => rfl
  | cons r rs ih => rw [ungatedOfAll, ih, List.flatMap_cons]

/-- Gates can only hide subjects. -/
theorem ungated_sublist_subjects {p : String → Prop} {r : Requirement} (h : r.EachRaw p) :
    r.ungated.Sublist r.subjects := by
  induction h with
  | subject s => exact List.Sublist.refl _
  | threshold s amount => exact List.Sublist.refl _
  | combination _ ih =>
      rw [ungated, subjects, ungatedOfAll_eq, subjectsOfAll_eq]
      exact List.Sublist.flatMap_right _ ih
  | gate _ _ => exact List.nil_sublist _
  | raw _ => exact List.Sublist.refl _

end Requirement

/-- The subjects that a search of the location's requirement finds. -/
def Location.subjects (l : Location) : List Subject :=
  ((l.requires?.map Mention.scan).getD []).map Mention.subject

namespace World

variable (w : World)

/-- An item of that name is placed at some location. -/
def Places (name : String) : Prop := ∃ l ∈ w.locations.values, name ∈ l.placedItems

/-- The item of that name belongs to the category. -/
def Belongs (name category : String) : Prop :=
  ∃ i, (name, i) ∈ w.items.entries ∧ category ∈ i.categories

/-- The item of that name is one that the player needs. -/
def Progresses (name : String) : Prop :=
  ∃ i, (name, i) ∈ w.items.entries ∧ i.flags.progression = true

/-- Having the item counts for the subject. -/
def Counts (name : String) : Subject → Prop
  | .item n => n = name
  | .category category => w.Belongs name category

/-- Something that is placed at the first location counts for what the second asks for. -/
def Precedes (l l' : Location) : Prop :=
  l ∈ w.locations.values ∧ l' ∈ w.locations.values
    ∧ ∃ name ∈ l.placedItems, ∃ s ∈ l'.subjects, w.Counts name s

/-- **Items are placed where they can be reached.** -/
structure PlacesSafely : Prop where
  /-- The signs of completion are placed, and nothing else is. -/
  completed_iff : ∀ name, w.Belongs name Names.completedCampaigns ↔ w.Places name
  placed_once : ∀ name, w.Places name →
    ∃! e : String × Location, e ∈ w.locations.entries ∧ name ∈ e.2.placedItems
  at_most_one : ∀ l ∈ w.locations.values, l.placedItems.length ≤ 1
  /-- Where something is placed, one item is asked for, and that may be found anywhere. -/
  behind_key : ∀ l ∈ w.locations.values, l.placedItems ≠ [] →
    l.victory = false ∧ ∃ key, l.subjects = [.item key] ∧ w.Progresses key ∧ ¬ w.Places key
  not_required : ∀ l ∈ w.locations.values, ∀ name, .item name ∈ l.subjects → ¬ w.Places name
  /-- The text of a requirement has a tree, and items outside its gates are there to be
  found. -/
  ungated_progresses : ∀ l ∈ w.locations.values, ∀ text, l.requires? = some text →
    ∃ r, Requirement.parse? text = some r ∧ r.subjects = l.subjects
      ∧ ∀ name, .item name ∈ r.ungated → w.Progresses name

variable {w}

/-- **No placement is behind itself**, nor behind one that is behind it. -/
theorem PlacesSafely.acyclic (h : w.PlacesSafely) (l : Location) :
    ¬ Relation.TransGen w.Precedes l l := by
  intro hcycle
  obtain ⟨_, ⟨hl, -, reward, hreward, -⟩, -⟩ := Relation.TransGen.head'_iff.mp hcycle
  obtain ⟨l', -, ⟨hl', -, name, hname, s, hs, hcounts⟩⟩ := Relation.TransGen.tail'_iff.mp hcycle
  -- something is placed at `l`, so what it asks for is not placed at `l'`
  obtain ⟨-, key, hkey, -, hfree⟩ := h.behind_key l hl (List.ne_nil_of_mem hreward)
  rw [hkey] at hs
  obtain rfl := List.mem_singleton.mp hs
  obtain rfl : key = name := hcounts
  exact hfree ⟨l', hl', hname⟩

end World

/-! ### Where a catalog places items -/

namespace Catalog

open Contents

/-- A pack's category is never one of the language's words. -/
theorem eq_of_mem_inPack {name first : String} {pack? : Option String}
    (hname : name.toList.getLast? ≠ some 'C')
    (h : name ∈ first :: pack?.toList.map Pack.categoryName) : name = first := by
  rcases List.mem_cons.mp h with rfl | hpack
  · rfl
  · obtain ⟨pack, -, heq⟩ := List.mem_map.mp hpack
    exact absurd heq (categoryName_ne hname)

variable {c : Catalog}

/-- An item of the category of completed campaigns is the reward of a part. -/
theorem HasItem.of_completed {i : Item} (h : c.HasItem i)
    (hcategory : Names.completedCampaigns ∈ i.categories) :
    c.trackCompletion = true
      ∧ ∃ p ∈ c.parts, i = key p.reward Names.completedCampaigns p.pack? := by
  cases h with
  | unlock hp =>
      have heq : Names.completedCampaigns = Names.campaigns :=
        eq_of_mem_inPack (by decide) hcategory
      exact absurd heq (by decide)
  | reward hp htrack => exact ⟨htrack, _, hp, rfl⟩
  | character he => exact absurd (List.mem_singleton.mp hcategory) (by decide)
  | card he => exact absurd (List.mem_singleton.mp hcategory) (by decide)
  | orange hv => exact absurd (List.mem_singleton.mp hcategory) (by decide)

namespace HasLocation

variable {l : Location} {r : Requirement}

/-- Where something is placed, it is the reward of a part, behind the item that unlocks the
part. -/
theorem of_placed (h : c.HasLocation l r) (hplaced : l.placedItems ≠ []) :
    c.trackCompletion = true ∧ ∃ p ∈ c.parts,
      l = locked p.completion p.completionCategory p.pack? p.unlock [p.reward]
        ∧ r = .subject (.item p.unlock) := by
  cases h with
  | completion hp htrack => exact ⟨htrack, _, hp, rfl, rfl⟩
  | episode | goal | oranges | completedCampaigns => exact absurd rfl hplaced

/-- What a requirement asks for by name is an item that is no sign of completion, and outside
gates it is one that the player needs. -/
theorem item_of_subject (h : c.HasLocation l r) {name : String}
    (hname : .item name ∈ r.subjects) :
    ∃ i, c.HasItem i ∧ i.name = name ∧ Names.completedCampaigns ∉ i.categories
      ∧ (.item name ∈ r.ungated → i.flags.progression = true) := by
  have hunlock : ∀ p ∈ c.parts, ∃ i, c.HasItem i ∧ i.name = p.unlock
      ∧ Names.completedCampaigns ∉ i.categories
      ∧ (.item p.unlock ∈ [Subject.item p.unlock] → i.flags.progression = true) := by
    intro p hp
    refine ⟨_, .unlock hp, rfl, fun hcategory => ?_, fun _ => rfl⟩
    have heq : Names.completedCampaigns = Names.campaigns :=
      eq_of_mem_inPack (by decide) hcategory
    exact absurd heq (by decide)
  cases h with
  | episode hp hepisode =>
      obtain rfl := Subject.item.inj (List.mem_singleton.mp hname)
      exact hunlock _ hp
  | completion hp htrack =>
      obtain rfl := Subject.item.inj (List.mem_singleton.mp hname)
      exact hunlock _ hp
  | goal he hgoal =>
      obtain rfl := Subject.item.inj (List.mem_singleton.mp hname)
      refine ⟨_, .character he, rfl, fun hcategory => ?_, fun hungated => ?_⟩
      · exact absurd (List.mem_singleton.mp hcategory) (by decide)
      · cases hungated
  | oranges hv =>
      obtain rfl := Subject.item.inj (List.mem_singleton.mp hname)
      refine ⟨_, .orange hv, rfl, fun hcategory => ?_, fun _ => rfl⟩
      exact absurd (List.mem_singleton.mp hcategory) (by decide)
  | completedCampaigns hv => cases List.mem_singleton.mp hname

end HasLocation

/-! ### Catalogs that compile -/

section Compiled

variable {w : World} (h : c.compile.1 = .ok w)
include h

theorem HasLocation.subjects_eq {l : Location} {r : Requirement} (hl : c.HasLocation l r) :
    l.subjects = r.subjects := by
  have hscan := Requirement.scan_text hl.rawFree.paired (hl.fault? h)
  rw [Location.subjects, hl.requires?_eq, Option.map_some, Option.getD_some, hscan,
    Requirement.map_subject_mentions hl.rawFree]

theorem HasLocation.parse?_eq {l : Location} {r : Requirement} (hl : c.HasLocation l r)
    {text : String} (htext : l.requires? = some text) : Requirement.parse? text = some r := by
  obtain rfl : r.text = text := Option.some.inj (hl.requires?_eq.symm.trans htext)
  exact Requirement.parse?_text hl.rawFree (hl.fault? h)

/-- No two parts have the same reward. -/
theorem part_of_reward (htrack : c.trackCompletion = true) {p p' : Part} (hp : p ∈ c.parts)
    (hp' : p' ∈ c.parts) (hreward : p.reward = p'.reward) : p = p' := by
  have hitems : (c.items.map Item.name).Nodup := by
    have hnames := w.names_nodup .items
    rw [World.names, c.entries_of_compile h, c.asks_registrations.items, List.map_map] at hnames
    exact hnames
  have hsublist : (c.parts.map Part.reward).Sublist (c.items.map Item.name) := by
    -- a part's items are the one that unlocks it and its reward, in this order
    have hpart : ∀ p : Part, [p.reward].Sublist ((c.partItems p).map Item.name) := by
      intro p
      rw [partItems, completionItems, if_pos htrack]
      exact List.sublist_cons_self _ _
    have hparts := List.Sublist.flatMap_right c.parts fun p _ => hpart p
    rw [← List.map_eq_flatMap, ← List.map_flatMap] at hparts
    rw [items_eq, List.append_assoc, List.append_assoc, List.map_append]
    exact hparts.trans (List.sublist_append_left _ _)
  exact List.inj_on_of_nodup_map (hitems.sublist hsublist) hp hp' hreward

/-- **The items that are placed** are the rewards of the parts. -/
theorem places_iff {name : String} :
    w.Places name ↔ c.trackCompletion = true ∧ ∃ p ∈ c.parts, p.reward = name := by
  constructor
  · rintro ⟨l, hl, hname⟩
    obtain ⟨r, hl⟩ := (mem_locations_values_iff h).mp hl
    obtain ⟨htrack, p, hp, rfl, -⟩ := hl.of_placed (List.ne_nil_of_mem hname)
    exact ⟨htrack, p, hp, (List.mem_singleton.mp hname).symm⟩
  · rintro ⟨htrack, p, hp, rfl⟩
    exact ⟨_, (mem_locations_values_iff h).mpr ⟨_, .completion hp htrack⟩, List.mem_cons_self⟩

/-- And they are the signs of completion. -/
theorem belongs_completed_iff {name : String} :
    w.Belongs name Names.completedCampaigns
      ↔ c.trackCompletion = true ∧ ∃ p ∈ c.parts, p.reward = name := by
  constructor
  · rintro ⟨i, hi, hcategory⟩
    obtain ⟨rfl, hitem⟩ := (mem_items_iff h).mp hi
    obtain ⟨htrack, p, hp, rfl⟩ := hitem.of_completed hcategory
    exact ⟨htrack, p, hp, rfl⟩
  · rintro ⟨htrack, p, hp, rfl⟩
    exact ⟨_, (mem_items_iff h).mpr ⟨rfl, .reward hp htrack⟩, List.mem_cons_self⟩

/-- What is asked for by name is not placed anywhere. -/
theorem HasLocation.not_places_of_subject {l : Location} {r : Requirement}
    (hl : c.HasLocation l r) {name : String} (hname : .item name ∈ r.subjects) :
    ¬ w.Places name := by
  intro hplaces
  obtain ⟨i, hi, hiname, hcategory, -⟩ := hl.item_of_subject hname
  obtain ⟨i', hi', hsign⟩ := (belongs_completed_iff h).mpr ((places_iff h).mp hplaces)
  obtain ⟨hname', hi'⟩ := (mem_items_iff h).mp hi'
  -- two items of one name are the same, and this one would have to be in both categories
  obtain rfl := hi.unique h hi' (hiname.trans hname'.symm)
  exact hcategory hsign

theorem HasLocation.progresses_of_ungated {l : Location} {r : Requirement}
    (hl : c.HasLocation l r) {name : String} (hungated : .item name ∈ r.ungated) :
    w.Progresses name := by
  have hname := (Requirement.ungated_sublist_subjects hl.rawFree).subset hungated
  obtain ⟨i, hi, hiname, -, hflag⟩ := hl.item_of_subject hname
  exact ⟨i, (mem_items_iff h).mpr ⟨hiname, hi⟩, hflag hungated⟩

theorem placed_once_of_compile {name : String} (hplaces : w.Places name) :
    ∃! e : String × Location, e ∈ w.locations.entries ∧ name ∈ e.2.placedItems := by
  obtain ⟨htrack, p, hp, rfl⟩ := (places_iff h).mp hplaces
  refine ⟨(p.completion, _), ⟨(mem_locations_iff h).mpr ⟨rfl, _, .completion hp htrack⟩,
    List.mem_cons_self⟩, ?_⟩
  rintro ⟨name, l⟩ ⟨hentry, hreward⟩
  obtain ⟨rfl, r, hl⟩ := (mem_locations_iff h).mp hentry
  obtain ⟨-, p', hp', rfl, -⟩ := hl.of_placed (List.ne_nil_of_mem hreward)
  obtain rfl := part_of_reward h htrack hp hp' (List.mem_singleton.mp hreward)
  rfl

/-- **A catalog's world places items safely**, whatever the names in the catalog are. -/
theorem placesSafely_of_compile :
    w.PlacesSafely ∧ ∀ l, ¬ Relation.TransGen w.Precedes l l := by
  have hsafe : w.PlacesSafely := {
    completed_iff := fun name => (belongs_completed_iff h).trans (places_iff h).symm
    placed_once := fun name => placed_once_of_compile h
    at_most_one := by
      intro l hl
      obtain ⟨r, hl⟩ := (mem_locations_values_iff h).mp hl
      by_cases hplaced : l.placedItems = []
      · simp [hplaced]
      · obtain ⟨-, p, -, rfl, -⟩ := hl.of_placed hplaced
        exact Nat.le_refl 1
    behind_key := by
      intro l hl hplaced
      obtain ⟨r, hl⟩ := (mem_locations_values_iff h).mp hl
      obtain ⟨-, p, -, rfl, rfl⟩ := hl.of_placed hplaced
      refine ⟨rfl, p.unlock, hl.subjects_eq h, ?_, ?_⟩
      · exact hl.progresses_of_ungated h List.mem_cons_self
      · exact hl.not_places_of_subject h List.mem_cons_self
    not_required := by
      intro l hl name hname
      obtain ⟨r, hl⟩ := (mem_locations_values_iff h).mp hl
      rw [hl.subjects_eq h] at hname
      exact hl.not_places_of_subject h hname
    ungated_progresses := by
      intro l hl text htext
      obtain ⟨r, hl⟩ := (mem_locations_values_iff h).mp hl
      refine ⟨r, hl.parse?_eq h htext, (hl.subjects_eq h).symm, fun name hname => ?_⟩
      exact hl.progresses_of_ungated h hname }
  exact ⟨hsafe, hsafe.acyclic⟩

end Compiled

/-- A catalog in which a name is used for all it can be used for, and packs and cards are
called like categories. -/
def crossing : Catalog where
  campaigns := Table.ofList [
    ("Bridge", { episodes? := some 1, pack? := some "Completed Campaigns" }),
    ("Completed Campaigns", {})]
  extraEpisodes := Table.ofList [("Bridge", { pack? := some "Completed Campaigns" })]
  characters := Table.ofList [("Bridge", { goal? := some "stand" })]
  cards := Table.ofList [("Campaigns", { count := 2 })]
  victory? := some (.completedCampaigns "Far side" "80%")
  trackCompletion := true

theorem placesSafely_of_compile_crossing :
    ∃ w, crossing.compile.1 = .ok w
      ∧ w.locations.values.flatMap (·.placedItems) = [
        "Bridge (All Episodes)", "Completed Campaigns (All Episodes)", "Bridge (Complete)"]
      ∧ w.PlacesSafely ∧ ∀ l, ¬ Relation.TransGen w.Precedes l l := by
  have hplaced : crossing.compile.1.toOption.map
      (fun w => w.locations.values.flatMap (·.placedItems)) = some [
        "Bridge (All Episodes)", "Completed Campaigns (All Episodes)", "Bridge (Complete)"] := by
    decide +kernel
  cases hcompile : crossing.compile.1 with
  | error e => rw [hcompile] at hplaced; cases hplaced
  | ok w =>
      rw [hcompile] at hplaced
      exact ⟨w, rfl, Option.some.inj hplaced, placesSafely_of_compile hcompile⟩

end Catalog

end Worldsmith
