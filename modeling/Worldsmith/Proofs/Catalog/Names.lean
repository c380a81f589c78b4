/-
The names that a catalog needs, one list for each table.

Names of items and locations are made from the names in the catalog by endings, and two of
them may well be the same.  Categories and options take their names from the packs and from a
few words of the language, and there a clash is possible between packs only, and only in
their options: the name of a pack's category ends in a way that no other does and gives the
pack away.
-/
import Mathlib.Data.List.Nodup
import Worldsmith.Proofs.Catalog.Plan

namespace Worldsmith

open Registration (namesIn)

namespace Victory

def location : Victory → String
  | .oranges location _ _ => location
  | .completedCampaigns location _ => location

/-- How much is needed, as it is written. -/
def percent : Victory → String
  | .oranges _ _ percent => percent
  | .completedCampaigns _ percent => percent

def itemNames : Victory → List String
  | .oranges .. => [Names.orange]
  | .completedCampaigns .. => []

end Victory

namespace Catalog

variable (c : Catalog)

/-! ### The lists -/

/-- Names that are needed where completion is tracked. -/
def tracked (names : List String) : List String := if c.trackCompletion then names else []

def itemNames : List String :=
  (c.campaigns.entries.flatMap fun e =>
      Names.campaignUnlock c e.1 :: c.tracked [Names.campaignCompletion e.1])
    ++ (c.extraEpisodes.entries.flatMap fun e =>
      Names.extraUnlock e.1 :: c.tracked [Names.extraComplete e.1])
    ++ c.characters.keys ++ c.cards.keys
    ++ c.victory?.toList.flatMap Victory.itemNames

def locationNames : List String :=
  (c.campaigns.entries.flatMap fun e =>
      episodeNames e.1 e.2 ++ c.tracked [Names.campaignCompletion e.1])
    ++ (c.extraEpisodes.entries.flatMap fun e =>
      e.1 :: c.tracked [Names.extraCompletion e.1])
    ++ (c.characters.entries.flatMap fun e => e.2.goal?.toList.map (Names.characterGoal e.1))
    ++ c.victory?.toList.map Victory.location

def categoryNames : List String :=
  c.tracked [Names.completedCampaigns] ++ c.packs.map Pack.categoryName
    ++ (if c.characters.isEmpty then [] else [Names.characters])
    ++ (if c.cards.isEmpty then [] else [Names.cards])

def optionNames : List String :=
  c.packs.map Pack.optionName
    ++ (if c.characters.isEmpty then [] else [Names.randomizeCharacters])
    ++ (if c.cards.isEmpty then [] else [Names.randomizeCards])

/-! ### They are what is registered -/

/-- The items and locations of the sections that packs occur in. -/
theorem filter_packed {t : TableName} (ht : t = .items ∨ t = .locations) :
    (Step.registrations [] c.packedSteps).filter (·.table = t)
      = ((c.campaigns.entries.flatMap fun e => c.campaignRegistrations e.1 e.2)
        ++ c.extraEpisodes.entries.flatMap fun e => c.extraRegistrations e.1 e.2).filter
          (·.table = t) := by
  have hpack : ∀ (pack? : Option String) (rs : List Registration),
      (packSteps pack? rs).filterMap Step.added? = rs := by
    intro pack? rs
    have hadd : (rs.map .add).filterMap Step.added? = rs := by
      simp [List.filterMap_map, Function.comp_def, Step.added?]
    cases pack? <;> exact hadd
  rw [Step.filter_registrations ht]
  simp [packedSteps, List.filterMap_flatMap, hpack]

theorem namesIn_packed {t : TableName} (ht : t = .items ∨ t = .locations) :
    namesIn t (Step.registrations [] c.packedSteps)
      = (c.campaigns.entries.flatMap fun e => namesIn t (c.campaignRegistrations e.1 e.2))
        ++ c.extraEpisodes.entries.flatMap fun e => namesIn t (c.extraRegistrations e.1 e.2) := by
  rw [namesIn, c.filter_packed ht, ← namesIn, Registration.namesIn_append,
    Registration.namesIn_flatMap, Registration.namesIn_flatMap]

theorem namesIn_tracking (t : TableName) :
    namesIn t c.trackingRegistrations
      = if t = .categories then c.tracked [Names.completedCampaigns] else [] := by
  unfold trackingRegistrations tracked
  cases c.trackCompletion <;> cases t <;> rfl

theorem namesIn_campaign (name : String) (campaign : Campaign) :
    namesIn .items (c.campaignRegistrations name campaign)
        = Names.campaignUnlock c name :: c.tracked [Names.campaignCompletion name]
      ∧ namesIn .locations (c.campaignRegistrations name campaign)
        = episodeNames name campaign ++ c.tracked [Names.campaignCompletion name] := by
  unfold campaignRegistrations completionRegistrations tracked
  cases c.trackCompletion <;>
    simp [namesIn, keyItem, lockedLocation, rewardLocation, Registration.table,
      Registration.name, List.filter_map, Function.comp_def]

theorem namesIn_extra (name : String) (extra : ExtraEpisode) :
    namesIn .items (c.extraRegistrations name extra)
        = Names.extraUnlock name :: c.tracked [Names.extraComplete name]
      ∧ namesIn .locations (c.extraRegistrations name extra)
        = name :: c.tracked [Names.extraCompletion name] := by
  unfold extraRegistrations completionRegistrations tracked
  cases c.trackCompletion <;>
    simp [namesIn, keyItem, lockedLocation, rewardLocation, Registration.table,
      Registration.name]

theorem namesIn_characters (t : TableName) :
    namesIn t c.characterRegistrations = match t with
      | .items => c.characters.keys
      | .locations => c.characters.entries.flatMap fun e =>
        e.2.goal?.toList.map (Names.characterGoal e.1)
      | .categories => if c.characters.isEmpty then [] else [Names.characters]
      | .options => if c.characters.isEmpty then [] else [Names.randomizeCharacters] := by
  unfold characterRegistrations
  split
  · rename_i hempty
    have hnil : c.characters.entries = [] := List.isEmpty_iff.mp hempty
    cases t <;> simp [namesIn, Table.keys, hnil]
  · cases t <;>
      simp [namesIn, gatedRegistrations, characterItem, usefulItem, goalLocation, Table.keys,
        Registration.table, Registration.name, List.filter_map, List.filter_flatMap,
        List.map_flatMap, Function.comp_def]

theorem namesIn_cards (t : TableName) :
    namesIn t c.cardRegistrations = match t with
      | .items => c.cards.keys
      | .locations => []
      | .categories => if c.cards.isEmpty then [] else [Names.cards]
      | .options => if c.cards.isEmpty then [] else [Names.randomizeCards] := by
  unfold cardRegistrations
  split
  · rename_i hempty
    have hnil : c.cards.entries = [] := List.isEmpty_iff.mp hempty
    cases t <;> simp [namesIn, Table.keys, hnil]
  · cases t <;>
      simp [namesIn, gatedRegistrations, cardItem, usefulItem, Table.keys,
        Registration.table, Registration.name, List.filter_map, Function.comp_def]

theorem namesIn_victory (t : TableName) (v : Victory) :
    namesIn t (victoryRegistrations v) = match t with
      | .items => v.itemNames
      | .locations => [v.location]
      | .categories | .options => [] := by
  cases v <;> cases t <;> rfl

theorem namesIn_victory? (t : TableName) :
    namesIn t (c.victory?.toList.flatMap victoryRegistrations) = match t with
      | .items => c.victory?.toList.flatMap Victory.itemNames
      | .locations => c.victory?.toList.map Victory.location
      | .categories | .options => [] := by
  rw [Registration.namesIn_flatMap]
  cases c.victory? <;> cases t <;> simp [namesIn_victory]

theorem namesIn_items : namesIn .items c.registrations = c.itemNames := by
  rw [registrations_eq]
  simp [Registration.namesIn_append, c.namesIn_packed (.inl rfl), namesIn_campaign,
    namesIn_extra, namesIn_tracking, namesIn_characters, namesIn_cards, namesIn_victory?,
    itemNames]

theorem namesIn_locations : namesIn .locations c.registrations = c.locationNames := by
  rw [registrations_eq]
  simp [Registration.namesIn_append, c.namesIn_packed (.inr rfl), namesIn_campaign,
    namesIn_extra, namesIn_tracking, namesIn_characters, namesIn_cards, namesIn_victory?,
    locationNames]

/-- What is registered along with packs is an item or a location. -/
theorem table_of_packed {r : Registration} (h : .add r ∈ c.packedSteps) :
    r.table = .items ∨ r.table = .locations := by
  have hcompletion : ∀ {reward location category pack? unlock},
      r ∈ c.completionRegistrations reward location category pack? unlock →
        r.table = .items ∨ r.table = .locations := by
    intro reward location category pack? unlock hr
    unfold completionRegistrations at hr
    split at hr
    · rcases List.mem_pair.mp hr with rfl | rfl
      · exact .inl rfl
      · exact .inr rfl
    · cases hr
  rcases c.add_mem_packedSteps_iff.mp h with ⟨e, -, hr⟩ | ⟨e, -, hr⟩
  · rcases List.mem_append.mp hr with hr | hr
    · rcases List.mem_cons.mp hr with rfl | hr
      · exact .inl rfl
      · obtain ⟨episode, -, rfl⟩ := List.mem_map.mp hr
        exact .inr rfl
    · exact hcompletion hr
  · rcases List.mem_append.mp hr with hr | hr
    · rcases List.mem_pair.mp hr with rfl | rfl
      · exact .inl rfl
      · exact .inr rfl
    · exact hcompletion hr

/-- The categories and options of those sections are the packs'. -/
theorem namesIn_packs {t : TableName} (ht : t = .categories ∨ t = .options) :
    namesIn t (Step.registrations [] c.packedSteps)
      = c.packs.flatMap fun pack => namesIn t [Pack.option pack, Pack.gate pack] := by
  have hadd : ∀ r, .add r ∈ c.packedSteps → r.table ≠ t := by
    intro r hr
    rcases c.table_of_packed hr with h | h <;> rcases ht with rfl | rfl <;> simp [h]
  rw [namesIn, Step.filter_registrations_of_packs hadd, List.map_flatMap]
  rfl

theorem namesIn_categories : namesIn .categories c.registrations = c.categoryNames := by
  have hpack : ∀ pack, namesIn .categories [Pack.option pack, Pack.gate pack]
      = [Pack.categoryName pack] := fun _ => rfl
  rw [registrations_eq]
  simp [Registration.namesIn_append, c.namesIn_packs (.inl rfl), hpack, namesIn_tracking,
    namesIn_characters, namesIn_cards, namesIn_victory?, categoryNames, ← List.map_eq_flatMap]

theorem namesIn_options : namesIn .options c.registrations = c.optionNames := by
  have hpack : ∀ pack, namesIn .options [Pack.option pack, Pack.gate pack]
      = [Pack.optionName pack] := fun _ => rfl
  rw [registrations_eq]
  simp [Registration.namesIn_append, c.namesIn_packs (.inr rfl), hpack, namesIn_tracking,
    namesIn_characters, namesIn_cards, namesIn_victory?, optionNames, ← List.map_eq_flatMap]

/-! ### Clashes -/

/-- Names that end as a pack's category does. -/
theorem categoryName_ne {pack name : String} (h : name.toList.getLast? ≠ some 'C') :
    Pack.categoryName pack ≠ name := by
  rintro rfl
  exact h (by simp [Pack.categoryName])

theorem optionName_ne {pack name : String} (h : name.toList.head? ≠ some 'e') :
    Pack.optionName pack ≠ name := by
  rintro rfl
  exact h (by simp [Pack.optionName])

theorem categoryName_injective {p q : String} (h : Pack.categoryName p = Pack.categoryName q) :
    p = q := by
  have hchars := congrArg String.toList h
  rw [Pack.categoryName, Pack.categoryName, String.toList_append, String.toList_append] at hchars
  exact String.toList_inj.mp (List.append_cancel_right hchars)

theorem nodup_packs : c.packs.Nodup := Step.nodup_fresh [] c.packedSteps

theorem sublist_singleton (absent : Bool) (name : String) :
    (if absent then [] else [name]).Sublist [name] := by
  cases absent
  · exact List.Sublist.refl _
  · exact List.nil_sublist _

theorem tracked_sublist (name : String) : (c.tracked [name]).Sublist [name] := by
  unfold tracked
  split
  · exact List.Sublist.refl _
  · exact List.nil_sublist _

/-- The packs' names among words that none of them can be. -/
theorem nodup_among_words {f : String → String} {before after : List String}
    (hpacks : (c.packs.map f).Nodup) (hwords : (before ++ after).Nodup)
    (hne : ∀ pack, f pack ∉ before ++ after) : (before ++ c.packs.map f ++ after).Nodup := by
  have hperm : (before ++ c.packs.map f ++ after).Perm (c.packs.map f ++ (before ++ after)) := by
    rw [← List.append_assoc]
    exact List.perm_append_comm.append_right after
  refine hperm.nodup_iff.mpr (List.nodup_append.mpr ⟨hpacks, hwords, ?_⟩)
  rintro name hname word hword rfl
  obtain ⟨pack, -, rfl⟩ := List.mem_map.mp hname
  exact hne pack hword

theorem categoryNames_sublist :
    c.categoryNames.Sublist ([Names.completedCampaigns] ++ c.packs.map Pack.categoryName
      ++ [Names.characters, Names.cards]) := by
  rw [categoryNames, List.append_assoc _ _ (if c.cards.isEmpty then [] else [Names.cards])]
  exact ((c.tracked_sublist _).append (List.Sublist.refl _)).append
    ((sublist_singleton _ _).append (sublist_singleton _ _))

theorem optionNames_sublist :
    c.optionNames.Sublist (c.packs.map Pack.optionName
      ++ [Names.randomizeCharacters, Names.randomizeCards]) := by
  rw [optionNames, List.append_assoc]
  exact (List.Sublist.refl _).append ((sublist_singleton _ _).append (sublist_singleton _ _))

/-- **No two categories clash.** -/
theorem nodup_categoryNames : c.categoryNames.Nodup := by
  have hpacks : (c.packs.map Pack.categoryName).Nodup :=
    c.nodup_packs.map fun p q h => categoryName_injective h
  have hall : ([Names.completedCampaigns] ++ c.packs.map Pack.categoryName
      ++ [Names.characters, Names.cards]).Nodup := by
    refine c.nodup_among_words hpacks (by decide) fun pack hmem => ?_
    simp only [List.cons_append, List.nil_append, List.mem_cons, List.not_mem_nil, or_false]
      at hmem
    rcases hmem with h | h | h <;> exact categoryName_ne (by decide) h
  exact hall.sublist c.categoryNames_sublist

/-- **Options clash** only where two packs have the same. -/
theorem nodup_optionNames_iff :
    c.optionNames.Nodup ↔
      ∀ p ∈ c.packs, ∀ q ∈ c.packs, Pack.optionName p = Pack.optionName q → p = q := by
  rw [← List.nodup_map_iff_inj_on c.nodup_packs]
  constructor
  · intro h
    exact h.sublist ((List.sublist_append_left _ _).trans (List.sublist_append_left _ _))
  · intro hpacks
    have hall : ([] ++ c.packs.map Pack.optionName
        ++ [Names.randomizeCharacters, Names.randomizeCards]).Nodup := by
      refine c.nodup_among_words hpacks (by decide) fun pack hmem => ?_
      simp only [List.nil_append, List.mem_cons, List.not_mem_nil, or_false] at hmem
      rcases hmem with h | h <;> exact optionName_ne (by decide) h
    exact hall.sublist c.optionNames_sublist

/-! ### Blank names -/

theorem isBlank_append {s t : String} (h : Text.isBlank t = false) :
    Text.isBlank (s ++ t) = false := by
  rw [Text.isBlank] at h ⊢
  simp [h]

/-- The name of a category is never blank. -/
theorem isBlank_of_mem_categoryNames {name : String} (h : name ∈ c.categoryNames) :
    Text.isBlank name = false := by
  have hmem := c.categoryNames_sublist.subset h
  simp only [List.mem_append, List.mem_map, List.mem_cons, List.not_mem_nil, or_false] at hmem
  rcases hmem with (rfl | ⟨pack, -, rfl⟩) | rfl | rfl
  · decide
  · exact isBlank_append (by decide)
  · decide
  · decide

/-- Nor is that of an option. -/
theorem isBlank_of_mem_optionNames {name : String} (h : name ∈ c.optionNames) :
    Text.isBlank name = false := by
  have hmem := c.optionNames_sublist.subset h
  simp only [List.mem_append, List.mem_map, List.mem_cons, List.not_mem_nil, or_false] at hmem
  rcases hmem with ⟨pack, -, rfl⟩ | rfl | rfl
  · exact isBlank_append (by decide)
  · decide
  · decide

end Catalog

end Worldsmith
