/-
Which catalogs compile.

`Buildable` says it in terms of the catalog alone: the names of items and of locations are
distinct and not blank, packs do not share an option, counts are positive, every name that a
requirement is made of can be written in one, and the victory asks for a good amount of
something that is there.

A catalog compiles when its registrations go through, that is when names are distinct in each
table and no registration is at fault (`exists_compile_iff`).  Names are those of
`Proofs/Catalog/Names.lean`, and a fault is a blank name or a fault of the specification; the
latter are found section by section.  So `compiles_iff` leaves nothing out: there is no other
reason for which a catalog does not compile, and each of these is one.
-/
import Worldsmith.Proofs.Catalog.Building
import Worldsmith.Proofs.Catalog.Names
import Worldsmith.Proofs.Requirement.Tree

namespace Worldsmith

open Registration (namesIn)

namespace Catalog

/-- The packs that content belongs to. -/
def packNames (c : Catalog) : List String :=
  c.campaigns.values.filterMap (·.pack?) ++ c.extraEpisodes.values.filterMap (·.pack?)

/-- **What it takes to compile.** -/
structure Buildable (c : Catalog) : Prop where
  itemsDistinct : c.itemNames.Nodup
  itemsNamed : ∀ name ∈ c.itemNames, Text.isBlank name = false
  locationsDistinct : c.locationNames.Nodup
  locationsNamed : ∀ name ∈ c.locationNames, Text.isBlank name = false
  /-- Different packs are enabled by different options. -/
  packsDistinct : ∀ p ∈ c.packNames, ∀ q ∈ c.packNames,
    Pack.optionName p = Pack.optionName q → p = q
  cardsPositive : ∀ e ∈ c.cards.entries, e.2.count ≠ 0
  orangesPositive : ∀ location count percent,
    c.victory? = some (.oranges location count percent) → count ≠ 0
  campaignsLegal : ∀ e ∈ c.campaigns.entries,
    (Subject.item (Names.campaignUnlock c e.1)).Legal
  extrasLegal : ∀ e ∈ c.extraEpisodes.entries, (Subject.item (Names.extraUnlock e.1)).Legal
  /-- A character may have any name as long as there is no goal to reach with it. -/
  goalsLegal : ∀ e ∈ c.characters.entries, e.2.goal? ≠ none → (Subject.item e.1).Legal
  percentGood : ∀ v, c.victory? = some v → Amount.IsGood v.percent
  /-- Completed campaigns are counted only where they are tracked. -/
  completionTracked : ∀ location percent,
    c.victory? = some (.completedCampaigns location percent) → c.trackCompletion = true

variable (c : Catalog)

theorem mem_packNames_iff {pack : String} : pack ∈ c.packNames ↔ pack ∈ c.packs := by
  rw [mem_packs_iff]
  simp [packNames, Table.values]

/-! ### Faults of specifications -/

theorem specFault?_location_eq_none_iff {name : String} {spec : Location.Spec} {r : Requirement}
    (hrequires : spec.requires? = some r) :
    (Registration.location name spec).specFault? = none ↔ r.fault? = none := by
  simp [Registration.specFault?, hrequires]

theorem specFault?_lockedLocation_eq_none_iff {name unlock : String}
    {category : Reference Category} {pack? : Option String} :
    (lockedLocation name category pack? unlock).specFault? = none
      ↔ (Subject.item unlock).Legal := by
  rw [lockedLocation, specFault?_location_eq_none_iff rfl, Requirement.fault?_subject_eq_none_iff,
    Subject.fault?_eq_none_iff]

theorem specFault?_completion {reward location unlock : String} {category : Reference Category}
    {pack? : Option String} (hunlock : (Subject.item unlock).Legal) :
    ∀ r ∈ c.completionRegistrations reward location category pack? unlock,
      r.specFault? = none := by
  intro r hr
  unfold completionRegistrations at hr
  split at hr
  · rcases List.mem_pair.mp hr with rfl | rfl
    · rfl
    · rw [rewardLocation, specFault?_location_eq_none_iff rfl,
        Requirement.fault?_subject_eq_none_iff, Subject.fault?_eq_none_iff]
      exact hunlock
  · cases hr

theorem specFault?_campaign_iff (name : String) (campaign : Campaign) :
    (∀ r ∈ c.campaignRegistrations name campaign, r.specFault? = none)
      ↔ (Subject.item (Names.campaignUnlock c name)).Legal := by
  constructor
  · intro h
    -- there is an episode, whatever the campaign says
    obtain ⟨episode, hepisode⟩ : ∃ episode, episode ∈ episodeNames name campaign := by
      unfold episodeNames
      cases campaign.regularEpisodes <;> simp
    have hr := h _ (List.mem_append_left _ (List.mem_cons_of_mem _ (List.mem_map_of_mem hepisode)))
    exact specFault?_lockedLocation_eq_none_iff.mp hr
  · intro hlegal r hr
    rcases List.mem_append.mp hr with hr | hr
    · rcases List.mem_cons.mp hr with rfl | hr
      · rfl
      · obtain ⟨episode, -, rfl⟩ := List.mem_map.mp hr
        exact specFault?_lockedLocation_eq_none_iff.mpr hlegal
    · exact c.specFault?_completion hlegal r hr

theorem specFault?_extra_iff (name : String) (extra : ExtraEpisode) :
    (∀ r ∈ c.extraRegistrations name extra, r.specFault? = none)
      ↔ (Subject.item (Names.extraUnlock name)).Legal := by
  constructor
  · intro h
    have hr := h _ (List.mem_append_left _ (List.mem_cons_of_mem _ List.mem_cons_self))
    exact specFault?_lockedLocation_eq_none_iff.mp hr
  · intro hlegal r hr
    rcases List.mem_append.mp hr with hr | hr
    · rcases List.mem_pair.mp hr with rfl | rfl
      · rfl
      · exact specFault?_lockedLocation_eq_none_iff.mpr hlegal
    · exact c.specFault?_completion hlegal r hr

theorem specFault?_gated {category option kind : String} :
    ∀ r ∈ gatedRegistrations category option kind, r.specFault? = none := by
  intro r hr
  rcases List.mem_pair.mp hr with rfl | rfl <;> rfl

theorem specFault?_goalLocation_eq_none_iff {name goal : String} :
    (goalLocation name goal).specFault? = none ↔ (Subject.item name).Legal := by
  rw [goalLocation, specFault?_location_eq_none_iff rfl, Requirement.fault?_gate_eq_none_iff,
    Requirement.fault?_subject_eq_none_iff, Subject.fault?_eq_none_iff]

theorem specFault?_characters_iff :
    (∀ r ∈ c.characterRegistrations, r.specFault? = none)
      ↔ ∀ e ∈ c.characters.entries, e.2.goal? ≠ none → (Subject.item e.1).Legal := by
  have hitem : ∀ name, (characterItem name).specFault? = none := fun _ => rfl
  unfold characterRegistrations
  split
  · rename_i hempty
    have hnil : c.characters.entries = [] := List.isEmpty_iff.mp hempty
    simp [hnil]
  · rw [List.forall_mem_append, List.forall_mem_append]
    constructor
    · rintro ⟨-, hgoals⟩ e he hgoal
      obtain ⟨goal, hgoal⟩ := Option.ne_none_iff_exists'.mp hgoal
      refine specFault?_goalLocation_eq_none_iff.mp (hgoals (goalLocation e.1 goal) ?_)
      exact List.mem_flatMap.mpr ⟨e, he, by simp [hgoal]⟩
    · intro hlegal
      refine ⟨⟨specFault?_gated, fun r hr => ?_⟩, fun r hr => ?_⟩
      · obtain ⟨e, -, rfl⟩ := List.mem_map.mp hr
        exact hitem e.1
      · obtain ⟨e, he, hr⟩ := List.mem_flatMap.mp hr
        obtain ⟨goal, hgoal, rfl⟩ := List.mem_map.mp hr
        refine specFault?_goalLocation_eq_none_iff.mpr (hlegal e he ?_)
        rw [Option.mem_toList.mp hgoal]
        exact Option.some_ne_none goal

theorem specFault?_cards_iff :
    (∀ r ∈ c.cardRegistrations, r.specFault? = none) ↔ ∀ e ∈ c.cards.entries, e.2.count ≠ 0 := by
  have hcard : ∀ name card, (cardItem name card).specFault? = none ↔ card.count ≠ 0 := by
    intro name card
    simp [cardItem, usefulItem, Registration.specFault?]
  unfold cardRegistrations
  split
  · rename_i hempty
    have hnil : c.cards.entries = [] := List.isEmpty_iff.mp hempty
    simp [hnil]
  · rw [List.forall_mem_append, List.forall_mem_map]
    simp only [hcard]
    exact ⟨fun h => h.2, fun h => ⟨specFault?_gated, h⟩⟩

theorem specFault?_victoryLocation_eq_none_iff {name percent : String} {s : Subject}
    (hs : s.fault? = none) :
    (victoryLocation name (.threshold s (Amount.ofText percent))).specFault? = none
      ↔ Amount.IsGood percent := by
  rw [victoryLocation, specFault?_location_eq_none_iff rfl,
    Requirement.fault?_threshold_eq_none_iff, Amount.fault?_ofText_eq_none_iff]
  exact and_iff_right hs

theorem specFault?_victory_iff (v : Victory) :
    (∀ r ∈ victoryRegistrations v, r.specFault? = none)
      ↔ (∀ location count percent, v = .oranges location count percent → count ≠ 0)
        ∧ Amount.IsGood v.percent := by
  cases v with
  | oranges location count percent =>
      have horange : (orangeItem count).specFault? = none ↔ count ≠ 0 := by
        simp [orangeItem, Registration.specFault?]
      rw [victoryRegistrations, List.forall_mem_cons, List.forall_mem_singleton, horange,
        specFault?_victoryLocation_eq_none_iff (by decide)]
      simp [Victory.percent]
  | completedCampaigns location percent =>
      rw [victoryRegistrations, List.forall_mem_singleton,
        specFault?_victoryLocation_eq_none_iff (by decide)]
      simp [Victory.percent]

/-- The fields that are about one section each. -/
theorem specFault?_registrations_iff :
    (∀ r ∈ c.registrations, r.specFault? = none) ↔
      (∀ e ∈ c.campaigns.entries, (Subject.item (Names.campaignUnlock c e.1)).Legal)
        ∧ (∀ e ∈ c.extraEpisodes.entries, (Subject.item (Names.extraUnlock e.1)).Legal)
        ∧ (∀ e ∈ c.characters.entries, e.2.goal? ≠ none → (Subject.item e.1).Legal)
        ∧ (∀ e ∈ c.cards.entries, e.2.count ≠ 0)
        ∧ ∀ v, c.victory? = some v →
          (∀ location count percent, v = .oranges location count percent → count ≠ 0)
            ∧ Amount.IsGood v.percent := by
  have htracking : ∀ r ∈ c.trackingRegistrations, r.specFault? = none := by
    intro r hr
    unfold trackingRegistrations at hr
    split at hr
    · obtain rfl := List.mem_singleton.mp hr
      rfl
    · cases hr
  have hpack : ∀ pack, (Pack.option pack).specFault? = none ∧ (Pack.gate pack).specFault? = none :=
    fun _ => ⟨rfl, rfl⟩
  simp only [forall_registrations_iff, specFault?_campaign_iff, specFault?_extra_iff,
    specFault?_characters_iff, specFault?_cards_iff, specFault?_victory_iff]
  constructor
  · intro h
    obtain ⟨-, hcampaigns, hextras, -, hrest⟩ := h
    exact ⟨hcampaigns, hextras, hrest⟩
  · intro h
    obtain ⟨hcampaigns, hextras, hrest⟩ := h
    exact ⟨htracking, hcampaigns, hextras, fun pack _ => hpack pack, hrest⟩

/-! ### All together -/

/-- Nothing is wrong with any registration when no name is blank and no specification is
wrong. -/
theorem fault?_registrations_iff :
    (∀ r ∈ c.registrations, r.fault? = none) ↔
      (∀ name ∈ c.itemNames, Text.isBlank name = false)
        ∧ (∀ name ∈ c.locationNames, Text.isBlank name = false)
        ∧ ∀ r ∈ c.registrations, r.specFault? = none := by
  rw [← namesIn_items, ← namesIn_locations]
  simp only [Registration.fault?_eq_none_iff]
  constructor
  · intro h
    refine ⟨fun name hmem => ?_, fun name hmem => ?_, fun r hr => (h r hr).2⟩
    · obtain ⟨r, hr, -, rfl⟩ := Registration.mem_namesIn_iff.mp hmem
      exact (h r hr).1
    · obtain ⟨r, hr, -, rfl⟩ := Registration.mem_namesIn_iff.mp hmem
      exact (h r hr).1
  · rintro ⟨hitems, hlocations, hspecs⟩ r hr
    refine ⟨?_, hspecs r hr⟩
    have hmem := Registration.mem_namesIn hr
    cases htable : r.table with
    | items => exact hitems _ (htable ▸ hmem)
    | locations => exact hlocations _ (htable ▸ hmem)
    | categories =>
        rw [htable, namesIn_categories] at hmem
        exact c.isBlank_of_mem_categoryNames hmem
    | options =>
        rw [htable, namesIn_options] at hmem
        exact c.isBlank_of_mem_optionNames hmem

/-- Names are distinct in each table when they are where a clash is possible. -/
theorem nodup_registrations_iff :
    (∀ t, (namesIn t c.registrations).Nodup) ↔
      c.itemNames.Nodup ∧ c.locationNames.Nodup
        ∧ ∀ p ∈ c.packNames, ∀ q ∈ c.packNames, Pack.optionName p = Pack.optionName q → p = q := by
  simp only [mem_packNames_iff]
  rw [← nodup_optionNames_iff, ← namesIn_items, ← namesIn_locations, ← namesIn_options]
  constructor
  · intro h
    exact ⟨h .items, h .locations, h .options⟩
  · rintro ⟨hitems, hlocations, hoptions⟩ t
    cases t with
    | items => exact hitems
    | locations => exact hlocations
    | categories => rw [namesIn_categories]; exact c.nodup_categoryNames
    | options => exact hoptions

/-- **A catalog compiles just when it is buildable.** -/
theorem compiles_iff : (∃ w, c.compile.1 = .ok w) ↔ c.Buildable := by
  rw [exists_compile_iff, refuse_notMem_plan_iff, nodup_registrations_iff, fault?_registrations_iff,
    specFault?_registrations_iff]
  constructor
  · rintro ⟨htracked, ⟨hitems, hlocations, hpacks⟩, hitemNames, hlocationNames, hcampaigns,
      hextras, hgoals, hcards, hvictory⟩
    exact {
      itemsDistinct := hitems
      itemsNamed := hitemNames
      locationsDistinct := hlocations
      locationsNamed := hlocationNames
      packsDistinct := hpacks
      cardsPositive := hcards
      orangesPositive := fun location count percent hv =>
        (hvictory _ hv).1 location count percent rfl
      campaignsLegal := hcampaigns
      extrasLegal := hextras
      goalsLegal := hgoals
      percentGood := fun v hv => (hvictory v hv).2
      completionTracked := htracked }
  · intro h
    refine ⟨h.completionTracked, ⟨h.itemsDistinct, h.locationsDistinct, h.packsDistinct⟩,
      h.itemsNamed, h.locationsNamed, h.campaignsLegal, h.extrasLegal, h.goalsLegal,
      h.cardsPositive, fun v hv => ⟨?_, h.percentGood v hv⟩⟩
    rintro location count percent rfl
    exact h.orangesPositive location count percent hv

/-- A character takes the name of a campaign, and the name that the campaign gets instead is
that of another. -/
example : ¬ (itemNames {
    campaigns := Table.ofList [("Rise", {}), ("Rise (Campaign)", {})]
    characters := Table.ofList [("Rise", {})] }).Nodup := by
  decide

end Catalog

end Worldsmith
