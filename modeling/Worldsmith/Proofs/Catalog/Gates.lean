/-
What is gated in a catalog's world, and what is behind a gate.

A category is gated when options are named in it.  `categories` and `options` list those of a
catalog in full, in order: one of each for every pack, where the catalog first names it, and
one of each for characters and for cards.  Which packs were met before makes no difference to
what is left in the end, for meeting packs one after the other is the same as taking each
where it occurs first (`packs_eq`).

Entities are gated through the categories that they are in, and the first of these is named
after the part that they come from.  Nothing keeps such a name from being spelled like that of
a pack's category, so a part that is in no pack may be gated by one all the same
(`gated_of_compile`).
-/
import Worldsmith.Proofs.Catalog.Parts

namespace Worldsmith

open Registration (entriesIn)

/-- A category that options are named in.  It is part of a game when they are on. -/
def World.Gated (w : World) (name : String) : Prop :=
  ∃ k, (name, k) ∈ w.categories.entries ∧ k.options ≠ []

/-! ### Packs in order -/

namespace Step

def met? : Step → Option String
  | .add _ => none
  | .meet pack => some pack
  | .refuse _ => none

/-- Packs are met for the first time where they occur first. -/
theorem fresh_eq (known : List String) (steps : List Step) :
    fresh known steps = ((steps.filterMap met?).filter (· ∉ known)).eraseDups := by
  induction steps generalizing known with
  | nil => rfl
  | cons step steps ih =>
      cases step with
      | add r => exact ih known
      | refuse e => exact ih known
      | meet pack =>
          have hmet : (Step.meet pack :: steps).filterMap met? = pack :: steps.filterMap met? := rfl
          rw [fresh, hmet]
          -- a new pack is known to the rest, and the rest drops it as one that came before
          by_cases hknown : pack ∈ known
          · rw [if_pos hknown, ih, List.filter_cons_of_neg (by simpa using hknown)]
          · rw [if_neg hknown, ih, List.filter_cons_of_pos (by simpa using hknown),
              List.eraseDups_cons, List.filter_filter]
            congr 3
            funext name
            by_cases heq : name = pack <;> simp [heq]

end Step

namespace Catalog

open Contents

variable (c : Catalog)

/-- **The packs of a catalog**: each where it is named first, by a campaign or else by an extra
episode. -/
theorem packs_eq : c.packs = c.packNames.eraseDups := by
  have hmet : ∀ (pack? : Option String) (rs : List Registration),
      (packSteps pack? rs).filterMap Step.met? = pack?.toList := by
    intro pack? rs
    have hadd : (rs.map Step.add).filterMap Step.met? = [] := by
      simp [List.filterMap_map, Function.comp_def, Step.met?]
    cases pack? <;> simp [packSteps, hadd, Step.met?]
  have hnil : ∀ names : List String, names.filter (· ∉ ([] : List String)) = names := by
    intro names
    simp
  rw [packs, Step.fresh_eq, hnil, packedSteps, packNames, Table.values, Table.values,
    List.filterMap_append, List.filterMap_flatMap, List.filterMap_flatMap]
  simp only [hmet, List.filterMap_eq_flatMap_toList, List.flatMap_map]

/-! ### The tables -/

/-- A category that the option gates. -/
def gate (name : String) (hidden : Bool) (option : String) : Category :=
  { name, hidden, options := [option] }

/-- An option that is on unless the player says otherwise. -/
def toggle (name help : String) : ToggleOption :=
  { name, description := .text help, default := true }

/-- **The categories of a catalog.** -/
def categories : List Category :=
  (if c.trackCompletion then
      [{ name := Names.completedCampaigns, hidden := true, options := [] }] else [])
    ++ (c.packNames.eraseDups.map fun pack =>
      gate (Pack.categoryName pack) true (Pack.optionName pack))
    ++ (if c.characters.isEmpty then [] else
      [gate Names.characters false Names.randomizeCharacters])
    ++ (if c.cards.isEmpty then [] else [gate Names.cards false Names.randomizeCards])

/-- **The options of a catalog.** -/
def options : List ToggleOption :=
  (c.packNames.eraseDups.map fun pack => toggle (Pack.optionName pack) (Pack.description pack))
    ++ (if c.characters.isEmpty then [] else
      [toggle Names.randomizeCharacters (Names.randomizeHelp "characters")])
    ++ (if c.cards.isEmpty then [] else
      [toggle Names.randomizeCards (Names.randomizeHelp "cards")])

theorem mem_categories_iff {k : Category} :
    k ∈ c.categories ↔
      (c.trackCompletion = true ∧ k = completed)
        ∨ (∃ pack ∈ c.packNames, k = gate (Pack.categoryName pack) true (Pack.optionName pack))
        ∨ (c.characters.isEmpty = false ∧ k = gate Names.characters false Names.randomizeCharacters)
        ∨ (c.cards.isEmpty = false ∧ k = gate Names.cards false Names.randomizeCards) := by
  have hcompleted :
      completed = { name := Names.completedCampaigns, hidden := true, options := [] } := rfl
  have hword : ∀ (p : Bool) (k' : Category),
      k ∈ (if p then [] else [k']) ↔ p = false ∧ k = k' := by
    intro p k'
    cases p <;> simp
  simp only [categories, List.mem_append, hword, List.mem_map, List.mem_eraseDups, or_assoc,
    List.mem_ite_nil_right, List.mem_singleton, hcompleted, eq_comm (a := k)]

/-! ### They are what is registered -/

/-- Registrations gate by these categories and by these options, each in this order.  They may
ask for items and locations at any point. -/
structure Gating (rs : List Registration) (ks : List Category) (os : List ToggleOption) :
    Prop where
  categories : entriesIn .categories rs = ks.map fun k => (k.name, .category k)
  options : entriesIn .options rs = os.map fun o => (o.name, .option o)

namespace Gating

theorem append {rs rs' : List Registration} {ks ks' : List Category} {os os' : List ToggleOption}
    (h : Gating rs ks os) (h' : Gating rs' ks' os') :
    Gating (rs ++ rs') (ks ++ ks') (os ++ os') where
  categories := by
    rw [Registration.entriesIn_append, h.categories, h'.categories, List.map_append]
  options := by rw [Registration.entriesIn_append, h.options, h'.options, List.map_append]

/-- Items and locations gate nothing. -/
theorem of_table {rs : List Registration}
    (h : ∀ r ∈ rs, r.table = .items ∨ r.table = .locations) : Gating rs [] [] := by
  have hnone : ∀ t, t ≠ .items → t ≠ .locations → entriesIn t rs = [] := by
    intro t hitems hlocations
    rw [entriesIn, List.filter_eq_nil_iff.mpr, List.map_nil]
    intro r hr
    rcases h r hr with htable | htable
    · simpa [htable] using hitems.symm
    · simpa [htable] using hlocations.symm
  exact ⟨hnone _ (by decide) (by decide), hnone _ (by decide) (by decide)⟩

end Gating

theorem gating_tracking :
    Gating c.trackingRegistrations
      (if c.trackCompletion then
        [{ name := Names.completedCampaigns, hidden := true, options := [] }] else []) [] := by
  unfold trackingRegistrations
  split <;> exact ⟨rfl, rfl⟩

theorem gating_packed :
    Gating (Step.registrations [] c.packedSteps)
      (c.packNames.eraseDups.map fun pack =>
        gate (Pack.categoryName pack) true (Pack.optionName pack))
      (c.packNames.eraseDups.map fun pack =>
        toggle (Pack.optionName pack) (Pack.description pack)) := by
  have hpacks : ∀ t, t = .categories ∨ t = .options →
      entriesIn t (Step.registrations [] c.packedSteps)
        = c.packs.flatMap fun pack => entriesIn t [Pack.option pack, Pack.gate pack] := by
    intro t ht
    have hadd : ∀ r, .add r ∈ c.packedSteps → r.table ≠ t := by
      intro r hr
      rcases c.table_of_packed hr with h | h <;> rcases ht with rfl | rfl <;> simp [h]
    rw [entriesIn, Step.filter_registrations_of_packs hadd, List.map_flatMap]
    rfl
  rw [← packs_eq]
  constructor
  · rw [hpacks _ (.inl rfl), List.map_map, List.map_eq_flatMap]
    rfl
  · rw [hpacks _ (.inr rfl), List.map_map, List.map_eq_flatMap]
    rfl

theorem gating_gated (category option kind : String) :
    Gating (gatedRegistrations category option kind) [gate category false option]
      [toggle option (Names.randomizeHelp kind)] :=
  ⟨rfl, rfl⟩

theorem gating_characters :
    Gating c.characterRegistrations
      (if c.characters.isEmpty then [] else
        [gate Names.characters false Names.randomizeCharacters])
      (if c.characters.isEmpty then [] else
        [toggle Names.randomizeCharacters (Names.randomizeHelp "characters")]) := by
  have hitems : Gating (c.characters.entries.map fun e => characterItem e.1) [] [] := by
    refine Gating.of_table fun r hr => ?_
    obtain ⟨e, -, rfl⟩ := List.mem_map.mp hr
    exact .inl rfl
  have hgoals : Gating (c.characters.entries.flatMap fun e =>
      e.2.goal?.toList.map (goalLocation e.1)) [] [] := by
    refine Gating.of_table fun r hr => ?_
    obtain ⟨e, -, hr⟩ := List.mem_flatMap.mp hr
    obtain ⟨goal, -, rfl⟩ := List.mem_map.mp hr
    exact .inr rfl
  unfold characterRegistrations
  split
  · exact ⟨rfl, rfl⟩
  · exact ((gating_gated _ _ _).append hitems).append hgoals

theorem gating_cards :
    Gating c.cardRegistrations
      (if c.cards.isEmpty then [] else [gate Names.cards false Names.randomizeCards])
      (if c.cards.isEmpty then [] else
        [toggle Names.randomizeCards (Names.randomizeHelp "cards")]) := by
  have hitems : Gating (c.cards.entries.map fun e => cardItem e.1 e.2) [] [] := by
    refine Gating.of_table fun r hr => ?_
    obtain ⟨e, -, rfl⟩ := List.mem_map.mp hr
    exact .inl rfl
  unfold cardRegistrations
  split
  · exact ⟨rfl, rfl⟩
  · exact (gating_gated _ _ _).append hitems

theorem gating_victory : Gating (c.victory?.toList.flatMap victoryRegistrations) [] [] := by
  refine Gating.of_table fun r hr => ?_
  obtain ⟨v, -, hr⟩ := List.mem_flatMap.mp hr
  cases v with
  | oranges location count percent =>
      rcases List.mem_pair.mp hr with rfl | rfl
      · exact .inl rfl
      · exact .inr rfl
  | completedCampaigns location percent =>
      obtain rfl := List.mem_singleton.mp hr
      exact .inr rfl

theorem gating_registrations : Gating c.registrations c.categories c.options := by
  have hall := (((c.gating_tracking.append c.gating_packed).append c.gating_characters).append
    c.gating_cards).append c.gating_victory
  -- tracking comes without an option, and a victory gates nothing
  rw [← registrations_eq, List.append_nil, List.append_nil, List.nil_append] at hall
  exact hall

/-! ### The categories of a part -/

/-- The items that a part gives rise to. -/
def partItemNames (p : Part) : List String := p.unlock :: c.tracked [p.reward]

/-- And the locations. -/
def partLocationNames (p : Part) : List String := p.episodes ++ c.tracked [p.completion]

/-- Categories of a part's entity: one, and after it that of the pack if there is one. -/
def Part.Marks (p : Part) (categories : List String) : Prop :=
  ∃ first, categories = first :: p.pack?.toList.map Pack.categoryName

theorem map_name_partItems (p : Part) : (c.partItems p).map Item.name = c.partItemNames p := by
  unfold partItems completionItems partItemNames tracked
  split <;> rfl

theorem map_name_partLocations (p : Part) :
    (c.partLocations p).map Location.name = c.partLocationNames p := by
  have hepisodes : (p.episodes.map fun episode =>
      locked episode p.category p.pack? p.unlock []).map Location.name = p.episodes := by
    rw [List.map_map]
    exact List.map_id _
  rw [partLocations, List.map_append, hepisodes, completionLocations, partLocationNames, tracked]
  split <;> rfl

theorem categories_of_mem_partItems {p : Part} {i : Item} (h : i ∈ c.partItems p) :
    ∃ first ∈ [Names.campaigns, Names.completedCampaigns],
      i.categories = first :: p.pack?.toList.map Pack.categoryName := by
  rcases List.mem_cons.mp h with rfl | hreward
  · exact ⟨_, List.mem_cons_self, rfl⟩
  · unfold completionItems at hreward
    split at hreward
    · obtain rfl := List.mem_singleton.mp hreward
      exact ⟨_, List.mem_cons_of_mem _ List.mem_cons_self, rfl⟩
    · cases hreward

theorem categories_of_mem_partLocations {p : Part} {l : Location} (h : l ∈ c.partLocations p) :
    ∃ first ∈ [p.category, p.completionCategory],
      l.categories = first :: p.pack?.toList.map Pack.categoryName := by
  rcases List.mem_append.mp h with hepisode | hcompletion
  · obtain ⟨episode, -, rfl⟩ := List.mem_map.mp hepisode
    exact ⟨_, List.mem_cons_self, rfl⟩
  · unfold completionLocations at hcompletion
    split at hcompletion
    · obtain rfl := List.mem_singleton.mp hcompletion
      exact ⟨_, List.mem_cons_of_mem _ List.mem_cons_self, rfl⟩
    · cases hcompletion

theorem itemNames_eq :
    c.itemNames = c.parts.flatMap c.partItemNames ++ c.characters.keys ++ c.cards.keys
      ++ c.victory?.toList.flatMap Victory.itemNames := by
  rw [itemNames, parts, List.flatMap_append, List.flatMap_map, List.flatMap_map]
  rfl

theorem locationNames_eq :
    c.locationNames = c.parts.flatMap c.partLocationNames
      ++ (c.characters.entries.flatMap fun e => e.2.goal?.toList.map (Names.characterGoal e.1))
      ++ c.victory?.toList.map Victory.location := by
  rw [locationNames, parts, List.flatMap_append, List.flatMap_map, List.flatMap_map]
  rfl

/-! ### Catalogs that compile -/

section Compiled

variable {c} {w : World} (h : c.compile.1 = .ok w)
include h

theorem categories_of_compile :
    w.categories.entries = c.categories.map fun k => (k.name, k) := by
  refine World.eq_of_map_entity (fun _ _ h => Entity.category.inj h) ?_
  rw [List.map_map]
  exact (c.entries_of_compile h .categories).trans c.gating_registrations.categories

theorem options_of_compile : w.options.entries = c.options.map fun o => (o.name, o) := by
  refine World.eq_of_map_entity (fun _ _ h => Entity.option.inj h) ?_
  rw [List.map_map]
  exact (c.entries_of_compile h .options).trans c.gating_registrations.options

theorem item_of_part {p : Part} (hp : p ∈ c.parts) {name : String}
    (hname : name ∈ c.partItemNames p) :
    ∃ i ∈ c.partItems p, (name, i) ∈ w.items.entries := by
  rw [← c.map_name_partItems] at hname
  obtain ⟨i, hi, rfl⟩ := List.mem_map.mp hname
  refine ⟨i, hi, (mem_items_iff h).mpr ⟨rfl, (c.hasItem_iff).mpr ?_⟩⟩
  rw [items_eq, List.append_assoc, List.append_assoc]
  exact List.mem_append_left _ (List.mem_flatMap.mpr ⟨p, hp, hi⟩)

theorem location_of_part {p : Part} (hp : p ∈ c.parts) {name : String}
    (hname : name ∈ c.partLocationNames p) :
    ∃ l ∈ c.partLocations p, (name, l) ∈ w.locations.entries := by
  rw [← c.map_name_partLocations] at hname
  obtain ⟨l, hl, rfl⟩ := List.mem_map.mp hname
  refine ⟨l, hl, (mem_locations_iff h).mpr ⟨rfl, (c.hasLocation_iff).mpr ?_⟩⟩
  rw [locations_eq, List.append_assoc]
  exact List.mem_append_left _ (List.mem_flatMap.mpr ⟨p, hp, hl⟩)

/-- **What is gated, and how.**  The categories and options of a catalog's world are those of
the catalog and no others, and an entity that comes from a part is in two categories, the
second of them that of the part's pack, or just in one where there is no pack. -/
theorem gates_of_compile :
    w.categories.entries = c.categories.map (fun k => (k.name, k))
      ∧ w.options.entries = c.options.map (fun o => (o.name, o))
      ∧ w.items.keys = c.parts.flatMap c.partItemNames ++ c.characters.keys ++ c.cards.keys
        ++ c.victory?.toList.flatMap Victory.itemNames
      ∧ w.locations.keys = c.parts.flatMap c.partLocationNames
        ++ (c.characters.entries.flatMap fun e => e.2.goal?.toList.map (Names.characterGoal e.1))
        ++ c.victory?.toList.map Victory.location
      ∧ ∀ p ∈ c.parts,
        (∀ name ∈ c.partItemNames p, ∃ i, (name, i) ∈ w.items.entries ∧ p.Marks i.categories)
        ∧ ∀ name ∈ c.partLocationNames p,
          ∃ l, (name, l) ∈ w.locations.entries ∧ p.Marks l.categories := by
  have hnames : ∀ t, w.names t = Registration.namesIn t c.registrations := by
    intro t
    rw [World.names, c.entries_of_compile h, Registration.map_fst_entriesIn]
  refine ⟨categories_of_compile h, options_of_compile h, ?_, ?_, fun p hp => ⟨?_, ?_⟩⟩
  · rw [← World.names_items, hnames, c.namesIn_items, c.itemNames_eq]
  · rw [← World.names_locations, hnames, c.namesIn_locations, c.locationNames_eq]
  · intro name hname
    obtain ⟨i, hi, hentry⟩ := item_of_part h hp hname
    obtain ⟨first, -, hcategories⟩ := c.categories_of_mem_partItems hi
    exact ⟨i, hentry, first, hcategories⟩
  · intro name hname
    obtain ⟨l, hl, hentry⟩ := location_of_part h hp hname
    obtain ⟨first, -, hcategories⟩ := c.categories_of_mem_partLocations hl
    exact ⟨l, hentry, first, hcategories⟩

end Compiled

/-- A catalog in which packs are shared, also between campaigns and extra episodes. -/
def market : Catalog where
  campaigns := Table.ofList [
    ("Fish", { pack? := some "Harbour" }), ("Cloth", { pack? := some "Big City" }),
    ("Salt", { pack? := some "Harbour" })]
  extraEpisodes := Table.ofList [("Thief", { pack? := some "Big City" }), ("Bell", {})]
  characters := Table.ofList [("Cook", {})]
  cards := Table.ofList [("Coin", { count := 2 })]
  trackCompletion := true

theorem gates_of_compile_market :
    ∃ w, market.compile.1 = .ok w
      ∧ w.categories.entries.map (fun e => (e.1, e.2.hidden, e.2.options)) = [
        ("Completed Campaigns", true, []),
        ("Harbour DLC", true, ["enable_harbour_dlc"]),
        ("Big City DLC", true, ["enable_big_city_dlc"]),
        ("Characters", false, ["randomize_characters"]),
        ("Cards", false, ["randomize_cards"])]
      ∧ w.options.entries.map (fun e => (e.1, e.2.default)) = [
        ("enable_harbour_dlc", true), ("enable_big_city_dlc", true),
        ("randomize_characters", true), ("randomize_cards", true)]
      ∧ (∃ i, ("Salt", i) ∈ w.items.entries
        ∧ ∃ first, i.categories = [first, "Harbour DLC"])
      ∧ ∃ l, ("Bell", l) ∈ w.locations.entries ∧ ∃ first, l.categories = [first] := by
  have hok : market.compile.1.toOption.isSome = true := by decide +kernel
  cases hcompile : market.compile.1 with
  | error e => rw [hcompile] at hok; cases hok
  | ok w =>
      obtain ⟨hcategories, hoptions, -, -, hparts⟩ := gates_of_compile hcompile
      refine ⟨w, rfl, ?_, ?_, ?_, ?_⟩
      · rw [hcategories]
        decide +kernel
      · rw [hoptions]
        decide +kernel
      · have hentry : (("Salt", { pack? := some "Harbour" }) : String × Campaign)
            ∈ market.campaigns.entries := by decide +kernel
        have hpart := market.mem_parts_iff.mpr (.inl ⟨_, hentry, rfl⟩)
        exact (hparts _ hpart).1 "Salt" (by decide +kernel)
      · have hentry : (("Bell", {}) : String × ExtraEpisode)
            ∈ market.extraEpisodes.entries := by decide +kernel
        have hpart := market.mem_parts_iff.mpr (.inr ⟨_, hentry, rfl⟩)
        exact (hparts _ hpart).2 "Bell" (by decide +kernel)

/-! ### Content outside every pack -/

/-- A category that is named after a campaign and is spelled like a pack's. -/
def Clashes (name : String) : Prop :=
  (∃ e ∈ c.campaigns.entries,
      name = Names.campaignEpisodes e.1 ∨ name = Names.campaignCompletionCategory e.1)
    ∧ ∃ pack ∈ c.packNames, name = Pack.categoryName pack

/-- Categories that only sort locations are in parentheses, at the beginning at least. -/
theorem head?_category {p : Part} (hp : p ∈ c.parts) {name : String}
    (hname : name ∈ [p.category, p.completionCategory]) : name.toList.head? = some '(' := by
  have happend : ∀ s t : String, s.toList.head? = some '(' →
      (s ++ t).toList.head? = some '(' := by
    intro s t hs
    rw [String.toList_append, List.head?_append, hs]
    rfl
  rcases c.mem_parts_iff.mp hp with ⟨e, -, rfl⟩ | ⟨e, -, rfl⟩
  · rcases List.mem_pair.mp hname with rfl | rfl
    · exact happend "(Campaign) " e.1 (by decide)
    · exact happend "(Campaign Completion) " e.1 (by decide)
  · have hwords : ∀ word ∈ [Names.extras, Names.extrasCompletion],
        word.toList.head? = some '(' := by decide
    exact hwords name hname

/-- A part's own category clashes when it is spelled like a pack's. -/
theorem clashes_iff_of_part {p : Part} (hp : p ∈ c.parts) {name : String}
    (hname : name ∈ [p.category, p.completionCategory]) :
    c.Clashes name ↔ ∃ pack ∈ c.packNames, name = Pack.categoryName pack := by
  constructor
  · exact fun hclash => hclash.2
  · rintro ⟨pack, hpack, rfl⟩
    refine ⟨?_, pack, hpack, rfl⟩
    rcases c.mem_parts_iff.mp hp with ⟨e, he, rfl⟩ | ⟨e, -, rfl⟩
    · exact ⟨e, he, List.mem_pair.mp hname⟩
    · have hwords : ∀ word ∈ [Names.extras, Names.extrasCompletion],
          word.toList.getLast? ≠ some 'C' := by decide
      exact absurd rfl (categoryName_ne (hwords _ hname))

section Compiled

variable {c} {w : World} (h : c.compile.1 = .ok w)
include h

/-- **The gated categories.** -/
theorem gated_iff {name : String} :
    w.Gated name ↔ (∃ pack ∈ c.packNames, name = Pack.categoryName pack)
      ∨ (c.characters.isEmpty = false ∧ name = Names.characters)
      ∨ (c.cards.isEmpty = false ∧ name = Names.cards) := by
  rw [World.Gated, categories_of_compile h]
  constructor
  · rintro ⟨k, hk, hoptions⟩
    obtain ⟨k', hk', heq⟩ := List.mem_map.mp hk
    obtain ⟨rfl, rfl⟩ := Prod.mk.inj heq
    rcases c.mem_categories_iff.mp hk' with
      ⟨-, rfl⟩ | ⟨pack, hpack, rfl⟩ | ⟨hsome, rfl⟩ | ⟨hsome, rfl⟩
    · exact absurd rfl hoptions
    · exact .inl ⟨pack, hpack, rfl⟩
    · exact .inr (.inl ⟨hsome, rfl⟩)
    · exact .inr (.inr ⟨hsome, rfl⟩)
  · have hgate : ∀ k ∈ c.categories, k.options ≠ [] →
        ∃ k', (k.name, k') ∈ c.categories.map (fun k => (k.name, k)) ∧ k'.options ≠ [] :=
      fun k hk hoptions => ⟨k, List.mem_map_of_mem hk, hoptions⟩
    rintro (⟨pack, hpack, rfl⟩ | ⟨hsome, rfl⟩ | ⟨hsome, rfl⟩)
    · exact hgate _ (c.mem_categories_iff.mpr (.inr (.inl ⟨pack, hpack, rfl⟩))) nofun
    · exact hgate _ (c.mem_categories_iff.mpr (.inr (.inr (.inl ⟨hsome, rfl⟩)))) nofun
    · exact hgate _ (c.mem_categories_iff.mpr (.inr (.inr (.inr ⟨hsome, rfl⟩)))) nofun

/-- Characters and cards apart, what is gated is a pack's. -/
theorem gated_iff_pack {name : String} (hname : name ∉ [Names.characters, Names.cards]) :
    w.Gated name ↔ ∃ pack ∈ c.packNames, name = Pack.categoryName pack := by
  rw [gated_iff h]
  refine or_iff_left ?_
  rintro (⟨-, rfl⟩ | ⟨-, rfl⟩)
  · exact hname (by decide)
  · exact hname (by decide)

/-- **What a pack gates** although it is in no pack: locations of a campaign, where the
campaign's own category is spelled like that of a pack, and nothing else. -/
theorem gated_of_compile :
    ∀ p ∈ c.parts, p.pack? = none →
      (∀ name ∈ c.partItemNames p, ∃ i, (name, i) ∈ w.items.entries
        ∧ ∀ k ∈ i.categories, ¬ w.Gated k)
      ∧ ∀ name ∈ c.partLocationNames p, ∃ l, (name, l) ∈ w.locations.entries
        ∧ ∀ k ∈ l.categories, (w.Gated k ↔ c.Clashes k) := by
  intro p hp hpack
  constructor
  · intro name hname
    obtain ⟨i, hi, hentry⟩ := item_of_part h hp hname
    obtain ⟨first, hfirst, hcategories⟩ := c.categories_of_mem_partItems hi
    refine ⟨i, hentry, fun k hk hgated => ?_⟩
    rw [hcategories, hpack] at hk
    obtain rfl := List.mem_singleton.mp hk
    -- the two words that an item of a part is sorted by are no pack's, and not gated themselves
    have hwords : ∀ word ∈ [Names.campaigns, Names.completedCampaigns],
        word ∉ [Names.characters, Names.cards] ∧ word.toList.getLast? ≠ some 'C' := by decide
    obtain ⟨hword, hlast⟩ := hwords _ hfirst
    obtain ⟨pack, -, heq⟩ := (gated_iff_pack h hword).mp hgated
    exact categoryName_ne hlast heq.symm
  · intro name hname
    obtain ⟨l, hl, hentry⟩ := location_of_part h hp hname
    obtain ⟨first, hfirst, hcategories⟩ := c.categories_of_mem_partLocations hl
    refine ⟨l, hentry, fun k hk => ?_⟩
    rw [hcategories, hpack] at hk
    obtain rfl := List.mem_singleton.mp hk
    have hword : k ∉ [Names.characters, Names.cards] := by
      have hwords : ∀ word ∈ [Names.characters, Names.cards],
          word.toList.head? ≠ some '(' := by decide
      exact fun hmem => hwords k hmem (c.head?_category hp hfirst)
    rw [gated_iff_pack h hword, c.clashes_iff_of_part hp hfirst]

end Compiled

/-- A catalog with a campaign that is in no pack, and with a pack that is called like the
category of another campaign would be. -/
def orchard : Catalog where
  campaigns := Table.ofList [("Apple DLC", {}), ("Pear", { pack? := some "(Campaign) Apple" })]
  trackCompletion := true

theorem gated_of_compile_orchard :
    ∃ w, orchard.compile.1 = .ok w
      ∧ (∃ i, ("Apple DLC", i) ∈ w.items.entries ∧ ∀ k ∈ i.categories, ¬ w.Gated k)
      ∧ ∃ l, ("Apple DLC (All Episodes)", l) ∈ w.locations.entries
        ∧ ∀ k ∈ l.categories, (w.Gated k ↔ orchard.Clashes k) := by
  have hok : orchard.compile.1.toOption.isSome = true := by decide +kernel
  have hentry : (("Apple DLC", {}) : String × Campaign) ∈ orchard.campaigns.entries := by
    decide +kernel
  have hpart := orchard.mem_parts_iff.mpr (.inl ⟨_, hentry, rfl⟩)
  cases hcompile : orchard.compile.1 with
  | error e => rw [hcompile] at hok; cases hok
  | ok w =>
      obtain ⟨hitems, hlocations⟩ := gated_of_compile hcompile _ hpart rfl
      exact ⟨w, rfl, hitems _ (by decide +kernel), hlocations _ (by decide +kernel)⟩

/-- **Content outside every pack may be gated.**  The campaign is in no pack, but its location
is in the category that the pack of the other campaign gates. -/
theorem gated_outside_packs :
    (("Apple DLC", {}) : String × Campaign) ∈ orchard.campaigns.entries
      ∧ ∃ w, orchard.compile.1 = .ok w
        ∧ ∃ l, ("Apple DLC", l) ∈ w.locations.entries ∧ ∃ k ∈ l.categories, w.Gated k := by
  have htables : orchard.compile.1.toOption.map (fun w =>
      ((w.locations.entries.map fun e => (e.1, e.2.categories)).head?, w.categories.entries))
        = some (some ("Apple DLC", ["(Campaign) Apple DLC"]), [
          ("Completed Campaigns", { name := "Completed Campaigns", hidden := true, options := [] }),
          ("(Campaign) Apple DLC", gate "(Campaign) Apple DLC" true "enable_campaign_apple_dlc")]) := by
    decide +kernel
  refine ⟨by decide +kernel, ?_⟩
  cases hcompile : orchard.compile.1 with
  | error e => rw [hcompile] at htables; cases htables
  | ok w =>
      rw [hcompile] at htables
      obtain ⟨hlocation, hcategories⟩ := Prod.mk.inj (Option.some.inj htables)
      obtain ⟨⟨name, l⟩, hl, heq⟩ := List.mem_map.mp (List.mem_of_head? hlocation)
      obtain ⟨rfl, hl'⟩ := Prod.mk.inj heq
      have hgated : w.Gated "(Campaign) Apple DLC" := by
        refine ⟨gate "(Campaign) Apple DLC" true "enable_campaign_apple_dlc", ?_, nofun⟩
        rw [hcategories]
        exact List.mem_cons_of_mem _ List.mem_cons_self
      exact ⟨w, rfl, l, hl, _, hl' ▸ List.mem_cons_self, hgated⟩

end Catalog

end Worldsmith
