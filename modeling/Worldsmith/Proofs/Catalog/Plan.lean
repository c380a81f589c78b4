/-
What a catalog registers, said without running anything.

`plan` lists the steps of building, one section of the catalog after the other.  It holds
the same specifications as the build does, but every entity that the build hands on stands
there as it is specified, and the category of completed campaigns is there when the catalog
tracks completion.  `registrations` is what the plan comes down to in a world of its own.

To say something of all registrations it is enough to say it of those of each section, of
one campaign, one extra episode and one pack (`forall_registrations_iff`).
-/
import Worldsmith.Catalog.World
import Worldsmith.Proofs.Catalog.Expansion

namespace Worldsmith

namespace Catalog

/-! ### The plan -/

/-- The category of completed campaigns. -/
def completed : Category := Category.ofSpec Names.completedCampaigns { hidden := true }

def completed? (c : Catalog) : Option Category :=
  if c.trackCompletion then some completed else none

/-- A category and after it that of the pack, if there is one. -/
def inPack (first : Reference Category) (pack? : Option String) : Reference Category :=
  withPacks first (pack?.toList.map Pack.category)

/-- An item that the player needs to get on. -/
def keyItem (name : String) (category : Reference Category) (pack? : Option String) :
    Registration :=
  .item name (progression (inPack category pack?))

/-- A location behind an item. -/
def lockedLocation (name : String) (category : Reference Category) (pack? : Option String)
    (unlock : String) : Registration :=
  .location name {
    categories? := some (inPack category pack?)
    requires? := some (.subject (.item unlock)) }

/-- A location behind an item, where another item is found. -/
def rewardLocation (name : String) (category : Reference Category) (pack? : Option String)
    (unlock : String) (reward : String) : Registration :=
  .location name {
    categories? := some (inPack category pack?)
    requires? := some (.subject (.item unlock))
    placedItems? := some (.entity
      (Item.ofSpec reward (progression (inPack (.entity completed) pack?)))) }

/-- The episodes of a campaign: those with a number and the final one, or the one that has
the campaign's name. -/
def episodeNames (name : String) (campaign : Campaign) : List String :=
  match campaign.regularEpisodes with
  | 0 => [name]
  | n => (List.range n).map (Names.episode name) ++ [Names.finalEpisode name]

/-- Where completion is tracked: an item for it, and the location where it is found. -/
def completionRegistrations (c : Catalog) (reward location : String)
    (category : Reference Category) (pack? : Option String) (unlock : String) :
    List Registration :=
  if c.trackCompletion then
    [keyItem reward (.entity completed) pack?,
      rewardLocation location category pack? unlock reward]
  else []

def campaignRegistrations (c : Catalog) (name : String) (campaign : Campaign) :
    List Registration :=
  keyItem (Names.campaignUnlock c name) (.name Names.campaigns) campaign.pack?
    :: (episodeNames name campaign).map (fun episode =>
        lockedLocation episode (.name (Names.campaignEpisodes name)) campaign.pack?
          (Names.campaignUnlock c name))
    ++ c.completionRegistrations (Names.campaignCompletion name) (Names.campaignCompletion name)
      (.name (Names.campaignCompletionCategory name)) campaign.pack?
      (Names.campaignUnlock c name)

def extraRegistrations (c : Catalog) (name : String) (extra : ExtraEpisode) :
    List Registration :=
  [keyItem (Names.extraUnlock name) (.name Names.campaigns) extra.pack?,
    lockedLocation name (.name Names.extras) extra.pack? (Names.extraUnlock name)]
    ++ c.completionRegistrations (Names.extraComplete name) (Names.extraCompletion name)
      (.name Names.extrasCompletion) extra.pack? (Names.extraUnlock name)

def randomizeSpec (kind : String) : ToggleOption.Spec :=
  { description := .text (Names.randomizeHelp kind), default := true }

def gatedSpec (option kind : String) : Category.Spec :=
  { options? := some (.entity (ToggleOption.ofSpec option (randomizeSpec kind))) }

/-- An option and the category that it gates. -/
def gatedRegistrations (category option kind : String) : List Registration :=
  [.option option (randomizeSpec kind), .category category (gatedSpec option kind)]

/-- An item that is good to have, in a gated category. -/
def usefulItem (count? : Option UInt32) (category option kind name : String) : Registration :=
  .item name {
    count?, flags := { useful := true }
    categories? := some (.entity (Category.ofSpec category (gatedSpec option kind))) }

def characterItem (name : String) : Registration :=
  usefulItem none Names.characters Names.randomizeCharacters "characters" name

def goalLocation (name goal : String) : Registration :=
  .location (Names.characterGoal name goal) {
    categories? := some (.name Names.goals)
    requires? := some (.gate .optOne (.subject (.item name))) }

def characterRegistrations (c : Catalog) : List Registration :=
  if c.characters.isEmpty then []
  else gatedRegistrations Names.characters Names.randomizeCharacters "characters"
    ++ (c.characters.entries.map fun e => characterItem e.1)
    ++ c.characters.entries.flatMap fun e => e.2.goal?.toList.map (goalLocation e.1)

def cardItem (name : String) (card : Card) : Registration :=
  usefulItem (some card.count) Names.cards Names.randomizeCards "cards" name

def cardRegistrations (c : Catalog) : List Registration :=
  if c.cards.isEmpty then []
  else gatedRegistrations Names.cards Names.randomizeCards "cards"
    ++ c.cards.entries.map fun e => cardItem e.1 e.2

def orangeItem (count : UInt32) : Registration :=
  .item Names.orange { progression (.name Names.oranges) with count? := some count }

def victoryLocation (name : String) (requires : Requirement) : Registration :=
  .location name {
    categories? := some (.name Names.victory), requires? := some requires, victory := true }

def victoryRegistrations : Victory → List Registration
  | .oranges location count percent => [
      orangeItem count,
      victoryLocation location (.threshold (.item Names.orange) (Amount.ofText percent))]
  | .completedCampaigns location percent => [
      victoryLocation location
        (.threshold (.category Names.completedCampaigns) (Amount.ofText percent))]

/-- A victory that counts what is not tracked is refused. -/
def victoryRefusals (c : Catalog) : Victory → List Step
  | .oranges .. => []
  | .completedCampaigns location _ =>
    if c.trackCompletion then [] else [.refuse (.completionUntracked location)]

/-- Content that may belong to a pack is registered after the pack. -/
def packSteps (pack? : Option String) (rs : List Registration) : List Step :=
  pack?.toList.map .meet ++ rs.map .add

def trackingRegistrations (c : Catalog) : List Registration :=
  if c.trackCompletion then [.category Names.completedCampaigns { hidden := true }] else []

/-- The sections that packs occur in. -/
def packedSteps (c : Catalog) : List Step :=
  (c.campaigns.entries.flatMap fun e => packSteps e.2.pack? (c.campaignRegistrations e.1 e.2))
    ++ c.extraEpisodes.entries.flatMap fun e =>
      packSteps e.2.pack? (c.extraRegistrations e.1 e.2)

/-- Everything after the category of completed campaigns. -/
def contentSteps (c : Catalog) : List Step :=
  c.packedSteps ++ c.characterRegistrations.map .add ++ c.cardRegistrations.map .add
    ++ c.victory?.toList.flatMap c.victoryRefusals
    ++ (c.victory?.toList.flatMap victoryRegistrations).map .add

/-- **What building the catalog does**, in this order. -/
def plan (c : Catalog) : List Step :=
  c.trackingRegistrations.map .add ++ c.contentSteps

variable (c : Catalog)

/-! ### Sections -/

/-- Everything that the catalog registers in a world of its own. -/
def registrations : List Registration := Step.registrations [] c.plan

/-- The packs of the catalog, in the order in which they are met. -/
def packs : List String := Step.fresh [] c.packedSteps

theorem registrations_eq :
    c.registrations
      = c.trackingRegistrations ++ Step.registrations [] c.packedSteps
        ++ c.characterRegistrations ++ c.cardRegistrations
        ++ c.victory?.toList.flatMap victoryRegistrations := by
  have hrefusals : ∀ known,
      Step.registrations known (c.victory?.toList.flatMap c.victoryRefusals) = [] := by
    intro known
    cases c.victory? with
    | none => rfl
    | some v =>
        rw [Option.toList_some, List.flatMap_singleton]
        cases v with
        | oranges location count percent => rfl
        | completedCampaigns location percent =>
            rw [victoryRefusals]
            split <;> rfl
  rw [registrations, plan, contentSteps]
  simp [Step.registrations_append, hrefusals]

theorem add_mem_packSteps_iff {pack? : Option String} {rs : List Registration}
    {r : Registration} : .add r ∈ packSteps pack? rs ↔ r ∈ rs := by
  simp [packSteps]

theorem meet_mem_packSteps_iff {pack? : Option String} {rs : List Registration}
    {pack : String} : .meet pack ∈ packSteps pack? rs ↔ pack? = some pack := by
  simp [packSteps]

theorem refuse_notMem_packSteps (pack? : Option String) (rs : List Registration)
    (e : CatalogError) : .refuse e ∉ packSteps pack? rs := by
  simp [packSteps]

theorem mem_packs_iff {pack : String} :
    pack ∈ c.packs ↔
      (∃ e ∈ c.campaigns.entries, e.2.pack? = some pack)
        ∨ ∃ e ∈ c.extraEpisodes.entries, e.2.pack? = some pack := by
  simp only [packs, Step.mem_fresh_iff, packedSteps, List.mem_append, List.mem_flatMap,
    meet_mem_packSteps_iff, List.not_mem_nil, not_false_eq_true, and_true]

theorem add_mem_packedSteps_iff {r : Registration} :
    .add r ∈ c.packedSteps ↔
      (∃ e ∈ c.campaigns.entries, r ∈ c.campaignRegistrations e.1 e.2)
        ∨ ∃ e ∈ c.extraEpisodes.entries, r ∈ c.extraRegistrations e.1 e.2 := by
  simp only [packedSteps, List.mem_append, List.mem_flatMap, add_mem_packSteps_iff]

/-- **What holds in every section holds of all registrations.** -/
theorem forall_registrations_iff {P : Registration → Prop} :
    (∀ r ∈ c.registrations, P r) ↔
      (∀ r ∈ c.trackingRegistrations, P r)
        ∧ (∀ e ∈ c.campaigns.entries, ∀ r ∈ c.campaignRegistrations e.1 e.2, P r)
        ∧ (∀ e ∈ c.extraEpisodes.entries, ∀ r ∈ c.extraRegistrations e.1 e.2, P r)
        ∧ (∀ pack ∈ c.packs, P (Pack.option pack) ∧ P (Pack.gate pack))
        ∧ (∀ r ∈ c.characterRegistrations, P r)
        ∧ (∀ r ∈ c.cardRegistrations, P r)
        ∧ ∀ v, c.victory? = some v → ∀ r ∈ victoryRegistrations v, P r := by
  have hpacked : (∀ r ∈ Step.registrations [] c.packedSteps, P r) ↔
      (∀ e ∈ c.campaigns.entries, ∀ r ∈ c.campaignRegistrations e.1 e.2, P r)
        ∧ (∀ e ∈ c.extraEpisodes.entries, ∀ r ∈ c.extraRegistrations e.1 e.2, P r)
        ∧ ∀ pack ∈ c.packs, P (Pack.option pack) ∧ P (Pack.gate pack) := by
    constructor
    · intro h
      refine ⟨fun e he r hr => ?_, fun e he r hr => ?_, fun pack hpack => ⟨?_, ?_⟩⟩
      · exact h r (Step.mem_registrations_iff.mpr
          (.inl (c.add_mem_packedSteps_iff.mpr (.inl ⟨e, he, hr⟩))))
      · exact h r (Step.mem_registrations_iff.mpr
          (.inl (c.add_mem_packedSteps_iff.mpr (.inr ⟨e, he, hr⟩))))
      · exact h _ (Step.mem_registrations_iff.mpr (.inr ⟨pack, hpack, .inl rfl⟩))
      · exact h _ (Step.mem_registrations_iff.mpr (.inr ⟨pack, hpack, .inr rfl⟩))
    · rintro ⟨hcampaigns, hextras, hpacks⟩ r hr
      rcases Step.mem_registrations_iff.mp hr with hadd | ⟨pack, hpack, rfl | rfl⟩
      · rcases c.add_mem_packedSteps_iff.mp hadd with ⟨e, he, hr⟩ | ⟨e, he, hr⟩
        · exact hcampaigns e he r hr
        · exact hextras e he r hr
      · exact (hpacks pack hpack).1
      · exact (hpacks pack hpack).2
  have hvictory : (∀ r ∈ c.victory?.toList.flatMap victoryRegistrations, P r) ↔
      ∀ v, c.victory? = some v → ∀ r ∈ victoryRegistrations v, P r := by
    cases c.victory? <;> simp
  simp only [registrations_eq, List.forall_mem_append, hpacked, hvictory, and_assoc]

/-- The plan refuses nothing but a victory that counts what is not tracked. -/
theorem refuse_notMem_plan_iff :
    (∀ e, .refuse e ∉ c.plan) ↔
      ∀ location percent, c.victory? = some (.completedCampaigns location percent) →
        c.trackCompletion = true := by
  have hplan : ∀ e, .refuse e ∈ c.plan ↔
      ∃ v, c.victory? = some v ∧ .refuse e ∈ c.victoryRefusals v := by
    intro e
    simp [plan, contentSteps, packedSteps, refuse_notMem_packSteps]
  simp only [hplan]
  constructor
  · intro h location percent hv
    by_contra htrack
    exact h (.completionUntracked location) ⟨_, hv, by simp [victoryRefusals, htrack]⟩
  · rintro h e ⟨v, hv, he⟩
    cases v with
    | oranges location count percent => cases he
    | completedCampaigns location percent => simp [victoryRefusals, h location percent hv] at he

end Catalog

end Worldsmith
