/-
The order within a catalog's sections makes no difference.

A build takes the entries of a section one after the other, and what it does with one may
depend on those before it: a pack is registered where it is met first, and a name is refused
when it was given before.  Two catalogs with the same entries in another order therefore take
other steps.  What the steps come down to is the same all the same.  Apart from packs a step
registers what it would in any order, and of packs there is one of each that is named
anywhere, so the registrations are the same but for their order (`registrations_perm`).

Whether registrations go through does not depend on their order, for names clash either way
and a registration is at fault by itself.  Nor does what the tables hold, except for the order
it is held in.
-/
import Mathlib.Data.List.Perm.Basic
import Worldsmith.Proofs.Catalog.Contents

namespace Worldsmith

open Registration (namesIn entriesIn)

/-! ### Registrations in another order -/

namespace Registration

variable {rs rs' : List Registration}

theorem namesIn_perm (h : rs.Perm rs') (t : TableName) : (namesIn t rs).Perm (namesIn t rs') :=
  (h.filter _).map _

theorem entriesIn_perm (h : rs.Perm rs') (t : TableName) :
    (entriesIn t rs).Perm (entriesIn t rs') :=
  (h.filter _).map _

end Registration

namespace Step

/-- What a pack registers when it is met for the first time. -/
def packRegistrations (pack : String) : List Registration := [Pack.option pack, Pack.gate pack]

/-- The packs may as well be registered after everything else. -/
theorem registrations_perm_packs_last (known : List String) (steps : List Step) :
    (registrations known steps).Perm
      (steps.filterMap added? ++ (fresh known steps).flatMap packRegistrations) := by
  induction steps generalizing known with
  | nil => exact .nil
  | cons step steps ih =>
      cases step with
      | add r => exact (ih known).cons r
      | refuse e => exact ih known
      | meet pack =>
          rw [registrations, fresh]
          split
          · exact ih known
          · -- the new pack moves over all that is added
            have hrest : (packRegistrations pack ++ registrations (known ++ [pack]) steps).Perm
                (packRegistrations pack ++ (steps.filterMap added?
                  ++ (fresh (known ++ [pack]) steps).flatMap packRegistrations)) :=
              (ih _).append_left _
            refine hrest.trans ?_
            rw [List.flatMap_cons, ← List.append_assoc, ← List.append_assoc]
            exact List.perm_append_comm.append_right _

/-- The packs that are met do not depend on the order, but for their own. -/
theorem fresh_perm {steps steps' : List Step} (h : steps.Perm steps') (known : List String) :
    (fresh known steps).Perm (fresh known steps') := by
  refine (List.perm_ext_iff_of_nodup (nodup_fresh known steps) (nodup_fresh known steps')).mpr ?_
  intro pack
  rw [mem_fresh_iff, mem_fresh_iff, h.mem_iff]

/-- **Steps in another order register the same.** -/
theorem registrations_perm {steps steps' : List Step} (h : steps.Perm steps')
    (known : List String) : (registrations known steps).Perm (registrations known steps') := by
  have hadded := h.filterMap added?
  have hpacks := (fresh_perm h known).flatMap_right packRegistrations
  exact (registrations_perm_packs_last known steps).trans
    ((hadded.append hpacks).trans (registrations_perm_packs_last known steps').symm)

end Step

/-! ### Catalogs in another order -/

namespace Catalog

/-- The second catalog has the entries of the first in each section, in whatever order, and
says the same of the rest. -/
structure Reorders (c c' : Catalog) : Prop where
  campaigns : c.campaigns.entries.Perm c'.campaigns.entries
  extraEpisodes : c.extraEpisodes.entries.Perm c'.extraEpisodes.entries
  characters : c.characters.entries.Perm c'.characters.entries
  cards : c.cards.entries.Perm c'.cards.entries
  victory : c.victory? = c'.victory?
  tracking : c.trackCompletion = c'.trackCompletion

end Catalog

/-- The second world has the entries of the first in each table, in whatever order.  A key
stands in a table once, so what is under it is the same in both. -/
structure World.Reorders (w w' : World) : Prop where
  items : w.items.entries.Perm w'.items.entries
  locations : w.locations.entries.Perm w'.locations.entries
  categories : w.categories.entries.Perm w'.categories.entries
  options : w.options.entries.Perm w'.options.entries

theorem World.reorders_of_entries {w w' : World} (h : ∀ t, (w.entries t).Perm (w'.entries t)) :
    w.Reorders w' := by
  have hback : ∀ {α : Type} {f : α → Entity} (_ : ∀ a b, f a = f b → a = b)
      {es es' : List (String × α)},
      (es.map fun e => (e.1, f e.2)).Perm (es'.map fun e => (e.1, f e.2)) → es.Perm es' := by
    intro α f hf es es' hperm
    refine (List.map_perm_map_iff ?_).mp hperm
    rintro ⟨n, a⟩ ⟨n', a'⟩ hpair
    obtain ⟨hn, ha⟩ := Prod.mk.inj hpair
    exact Prod.ext hn (hf a a' ha)
  exact {
    items := hback (fun _ _ h => Entity.item.inj h) (h .items)
    locations := hback (fun _ _ h => Entity.location.inj h) (h .locations)
    categories := hback (fun _ _ h => Entity.category.inj h) (h .categories)
    options := hback (fun _ _ h => Entity.option.inj h) (h .options) }

theorem World.Reorders.itemCount_eq {w w' : World} (h : w.Reorders w') :
    w.itemCount = w'.itemCount := by
  rw [World.itemCount_eq, World.itemCount_eq]
  exact ((h.items.map Prod.snd).map Item.count).sum_nat

namespace Catalog

/-! ### Sections -/

section Reordered

variable {c c' : Catalog} (h : c.Reorders c')
include h

theorem campaignUnlock_eq (name : String) :
    Names.campaignUnlock c name = Names.campaignUnlock c' name := by
  have hkeys : name ∈ c.characters.keys ↔ name ∈ c'.characters.keys :=
    (h.characters.map Prod.fst).mem_iff
  have hcontains : c.characters.contains name = c'.characters.contains name := by
    rw [Bool.eq_iff_iff, Table.contains_iff, Table.contains_iff, hkeys]
  rw [Names.campaignUnlock, Names.campaignUnlock, hcontains]

theorem campaignRegistrations_eq (name : String) (campaign : Campaign) :
    c.campaignRegistrations name campaign = c'.campaignRegistrations name campaign := by
  rw [campaignRegistrations, campaignRegistrations, completionRegistrations,
    completionRegistrations, campaignUnlock_eq h, h.tracking]

theorem extraRegistrations_eq (name : String) (extra : ExtraEpisode) :
    c.extraRegistrations name extra = c'.extraRegistrations name extra := by
  rw [extraRegistrations, extraRegistrations, completionRegistrations, completionRegistrations,
    h.tracking]

theorem packedSteps_perm : c.packedSteps.Perm c'.packedSteps := by
  unfold packedSteps
  simp only [campaignRegistrations_eq h, extraRegistrations_eq h]
  exact (h.campaigns.flatMap_right _).append (h.extraEpisodes.flatMap_right _)

theorem characterRegistrations_perm :
    c.characterRegistrations.Perm c'.characterRegistrations := by
  unfold characterRegistrations
  rw [Table.isEmpty, Table.isEmpty, h.characters.isEmpty_eq]
  split
  · exact .nil
  · exact ((List.Perm.refl _).append (h.characters.map _)).append (h.characters.flatMap_right _)

theorem cardRegistrations_perm : c.cardRegistrations.Perm c'.cardRegistrations := by
  unfold cardRegistrations
  rw [Table.isEmpty, Table.isEmpty, h.cards.isEmpty_eq]
  split
  · exact .nil
  · exact (List.Perm.refl _).append (h.cards.map _)

/-- **A catalog in another order registers the same**, in another order. -/
theorem registrations_perm : c.registrations.Perm c'.registrations := by
  have htracking : c.trackingRegistrations = c'.trackingRegistrations := by
    rw [trackingRegistrations, trackingRegistrations, h.tracking]
  rw [registrations_eq, registrations_eq, htracking, h.victory]
  have hpacked := Step.registrations_perm (packedSteps_perm h) []
  exact ((((List.Perm.refl _).append hpacked).append (characterRegistrations_perm h)).append
    (cardRegistrations_perm h)).append (.refl _)

/-- And what is refused without being registered is refused in any order. -/
theorem refuse_notMem_plan_congr :
    (∀ e, .refuse e ∉ c.plan) ↔ ∀ e, .refuse e ∉ c'.plan := by
  rw [refuse_notMem_plan_iff, refuse_notMem_plan_iff, h.victory, h.tracking]

end Reordered

/-! ### What comes of it -/

/-- **The order makes no difference.**  Of two catalogs that differ in the order of their
entries, either both compile or none does, and their worlds hold the same. -/
theorem compile_reordered {c c' : Catalog} (h : c.Reorders c') :
    ((∃ w, c.compile.1 = .ok w) ↔ ∃ w', c'.compile.1 = .ok w')
      ∧ ∀ w w', c.compile.1 = .ok w → c'.compile.1 = .ok w' →
        w.Reorders w' ∧ w.itemCount = w'.itemCount := by
  have hperm := registrations_perm h
  constructor
  · simp only [exists_compile_iff, refuse_notMem_plan_congr h,
      (Registration.namesIn_perm hperm _).nodup_iff, hperm.mem_iff]
  · intro w w' hw hw'
    have hentries : ∀ t, (w.entries t).Perm (w'.entries t) := by
      intro t
      rw [c.entries_of_compile hw, c'.entries_of_compile hw']
      exact Registration.entriesIn_perm hperm t
    have hreorders := World.reorders_of_entries hentries
    exact ⟨hreorders, hreorders.itemCount_eq⟩

/-- Two campaigns share a pack, with another pack between them, and one of the two has the name
of a character. -/
def harbour : Catalog where
  campaigns := Table.ofList [
    ("Tide", { episodes? := some 1, pack? := some "Sea" }),
    ("Gull", { pack? := some "Sky" }),
    ("Salt", { pack? := some "Sea" })]
  extraEpisodes := Table.ofList [("Buoy", { pack? := some "Deep" }), ("Reef", {})]
  characters := Table.ofList [("Ada", { goal? := some "dive" }), ("Salt", {})]
  cards := Table.ofList [("Net", { count := 2 }), ("Oar", { count := 5 })]
  victory? := some (.completedCampaigns "Shore" "50%")
  trackCompletion := true

/-- The same from the other end. -/
def harbourBackwards : Catalog where
  campaigns := Table.ofList [
    ("Salt", { pack? := some "Sea" }),
    ("Gull", { pack? := some "Sky" }),
    ("Tide", { episodes? := some 1, pack? := some "Sea" })]
  extraEpisodes := Table.ofList [("Reef", {}), ("Buoy", { pack? := some "Deep" })]
  characters := Table.ofList [("Salt", {}), ("Ada", { goal? := some "dive" })]
  cards := Table.ofList [("Oar", { count := 5 }), ("Net", { count := 2 })]
  victory? := some (.completedCampaigns "Shore" "50%")
  trackCompletion := true

theorem compile_reordered_harbour :
    harbour.Reorders harbourBackwards
      ∧ ∃ w w', harbour.compile.1 = .ok w ∧ harbourBackwards.compile.1 = .ok w'
        ∧ w.items.keys ≠ w'.items.keys ∧ w.Reorders w' ∧ w.itemCount = w'.itemCount := by
  have hreorders : harbour.Reorders harbourBackwards := {
    campaigns := by decide +kernel
    extraEpisodes := by decide +kernel
    characters := by decide +kernel
    cards := by decide +kernel
    victory := rfl
    tracking := rfl }
  obtain ⟨hiff, hsame⟩ := compile_reordered hreorders
  have hkeys : (harbour.compile.1.toOption.map (·.items.keys)).isSome = true
      ∧ harbour.compile.1.toOption.map (·.items.keys)
        ≠ harbourBackwards.compile.1.toOption.map (·.items.keys) := by
    decide +kernel
  cases hcompile : harbour.compile.1 with
  | error e => rw [hcompile] at hkeys; cases hkeys.1
  | ok w =>
      obtain ⟨w', hcompile'⟩ := hiff.mp ⟨w, hcompile⟩
      rw [hcompile, hcompile'] at hkeys
      refine ⟨hreorders, w, w', rfl, hcompile', fun h => ?_, hsame w w' hcompile hcompile'⟩
      exact hkeys.2 (congrArg some h)

end Catalog

end Worldsmith
