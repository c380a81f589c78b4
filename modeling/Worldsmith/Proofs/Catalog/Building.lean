/-
Building a catalog follows its plan.

Each function of the build is read once, and its steps are those of the section that it is
for.  `build_ends` puts them together: in any world and with any packs met before, the build
ends as the plan does.  A new compiler has met no packs, which says when it succeeds in a given
world, and with what (`compileInto_ok_iff`); in a world of its own, the catalog compiles
(`compile_eq_ok_iff`).
-/
import Worldsmith.Proofs.Catalog.Plan

namespace Worldsmith.Catalog

variable (c : Catalog)

/-! ### Sections -/

theorem addCampaign_follows (name : String) (campaign : Campaign) :
    Follows c.completed? (c.addCampaign name campaign)
      (packSteps campaign.pack? (c.campaignRegistrations name campaign)) () := by
  have hsteps : packSteps campaign.pack? (c.campaignRegistrations name campaign)
      = campaign.pack?.toList.map .meet
        ++ ([.add (keyItem (Names.campaignUnlock c name) (.name Names.campaigns) campaign.pack?)]
        ++ ((episodeNames name campaign).flatMap (fun episode =>
            [.add (lockedLocation episode (.name (Names.campaignEpisodes name)) campaign.pack?
              (Names.campaignUnlock c name))])
        ++ ((c.completionRegistrations (Names.campaignCompletion name)
            (Names.campaignCompletion name) (.name (Names.campaignCompletionCategory name))
            campaign.pack? (Names.campaignUnlock c name)).map .add ++ []))) := by
    simp [packSteps, campaignRegistrations, ← List.map_eq_flatMap]
  rw [hsteps]
  refine (Follows.packCategories campaign.pack?).bind ((Follows.addItem _ _).bind ?_)
  have hepisode : ∀ episode, Follows c.completed?
      (do let _ ← Build.addLocation episode {
            categories? := some (inPack (.name (Names.campaignEpisodes name)) campaign.pack?)
            requires? := some (.subject (.item (Names.campaignUnlock c name))) })
      [.add (lockedLocation episode (.name (Names.campaignEpisodes name)) campaign.pack?
        (Names.campaignUnlock c name))] () :=
    fun episode => (Follows.addLocation _ _).bind (Follows.pure ())
  extract_lets addEpisode announce finish
  have hfinish : Follows c.completed? (finish ())
      ((c.completionRegistrations (Names.campaignCompletion name)
        (Names.campaignCompletion name) (.name (Names.campaignCompletionCategory name))
        campaign.pack? (Names.campaignUnlock c name)).map .add ++ []) () := by
    refine Follows.get_bind fun b hb => ?_
    rw [hb, completed?, completionRegistrations]
    cases c.trackCompletion with
    | false => exact Follows.report _
    | true =>
        exact (Follows.addItem _ _).bind ((Follows.addLocation _ _).bind (Follows.report _))
  unfold episodeNames
  cases campaign.regularEpisodes with
  | zero => exact (hepisode name).bind hfinish
  | succ n =>
      show Follows _ _ (((List.range (n + 1)).map (Names.episode name)
        ++ [Names.finalEpisode name]).flatMap _ ++ _) ()
      rw [List.flatMap_append, List.append_assoc, List.flatMap_map]
      exact (Follows.natForM fun i _ => hepisode (Names.episode name i)).bind
        ((hepisode (Names.finalEpisode name)).bind hfinish)

theorem addExtraEpisode_follows (name : String) (extra : ExtraEpisode) :
    Follows c.completed? (addExtraEpisode name extra)
      (packSteps extra.pack? (c.extraRegistrations name extra)) () := by
  have hsteps : packSteps extra.pack? (c.extraRegistrations name extra)
      = extra.pack?.toList.map .meet
        ++ ([.add (keyItem (Names.extraUnlock name) (.name Names.campaigns) extra.pack?)]
        ++ ([.add (lockedLocation name (.name Names.extras) extra.pack? (Names.extraUnlock name))]
        ++ (c.completionRegistrations (Names.extraComplete name) (Names.extraCompletion name)
          (.name Names.extrasCompletion) extra.pack? (Names.extraUnlock name)).map .add)) := by
    simp [packSteps, extraRegistrations]
  rw [hsteps]
  refine (Follows.packCategories extra.pack?).bind
    ((Follows.addItem _ _).bind ((Follows.addLocation _ _).bind ?_))
  refine Follows.get_bind fun b hb => ?_
  rw [hb, completed?, completionRegistrations]
  cases c.trackCompletion with
  | false => exact Follows.pure ()
  | true => exact (Follows.addItem _ _).bind ((Follows.addLocation _ _).bind (Follows.pure ()))

theorem addGatedCategory_follows (category option kind : String) :
    Follows c.completed? (addGatedCategory category option kind)
      ((gatedRegistrations category option kind).map .add)
      (Category.ofSpec category (gatedSpec option kind)) :=
  (Follows.addOption _ _).bind (Follows.addCategory _ _)

theorem addCharacters_follows :
    Follows c.completed? c.addCharacters (c.characterRegistrations.map .add) () := by
  unfold addCharacters characterRegistrations
  split
  · exact Follows.pure ()
  · have hsteps : (gatedRegistrations Names.characters Names.randomizeCharacters "characters"
          ++ (c.characters.entries.map fun e => characterItem e.1)
          ++ c.characters.entries.flatMap fun e =>
            e.2.goal?.toList.map (goalLocation e.1)).map Step.add
        = (gatedRegistrations Names.characters Names.randomizeCharacters "characters").map .add
          ++ ((c.characters.entries.flatMap fun e => [.add (characterItem e.1)])
          ++ c.characters.entries.flatMap fun e =>
            e.2.goal?.toList.map fun goal => .add (goalLocation e.1 goal)) := by
      simp [← List.map_eq_flatMap, List.map_flatMap, Function.comp_def]
    rw [hsteps]
    refine (addGatedCategory_follows c _ _ _).bind (Follows.bind (a := ()) ?_ ?_)
    · exact Follows.forM fun e _ => (Follows.addItem _ _).bind (Follows.pure ())
    · refine Follows.forM fun e _ => ?_
      obtain ⟨name, character⟩ := e
      dsimp only
      cases character.goal? with
      | none => exact Follows.pure ()
      | some goal => exact (Follows.addLocation _ _).bind (Follows.pure ())

theorem addCards_follows :
    Follows c.completed? c.addCards (c.cardRegistrations.map .add) () := by
  unfold addCards cardRegistrations
  split
  · exact Follows.pure ()
  · have hsteps : (gatedRegistrations Names.cards Names.randomizeCards "cards"
          ++ c.cards.entries.map fun e => cardItem e.1 e.2).map Step.add
        = (gatedRegistrations Names.cards Names.randomizeCards "cards").map .add
          ++ c.cards.entries.flatMap fun e => [.add (cardItem e.1 e.2)] := by
      simp [← List.map_eq_flatMap, Function.comp_def]
    rw [hsteps]
    refine (addGatedCategory_follows c _ _ _).bind ?_
    exact Follows.forM fun e _ => (Follows.addItem _ _).bind (Follows.pure ())

theorem addVictory_follows (v : Victory) :
    Follows c.completed? (addVictory v)
      (c.victoryRefusals v ++ (victoryRegistrations v).map .add) () := by
  cases v with
  | oranges location count percent =>
      have hgoal : Follows c.completed? (victoryGoal (.oranges location count percent))
          [.add (orangeItem count)]
          (location, .threshold (.item Names.orange) (Amount.ofText percent)) :=
        (Follows.addItem _ _).bind (Follows.pure _)
      exact hgoal.bind ((Follows.addLocation _ _).bind (Follows.report _))
  | completedCampaigns location percent =>
      have hgoal : Follows c.completed? (victoryGoal (.completedCampaigns location percent))
          (c.victoryRefusals (.completedCampaigns location percent))
          (location, .threshold (.category Names.completedCampaigns) (Amount.ofText percent)) := by
        refine Follows.get_bind fun b hb => ?_
        rw [hb, completed?, victoryRefusals]
        cases c.trackCompletion with
        | false => exact Follows.throw _ _
        | true => exact Follows.pure _
      exact hgoal.bind ((Follows.addLocation _ _).bind (Follows.report _))

/-! ### The whole build -/

/-- **Building ends as the plan does**, in any world and with any packs met before.  The
builder may have the category of completed campaigns already, but no other in its place, and
has it in the end if all goes well. -/
theorem build_ends {k : Option Category} {b : Builder} {s : Site}
    (hk : k = none ∨ k = c.completed?) (hat : b.At k s) :
    ∃ k', (k' = k ∨ k' = c.completed?)
      ∧ ((s.takeAll c.plan).1 = .ok () → k' = c.completed?)
      ∧ Ends k' c.build b (s.takeAll c.plan) () := by
  unfold build
  extract_lets announce content
  have hannounce : Follows c.completed? (announce ()) [] () :=
    Follows.get_bind fun b _ => Follows.report _
  have hcontent : Follows c.completed? (content ()) c.contentSteps () := by
    have hsteps : c.contentSteps
        = (c.campaigns.entries.flatMap fun e =>
            packSteps e.2.pack? (c.campaignRegistrations e.1 e.2))
          ++ ((c.extraEpisodes.entries.flatMap fun e =>
            packSteps e.2.pack? (c.extraRegistrations e.1 e.2))
          ++ (c.characterRegistrations.map .add
          ++ (c.cardRegistrations.map .add
          ++ (c.victory?.toList.flatMap c.victoryRefusals
            ++ (c.victory?.toList.flatMap victoryRegistrations).map .add ++ [])))) := by
      simp [contentSteps, packedSteps]
    rw [hsteps]
    refine Follows.bind (a := ()) (Follows.forM fun e _ => addCampaign_follows c e.1 e.2) ?_
    refine Follows.bind (a := ()) (Follows.forM fun e _ => addExtraEpisode_follows c e.1 e.2) ?_
    refine (addCharacters_follows c).bind ((addCards_follows c).bind ?_)
    cases c.victory? with
    | none => exact hannounce
    | some v =>
        rw [Option.toList_some, List.flatMap_singleton, List.flatMap_singleton]
        exact (addVictory_follows c v).bind hannounce
  cases htrack : c.trackCompletion with
  | false =>
      have hsame : k = c.completed? := by simpa [completed?, htrack] using hk
      refine ⟨c.completed?, .inr rfl, fun _ => rfl, ?_⟩
      rw [plan, trackingRegistrations, htrack]
      exact hcontent b s (hsame ▸ hat)
  | true =>
      have hcompleted : c.completed? = some completed := by simp [completed?, htrack]
      have htracking : s.takeAll c.plan
          = (s.add (.category Names.completedCampaigns { hidden := true })).andThen
            fun s => s.takeAll c.contentSteps := by
        rw [plan, trackingRegistrations, htrack]
        rfl
      obtain ⟨b₁, hrun₁, hat₁⟩ :=
        Follows.addCategory Names.completedCampaigns { hidden := true } b s hat
      rw [Site.takeAll_singleton, Site.take] at hrun₁ hat₁
      rw [htracking]
      generalize s.add (.category Names.completedCampaigns { hidden := true }) = o at *
      obtain ⟨r, s₁⟩ := o
      cases r with
      | error e =>
          refine ⟨k, .inl rfl, fun hok => (by cases hok), b₁, ?_, hat₁⟩
          rw [if_pos rfl, Build.run_bind, hrun₁]
          rfl
      | ok _ =>
          have hat₂ : Builder.At c.completed? { b₁ with completed? := some completed } s₁ :=
            ⟨hat₁.world, hat₁.packs, hcompleted.symm⟩
          obtain ⟨b₃, hrun₃, hat₃⟩ := hcontent _ _ hat₂
          refine ⟨c.completed?, .inr rfl, fun _ => rfl, b₃, ?_, hat₃⟩
          rw [if_pos rfl, Build.run_bind, hrun₁]
          exact hrun₃

/-- A new compiler does to a world what the plan does. -/
theorem compileInto_eq (w : World) :
    (Compiler.compileInto { catalog := c } w).result = (({ world := w } : Site).takeAll c.plan).1
      ∧ (Compiler.compileInto { catalog := c } w).world
        = (({ world := w } : Site).takeAll c.plan).2.world := by
  have hat : Builder.At none { world := w } { world := w } := ⟨rfl, rfl, rfl⟩
  obtain ⟨k, -, -, b, hrun, hat'⟩ := c.build_ends (.inl rfl) hat
  rw [Compiler.compileInto]
  simp only [hrun, hat'.world, and_true]
  cases (({ world := w } : Site).takeAll c.plan).1 <;> rfl

/-- **When a catalog is built into a world, and what comes of it.** -/
theorem compileInto_ok_iff {w w' : World} :
    (Compiler.compileInto { catalog := c } w).result = .ok ()
        ∧ (Compiler.compileInto { catalog := c } w).world = w' ↔
      (∀ e, .refuse e ∉ c.plan) ∧ w.enterAll c.registrations = .ok w' := by
  obtain ⟨hresult, hworld⟩ := c.compileInto_eq w
  rw [hresult, hworld]
  constructor
  · rintro ⟨hok, rfl⟩
    obtain ⟨hno, henter, -⟩ := Site.takeAll_eq_ok_iff.mp (Prod.ext hok rfl)
    exact ⟨hno, henter⟩
  · intro h
    obtain ⟨hno, henter⟩ := h
    have hend : ({ world := w } : Site).takeAll c.plan = (.ok (), ⟨w', Step.fresh [] c.plan⟩) :=
      Site.takeAll_eq_ok_iff.mpr ⟨hno, henter, rfl⟩
    rw [hend]
    exact ⟨rfl, rfl⟩

/-- **When a catalog compiles, and to what.** -/
theorem compile_eq_ok_iff {w : World} :
    c.compile.1 = .ok w ↔
      (∀ e, .refuse e ∉ c.plan) ∧ ({} : World).enterAll c.registrations = .ok w := by
  rw [← compileInto_ok_iff, compile]
  cases (Compiler.compileInto { catalog := c } {}).result <;> simp

/-- **When a catalog compiles.** -/
theorem exists_compile_iff :
    (∃ w, c.compile.1 = .ok w) ↔
      (∀ e, .refuse e ∉ c.plan) ∧ (∀ t, (Registration.namesIn t c.registrations).Nodup)
        ∧ ∀ r ∈ c.registrations, r.fault? = none := by
  simp only [compile_eq_ok_iff, exists_and_left, World.enterAll_ok_iff, World.names_empty,
    List.nil_append]

/-- The tables hold what is registered, and nothing else. -/
theorem entries_of_compile {w : World} (h : c.compile.1 = .ok w) (t : TableName) :
    w.entries t = Registration.entriesIn t c.registrations := by
  rw [World.entries_enterAll (c.compile_eq_ok_iff.mp h).2, World.entries_empty, List.nil_append]

/-- And nothing that is registered is at fault. -/
theorem fault?_of_compile {w : World} (h : c.compile.1 = .ok w) :
    ∀ r ∈ c.registrations, r.fault? = none :=
  (World.enterAll_ok_iff.mp ⟨w, (c.compile_eq_ok_iff.mp h).2⟩).2

end Worldsmith.Catalog
