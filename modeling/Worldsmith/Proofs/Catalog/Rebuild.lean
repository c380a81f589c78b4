/-
A catalog that is built twice into one world.

The first build leaves two things behind: the world has a name for everything that the plan
adds, and the compiler knows every pack that the plan meets.  Neither goes away, whatever is
built or registered afterwards (`Built.run`).  So a second build passes over the packs and is
refused by the first thing it adds, before it has changed anything (`takeAll_of_holds`).

Only a catalog that says nothing at all adds nothing, and can be built again and again.
-/
import Worldsmith.Proofs.Catalog.Workshop

namespace Worldsmith

/-! ### Steps that were taken before -/

namespace Site

variable {s : Site} {steps : List Step}

/-- Everything that the steps add has a name that is taken, and every pack that they meet is
known. -/
structure Holds (s : Site) (steps : List Step) : Prop where
  names : ∀ r, .add r ∈ steps → r.name ∈ s.world.names r.table
  packs : ∀ pack, .meet pack ∈ steps → pack ∈ s.packs

theorem Holds.tail {step : Step} (h : s.Holds (step :: steps)) : s.Holds steps where
  names r hr := h.names r (List.mem_cons_of_mem _ hr)
  packs pack hpack := h.packs pack (List.mem_cons_of_mem _ hpack)

/-- What steps have left behind when they went through. -/
theorem holds_of_takeAll {s' : Site} (h : s.takeAll steps = (.ok (), s')) : s'.Holds steps := by
  obtain ⟨-, henter, hpacks⟩ := takeAll_eq_ok_iff.mp h
  constructor
  · intro r hr
    have hmem : r ∈ Step.registrations s.packs steps := Step.mem_registrations_iff.mpr (.inl hr)
    rw [World.names_enterAll henter]
    exact List.mem_append_right _ (Registration.mem_namesIn hmem)
  · intro pack hpack
    rw [hpacks, List.mem_append]
    by_cases hknown : pack ∈ s.packs
    · exact .inl hknown
    · exact .inr (Step.mem_fresh_iff.mpr ⟨hpack, hknown⟩)

/-- **Steps that were taken before change nothing.**  The first of them that adds something is
refused. -/
theorem takeAll_of_holds (h : s.Holds steps) (hno : ∀ e, .refuse e ∉ steps) :
    s.takeAll steps = (match steps.findSome? Step.added? with
      | some r => .error (.world (.duplicateName r.table r.name))
      | none => .ok (), s) := by
  induction steps with
  | nil => rfl
  | cons step steps ih =>
      have ih := ih h.tail fun e he => hno e (List.mem_cons_of_mem _ he)
      rw [takeAll, List.findSome?_cons]
      cases step with
      | add r =>
          have hrefusal : s.world.refusal? r = some (.duplicateName r.table r.name) :=
            if_pos (h.names r List.mem_cons_self)
          rw [take, add, hrefusal]
          rfl
      | meet pack =>
          rw [take, meet, if_pos (h.packs pack List.mem_cons_self)]
          exact ih
      | refuse e => exact absurd List.mem_cons_self (hno e)

theorem add_mem_of_findSome? {steps : List Step} {r : Registration}
    (h : steps.findSome? Step.added? = some r) : .add r ∈ steps := by
  obtain ⟨step, hstep, hadded⟩ := List.exists_of_findSome?_eq_some h
  cases step with
  | add r' => exact Option.some.inj hadded ▸ hstep
  | meet pack => cases hadded
  | refuse e => cases hadded

/-- A pack that is known is not forgotten. -/
theorem packs_subset_take (s : Site) (step : Step) : s.packs ⊆ (s.take step).2.packs := by
  cases step with
  | add r =>
      rw [take, packs_add]
      exact List.Subset.refl _
  | refuse e => exact List.Subset.refl _
  | meet pack =>
      rw [take, meet]
      split
      · exact List.Subset.refl _
      · rcases s.add_cases (Pack.option pack) with ⟨e, hadd⟩ | ⟨-, hadd⟩
        · rw [hadd]
          exact List.Subset.refl _
        · rw [hadd, Outcome.andThen]
          rcases add_cases _ (Pack.gate pack) with ⟨e, hadd⟩ | ⟨-, hadd⟩
          · rw [hadd]
            exact List.Subset.refl _
          · rw [hadd, Outcome.andThen]
            exact List.subset_append_left _ _

theorem packs_subset_takeAll (s : Site) (steps : List Step) :
    s.packs ⊆ (s.takeAll steps).2.packs := by
  induction steps generalizing s with
  | nil => exact List.Subset.refl _
  | cons step steps ih =>
      have hstep := s.packs_subset_take step
      rw [takeAll]
      generalize s.take step = o at hstep
      obtain ⟨r, s₁⟩ := o
      cases r with
      | error e => exact hstep
      | ok _ => exact List.Subset.trans hstep (ih s₁)

end Site

/-! ### Names that stay -/

namespace World

theorem Extends.names_subset {w w' : World} (h : w.Extends w') (t : TableName) :
    w.names t ⊆ w'.names t :=
  List.map_subset _ (h t).subset

theorem names_subset_after (w : World) (op : Operation) (t : TableName) :
    w.names t ⊆ (w.after op).names t := by
  rw [after]
  split
  · rename_i e w' hop
    rw [names_perform hop]
    exact List.subset_append_left _ _
  · exact List.Subset.refl _

end World

/-! ### Catalogs that say nothing -/

namespace Catalog

variable {c : Catalog}

/-- Every section is empty, there is no victory, and completion is not tracked. -/
structure IsEmpty (c : Catalog) : Prop where
  campaigns : c.campaigns.isEmpty = true
  extraEpisodes : c.extraEpisodes.isEmpty = true
  characters : c.characters.isEmpty = true
  cards : c.cards.isEmpty = true
  victory? : c.victory? = none
  trackCompletion : c.trackCompletion = false

theorem IsEmpty.plan_eq_nil (h : c.IsEmpty) : c.plan = [] := by
  have hcampaigns := List.isEmpty_iff.mp h.campaigns
  have hextras := List.isEmpty_iff.mp h.extraEpisodes
  simp [plan, trackingRegistrations, contentSteps, packedSteps, characterRegistrations,
    cardRegistrations, hcampaigns, hextras, h.characters, h.cards, h.victory?, h.trackCompletion]

theorem add_mem_plan_iff {r : Registration} :
    .add r ∈ c.plan ↔
      r ∈ c.trackingRegistrations
        ∨ (∃ e ∈ c.campaigns.entries, r ∈ c.campaignRegistrations e.1 e.2)
        ∨ (∃ e ∈ c.extraEpisodes.entries, r ∈ c.extraRegistrations e.1 e.2)
        ∨ r ∈ c.characterRegistrations ∨ r ∈ c.cardRegistrations
        ∨ ∃ v, c.victory? = some v ∧ r ∈ victoryRegistrations v := by
  have hrefusals : ∀ v, .add r ∉ c.victoryRefusals v := by
    intro v
    cases v with
    | oranges location count percent => exact List.not_mem_nil
    | completedCampaigns location percent =>
        rw [victoryRefusals]
        split <;> simp
  simp [plan, contentSteps, add_mem_packedSteps_iff, hrefusals, or_assoc]

/-- Whatever a catalog says, something is added for it. -/
theorem isEmpty_of_forall_notMem_plan (h : ∀ r, .add r ∉ c.plan) : c.IsEmpty := by
  simp only [add_mem_plan_iff, not_or, not_exists, not_and] at h
  constructor
  · refine List.isEmpty_iff.mpr (List.eq_nil_iff_forall_not_mem.mpr fun e he => ?_)
    exact (h _).2.1 e he List.mem_cons_self
  · refine List.isEmpty_iff.mpr (List.eq_nil_iff_forall_not_mem.mpr fun e he => ?_)
    exact (h _).2.2.1 e he List.mem_cons_self
  · by_contra hsome
    refine (h (.option Names.randomizeCharacters (randomizeSpec "characters"))).2.2.2.1 ?_
    simp [characterRegistrations, hsome, gatedRegistrations]
  · by_contra hsome
    refine (h (.option Names.randomizeCards (randomizeSpec "cards"))).2.2.2.2.1 ?_
    simp [cardRegistrations, hsome, gatedRegistrations]
  · refine Option.eq_none_iff_forall_ne_some.mpr fun v hv => ?_
    cases v with
    | oranges location count percent =>
        exact (h _).2.2.2.2.2 _ hv List.mem_cons_self
    | completedCampaigns location percent =>
        exact (h _).2.2.2.2.2 _ hv List.mem_cons_self
  · by_contra htrack
    refine (h (.category Names.completedCampaigns { hidden := true })).1 ?_
    simpa [trackingRegistrations] using htrack

end Catalog

/-! ### Catalogs built again -/

/-- There is nothing more to a compiler. -/
theorem Compiler.Has.unique {m m' : Compiler} {c : Catalog} {packs : List String}
    (h : m.Has c packs) (h' : m'.Has c packs) (hcompleted : m.completed? = m'.completed?) :
    m = m' := by
  have hcatalog := h.catalog.trans h'.catalog.symm
  have hpacks := Table.ext (h.packs.trans h'.packs.symm)
  cases m
  cases m'
  simp_all only

namespace Workshop

/-- The compiler has built the catalog into world `i`, where everything it registered still
is. -/
structure Built (c : Catalog) (i : Nat) (s : Workshop) (packs : List String) : Prop where
  compiler : s.compiler.Has c packs
  completed : s.compiler.completed? = c.completed?
  holds : Site.Holds { world := s.worlds i, packs } c.plan

namespace Built

variable {c : Catalog} {i : Nat} {s : Workshop} {packs : List String}

/-- A world may change as long as it keeps its names. -/
theorem holds_update (h : s.Built c i packs) {j : Nat} {w : World} {packs' : List String}
    (hnames : ∀ t, (s.worlds j).names t ⊆ w.names t) (hpacks : packs ⊆ packs') :
    Site.Holds { world := Function.update s.worlds j w i, packs := packs' } c.plan where
  names r hr := by
    have htaken := h.holds.names r hr
    by_cases heq : i = j
    · subst heq
      rw [Function.update_self]
      exact hnames _ htaken
    · rwa [Function.update_of_ne heq]
  packs pack hpack := hpacks (h.holds.packs pack hpack)

/-- **What a call keeps.** -/
theorem after (h : s.Built c i packs) (call : Call) :
    ∃ packs', (s.after call).Built c i packs' := by
  cases call with
  | perform j op =>
      have hnames := (s.worlds j).names_subset_after op
      exact ⟨packs, h.compiler, h.completed, h.holds_update hnames (List.Subset.refl _)⟩
  | build j =>
      obtain ⟨-, hworld, hcompiler, hcompleted⟩ := h.compiler.compileInto (s.worlds j)
      have hextends := Site.extends_takeAll { world := s.worlds j, packs } c.plan
      have hknown := Site.packs_subset_takeAll { world := s.worlds j, packs } c.plan
      refine ⟨_, hcompiler, hcompleted (.inl h.completed), h.holds_update ?_ hknown⟩
      rw [hworld]
      exact hextends.names_subset

/-- **What a run keeps.** -/
theorem run (h : s.Built c i packs) (calls : List Call) :
    ∃ packs', (s.run calls).Built c i packs' := by
  induction calls generalizing s packs with
  | nil => exact ⟨packs, h⟩
  | cons call calls ih =>
      obtain ⟨packs₁, h₁⟩ := h.after call
      exact ih h₁

end Built

/-- What there is after a build that went through. -/
theorem built_of_build {c : Catalog} {s : Workshop} {packs : List String} {i : Nat}
    (h : s.compiler.Has c packs) (hok : (s.compiler.compileInto (s.worlds i)).result = .ok ()) :
    ∃ packs', (s.after (.build i)).Built c i packs' := by
  obtain ⟨hresult, hworld, hcompiler, hcompleted⟩ := h.compileInto (s.worlds i)
  have hdone := hresult.symm.trans hok
  refine ⟨_, hcompiler, hcompleted (.inr hdone), ?_⟩
  show Site.Holds ⟨Function.update s.worlds i _ i, _⟩ c.plan
  rw [Function.update_self, hworld]
  exact Site.holds_of_takeAll (Prod.ext hdone rfl)

/-- **Building again changes nothing.**  The compiler may have built into any worlds before
and in between, and anyone may have called on them.  The second build into a world is refused
a name that the catalog registers, unless the catalog says nothing at all. -/
theorem build_again (c : Catalog) (worlds : Nat → World) (before between : List Call) (i : Nat) :
    let s := Workshop.run { compiler := { catalog := c }, worlds } before
    let s' := (s.after (.build i)).run between
    let again := s'.compiler.compileInto (s'.worlds i)
    (s.compiler.compileInto (s.worlds i)).result = .ok () →
      again.world = s'.worlds i ∧ again.compiler = s'.compiler
        ∧ (c.IsEmpty → again.result = .ok ())
        ∧ (¬ c.IsEmpty → ∃ r ∈ c.registrations,
          again.result = .error (.world (.duplicateName r.table r.name))) := by
  intro s s' again hok
  obtain ⟨packs, hsound⟩ := (Sound.new c worlds).run before
  obtain ⟨packs₁, hbuilt₁⟩ := built_of_build hsound.compiler hok
  obtain ⟨packs₂, hbuilt⟩ := hbuilt₁.run between
  obtain ⟨hresult, hworld, hcompiler, hcompleted⟩ := hbuilt.compiler.compileInto (s'.worlds i)
  have hno : ∀ e, .refuse e ∉ c.plan := by
    obtain ⟨hdone, -⟩ := hsound.compiler.compileInto (s.worlds i)
    exact (Site.takeAll_eq_ok_iff.mp (Prod.ext (hdone.symm.trans hok) rfl)).1
  have hsame := Site.takeAll_of_holds hbuilt.holds hno
  rw [hsame] at hresult hworld hcompiler
  refine ⟨hworld, ?_, fun hempty => ?_, fun hsome => ?_⟩
  · have hkept := (hcompleted (.inl hbuilt.completed)).trans hbuilt.completed.symm
    exact hcompiler.unique hbuilt.compiler hkept
  · rw [hempty.plan_eq_nil] at hresult
    exact hresult
  · cases hfirst : c.plan.findSome? Step.added? with
    | none =>
        refine absurd (Catalog.isEmpty_of_forall_notMem_plan fun r hr => ?_) hsome
        exact absurd (List.findSome?_eq_none_iff.mp hfirst _ hr) (by simp [Step.added?])
    | some r =>
        rw [hfirst] at hresult
        have hadd := Site.add_mem_of_findSome? hfirst
        exact ⟨r, Step.mem_registrations_iff.mpr (.inl hadd), hresult⟩

/-- Calls on the world in between, the first of which takes a name, and the second gates a
pack's category once more. -/
def meddling : List Call := [
  .perform 1 (.register (.option "enable_ferries" {})),
  .perform 1 (.gate (Pack.categoryName "Sand") (.name "enable_ferries")), .build 0]

theorem build_again_ferry :
    let s := Workshop.run { compiler := { catalog := ferry }, worlds := fun _ => {} } blocked
    let s' := (s.after (.build 1)).run meddling
    let again := s'.compiler.compileInto (s'.worlds 1)
    (s.compiler.compileInto (s.worlds 1)).result = .ok ()
      ∧ again.world = s'.worlds 1 ∧ again.compiler = s'.compiler
      ∧ ∃ r ∈ ferry.registrations,
        again.result = .error (.world (.duplicateName r.table r.name)) := by
  intro s s' again
  have hok : (s.compiler.compileInto (s.worlds 1)).result = .ok () := by decide +kernel
  have hsome : ¬ ferry.IsEmpty := fun hempty => absurd hempty.campaigns (by decide +kernel)
  obtain ⟨hworld, hcompiler, -, hrefused⟩ := build_again ferry _ blocked meddling 1 hok
  exact ⟨hok, hworld, hcompiler, hrefused hsome⟩

end Workshop

end Worldsmith
