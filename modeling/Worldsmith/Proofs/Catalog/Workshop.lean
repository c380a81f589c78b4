/-
One compiler at work on many worlds.

A compiler keeps the packs that it has met, and the worlds that it builds into are not its
own.  Between two builds others may register in those worlds what they like.  A workshop is a
compiler and all the worlds there are, and a run is any sequence of builds and of such calls.

A pack is registered in the world where the compiler meets it, and is not registered again.
So what holds after any run is that each pack the compiler knows is gated in some world that
it has built into.  In the world of a build that goes through, a pack is gated if it is new to
the compiler, but one that it knows may be gated in another world only
(`gates_of_build`, `ungated_in_second_world`).
-/
import Mathlib.Logic.Function.Basic
import Worldsmith.Proofs.Catalog.Extension
import Worldsmith.Proofs.Catalog.Gates

namespace Worldsmith

/-! ### Worlds that gate a pack -/

/-- The option that enables the pack is there, and the hidden category that it gates.  More
options may gate that category too. -/
structure World.Gates (w : World) (pack : String) : Prop where
  option : (Pack.optionName pack, Catalog.toggle (Pack.optionName pack) (Pack.description pack))
    ∈ w.options.entries
  category : ∃ k, (Pack.categoryName pack, k) ∈ w.categories.entries ∧ k.hidden = true
    ∧ ∃ more, k.options = Pack.optionName pack :: more

namespace World.Gates

variable {w w' : World} {pack : String}

/-- A world that grows keeps its gates. -/
theorem mono (h : w.Gates pack) (hextends : w.Extends w') : w'.Gates pack where
  option := mem_entries_options.mp ((hextends .options).subset (mem_entries_options.mpr h.option))
  category := by
    obtain ⟨k, hk, hgated⟩ := h.category
    exact ⟨k, mem_entries_categories.mp
      ((hextends .categories).subset (mem_entries_categories.mpr hk)), hgated⟩

/-- So does a world that anyone calls on. -/
theorem after (h : w.Gates pack) (op : Operation) : (w.after op).Gates pack := by
  unfold World.after
  split
  · rename_i e w' hop
    have hkeep : ∀ t, ∀ entry ∈ w.entries t, Operation.gated [op] entry ∈ w'.entries t := by
      intro t entry hentry
      rw [entries_perform hop]
      exact List.mem_map_of_mem (List.mem_append_left _ hentry)
    constructor
    · exact mem_entries_options.mp (hkeep .options _ (mem_entries_options.mpr h.option))
    · obtain ⟨k, hk, hhidden, more, hoptions⟩ := h.category
      refine ⟨_, mem_entries_categories.mp (hkeep .categories _ (mem_entries_categories.mpr hk)),
        hhidden, more ++ [op].flatMap (Operation.gating (Pack.categoryName pack)), ?_⟩
      rw [hoptions, List.cons_append]
  · exact h

end World.Gates

/-! ### Steps that meet packs -/

namespace Site

/-- Both of a pack's registrations together gate it. -/
theorem gates_put {w : World} {pack : String} (hoption : w.refusal? (Pack.option pack) = none)
    (hgate : (w.put (Pack.option pack).name (Pack.option pack).entity).refusal? (Pack.gate pack)
      = none) :
    ((w.put (Pack.option pack).name (Pack.option pack).entity).put (Pack.gate pack).name
      (Pack.gate pack).entity).Gates pack where
  option := by
    rw [← World.mem_entries_options, World.entries_put_entity hgate,
      World.entries_put_entity hoption]
    exact List.mem_append_left _ (List.mem_append_right _ List.mem_cons_self)
  category := by
    refine ⟨Pack.category pack, ?_, rfl, [], rfl⟩
    rw [← World.mem_entries_categories, World.entries_put_entity hgate]
    exact List.mem_append_right _ List.mem_cons_self

/-- A registration is refused, or the site has its entity. -/
theorem add_cases (s : Site) (r : Registration) :
    (∃ e, s.add r = (.error (.world e), s))
      ∨ (s.world.refusal? r = none
        ∧ s.add r = (.ok (), { s with world := s.world.put r.name r.entity })) := by
  rw [add]
  cases s.world.refusal? r with
  | some e => exact .inl ⟨e, rfl⟩
  | none => exact .inr ⟨rfl, rfl⟩

/-- A pack that is met for the first time is gated from then on. -/
theorem gates_meet (s : Site) (pack : String) :
    ∀ p ∈ (s.meet pack).2.packs, p ∈ s.packs ∨ (s.meet pack).2.world.Gates p := by
  rw [meet]
  split
  · exact fun p hp => .inl hp
  · rcases s.add_cases (Pack.option pack) with ⟨e, hadd⟩ | ⟨hoption, hadd⟩
    · rw [hadd]
      exact fun p hp => .inl hp
    · rw [hadd, Outcome.andThen]
      rcases add_cases _ (Pack.gate pack) with ⟨e, hadd⟩ | ⟨hgate, hadd⟩
      · rw [hadd]
        exact fun p hp => .inl hp
      · rw [hadd, Outcome.andThen]
        intro p hp
        rcases List.mem_append.mp hp with hknown | hnew
        · exact .inl hknown
        · obtain rfl := List.mem_singleton.mp hnew
          exact .inr (gates_put hoption hgate)

/-- **A step gates the packs that it adds.** -/
theorem gates_take (s : Site) (step : Step) :
    ∀ p ∈ (s.take step).2.packs, p ∈ s.packs ∨ (s.take step).2.world.Gates p := by
  cases step with
  | add r =>
      intro p hp
      rw [take, packs_add] at hp
      exact .inl hp
  | refuse e => exact fun p hp => .inl hp
  | meet pack => exact s.gates_meet pack

/-- **Steps gate the packs that they add**, wherever they stop. -/
theorem gates_takeAll (s : Site) (steps : List Step) :
    ∀ p ∈ (s.takeAll steps).2.packs, p ∈ s.packs ∨ (s.takeAll steps).2.world.Gates p := by
  induction steps generalizing s with
  | nil => exact fun p hp => .inl hp
  | cons step steps ih =>
      have hstep := s.gates_take step
      rw [takeAll]
      generalize s.take step = o at hstep
      obtain ⟨r, s₁⟩ := o
      cases r with
      | error e => exact hstep
      | ok _ =>
          intro p hp
          rcases ih s₁ p hp with hknown | hgates
          · rcases hstep p hknown with hbefore | hnow
            · exact .inl hbefore
            · exact .inr (hnow.mono (s₁.extends_takeAll steps))
          · exact .inr hgates

end Site

/-! ### Compilers between builds -/

/-- A compiler for the catalog that has met these packs. -/
structure Compiler.Has (m : Compiler) (c : Catalog) (packs : List String) : Prop where
  catalog : m.catalog = c
  packs : m.packs.entries = packs.map fun pack => (pack, Pack.category pack)
  completed : m.completed? = none ∨ m.completed? = c.completed?

namespace Compiler.Has

variable {m : Compiler} {c : Catalog} {packs : List String}

theorem new (c : Catalog) : Compiler.Has { catalog := c } c [] := ⟨rfl, rfl, .inl rfl⟩

/-- **What a compiler does to a world** is what the plan does from the packs it has met.  It
keeps the category of completed campaigns, and has it when the build goes through. -/
theorem compileInto (h : m.Has c packs) (w : World) :
    let o := Site.takeAll { world := w, packs := packs } c.plan
    (m.compileInto w).result = o.1 ∧ (m.compileInto w).world = o.2.world
      ∧ (m.compileInto w).compiler.Has c o.2.packs
      ∧ (m.completed? = c.completed? ∨ o.1 = .ok () →
        (m.compileInto w).compiler.completed? = c.completed?) := by
  obtain ⟨rfl, hpacks, hcompleted⟩ := h
  have hat : Builder.At m.completed?
      { world := w, packs := m.packs, completed? := m.completed? } ⟨w, packs⟩ :=
    ⟨rfl, hpacks, rfl⟩
  obtain ⟨k, hk, hok, b, hrun, hat'⟩ := m.catalog.build_ends hcompleted hat
  intro o
  rw [Compiler.compileInto]
  simp only [hrun]
  refine ⟨?_, hat'.world, ⟨rfl, hat'.packs, ?_⟩, ?_⟩
  · cases o.1 <;> rfl
  · rcases hk with hsame | htracked
    · exact hat'.completed ▸ hsame ▸ hcompleted
    · exact .inr (hat'.completed.trans htracked)
  · rintro (hhad | hdone)
    · rcases hk with hsame | htracked
      · exact hat'.completed.trans (hsame.trans hhad)
      · exact hat'.completed.trans htracked
    · exact hat'.completed.trans (hok hdone)

end Compiler.Has

/-- A build that goes through leaves no pack unmet. -/
theorem Catalog.mem_packs_of_takeAll {c : Catalog} {s s' : Site}
    (h : s.takeAll c.plan = (.ok (), s')) {pack : String} (hpack : pack ∈ c.packNames) :
    pack ∈ s'.packs := by
  obtain ⟨-, -, hpacks⟩ := Site.takeAll_eq_ok_iff.mp h
  have hmeet : .meet pack ∈ c.plan := by
    have hmem := (Step.mem_fresh_iff.mp (c.mem_packNames_iff.mp hpack)).1
    simp [Catalog.plan, Catalog.contentSteps, hmem]
  rw [hpacks, List.mem_append]
  by_cases hknown : pack ∈ s.packs
  · exact .inl hknown
  · exact .inr (Step.mem_fresh_iff.mpr ⟨hmeet, hknown⟩)

/-! ### Runs -/

/-- A compiler and the worlds that it may build into. -/
structure Workshop where
  compiler : Compiler
  worlds : Nat → World

namespace Workshop

/-- A call: the compiler builds into a world, or someone else calls on that world. -/
inductive Call where
  | build (i : Nat)
  | perform (i : Nat) (op : Operation)

/-- The workshop after a call, whether or not it succeeds. -/
def after (s : Workshop) : Call → Workshop
  | .build i =>
    let built := s.compiler.compileInto (s.worlds i)
    { compiler := built.compiler, worlds := Function.update s.worlds i built.world }
  | .perform i op => { s with worlds := Function.update s.worlds i ((s.worlds i).after op) }

def run (s : Workshop) (calls : List Call) : Workshop := calls.foldl after s

/-- What is true of a workshop for the catalog after these calls. -/
structure Sound (c : Catalog) (log : List Call) (s : Workshop) (packs : List String) : Prop where
  compiler : s.compiler.Has c packs
  /-- A pack that the compiler knows is gated where the compiler met it. -/
  gated : ∀ pack ∈ packs, ∃ i, .build i ∈ log ∧ (s.worlds i).Gates pack

namespace Sound

variable {c : Catalog} {log : List Call} {s : Workshop} {packs : List String}

theorem new (c : Catalog) (worlds : Nat → World) :
    Sound c [] { compiler := { catalog := c }, worlds } [] :=
  ⟨.new c, by simp⟩

/-- Worlds may change as long as they keep their gates. -/
theorem gated_update (h : s.Sound c log packs) {i : Nat} {w : World}
    (hkeep : ∀ pack, (s.worlds i).Gates pack → w.Gates pack) :
    ∀ pack ∈ packs, ∃ j, .build j ∈ log ∧ (Function.update s.worlds i w j).Gates pack := by
  intro pack hpack
  obtain ⟨j, hj, hgates⟩ := h.gated pack hpack
  refine ⟨j, hj, ?_⟩
  by_cases heq : j = i
  · subst heq
    rw [Function.update_self]
    exact hkeep pack hgates
  · rwa [Function.update_of_ne heq]

/-- **What a call keeps.** -/
theorem after (h : s.Sound c log packs) (call : Call) :
    ∃ packs', (s.after call).Sound c (log ++ [call]) packs' := by
  have hlog : ∀ {i}, .build i ∈ log → .build i ∈ log ++ [call] :=
    fun hi => List.mem_append_left _ hi
  cases call with
  | perform i op =>
      refine ⟨packs, h.compiler, fun pack hpack => ?_⟩
      obtain ⟨j, hj, hgates⟩ :=
        h.gated_update (fun pack hgates => hgates.after op) pack hpack
      exact ⟨j, hlog hj, hgates⟩
  | build i =>
      obtain ⟨-, hworld, hcompiler, -⟩ := h.compiler.compileInto (s.worlds i)
      have hextends := Site.extends_takeAll { world := s.worlds i, packs } c.plan
      refine ⟨_, hcompiler, fun pack hpack => ?_⟩
      -- a known pack is where it was, in world `i` too, and a new one is in world `i`
      rcases Site.gates_takeAll _ _ pack hpack with hknown | hnew
      · obtain ⟨j, hj, hgates⟩ :=
          h.gated_update (fun pack hgates => hworld ▸ hgates.mono hextends) pack hknown
        exact ⟨j, hlog hj, hgates⟩
      · refine ⟨i, List.mem_append_right _ List.mem_cons_self, ?_⟩
        show (Function.update s.worlds i _ i).Gates pack
        rw [Function.update_self, hworld]
        exact hnew

/-- **What a run keeps.** -/
theorem run (h : s.Sound c log packs) (calls : List Call) :
    ∃ packs', (s.run calls).Sound c (log ++ calls) packs' := by
  induction calls generalizing s log packs with
  | nil => exact ⟨packs, by rwa [List.append_nil]⟩
  | cons call calls ih =>
      obtain ⟨packs₁, h₁⟩ := h.after call
      obtain ⟨packs₂, h₂⟩ := ih h₁
      exact ⟨packs₂, by rwa [List.append_assoc] at h₂⟩

end Sound

/-- **Where the packs of a build are gated.**  When a build goes through, after any calls on
any worlds, each pack of the catalog is gated in the world of the build, or else the compiler
knew it from a build into another world, which gates it. -/
theorem gates_of_build (c : Catalog) (worlds : Nat → World) (calls : List Call) (i : Nat) :
    let s := Workshop.run { compiler := { catalog := c }, worlds } calls
    let built := s.compiler.compileInto (s.worlds i)
    built.result = .ok () → ∀ pack ∈ c.packNames,
      built.world.Gates pack
        ∨ (pack ∈ s.compiler.packs.keys
          ∧ ∃ j, j ≠ i ∧ .build j ∈ calls ∧ (s.worlds j).Gates pack) := by
  intro s built hok pack hpack
  obtain ⟨packs, hsound⟩ := (Sound.new c worlds).run calls
  obtain ⟨hresult, hworld, -⟩ := hsound.compiler.compileInto (s.worlds i)
  have hmet := Catalog.mem_packs_of_takeAll (Prod.ext (hresult.symm.trans hok) rfl) hpack
  have hextends := Site.extends_takeAll { world := s.worlds i, packs } c.plan
  rw [show built.world = _ from hworld]
  rcases Site.gates_takeAll _ _ pack hmet with hknown | hnew
  · obtain ⟨j, hj, hgates⟩ := hsound.gated pack hknown
    by_cases heq : j = i
    · subst heq
      exact .inl (hgates.mono hextends)
    · refine .inr ⟨?_, j, heq, hj, hgates⟩
      rw [Table.keys, hsound.compiler.packs, List.map_map]
      simpa [Function.comp_def] using hknown
  · exact .inl hnew

/-- A catalog with two packs. -/
def ferry : Catalog where
  campaigns := Table.ofList [
    ("North", { pack? := some "Ice" }), ("South", { pack? := some "Sand" })]

/-- A build into a world in which the option of the second pack is taken. -/
def blocked : List Call := [.perform 0 (.register (.option "enable_sand_dlc" {})), .build 0]

theorem gates_of_build_ferry :
    let s := Workshop.run { compiler := { catalog := ferry }, worlds := fun _ => {} } blocked
    let built := s.compiler.compileInto (s.worlds 1)
    s.compiler.packs.keys = ["Ice"] ∧ built.result = .ok ()
      ∧ ∀ pack ∈ ferry.packNames, built.world.Gates pack
        ∨ (pack ∈ s.compiler.packs.keys
          ∧ ∃ j, j ≠ 1 ∧ .build j ∈ blocked ∧ (s.worlds j).Gates pack) := by
  intro s built
  have hok : built.result = .ok () := by decide +kernel
  exact ⟨by decide +kernel, hok, gates_of_build ferry _ blocked 1 hok⟩

/-- **A pack is not gated in the second world.**  Both builds go through, and the locations of
the second world are in the packs' categories, but nothing is registered there that gates
them. -/
theorem ungated_in_second_world :
    let s := Workshop.run { compiler := { catalog := ferry }, worlds := fun _ => {} } [.build 0]
    let built := s.compiler.compileInto (s.worlds 1)
    built.result = .ok () ∧ "Ice" ∈ ferry.packNames
      ∧ (∃ l, ("North", l) ∈ built.world.locations.entries
        ∧ Pack.categoryName "Ice" ∈ l.categories)
      ∧ ¬ built.world.Gates "Ice" ∧ ¬ built.world.Gated (Pack.categoryName "Ice") := by
  intro s built
  have hlocation : ((built.world.locations.entries.map fun e => (e.1, e.2.categories)).head?)
      = some ("North", ["(Campaign) North", "Ice DLC"]) := by
    decide +kernel
  have hcategories : built.world.categories.entries = [] := by decide +kernel
  refine ⟨by decide +kernel, by decide +kernel, ?_, ?_, ?_⟩
  · obtain ⟨⟨name, l⟩, hl, heq⟩ := List.mem_map.mp (List.mem_of_head? hlocation)
    obtain ⟨rfl, hl'⟩ := Prod.mk.inj heq
    exact ⟨l, hl, hl' ▸ List.mem_cons_of_mem _ List.mem_cons_self⟩
  · intro hgates
    obtain ⟨k, hk, -⟩ := hgates.category
    rw [hcategories] at hk
    cases hk
  · rintro ⟨k, hk, -⟩
    rw [hcategories] at hk
    cases hk

end Workshop

end Worldsmith
