/-
Building as a list of steps.

A build is a program that may look at its state at any time, and that hands entities on
which only exist once they are registered.  Both hide what it does.  A site keeps no more
than what can make a difference, the world and the packs met so far, and steps are known
before any of them is taken.

`Follows` says that a program does what a list of steps does: from a builder and a site that
agree, both end in the same way, and agree again.  It is closed under the ways of putting
programs together, so the steps of a program can be read off its text.  That an entity is
not there until it is registered is no obstacle, for it can only be the one that is asked
for.
-/
import Worldsmith.Catalog.Builder
import Worldsmith.Proofs.World.Run

namespace Worldsmith

/-! ### Packs -/

namespace Pack

def optionSpec (pack : String) : ToggleOption.Spec :=
  { description := .text (description pack), default := true }

/-- The option that enables a pack, as it is registered. -/
def option (pack : String) : Registration := .option (optionName pack) (optionSpec pack)

def categorySpec (pack : String) : Category.Spec :=
  { hidden := true
    options? := some (.entity (ToggleOption.ofSpec (optionName pack) (optionSpec pack))) }

/-- The category that the option gates, as it is registered. -/
def gate (pack : String) : Registration := .category (categoryName pack) (categorySpec pack)

/-- The category that a pack's content belongs to. -/
def category (pack : String) : Category :=
  Category.ofSpec (categoryName pack) (categorySpec pack)

end Pack

/-! ### Sites and steps -/

/-- A world under construction, and the packs that have been met. -/
structure Site where
  world : World := {}
  packs : List String := []

inductive Step where
  | add (r : Registration)
  /-- Content of a pack is met. -/
  | meet (pack : String)
  | refuse (e : CatalogError)

/-- How steps end, and the site they leave behind in either case. -/
abbrev Site.Outcome := Except CatalogError Unit × Site

def Site.Outcome.andThen (o : Site.Outcome) (next : Site → Site.Outcome) : Site.Outcome :=
  match o with
  | (.ok (), s) => next s
  | (.error e, s) => (.error e, s)

namespace Site

def add (s : Site) (r : Registration) : Outcome :=
  match s.world.refusal? r with
  | some e => (.error (.world e), s)
  | none => (.ok (), { s with world := s.world.put r.name r.entity })

/-- A pack is registered the first time. -/
def meet (s : Site) (pack : String) : Outcome :=
  if pack ∈ s.packs then (.ok (), s)
  else
    (s.add (Pack.option pack)).andThen fun s =>
    (s.add (Pack.gate pack)).andThen fun s =>
    (.ok (), { s with packs := s.packs ++ [pack] })

def take (s : Site) : Step → Outcome
  | .add r => s.add r
  | .meet pack => s.meet pack
  | .refuse e => (.error e, s)

/-- Takes one step after the other, up to the first that fails. -/
def takeAll (s : Site) : List Step → Outcome
  | [] => (.ok (), s)
  | step :: steps => (s.take step).andThen fun s => s.takeAll steps

theorem takeAll_singleton (s : Site) (step : Step) : s.takeAll [step] = s.take step := by
  rw [takeAll]
  obtain ⟨_ | _, s'⟩ := s.take step <;> rfl

theorem packs_add (s : Site) (r : Registration) : (s.add r).2.packs = s.packs := by
  rw [add]
  cases s.world.refusal? r <;> rfl

theorem takeAll_append (s : Site) (steps steps' : List Step) :
    s.takeAll (steps ++ steps') = (s.takeAll steps).andThen fun s => s.takeAll steps' := by
  induction steps generalizing s with
  | nil => rfl
  | cons step steps ih =>
      rw [List.cons_append, takeAll, takeAll]
      obtain ⟨_ | _, s'⟩ := s.take step
      · rfl
      · exact ih s'

end Site

/-! ### Programs that follow steps -/

/-- A builder and a site hold the same.  Of a pack that was met, the builder has the
category. -/
structure Builder.At (completed? : Option Category) (b : Builder) (s : Site) : Prop where
  world : b.world = s.world
  packs : b.packs.entries = s.packs.map fun pack => (pack, Pack.category pack)
  completed : b.completed? = completed?

namespace Builder.At

variable {completed? : Option Category} {b : Builder} {s : Site}

/-- The category of a pack is at hand when the pack has been met. -/
theorem get?_packs (h : b.At completed? s) (pack : String) :
    b.packs.get? pack = if pack ∈ s.packs then some (Pack.category pack) else none := by
  rw [Table.get?, h.packs]
  induction s.packs with
  | nil => rfl
  | cons p packs ih =>
      rw [List.map_cons, List.find?_cons]
      by_cases hp : p = pack
      · simp [hp]
      · simpa [hp, Ne.symm hp] using ih

/-- Once it is registered, the builder remembers the pack. -/
theorem remember (h : b.At completed? s) {pack : String} (hnew : pack ∉ s.packs)
    (events : List Event) :
    Builder.At completed?
      { b with events, packs := b.packs.set pack (Pack.category pack) }
      { s with packs := s.packs ++ [pack] } where
  world := h.world
  packs := by
    have hkeys : pack ∉ b.packs.keys := by simpa [Table.keys, h.packs, Function.comp_def]
    rw [Table.set, dif_neg hkeys, Table.entries_push, h.packs, List.map_append]
    rfl
  completed := h.completed

end Builder.At

/-- Run on the builder, the program ends as steps have ended, and if they went through it
returns `a`. -/
def Ends {α : Type} (completed? : Option Category) (m : Build α) (b : Builder) (o : Site.Outcome)
    (a : α) : Prop :=
  ∃ b' : Builder, m.run.run b = (o.1.map fun _ => a, b') ∧ b'.At completed? o.2

/-- **The program does what the steps do**, whatever there is to start from. -/
def Follows {α : Type} (completed? : Option Category) (m : Build α) (steps : List Step) (a : α) :
    Prop :=
  ∀ (b : Builder) (s : Site), b.At completed? s → Ends completed? m b (s.takeAll steps) a

theorem Build.run_bind {α β : Type} (m : Build α) (f : α → Build β) (b : Builder) :
    (m >>= f).run.run b =
      match m.run.run b with
      | (.ok a, b') => (f a).run.run b'
      | (.error e, b') => (.error e, b') := by
  show (match m.run.run b with | (r, b') => (ExceptT.bindCont f r).run b') = _
  cases m.run.run b with
  | mk r b' => cases r <;> rfl

theorem Ends.bind {α β : Type} {completed? : Option Category} {m : Build α} {f : α → Build β}
    {b : Builder} {o : Site.Outcome} {next : Site → Site.Outcome} {a : α} {c : β}
    (hm : Ends completed? m b o a)
    (hf : ∀ b' s', o = (.ok (), s') → b'.At completed? s' → Ends completed? (f a) b' (next s') c) :
    Ends completed? (m >>= f) b (o.andThen next) c := by
  obtain ⟨b', hrun, hat⟩ := hm
  rw [Ends, Build.run_bind, hrun]
  obtain ⟨r, s'⟩ := o
  cases r with
  | error e => exact ⟨b', rfl, hat⟩
  | ok _ => exact hf b' s' rfl hat

/-- A program may look at the builder that it is run on. -/
theorem Ends.get_bind {α : Type} {completed? : Option Category} {f : Builder → Build α}
    {b : Builder} {o : Site.Outcome} {a : α} (h : Ends completed? (f b) b o a) :
    Ends completed? (get >>= f) b o a :=
  h

namespace Follows

variable {α β : Type} {completed? : Option Category}

protected theorem pure (a : α) : Follows completed? (pure a) [] a :=
  fun b _ h => ⟨b, rfl, h⟩

/-- One program after another: the steps are those of both. -/
protected theorem bind {m : Build α} {f : α → Build β} {steps steps' : List Step} {a : α} {c : β}
    (hm : Follows completed? m steps a) (hf : Follows completed? (f a) steps' c) :
    Follows completed? (m >>= f) (steps ++ steps') c := by
  intro b s h
  rw [Site.takeAll_append]
  exact (hm b s h).bind fun b' s' _ hat => hf b' s' hat

/-- What is done then must depend on nothing but the category of completed campaigns. -/
theorem get_bind {f : Builder → Build α} {steps : List Step} {a : α}
    (h : ∀ b, b.completed? = completed? → Follows completed? (f b) steps a) :
    Follows completed? (get >>= f) steps a :=
  fun b s hat => Ends.get_bind (h b hat.completed b s hat)

protected theorem throw (e : CatalogError) (a : α) :
    Follows completed? (throw e) [.refuse e] a :=
  fun b _ h => ⟨b, rfl, h⟩

/-- Events make no difference. -/
theorem report (e : Event) : Follows completed? (Build.report e) [] () :=
  fun b _ h => ⟨{ b with events := b.events ++ [e] }, rfl, ⟨h.world, h.packs, h.completed⟩⟩

protected theorem forM {xs : List α} {f : α → Build PUnit} {steps : α → List Step}
    (h : ∀ x ∈ xs, Follows completed? (f x) (steps x) ()) :
    Follows completed? (xs.forM f) (xs.flatMap steps) () := by
  induction xs with
  | nil => exact Follows.pure ()
  | cons x xs ih =>
      exact Follows.bind (h x List.mem_cons_self) (ih fun y hy => h y (List.mem_cons_of_mem x hy))

/-- A loop over numbers is a loop over the list of them. -/
theorem natForM {n : Nat} {f : (i : Nat) → i < n → Build Unit} {steps : Nat → List Step}
    (h : ∀ i hi, Follows completed? (f i hi) (steps i) ()) :
    Follows completed? (n.forM f) ((List.range n).flatMap steps) () := by
  -- the loop counts down what is left, so its `i` stands for the number `n - i`
  obtain ⟨loop, hn, hzero, hsucc⟩ : ∃ loop : (i : Nat) → i ≤ n → Build Unit,
      n.forM f = loop n (Nat.le_refl n) ∧ (∀ hi, loop 0 hi = pure ())
        ∧ ∀ i hi, loop (i + 1) hi
          = (do f (n - i - 1) (by omega); loop i (Nat.le_of_succ_le hi)) :=
    ⟨_, rfl, fun _ => rfl, fun _ _ => rfl⟩
  have hloop : ∀ i (hi : i ≤ n), Follows completed? (loop i hi)
      ((List.range' (n - i) i).flatMap steps) () := by
    intro i
    induction i with
    | zero =>
        intro hi
        rw [hzero]
        exact Follows.pure ()
    | succ i ih =>
        intro hi
        have hfirst : n - (i + 1) + 1 = n - i := by omega
        rw [hsucc, List.range'_succ, List.flatMap_cons, hfirst]
        exact Follows.bind (h (n - (i + 1)) (by omega)) (ih (by omega))
  have hall := hloop n (Nat.le_refl n)
  rw [Nat.sub_self, ← List.range_eq_range'] at hall
  rwa [hn]

end Follows

/-! ### Registering -/

/-- What is added is the entity as it is specified. -/
theorem World.added_eq {ε : Type} {w : World} {r : Registration} {wrap : ε → Entity}
    (hwrap : ∀ a b, wrap a = wrap b → a = b) {added : Except WorldError (ε × World)} {x : ε}
    (hadded : w.enter r = added.map fun p => (wrap p.1, p.2)) (hx : r.entity = wrap x) :
    added = match w.refusal? r with
      | some e => .error e
      | none => .ok (x, w.put r.name r.entity) := by
  rw [World.enter_eq, hx] at hadded
  rw [hx]
  cases hrefusal : w.refusal? r with
  | some e =>
      rw [hrefusal] at hadded
      cases added with
      | error e' => exact congrArg Except.error (Except.error.inj hadded).symm
      | ok p => cases hadded
  | none =>
      rw [hrefusal] at hadded
      cases added with
      | error e' => cases hadded
      | ok p =>
          obtain ⟨hp, hworld⟩ := Prod.mk.inj (Except.ok.inj hadded)
          exact congrArg Except.ok (Prod.ext (hwrap _ _ hp).symm hworld.symm)

namespace Follows

variable {completed? : Option Category}

theorem register {ε : Type} [Named ε] {table : TableName} {r : Registration} {x : ε}
    {add : World → Except WorldError (ε × World)}
    (h : ∀ w, add w = match w.refusal? r with
      | some e => .error e
      | none => .ok (x, w.put r.name r.entity)) :
    Follows completed? (Build.register table add) [.add r] x := by
  intro b s hat
  unfold Build.register
  apply Ends.get_bind
  rw [h, hat.world, Site.takeAll_singleton, Site.take, Site.add]
  cases s.world.refusal? r with
  | some e => exact ⟨b, rfl, hat⟩
  | none => exact ⟨_, rfl, rfl, hat.packs, hat.completed⟩

theorem addItem (name : String) (spec : Item.Spec) :
    Follows completed? (Build.addItem name spec) [.add (.item name spec)]
      (Item.ofSpec name spec) :=
  register fun _ => World.added_eq (fun _ _ => Entity.item.inj) rfl rfl

theorem addLocation (name : String) (spec : Location.Spec) :
    Follows completed? (Build.addLocation name spec) [.add (.location name spec)]
      (Location.ofSpec name spec) :=
  register fun _ => World.added_eq (fun _ _ => Entity.location.inj) rfl rfl

theorem addCategory (name : String) (spec : Category.Spec) :
    Follows completed? (Build.addCategory name spec) [.add (.category name spec)]
      (Category.ofSpec name spec) :=
  register fun _ => World.added_eq (fun _ _ => Entity.category.inj) rfl rfl

theorem addOption (name : String) (spec : ToggleOption.Spec) :
    Follows completed? (Build.addOption name spec) [.add (.option name spec)]
      (ToggleOption.ofSpec name spec) :=
  register fun _ => World.added_eq (fun _ _ => Entity.option.inj) rfl rfl

/-! ### Meeting a pack -/

/-- **A pack is registered once**, and from then on the builder knows its category. -/
theorem packCategory (pack : String) :
    Follows completed? (Build.packCategory pack) [.meet pack] (Pack.category pack) := by
  intro b s hat
  rw [Site.takeAll_singleton, Site.take, Site.meet]
  unfold Build.packCategory
  apply Ends.get_bind
  rw [hat.get?_packs]
  by_cases hmem : pack ∈ s.packs
  · rw [if_pos hmem, if_pos hmem]
    exact ⟨b, rfl, hat⟩
  · rw [if_neg hmem, if_neg hmem]
    have hoption := addOption (Pack.optionName pack) (Pack.optionSpec pack) b s hat
    rw [Site.takeAll_singleton] at hoption
    refine hoption.bind fun b₁ s₁ hs₁ hat₁ => ?_
    have hgate := addCategory (Pack.categoryName pack) (Pack.categorySpec pack) b₁ s₁ hat₁
    rw [Site.takeAll_singleton] at hgate
    refine hgate.bind fun b₂ s₂ hs₂ hat₂ => ?_
    have hpacks : s₂.packs = s.packs := by
      have h₁ := congrArg (·.2.packs) hs₁
      have h₂ := congrArg (·.2.packs) hs₂
      simp only [Site.take, Site.packs_add] at h₁ h₂
      rw [← h₂, h₁]
    exact ⟨_, rfl, hat₂.remember (hpacks ▸ hmem) _⟩

/-- The categories of content that may belong to a pack. -/
theorem packCategories (pack? : Option String) :
    Follows completed? (Build.packCategories pack?) (pack?.toList.map .meet)
      (pack?.toList.map Pack.category) := by
  cases pack? with
  | none => exact Follows.pure []
  | some pack => exact Follows.bind (packCategory pack) (Follows.pure [Pack.category pack])

end Follows

end Worldsmith
