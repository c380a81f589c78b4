/-
Steps as registrations.

Which pack is met for the first time is known from the steps alone, so a list of steps comes
down to a list of registrations: what is added is registered as it is, and a pack is
registered where it is first met.  Steps go through when none of them refuses and the
registrations go through (`takeAll_eq_ok_iff`), and the world holds just those.
-/
import Worldsmith.Proofs.Catalog.Steps

namespace Worldsmith

open Registration (namesIn entriesIn)

namespace Step

/-- The packs that are met for the first time, when some are known before. -/
def fresh (known : List String) : List Step → List String
  | [] => []
  | .add _ :: steps => fresh known steps
  | .refuse _ :: steps => fresh known steps
  | .meet pack :: steps =>
    if pack ∈ known then fresh known steps else pack :: fresh (known ++ [pack]) steps

/-- What steps register, when some packs are known before. -/
def registrations (known : List String) : List Step → List Registration
  | [] => []
  | .add r :: steps => r :: registrations known steps
  | .refuse _ :: steps => registrations known steps
  | .meet pack :: steps =>
    if pack ∈ known then registrations known steps
    else Pack.option pack :: Pack.gate pack :: registrations (known ++ [pack]) steps

/-- What is added, packs apart. -/
def added? : Step → Option Registration
  | .add r => some r
  | .meet _ => none
  | .refuse _ => none

/-! ### Packs -/

theorem mem_fresh_iff {known : List String} {steps : List Step} {pack : String} :
    pack ∈ fresh known steps ↔ .meet pack ∈ steps ∧ pack ∉ known := by
  induction steps generalizing known with
  | nil => simp [fresh]
  | cons step steps ih =>
      cases step with
      | add r => simp [fresh, ih]
      | refuse e => simp [fresh, ih]
      | meet p =>
          rw [fresh]
          by_cases hp : p ∈ known
          · rw [if_pos hp, ih]
            constructor
            · intro h
              obtain ⟨hmem, hnot⟩ := h
              exact ⟨List.mem_cons_of_mem _ hmem, hnot⟩
            · intro h
              obtain ⟨hmem, hnot⟩ := h
              rcases List.mem_cons.mp hmem with heq | hmem
              · cases heq
                exact absurd hp hnot
              · exact ⟨hmem, hnot⟩
          · rw [if_neg hp]
            by_cases heq : pack = p
            · subst heq
              simp [hp]
            · simp [ih, heq]

theorem nodup_fresh (known : List String) (steps : List Step) : (fresh known steps).Nodup := by
  induction steps generalizing known with
  | nil => exact List.nodup_nil
  | cons step steps ih =>
      cases step with
      | add r => exact ih known
      | refuse e => exact ih known
      | meet p =>
          rw [fresh]
          split
          · exact ih known
          · refine List.nodup_cons.mpr ⟨fun hmem => ?_, ih _⟩
            exact (mem_fresh_iff.mp hmem).2 (by simp)

/-! ### Registrations -/

theorem registrations_append (known : List String) (steps steps' : List Step) :
    registrations known (steps ++ steps')
      = registrations known steps ++ registrations (known ++ fresh known steps) steps' := by
  induction steps generalizing known with
  | nil => simp [registrations, fresh]
  | cons step steps ih =>
      cases step with
      | add r => simp [registrations, fresh, ih]
      | refuse e => simp [registrations, fresh, ih]
      | meet p =>
          rw [List.cons_append, registrations, registrations, fresh]
          split
          · exact ih known
          · rw [ih, List.append_assoc]
            rfl

/-- A registration is of something added or of a pack. -/
theorem mem_registrations_iff {known : List String} {steps : List Step} {r : Registration} :
    r ∈ registrations known steps ↔
      .add r ∈ steps ∨ ∃ pack ∈ fresh known steps, r = Pack.option pack ∨ r = Pack.gate pack := by
  induction steps generalizing known with
  | nil => simp [registrations, fresh]
  | cons step steps ih =>
      cases step with
      | add r' => simp [registrations, fresh, ih, or_assoc]
      | refuse e => simp [registrations, fresh, ih]
      | meet p =>
          rw [registrations, fresh]
          split
          · simp [ih]
          · simp only [List.mem_cons, ih, reduceCtorEq, false_or, exists_eq_or_imp]
            rw [← or_assoc, or_left_comm]

@[simp] theorem fresh_map_add (known : List String) (rs : List Registration) :
    fresh known (rs.map .add) = [] := by
  induction rs with
  | nil => rfl
  | cons r rs ih => exact ih

@[simp] theorem registrations_map_add (known : List String) (rs : List Registration) :
    registrations known (rs.map .add) = rs := by
  induction rs with
  | nil => rfl
  | cons r rs ih => rw [List.map_cons, registrations, ih]

/-- Packs are neither items nor locations. -/
theorem filter_registrations {t : TableName} (ht : t = .items ∨ t = .locations)
    (known : List String) (steps : List Step) :
    (registrations known steps).filter (·.table = t)
      = (steps.filterMap added?).filter (·.table = t) := by
  induction steps generalizing known with
  | nil => rfl
  | cons step steps ih =>
      cases step with
      | add r => simp [registrations, added?, List.filter_cons, ih]
      | refuse e => exact ih known
      | meet p =>
          rw [registrations]
          split
          · exact ih known
          · have hoption : (Pack.option p).table ≠ t := by
              rcases ht with rfl | rfl <;> simp [Pack.option, Registration.table]
            have hgate : (Pack.gate p).table ≠ t := by
              rcases ht with rfl | rfl <;> simp [Pack.gate, Registration.table]
            rw [List.filter_cons_of_neg (by simpa using hoption),
              List.filter_cons_of_neg (by simpa using hgate), ih]
            rfl

/-- In a table where nothing is added, there is what the packs put there. -/
theorem filter_registrations_of_packs {t : TableName} {steps : List Step}
    (hadd : ∀ r, .add r ∈ steps → r.table ≠ t) (known : List String) :
    (registrations known steps).filter (·.table = t)
      = (fresh known steps).flatMap fun pack =>
        [Pack.option pack, Pack.gate pack].filter (·.table = t) := by
  induction steps generalizing known with
  | nil => rfl
  | cons step steps ih =>
      have ih := fun known => ih (fun r hr => hadd r (List.mem_cons_of_mem _ hr)) known
      cases step with
      | add r =>
          have hr := hadd r List.mem_cons_self
          rw [registrations, fresh, List.filter_cons_of_neg (by simpa using hr), ih]
      | refuse e => exact ih known
      | meet p =>
          rw [registrations, fresh]
          split
          · exact ih known
          · rw [List.flatMap_cons, ← ih, ← List.filter_append]
            rfl

end Step

/-! ### Steps that go through -/

namespace Site

theorem andThen_eq_ok_iff {o : Outcome} {next : Site → Outcome} {s' : Site} :
    o.andThen next = (.ok (), s') ↔ ∃ s, o = (.ok (), s) ∧ next s = (.ok (), s') := by
  obtain ⟨r, s⟩ := o
  cases r with
  | error e => simp [Outcome.andThen]
  | ok _ => simp [Outcome.andThen]

theorem add_eq_ok_iff {s s' : Site} {r : Registration} :
    s.add r = (.ok (), s') ↔
      s.world.refusal? r = none ∧ s' = { s with world := s.world.put r.name r.entity } := by
  rw [add]
  cases s.world.refusal? r with
  | some e => simp
  | none => simp [eq_comm]

/-- **Steps go through** when none of them refuses and all that they register goes
through. -/
theorem takeAll_eq_ok_iff {s s' : Site} {steps : List Step} :
    s.takeAll steps = (.ok (), s') ↔
      (∀ e, .refuse e ∉ steps)
        ∧ s.world.enterAll (Step.registrations s.packs steps) = .ok s'.world
        ∧ s'.packs = s.packs ++ Step.fresh s.packs steps := by
  induction steps generalizing s with
  | nil =>
      obtain ⟨w, packs⟩ := s
      obtain ⟨w', packs'⟩ := s'
      simp [takeAll, Step.registrations, Step.fresh, World.enterAll, eq_comm]
  | cons step steps ih =>
      rw [takeAll, andThen_eq_ok_iff]
      cases step with
      | refuse e =>
          constructor
          · intro h
            obtain ⟨s₁, hrefused, -⟩ := h
            cases hrefused
          · intro h
            obtain ⟨hno, -⟩ := h
            exact absurd List.mem_cons_self (hno e)
      | add r =>
          simp only [take, add_eq_ok_iff, Step.registrations, Step.fresh,
            World.enterAll_cons_eq_ok_iff, List.mem_cons, reduceCtorEq, false_or]
          constructor
          · intro h
            obtain ⟨s₁, ⟨hfree, rfl⟩, hrest⟩ := h
            obtain ⟨hno, henter, hpacks⟩ := ih.mp hrest
            exact ⟨hno, ⟨hfree, henter⟩, hpacks⟩
          · intro h
            obtain ⟨hno, ⟨hfree, henter⟩, hpacks⟩ := h
            exact ⟨_, ⟨hfree, rfl⟩, ih.mpr ⟨hno, henter, hpacks⟩⟩
      | meet p =>
          rw [take, meet, Step.registrations, Step.fresh]
          by_cases hp : p ∈ s.packs
          · simp [hp, ih]
          · simp only [if_neg hp, andThen_eq_ok_iff, add_eq_ok_iff,
              World.enterAll_cons_eq_ok_iff, List.mem_cons, reduceCtorEq, false_or]
            constructor
            · intro h
              obtain ⟨s₃, ⟨s₁, ⟨hfree₁, rfl⟩, s₂, ⟨hfree₂, rfl⟩, hs₃⟩, hrest⟩ := h
              obtain rfl := (Prod.mk.inj hs₃).2
              obtain ⟨hno, henter, hpacks⟩ := ih.mp hrest
              refine ⟨hno, ⟨hfree₁, hfree₂, henter⟩, ?_⟩
              rw [hpacks, List.append_assoc]
              rfl
            · intro h
              obtain ⟨hno, ⟨hfree₁, hfree₂, henter⟩, hpacks⟩ := h
              refine ⟨_, ⟨_, ⟨hfree₁, rfl⟩, _, ⟨hfree₂, rfl⟩, rfl⟩, ih.mpr ⟨hno, henter, ?_⟩⟩
              rw [hpacks, List.append_assoc]
              rfl

end Site

end Worldsmith
