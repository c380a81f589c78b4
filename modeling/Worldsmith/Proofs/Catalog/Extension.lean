/-
A catalog built into a world that holds other things already.

What building registers does not depend on the world, which can do no more than refuse a name
that is taken.  So a catalog fits into a world just when it makes a world of its own and no
name of that is taken in the same table, and then the world holds what it held and after it
what the catalog's own world holds (`compileInto_extends`).

Whether it fits or not, nothing is lost.  A step adds to the end of a table or leaves the
world as it is, so the tables that steps leave behind begin with the tables they found, at
whatever step they stop.
-/
import Worldsmith.Proofs.Catalog.Building

namespace Worldsmith

open Registration (namesIn entriesIn)

/-! ### Worlds that grow -/

/-- Every table of the second world begins with that of the first. -/
def World.Extends (w w' : World) : Prop := ∀ t, w.entries t <+: w'.entries t

namespace World.Extends

theorem refl (w : World) : w.Extends w := fun _ => List.prefix_refl _

theorem trans {w w' w'' : World} (h : w.Extends w') (h' : w'.Extends w'') : w.Extends w'' :=
  fun t => (h t).trans (h' t)

theorem put {w : World} {r : Registration} (h : w.refusal? r = none) :
    w.Extends (w.put r.name r.entity) := by
  intro t
  rw [entries_put_entity h]
  exact List.prefix_append _ _

end World.Extends

namespace Site

open World (Extends)

theorem extends_add (s : Site) (r : Registration) : s.world.Extends (s.add r).2.world := by
  rw [add]
  cases hfree : s.world.refusal? r with
  | some e => exact .refl _
  | none => exact .put hfree

/-- What comes next may only add to what the first part has left. -/
theorem extends_andThen {w : World} {o : Outcome} {next : Site → Outcome}
    (h : w.Extends o.2.world) (hnext : ∀ s : Site, s.world.Extends (next s).2.world) :
    w.Extends (o.andThen next).2.world := by
  obtain ⟨r, s⟩ := o
  cases r with
  | error e => exact h
  | ok _ => exact h.trans (hnext s)

/-- **A step adds to the tables.** -/
theorem extends_take (s : Site) (step : Step) : s.world.Extends (s.take step).2.world := by
  cases step with
  | add r => exact s.extends_add r
  | refuse e => exact .refl _
  | meet pack =>
      rw [take, meet]
      split
      · exact .refl _
      · refine extends_andThen (s.extends_add _) fun s₁ => ?_
        exact extends_andThen (s₁.extends_add _) fun s₂ => .refl _

/-- **Steps add to the tables**, wherever they stop. -/
theorem extends_takeAll (s : Site) (steps : List Step) :
    s.world.Extends (s.takeAll steps).2.world := by
  induction steps generalizing s with
  | nil => exact .refl _
  | cons step steps ih => exact extends_andThen (s.extends_take step) ih

end Site

/-! ### Registrations in two worlds -/

namespace World

variable {w : World} {rs : List Registration}

/-- Registrations go through in a world when they do in a world of their own and none of their
names is taken. -/
theorem enterAll_ok_iff_own :
    (∃ w', w.enterAll rs = .ok w') ↔
      ∃ own, ({} : World).enterAll rs = .ok own ∧ ∀ t, ∀ name ∈ own.names t, name ∉ w.names t := by
  have hown : ∀ own, ({} : World).enterAll rs = .ok own → ∀ t, own.names t = namesIn t rs := by
    intro own hown t
    rw [names_enterAll hown, names_empty, List.nil_append]
  rw [enterAll_ok_iff]
  constructor
  · intro h
    obtain ⟨hnodup, hfault⟩ := h
    have hsplit := fun t => List.nodup_append.mp (hnodup t)
    obtain ⟨own, henter⟩ : ∃ own, ({} : World).enterAll rs = .ok own := by
      refine enterAll_ok_iff.mpr ⟨fun t => ?_, hfault⟩
      rw [names_empty, List.nil_append]
      exact (hsplit t).2.1
    refine ⟨own, henter, fun t name hname htaken => ?_⟩
    rw [hown own henter] at hname
    exact (hsplit t).2.2 name htaken name hname rfl
  · intro h
    obtain ⟨own, henter, hfree⟩ := h
    refine ⟨fun t => ?_, (enterAll_ok_iff.mp ⟨own, henter⟩).2⟩
    rw [← hown own henter]
    refine List.nodup_append.mpr ⟨w.names_nodup t, own.names_nodup t, ?_⟩
    rintro name htaken _ hname rfl
    exact hfree t name hname htaken

/-- What they add is what there would be without the rest. -/
theorem entries_enterAll_own {w' own : World} (h : w.enterAll rs = .ok w')
    (hown : ({} : World).enterAll rs = .ok own) (t : TableName) :
    w'.entries t = w.entries t ++ own.entries t := by
  rw [entries_enterAll h, entries_enterAll hown, entries_empty, List.nil_append]

end World

/-! ### Catalogs -/

namespace Catalog

variable (c : Catalog)

/-- **A catalog that is built into a world is added to it.**  Nothing but a name that is taken
there makes a difference, and what the world held stays first in any case. -/
theorem compileInto_extends (w : World) :
    let built := Compiler.compileInto { catalog := c } w
    (built.result = .ok () ↔
      ∃ own, c.compile.1 = .ok own ∧ ∀ t, ∀ name ∈ own.names t, name ∉ w.names t)
    ∧ (∀ own, c.compile.1 = .ok own → built.result = .ok () →
      ∀ t, built.world.entries t = w.entries t ++ own.entries t)
    ∧ ∀ t, w.entries t <+: built.world.entries t := by
  intro built
  have hbuilt : ∀ w', built.result = .ok () ∧ built.world = w' ↔
      (∀ e, .refuse e ∉ c.plan) ∧ w.enterAll c.registrations = .ok w' :=
    fun _ => c.compileInto_ok_iff
  refine ⟨?_, fun own hown hok t => ?_, ?_⟩
  · simp only [compile_eq_ok_iff, and_assoc, exists_and_left, ← World.enterAll_ok_iff_own]
    constructor
    · intro hok
      obtain ⟨hno, henter⟩ := (hbuilt built.world).mp ⟨hok, rfl⟩
      exact ⟨hno, built.world, henter⟩
    · rintro ⟨hno, w', henter⟩
      exact ((hbuilt w').mpr ⟨hno, henter⟩).1
  · have henter := ((hbuilt built.world).mp ⟨hok, rfl⟩).2
    exact World.entries_enterAll_own henter (c.compile_eq_ok_iff.mp hown).2 t
  · rw [(c.compileInto_eq w).2]
    exact Site.extends_takeAll { world := w } c.plan

/-! ### A fair in a meadow -/

namespace Fair

/-- A catalog in which every section registers something. -/
def fair : Catalog where
  campaigns := Table.ofList [
    ("Maze", { episodes? := some 2, pack? := some "Night" }), ("Juggler", {})]
  extraEpisodes := Table.ofList [("Fireworks", { pack? := some "Night" })]
  characters := Table.ofList [("Juggler", { goal? := some "five balls" }), ("Baker", {})]
  cards := Table.ofList [("Ace", { count := 4 })]
  victory? := some (.oranges "Gate" 10 "70%")
  trackCompletion := true

/-- A world with something in each table.  The names are the fair's, but those of other
tables. -/
def meadow : World :=
  ({} : World).run [
    .register (.item "Gate" { count? := some 2 }),
    .register (.location "Ace" { requires? := some (.subject (.item "Gate")) }),
    .register (.category "Maze" {}),
    .register (.option "Baker" { default := true }),
    .gate "Maze" (.name "Baker")]

end Fair

theorem compileInto_extends_fair :
    let built := Compiler.compileInto { catalog := Fair.fair } Fair.meadow
    built.result = .ok () ∧ ∃ own, Fair.fair.compile.1 = .ok own
      ∧ ∀ t, built.world.entries t = Fair.meadow.entries t ++ own.entries t := by
  intro built
  have hok : built.result = .ok () := by decide +kernel
  obtain ⟨hiff, hentries, -⟩ := compileInto_extends Fair.fair Fair.meadow
  obtain ⟨own, hown, -⟩ := hiff.mp hok
  exact ⟨hok, own, hown, hentries own hown hok⟩

end Catalog

end Worldsmith
