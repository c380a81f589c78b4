/-
A world is the record of the calls that succeeded.

A caller sees more than which calls succeed: each of them gives an entity back.  `returned`
keeps both, call by call, and `Records` says what a world has to be for such a record: its
tables hold what was given back, in the order of the calls and under the names that were
asked for, and the options of a category are followed by those that it was gated by since.
What the registrations were checked for then holds of what is stored.

After any run the world is that of its record (`records_run`).  The induction is that of
`entries_run`; what is left is that a call gives back the entity that is asked for, and that
of all trees without a fault just one is written as empty text.
-/
import Worldsmith.Proofs.World.Run

namespace Worldsmith

open Operation (gated registration?)
open Registration (entriesIn)

/-! ### What entities are checked for -/

/-- What a location keeps of a requirement: its text, unless that is raw and empty. -/
inductive Location.Keeps : Option Requirement → Option String → Prop
  | none : Keeps none none
  | empty : Keeps (some (.raw "")) none
  | text {r : Requirement} {text : String} (h : r.compile = .ok text) (hne : r ≠ .raw "") :
      Keeps (some r) (some text)

namespace Registration

theorem one_le_count {name : String} {spec : Item.Spec}
    (h : (Registration.item name spec).specFault? = none) :
    1 ≤ (Item.ofSpec name spec).count := by
  rw [Item.count, Item.ofSpec]
  cases hcount : spec.count? with
  | none => exact Nat.le_refl 1
  | some n =>
      have hn : n ≠ 0 := by
        rintro rfl
        simp [specFault?, hcount] at h
      exact Nat.pos_of_ne_zero fun hzero => hn (UInt32.toNat_inj.mp hzero)

theorem keeps {name : String} {spec : Location.Spec}
    (h : (Registration.location name spec).specFault? = none) :
    Location.Keeps spec.requires? (Location.ofSpec name spec).requires? := by
  cases hrequires : spec.requires? with
  | none =>
      rw [Location.ofSpec, hrequires]
      exact .none
  | some r =>
      have hfault : r.fault? = none := by simpa [specFault?, hrequires] using h
      by_cases hraw : r = .raw ""
      · subst hraw
        rw [Location.ofSpec, hrequires]
        exact .empty
      · rw [Location.ofSpec_of_requires hrequires hraw]
        exact .text (Requirement.compile_eq_ok_iff.mpr ⟨hfault, rfl⟩) hraw

end Registration

theorem Operation.name_gated (log : List Operation) (e : String × Entity) :
    (gated log e).2.name = e.2.name := by
  obtain ⟨name, e⟩ := e
  cases e <;> rfl

namespace World

/-! ### Records of calls -/

/-- The calls of a run that succeed, each with the entity that it gives back. -/
def returned (w : World) : List Operation → List (Operation × Entity)
  | [] => []
  | op :: ops =>
    match w.perform op with
    | .ok (e, w') => (op, e) :: w'.returned ops
    | .error _ => w.returned ops

/-- What a call puts into a table: the entity that a registration gave back, under the name
that was asked for. -/
def recorded (t : TableName) : Operation × Entity → List (String × Entity)
  | (.register r, e) => if r.table = t then [(r.name, e)] else []
  | (.gate .., _) => []

/-- **The world that a record of calls is about.** -/
structure Records (w : World) (log : List (Operation × Entity)) : Prop where
  /-- Each table holds what was given back, in this order, and categories have after their
  own options those of the calls that gated them. -/
  entries : ∀ t, w.entries t = (log.flatMap (recorded t)).map (gated (log.map Prod.fst))
  distinct : ∀ t, (w.names t).Nodup
  named : ∀ t, ∀ name ∈ w.names t, Text.isBlank name = false
  /-- An entity stands under its own name. -/
  own : ∀ t, ∀ e ∈ w.entries t, e.2.name = e.1
  counted : ∀ i ∈ w.items.values, 1 ≤ i.count
  kept : ∀ name spec e, (.register (.location name spec), e) ∈ log →
    ∃ l, e = .location l ∧ Location.Keeps spec.requires? l.requires?

/-! ### What a run gives back -/

section Steps

variable {w w' : World} {op : Operation} {e : Entity} {err : WorldError}

theorem returned_of_ok (h : w.perform op = .ok (e, w')) (ops : List Operation) :
    w.returned (op :: ops) = (op, e) :: w'.returned ops := by
  rw [returned, h]

theorem returned_of_error (h : w.perform op = .error err) (ops : List Operation) :
    w.returned (op :: ops) = w.returned ops := by
  rw [returned, h]

end Steps

theorem map_fst_returned (w : World) (ops : List Operation) :
    (w.returned ops).map Prod.fst = w.accepted ops := by
  induction ops generalizing w with
  | nil => rfl
  | cons op ops ih =>
      cases hop : w.perform op with
      | error err => rw [returned_of_error hop, accepted_of_error hop, ih]
      | ok p => rw [returned_of_ok hop, accepted_of_ok hop, List.map_cons, ih]

/-- A registration gives back the entity that it asks for. -/
theorem entity_of_returned {w : World} {ops : List Operation} {r : Registration} {e : Entity}
    (h : (.register r, e) ∈ w.returned ops) : e = r.entity := by
  induction ops generalizing w with
  | nil => cases h
  | cons op ops ih =>
      cases hop : w.perform op with
      | error err => rw [returned_of_error hop] at h; exact ih h
      | ok p =>
          rw [returned_of_ok hop] at h
          rcases List.mem_cons.mp h with heq | hlater
          · obtain ⟨rfl, rfl⟩ := Prod.mk.inj heq
            exact (enter_eq_ok_iff.mp hop).2.1
          · exact ih hlater

theorem flatMap_recorded (w : World) (ops : List Operation) (t : TableName) :
    (w.returned ops).flatMap (recorded t) = entriesIn t (w.registered ops) := by
  induction ops generalizing w with
  | nil => rfl
  | cons op ops ih =>
      cases hop : w.perform op with
      | error err => rw [returned_of_error hop, registered_of_error hop, ih]
      | ok p =>
          rw [returned_of_ok hop, registered_of_ok hop, List.flatMap_cons, ih,
            Registration.entriesIn_append]
          congr 1
          cases op with
          | gate name options => rfl
          | register r =>
              rw [(enter_eq_ok_iff.mp hop).2.1]
              exact (Registration.entriesIn_singleton t r).symm

theorem registered_of_returned {w : World} {ops : List Operation} {r : Registration} {e : Entity}
    (h : (.register r, e) ∈ w.returned ops) : r ∈ w.registered ops := by
  rw [registered, ← map_fst_returned]
  exact List.mem_filterMap.mpr ⟨_, List.mem_map_of_mem h, rfl⟩

/-! ### Any run -/

theorem faultless_of_registered {w : World} {ops : List Operation} {r : Registration}
    (h : r ∈ w.registered ops) : Text.isBlank r.name = false ∧ r.specFault? = none :=
  Registration.fault?_eq_none_iff.mp (refusal?_eq_none_iff.mp (refusal?_of_registered h)).2

/-- What is stored after a run was registered in its course. -/
theorem registration_of_run {ops : List Operation} {t : TableName} {e : String × Entity}
    (h : e ∈ (({} : World).run ops).entries t) :
    ∃ r ∈ ({} : World).registered ops,
      e = gated (({} : World).accepted ops) (r.name, r.entity) := by
  rw [entries_run, entries_empty, List.nil_append] at h
  obtain ⟨entry, hentry, rfl⟩ := List.mem_map.mp h
  obtain ⟨r, hr, rfl⟩ := List.mem_map.mp hentry
  exact ⟨r, (List.mem_filter.mp hr).1, rfl⟩

/-- After any run an entity stands under its own name. -/
theorem own_run (ops : List Operation) (t : TableName) :
    ∀ e ∈ (({} : World).run ops).entries t, e.2.name = e.1 := by
  intro e he
  obtain ⟨r, -, rfl⟩ := registration_of_run he
  rw [Operation.name_gated, Operation.fst_gated]
  exact r.name_entity

/-- **After any run of calls the world is that of its record**, however they were mixed and
whichever of them failed. -/
theorem records_run (ops : List Operation) :
    (({} : World).run ops).Records (({} : World).returned ops) where
  entries t := by
    rw [entries_run, entries_empty, List.nil_append, flatMap_recorded, map_fst_returned]
  distinct := names_nodup _
  named t name h := by
    obtain ⟨e, he, rfl⟩ := List.mem_map.mp h
    obtain ⟨r, hr, rfl⟩ := registration_of_run he
    rw [Operation.fst_gated]
    exact (faultless_of_registered hr).1
  own := own_run ops
  counted i hi := by
    obtain ⟨e, he, rfl⟩ := List.mem_map.mp hi
    have hentry : (e.1, Entity.item e.2) ∈ (({} : World).run ops).entries .items :=
      List.mem_map_of_mem he
    obtain ⟨r, hr, heq⟩ := registration_of_run hentry
    cases r with
    | item name spec =>
        obtain ⟨-, hitem⟩ := Prod.mk.inj heq
        rw [Entity.item.inj hitem]
        exact Registration.one_le_count (faultless_of_registered hr).2
    -- what calls gate is a category still
    | location | category | option => cases heq
  kept name spec e h := by
    obtain rfl := entity_of_returned h
    exact ⟨_, rfl, Registration.keeps (faultless_of_registered (registered_of_returned h)).2⟩

end World

end Worldsmith
