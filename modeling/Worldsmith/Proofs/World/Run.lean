/-
What a world holds after any run of calls on it.

Calls register entities and gate categories that are registered by more options, in any
order and with any failures in between.  `accepted` is the log of the calls that succeeded.
One call adds the entries of its registration and then gates what is there
(`entries_perform`); by induction a run adds the entries of all registrations in its log,
each of them gated by the whole log (`entries_run`).  An option that is added before the
category is registered would be one too many, but such a call fails.

Where nothing may fail, `enterAll` stops at the first refusal, and `enterAll_ok_iff` says of
a list of registrations when there is none: names are distinct and nothing is wrong with an
entity.
-/
import Worldsmith.Proofs.World.Registration

namespace Worldsmith

open Registration (namesIn entriesIn)

/-- A call on a world. -/
inductive Operation where
  | register (r : Registration)
  | gate (category : String) (options : Reference ToggleOption)

namespace Operation

def registration? : Operation → Option Registration
  | .register r => some r
  | .gate .. => none

/-- The options that a call adds to a registered category. -/
def gating (name : String) : Operation → List String
  | .register _ => []
  | .gate category options => if category = name then options.names else []

/-- An entry with the options that the calls of a log add to it. -/
def gated (log : List Operation) : String × Entity → String × Entity
  | (name, .category c) =>
    (name, .category { c with options := c.options ++ log.flatMap (gating name) })
  | e => e

@[simp] theorem fst_gated (log : List Operation) (e : String × Entity) :
    (gated log e).1 = e.1 := by
  obtain ⟨name, e⟩ := e
  cases e <;> rfl

@[simp] theorem gated_nil (e : String × Entity) : gated [] e = e := by
  obtain ⟨name, e⟩ := e
  cases e <;> simp [gated]

theorem gated_cons (op : Operation) (log : List Operation) (e : String × Entity) :
    gated (op :: log) e = gated log (gated [op] e) := by
  obtain ⟨name, e⟩ := e
  cases e <;> simp [gated]

/-- A log changes an entry only where it gates a category by that name. -/
theorem gated_eq_self {log : List Operation} {e : String × Entity}
    (h : e.2.table = .categories → log.flatMap (gating e.1) = []) : gated log e = e := by
  obtain ⟨name, e⟩ := e
  cases e with
  | category c => simp [gated, h rfl]
  | item | location | option => rfl

end Operation

open Operation (gated gating registration?)

namespace World

def perform (w : World) : Operation → Except WorldError (Entity × World)
  | .register r => w.enter r
  | .gate name options => (w.gateCategory name options).map fun (c, w) => (.category c, w)

/-- The world after a call.  One that fails leaves it as it was. -/
def after (w : World) (op : Operation) : World :=
  match w.perform op with
  | .ok (_, w') => w'
  | .error _ => w

def run (w : World) (ops : List Operation) : World := ops.foldl after w

/-- The calls of a run that succeed. -/
def accepted (w : World) : List Operation → List Operation
  | [] => []
  | op :: ops =>
    match w.perform op with
    | .ok (_, w') => op :: w'.accepted ops
    | .error _ => w.accepted ops

/-- The registrations of a run that succeed. -/
def registered (w : World) (ops : List Operation) : List Registration :=
  (w.accepted ops).filterMap registration?

/-! ### One call -/

/-- What gating does: the options go to the category of that name and to nothing else. -/
theorem entries_gateCategory {w w' : World} {name : String}
    {options : Reference ToggleOption} {c : Category}
    (h : w.gateCategory name options = .ok (c, w')) :
    name ∈ w.names .categories ∧
      ∀ t, w'.entries t = (w.entries t).map (gated [.gate name options]) := by
  unfold gateCategory at h
  split at h
  · cases h
  · rename_i found hfound
    obtain ⟨-, rfl⟩ := Prod.mk.inj (Except.ok.inj h)
    constructor
    · rw [names_categories]
      by_contra hno
      rw [Table.get?_eq_none_iff.mpr hno] at hfound
      cases hfound
    · intro t
      cases t with
      | items => simp [entries, gated, Function.comp_def]
      | locations => simp [entries, gated, Function.comp_def]
      | options => simp [entries, gated, Function.comp_def]
      | categories =>
          simp only [entries, Table.modify, List.map_map]
          refine List.map_congr_left fun e _ => ?_
          by_cases heq : e.1 = name
          · simp [gated, gating, Category.gate, heq]
          · simp [gated, gating, heq, Ne.symm heq]

/-- **What a call does.**  The entries of its registration are added, and all entries are
gated by it. -/
theorem entries_perform {w w' : World} {op : Operation} {e : Entity}
    (h : w.perform op = .ok (e, w')) (t : TableName) :
    w'.entries t = (w.entries t ++ entriesIn t op.registration?.toList).map (gated [op]) := by
  cases op with
  | register r =>
      obtain ⟨hfree, -, rfl⟩ := enter_eq_ok_iff.mp h
      have hself : ∀ e, gated [.register r] e = e := fun e => Operation.gated_eq_self fun _ => rfl
      rw [entries_put_entity hfree, List.map_congr_left fun e _ => hself e, List.map_id']
      rfl
  | gate name options =>
      rw [perform] at h
      cases hgate : w.gateCategory name options with
      | error err => rw [hgate] at h; cases h
      | ok p =>
          rw [hgate] at h
          obtain ⟨-, rfl⟩ := Prod.mk.inj (Except.ok.inj h)
          rw [(entries_gateCategory hgate).2 t]
          simp [registration?, entriesIn]

theorem names_perform {w w' : World} {op : Operation} {e : Entity}
    (h : w.perform op = .ok (e, w')) (t : TableName) :
    w'.names t = w.names t ++ namesIn t op.registration?.toList := by
  rw [names, entries_perform h]
  simp [names, namesIn, entriesIn, Function.comp_def]

/-! ### Runs -/

section Steps

variable {w w' : World} {op : Operation} {e : Entity} {err : WorldError}

theorem run_of_ok (h : w.perform op = .ok (e, w')) (ops : List Operation) :
    w.run (op :: ops) = w'.run ops := by
  show (w.after op).run ops = w'.run ops
  rw [after, h]

theorem run_of_error (h : w.perform op = .error err) (ops : List Operation) :
    w.run (op :: ops) = w.run ops := by
  show (w.after op).run ops = w.run ops
  rw [after, h]

theorem accepted_of_ok (h : w.perform op = .ok (e, w')) (ops : List Operation) :
    w.accepted (op :: ops) = op :: w'.accepted ops := by
  rw [accepted, h]

theorem accepted_of_error (h : w.perform op = .error err) (ops : List Operation) :
    w.accepted (op :: ops) = w.accepted ops := by
  rw [accepted, h]

theorem registered_of_ok (h : w.perform op = .ok (e, w')) (ops : List Operation) :
    w.registered (op :: ops) = op.registration?.toList ++ w'.registered ops := by
  rw [registered, accepted_of_ok h, List.filterMap_cons, registered]
  cases op.registration? <;> rfl

theorem registered_of_error (h : w.perform op = .error err) (ops : List Operation) :
    w.registered (op :: ops) = w.registered ops := by
  rw [registered, accepted_of_error h, registered]

end Steps

/-- What is registered in the course of a run could have been registered at its start: its
name was free then. -/
theorem refusal?_of_registered {w : World} {ops : List Operation} {r : Registration}
    (h : r ∈ w.registered ops) : w.refusal? r = none := by
  induction ops generalizing w with
  | nil => simp [registered, accepted] at h
  | cons op ops ih =>
      cases hop : w.perform op with
      | error err => rw [registered_of_error hop] at h; exact ih h
      | ok p =>
          obtain ⟨e, w'⟩ := p
          rw [registered_of_ok hop] at h
          rcases List.mem_append.mp h with hnow | hlater
          · cases op with
            | gate name options => cases hnow
            | register r' =>
                obtain rfl : r = r' := List.mem_singleton.mp hnow
                exact (enter_eq_ok_iff.mp hop).1
          · obtain ⟨hfree, hfault⟩ := refusal?_eq_none_iff.mp (ih hlater)
            refine refusal?_eq_none_iff.mpr ⟨fun hmem => hfree ?_, hfault⟩
            rw [names_perform hop]
            exact List.mem_append_left _ hmem

/-- A call does not gate the categories that are registered after it. -/
theorem map_gated_registered {w w' : World} {op : Operation} {e : Entity}
    (h : w.perform op = .ok (e, w')) (ops : List Operation) (t : TableName) :
    (entriesIn t (w'.registered ops)).map (gated [op]) = entriesIn t (w'.registered ops) := by
  refine (List.map_congr_left fun entry hentry => ?_).trans (List.map_id _)
  obtain ⟨r, hr, rfl⟩ := List.mem_map.mp hentry
  obtain ⟨hfree, -⟩ := refusal?_eq_none_iff.mp (refusal?_of_registered (List.mem_filter.mp hr).1)
  refine Operation.gated_eq_self fun htable => ?_
  rw [Registration.table_entity] at htable
  cases op with
  | register r' => rfl
  | gate name options =>
      have hname : name ≠ r.name := by
        rintro rfl
        apply hfree
        rw [htable, names_perform h]
        refine List.mem_append_left _ ?_
        rw [perform] at h
        cases hgate : w.gateCategory r.name options with
        | error err => rw [hgate] at h; cases h
        | ok p => exact (entries_gateCategory hgate).1
      simp [gating, hname]

/-- **What a run does.**  A table has, after the entries it had, one for each registration
that succeeded, in the order of the calls, and categories have the options of every
successful call that gates them. -/
theorem entries_run (w : World) (ops : List Operation) (t : TableName) :
    (w.run ops).entries t
      = (w.entries t ++ entriesIn t (w.registered ops)).map (gated (w.accepted ops)) := by
  induction ops generalizing w with
  | nil =>
      have hself : gated [] = id := funext Operation.gated_nil
      simp [run, registered, accepted, entriesIn, hself]
  | cons op ops ih =>
      cases hop : w.perform op with
      | error err => rw [run_of_error hop, ih, registered_of_error hop, accepted_of_error hop]
      | ok p =>
          obtain ⟨e, w'⟩ := p
          have hlog : gated (op :: w'.accepted ops) = gated (w'.accepted ops) ∘ gated [op] :=
            funext fun entry => Operation.gated_cons op _ entry
          calc (w.run (op :: ops)).entries t
              = (w'.entries t ++ entriesIn t (w'.registered ops)).map
                  (gated (w'.accepted ops)) := by
                rw [run_of_ok hop, ih]
            _ = ((w.entries t ++ entriesIn t op.registration?.toList).map (gated [op])
                  ++ (entriesIn t (w'.registered ops)).map (gated [op])).map
                    (gated (w'.accepted ops)) := by
                rw [entries_perform hop, map_gated_registered hop]
            _ = (w.entries t ++ entriesIn t (w.registered (op :: ops))).map
                  (gated (w.accepted (op :: ops))) := by
                rw [← List.map_append, List.map_map, ← hlog, List.append_assoc,
                  ← Registration.entriesIn_append, registered_of_ok hop, accepted_of_ok hop]

/-! ### Registrations none of which may fail -/

/-- The world with all the entities, or the first refusal. -/
def enterAll (w : World) : List Registration → Except WorldError World
  | [] => .ok w
  | r :: rs =>
    match w.refusal? r with
    | some err => .error err
    | none => (w.put r.name r.entity).enterAll rs

theorem enterAll_cons_eq_ok_iff {w w' : World} {r : Registration} {rs : List Registration} :
    w.enterAll (r :: rs) = .ok w' ↔
      w.refusal? r = none ∧ (w.put r.name r.entity).enterAll rs = .ok w' := by
  rw [enterAll]
  cases w.refusal? r with
  | some err => simp
  | none => simp

theorem entries_enterAll {w w' : World} {rs : List Registration}
    (h : w.enterAll rs = .ok w') (t : TableName) :
    w'.entries t = w.entries t ++ entriesIn t rs := by
  induction rs generalizing w with
  | nil =>
      obtain rfl : w = w' := Except.ok.inj h
      simp [entriesIn]
  | cons r rs ih =>
      obtain ⟨hfree, hrest⟩ := enterAll_cons_eq_ok_iff.mp h
      rw [ih hrest, entries_put_entity hfree, List.append_assoc, ← Registration.entriesIn_cons]

theorem names_enterAll {w w' : World} {rs : List Registration}
    (h : w.enterAll rs = .ok w') (t : TableName) : w'.names t = w.names t ++ namesIn t rs := by
  rw [names, entries_enterAll h, List.map_append, Registration.map_fst_entriesIn]
  rfl

/-- **A list of registrations goes through** when no name in a table comes twice and every
entity can be made. -/
theorem enterAll_ok_iff {w : World} {rs : List Registration} :
    (∃ w', w.enterAll rs = .ok w') ↔
      (∀ t, (w.names t ++ namesIn t rs).Nodup) ∧ ∀ r ∈ rs, r.fault? = none := by
  induction rs generalizing w with
  | nil =>
      constructor
      · intro _
        refine ⟨fun t => ?_, by simp⟩
        simpa [namesIn] using w.names_nodup t
      · intro _
        exact ⟨w, rfl⟩
  | cons r rs ih =>
      have hnames : w.refusal? r = none → ∀ t,
          (w.put r.name r.entity).names t ++ namesIn t rs
            = w.names t ++ namesIn t (r :: rs) := by
        intro hfree t
        rw [names, entries_put_entity hfree, List.map_append, Registration.map_fst_entriesIn,
          List.append_assoc, ← Registration.namesIn_append]
        rfl
      rw [List.forall_mem_cons]
      constructor
      · intro h
        obtain ⟨w', h⟩ := h
        obtain ⟨hfree, hrest⟩ := enterAll_cons_eq_ok_iff.mp h
        obtain ⟨hnodup, hfaults⟩ := ih.mp ⟨w', hrest⟩
        refine ⟨fun t => ?_, (refusal?_eq_none_iff.mp hfree).2, hfaults⟩
        rw [← hnames hfree]
        exact hnodup t
      · intro h
        obtain ⟨hnodup, hfault, hfaults⟩ := h
        have hfree : w.refusal? r = none := by
          refine refusal?_eq_none_iff.mpr ⟨fun hmem => ?_, hfault⟩
          refine (List.nodup_append.mp (hnodup r.table)).2.2 _ hmem r.name ?_ rfl
          simp [namesIn]
        obtain ⟨w', hrest⟩ := ih.mpr ⟨fun t => (hnames hfree t).symm ▸ hnodup t, hfaults⟩
        exact ⟨w', enterAll_cons_eq_ok_iff.mpr ⟨hfree, hrest⟩⟩

end World

end Worldsmith
