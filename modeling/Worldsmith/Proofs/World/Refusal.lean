/-
When a call is refused, and what a call does that is not.

`Refuses` lists the reasons for each call, one constructor for each.  A reason rules out the
reasons before it, so that no call has two: a name that is taken comes before one that is
blank, and both come before anything that is wrong with the rest of a registration.  A call
fails with an error just when that is the reason (`perform_eq_error_iff`).

`Takes` is what is left to happen.  A registration adds one entry at the end of its table, and
gating changes the options of one category where it stands; all else is as it was.
-/
import Mathlib.Data.List.TakeWhile
import Worldsmith.Proofs.World.Run

namespace Worldsmith

/-- Text is blank when nothing is left of it without the white space at its ends. -/
theorem Text.isBlank_iff_trim_eq_nil {s : String} : isBlank s = true ↔ trim s.toList = [] := by
  rw [isBlank, List.all_eq_true, trim, trimEnd, List.reverse_eq_nil_iff,
    List.dropWhile_eq_nil_iff]
  constructor
  · intro h c hc
    exact h c ((List.dropWhile_suffix _).mem (List.mem_reverse.mp hc))
  · intro h c hc
    rw [← List.takeWhile_append_dropWhile (p := isSpace) (l := s.toList), List.mem_append] at hc
    rcases hc with hfront | hrest
    · exact List.mem_takeWhile_imp hfront
    · exact h c (List.mem_reverse.mpr hrest)

namespace World

/-! ### Reasons -/

/-- Why a call fails. -/
inductive Refuses (w : World) : Operation → WorldError → Prop
  | taken {r : Registration} (htaken : r.name ∈ w.names r.table) :
      Refuses w (.register r) (.duplicateName r.table r.name)
  | blank {r : Registration} (hfree : r.name ∉ w.names r.table)
      (hblank : Text.trim r.name.toList = []) :
      Refuses w (.register r) (.emptyName r.table)
  | count {name : String} {spec : Item.Spec} (hfree : name ∉ w.names .items)
      (hname : Text.trim name.toList ≠ []) (hcount : spec.count? = some 0) :
      Refuses w (.register (.item name spec)) (.invalidCount name)
  | requirement {name : String} {spec : Location.Spec} {r : Requirement}
      {cause : RequirementError} (hfree : name ∉ w.names .locations)
      (hname : Text.trim name.toList ≠ []) (hrequires : spec.requires? = some r)
      (hcause : r.compile = .error cause) :
      Refuses w (.register (.location name spec)) (.invalidRequirement name cause)
  | unknown {name : String} {options : Reference ToggleOption}
      (hunknown : name ∉ w.names .categories) :
      Refuses w (.gate name options) (.unknownCategory name)

variable {w : World}

theorem refusal?_of_free {r : Registration} (hfree : r.name ∉ w.names r.table) :
    w.refusal? r = r.fault? :=
  if_neg hfree

theorem fault?_of_named {r : Registration} (hname : Text.trim r.name.toList ≠ []) :
    r.fault? = r.specFault? :=
  if_neg (Text.isBlank_iff_trim_eq_nil.not.mpr hname)

theorem refuses_of_refusal? {r : Registration} {err : WorldError}
    (h : w.refusal? r = some err) : w.Refuses (.register r) err := by
  by_cases htaken : r.name ∈ w.names r.table
  · rw [refusal?, if_pos htaken] at h
    obtain rfl := Option.some.inj h
    exact .taken htaken
  rw [refusal?_of_free htaken] at h
  by_cases hblank : Text.trim r.name.toList = []
  · rw [Registration.fault?, if_pos (Text.isBlank_iff_trim_eq_nil.mpr hblank)] at h
    obtain rfl := Option.some.inj h
    exact .blank htaken hblank
  rw [fault?_of_named hblank] at h
  cases r with
  | item name spec =>
      obtain ⟨hcount, herr⟩ := Option.ite_none_right_eq_some.mp h
      obtain rfl := Option.some.inj herr
      exact .count htaken hblank hcount
  | location name spec =>
      obtain ⟨cause, hcause, rfl⟩ := Option.map_eq_some_iff.mp h
      obtain ⟨r, hrequires, hfault⟩ := Option.bind_eq_some_iff.mp hcause
      exact .requirement htaken hblank hrequires (Requirement.compile_eq_error_iff.mpr hfault)
  | category | option => cases h

theorem refusal?_of_refuses {r : Registration} {err : WorldError}
    (h : w.Refuses (.register r) err) : w.refusal? r = some err := by
  cases h with
  | taken htaken => rw [refusal?, if_pos htaken]
  | blank hfree hblank =>
      rw [refusal?_of_free hfree, Registration.fault?,
        if_pos (Text.isBlank_iff_trim_eq_nil.mpr hblank)]
  | @count name spec hfree hname hcount =>
      calc w.refusal? (.item name spec)
          = (Registration.item name spec).fault? := refusal?_of_free (r := .item name spec) hfree
        _ = (Registration.item name spec).specFault? :=
            fault?_of_named (r := .item name spec) hname
        _ = some (.invalidCount name) := if_pos hcount
  | @requirement name spec r cause hfree hname hrequires hcause =>
      calc w.refusal? (.location name spec)
          = (Registration.location name spec).fault? :=
            refusal?_of_free (r := .location name spec) hfree
        _ = (Registration.location name spec).specFault? :=
            fault?_of_named (r := .location name spec) hname
        _ = some (.invalidRequirement name cause) := by
            rw [Registration.specFault?, hrequires, Option.bind_some,
              Requirement.compile_eq_error_iff.mp hcause, Option.map_some]

theorem gateCategory_eq_error_iff {name : String} {options : Reference ToggleOption}
    {err : WorldError} :
    w.gateCategory name options = .error err ↔ w.Refuses (.gate name options) err := by
  have hunknown : w.categories.get? name = none ↔ name ∉ w.names .categories := by
    rw [names_categories, Table.get?_eq_none_iff]
  rw [gateCategory]
  constructor
  · intro h
    split at h
    · rename_i hnone
      obtain rfl := Except.error.inj h
      exact .unknown (hunknown.mp hnone)
    · cases h
  · intro h
    cases h with
    | unknown h => rw [hunknown.mpr h]

/-- **A call fails for just these reasons.** -/
theorem perform_eq_error_iff {op : Operation} {err : WorldError} :
    w.perform op = .error err ↔ w.Refuses op err := by
  cases op with
  | register r =>
      have hiff : w.Refuses (.register r) err ↔ w.refusal? r = some err :=
        ⟨refusal?_of_refuses, refuses_of_refusal?⟩
      rw [hiff, perform, enter_eq]
      cases w.refusal? r <;> simp
  | gate name options =>
      rw [← gateCategory_eq_error_iff, perform]
      cases w.gateCategory name options <;> simp [Except.map]

/-! ### Calls that go through -/

/-- What a call does that goes through, and the entity that it gives back. -/
inductive Takes (w : World) : Operation → Entity → World → Prop
  | entry {r : Registration} {w' : World}
      (hadded : w'.entries r.table = w.entries r.table ++ [(r.name, r.entity)])
      (hrest : ∀ t, t ≠ r.table → w'.entries t = w.entries t) :
      Takes w (.register r) r.entity w'
  | gating {name : String} {options : Reference ToggleOption}
      {before after : List (String × Category)} {c c' : Category} {w' : World}
      (hc : c' = { c with options := c.options ++ options.names })
      (hbefore : w.categories.entries = before ++ (name, c) :: after)
      (hafter : w'.categories.entries = before ++ (name, c') :: after)
      (hrest : ∀ t, t ≠ .categories → w'.entries t = w.entries t) :
      Takes w (.gate name options) (.category c') w'

/-- **What a call does** when nothing stands against it. -/
theorem takes_of_perform {op : Operation} {e : Entity} {w' : World}
    (h : w.perform op = .ok (e, w')) : w.Takes op e w' := by
  cases op with
  | register r =>
      obtain ⟨hfree, rfl, rfl⟩ := enter_eq_ok_iff.mp h
      constructor
      · rw [entries_put_entity hfree, Registration.entriesIn_singleton, if_pos rfl]
      · intro t ht
        rw [entries_put_entity hfree, Registration.entriesIn_singleton, if_neg ht.symm,
          List.append_nil]
  | gate name options =>
      rw [perform, gateCategory] at h
      cases hfound : w.categories.get? name with
      | none => rw [hfound] at h; cases h
      | some c =>
          rw [hfound] at h
          obtain ⟨rfl, rfl⟩ := Prod.mk.inj (Except.ok.inj h)
          obtain ⟨before, after, hbefore, hafter⟩ :=
            Table.entries_modify hfound fun c => c.gate options
          refine .gating rfl hbefore hafter fun t ht => ?_
          cases t with
          | categories => exact absurd rfl ht
          | items | locations | options => rfl

/-- **The outcome of a call.**  It fails for the reason that there is, and then the world is as
it was; and where there is none, it gives an entity back and changes one table. -/
theorem perform_outcome (w : World) (op : Operation) :
    (∀ err, w.perform op = .error err ↔ w.Refuses op err)
      ∧ (∀ err, w.Refuses op err → w.after op = w)
      ∧ ((¬ ∃ err, w.Refuses op err) →
        ∃ e, w.perform op = .ok (e, w.after op) ∧ w.Takes op e (w.after op)) := by
  refine ⟨fun err => perform_eq_error_iff, fun err h => ?_, fun h => ?_⟩
  · rw [after, perform_eq_error_iff.mpr h]
  · cases hop : w.perform op with
    | error err => exact absurd ⟨err, perform_eq_error_iff.mp hop⟩ h
    | ok p =>
        have hafter : w.after op = p.2 := by rw [after, hop]
        rw [hafter]
        exact ⟨p.1, rfl, takes_of_perform hop⟩

/-- A world with an item and two categories, the second of which is gated. -/
def cellar : World := ({} : World).run [
  .register (.item "Lamp" {}),
  .register (.category "Tools" {}),
  .register (.category "Food" { options? := some (.name "hunger") })]

theorem perform_outcome_cellar :
    cellar.perform (.register (.item "Lamp" { count? := some 0 }))
        = .error (.duplicateName .items "Lamp")
      ∧ cellar.perform (.register (.item "  " { count? := some 0 }))
        = .error (.emptyName .items)
      ∧ cellar.perform (.register (.item "Rope" { count? := some 0 }))
        = .error (.invalidCount "Rope")
      ∧ cellar.perform (.register (.location "Lamp"
          { requires? := some (.gate .optOne (.combination .or [.raw "key"])) }))
        = .error (.invalidRequirement "Lamp" (.tooFewOperands .or 1))
      ∧ cellar.after (.gate "Lamp" (.name "night")) = cellar
      ∧ ∃ e, cellar.perform (.gate "Food" (.name "night"))
          = .ok (e, cellar.after (.gate "Food" (.name "night")))
        ∧ cellar.Takes (.gate "Food" (.name "night")) e
          (cellar.after (.gate "Food" (.name "night"))) := by
  refine ⟨?_, ?_, ?_, ?_, ?_, ?_⟩
  · exact ((perform_outcome cellar _).1 _).mpr (.taken (by decide))
  · exact ((perform_outcome cellar _).1 _).mpr (.blank (by decide) (by decide))
  · exact ((perform_outcome cellar _).1 _).mpr (.count (by decide) (by decide) rfl)
  · exact ((perform_outcome cellar _).1 _).mpr (.requirement (by decide) (by decide) rfl rfl)
  · exact (perform_outcome cellar _).2.1 _ (.unknown (by decide))
  · refine (perform_outcome cellar _).2.2 ?_
    rintro ⟨_, h⟩
    cases h with
    | unknown hunknown => exact hunknown (by decide)

end World

end Worldsmith
