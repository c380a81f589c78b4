/-
How reports come and go.

A reference is reported where the name it leads to is not known.  `links` are the references of
a world, and what is reported are the links that are broken (`unresolved_eq_broken`).  So there
are two ways in which a call changes the reports: it brings links of its own, and it makes names
known.  It takes away neither a link nor a name.

  * An item or an option brings no links.  Some reports go, none come.
  * A category makes its own name known, and its links stand behind all others.
  * A location, or a category that is gated, brings links and makes no name known that
    anything could refer to.

The order of the entries decides about the order of the links and about nothing else, so worlds
that hold the same have the same reports in some order (`unresolved_revised`).
-/
import Mathlib.Data.List.Perm.Basic
import Worldsmith.Proofs.World.Refusal
import Worldsmith.Proofs.World.References

namespace Worldsmith

open Operation (gated)
open Registration (entriesIn)

/-! ### What a report says -/

namespace WorldError

/-- The entity whose reference is reported. -/
def referrer? : WorldError → Option String
  | .unresolvedReference _ referrer _ => some referrer
  | _ => none

/-- The table and the name that is missing from it. -/
def missing? : WorldError → Option (TableName × String)
  | .unresolvedReference table _ name => some (table, name)
  | _ => none

end WorldError

/-! ### Links -/

/-- A reference: who refers to which name, and in which table it should be. -/
structure Link where
  table : TableName
  referrer : String
  name : String

namespace Link

def report (l : Link) : WorldError := .unresolvedReference l.table l.referrer l.name

def ofSubject (referrer : String) : Subject → Link
  | .item name => ⟨.items, referrer, name⟩
  | .category name => ⟨.categories, referrer, name⟩

@[simp] theorem referrer_ofSubject (referrer : String) (s : Subject) :
    (ofSubject referrer s).referrer = referrer := by
  cases s <;> rfl

/-- The references of an entry. -/
def ofEntry : String × Entity → List Link
  | (name, .location l) =>
    ((l.requires?.map Mention.scan).getD []).map (fun m => ofSubject name m.subject)
      ++ l.placedItems.map (⟨.items, name, ·⟩)
      ++ l.placedItemCategories.map (⟨.categories, name, ·⟩)
  | (name, .category c) => c.options.map (⟨.options, name, ·⟩)
  | (_, .item _) | (_, .option _) => []

theorem referrer_of_mem_ofEntry {e : String × Entity} {l : Link} (h : l ∈ ofEntry e) :
    l.referrer = e.1 := by
  obtain ⟨name, e⟩ := e
  cases e with
  | location loc =>
      simp only [ofEntry, List.mem_append, List.mem_map] at h
      rcases h with (⟨m, -, rfl⟩ | ⟨n, -, rfl⟩) | ⟨n, -, rfl⟩
      · exact referrer_ofSubject name m.subject
      · rfl
      · rfl
  | category c =>
      obtain ⟨n, -, rfl⟩ := List.mem_map.mp h
      rfl
  | item | option => cases h

end Link

/-- The categories that there are because the entity is in them. -/
def Entity.memberships : Entity → List String
  | .item i => i.categories
  | .location _ | .category _ | .option _ => []

namespace Registration

/-- The names that a registration makes known: its own, and the categories that its item is
in. -/
def supplies : Registration → List (TableName × String)
  | .item name spec => (.items, name) :: (Reference.namesOf? spec.categories?).map (.categories, ·)
  | .location .. => []
  | .category name _ => [(.categories, name)]
  | .option name _ => [(.options, name)]

theorem mem_supplies_iff {r : Registration} {t : TableName} {name : String} :
    (t, name) ∈ r.supplies ↔ t ≠ .locations ∧ t = r.table ∧ name = r.name
      ∨ t = .categories ∧ name ∈ r.entity.memberships := by
  cases r <;> cases t <;>
    simp [supplies, table, Registration.name, entity, Entity.memberships, Item.ofSpec]

/-- The reports that are left when the names are known. -/
def settle (r : Registration) (reports : List WorldError) : List WorldError :=
  reports.filter fun e => e.missing? ∉ r.supplies.map some

end Registration

namespace World

/-- The names that a link into a table may lead to.  No link leads to a location. -/
def known (w : World) : TableName → List String
  | .items => w.items.keys
  | .locations => []
  | .categories => w.knownCategories
  | .options => w.options.keys

/-- The reports of links that lead to no name that is known. -/
def broken (w : World) (links : List Link) : List WorldError :=
  (links.filter fun l => l.name ∉ w.known l.table).map Link.report

/-- The references of the entries of a table. -/
def links (w : World) (t : TableName) : List Link := (w.entries t).flatMap Link.ofEntry

section Broken

variable {w w' : World}

theorem broken_append (w : World) (ls ls' : List Link) :
    w.broken (ls ++ ls') = w.broken ls ++ w.broken ls' := by
  simp [broken]

theorem broken_flatMap {α : Type} (w : World) (f : α → List Link) (xs : List α) :
    w.broken (xs.flatMap f) = xs.flatMap fun x => w.broken (f x) := by
  rw [broken, List.filter_flatMap, List.map_flatMap]
  rfl

theorem absent_eq_broken (w : World) (t : TableName) (referrer : String) (names : List String) :
    absent t (w.known t) referrer names = w.broken (names.map (⟨t, referrer, ·⟩)) := by
  rw [absent, broken, List.filter_map, List.map_map]
  rfl

theorem absentSubject_eq_broken (w : World) (referrer : String) (s : Subject) :
    w.absentSubject referrer s = w.broken [Link.ofSubject referrer s] := by
  cases s with
  | item name => exact w.absent_eq_broken .items referrer [name]
  | category name => exact w.absent_eq_broken .categories referrer [name]

theorem missingFrom_eq_broken (w : World) (e : String × Entity) :
    w.missingFrom e = w.broken (Link.ofEntry e) := by
  obtain ⟨name, e⟩ := e
  cases e with
  | location l =>
      have hsubjects : ∀ ms : List Mention,
          ms.flatMap (fun m => w.missingSubject name m.subject)
            = w.broken (ms.map fun m => Link.ofSubject name m.subject) := by
        intro ms
        rw [List.map_eq_flatMap, broken_flatMap]
        refine List.flatMap_congr fun m _ => ?_
        rw [missingSubject_eq, absentSubject_eq_broken]
      rw [missingFrom, missingFromLocation, Link.ofEntry, broken_append, broken_append, hsubjects,
        missing_eq_absent fun _ => knowsItem_iff, missing_eq_absent fun _ => knowsCategory_iff]
      congr 2
      · exact w.absent_eq_broken .items name _
      · exact w.absent_eq_broken .categories name _
  | category c =>
      rw [missingFrom, missing_eq_absent fun _ => knowsOption_iff]
      exact w.absent_eq_broken .options name _
  | item | option => rfl

/-- **What is reported are the broken links**, those of locations first. -/
theorem unresolved_eq_broken (w : World) :
    w.unresolved = w.broken (w.links .locations) ++ w.broken (w.links .categories) := by
  have hfrom : w.missingFrom = fun e => w.broken (Link.ofEntry e) :=
    funext w.missingFrom_eq_broken
  rw [unresolved_eq, hfrom, links, links, broken_flatMap, broken_flatMap]

theorem broken_congr {ls : List Link}
    (h : ∀ l ∈ ls, l.name ∈ w'.known l.table ↔ l.name ∈ w.known l.table) :
    w'.broken ls = w.broken ls := by
  rw [broken, broken]
  congr 1
  refine List.filter_congr fun l hl => ?_
  rw [decide_eq_decide, h l hl]

/-- What a registration supplies mends the links to it and no others. -/
theorem broken_settle {r : Registration}
    (h : ∀ t n, n ∈ w'.known t ↔ n ∈ w.known t ∨ (t, n) ∈ r.supplies) (ls : List Link) :
    w'.broken ls = r.settle (w.broken ls) := by
  rw [broken, broken, Registration.settle, List.filter_map, List.filter_filter]
  congr 1
  refine List.filter_congr fun l _ => ?_
  rw [Function.comp_apply, ← Bool.decide_and, decide_eq_decide, h, not_or, Link.report,
    WorldError.missing?, and_comm]
  simp

theorem exists_link_of_mem_broken {ls : List Link} {e : WorldError} (h : e ∈ w.broken ls) :
    ∃ l ∈ ls, e.referrer? = some l.referrer := by
  obtain ⟨l, hl, rfl⟩ := List.mem_map.mp h
  exact ⟨l, List.mem_of_mem_filter hl, rfl⟩

end Broken

/-! ### What is known -/

theorem mem_known_iff {w : World} {t : TableName} {name : String} :
    name ∈ w.known t ↔
      t ≠ .locations ∧ name ∈ w.names t
        ∨ t = .categories ∧ ∃ e ∈ w.entries .items, name ∈ e.2.memberships := by
  cases t with
  | items => simp [known, names_items]
  | locations => simp [known]
  | options => simp [known, names_options]
  | categories =>
      have hitems : (∃ e ∈ w.entries .items, name ∈ e.2.memberships)
          ↔ name ∈ w.items.values.flatMap (·.categories) := by
        rw [List.mem_flatMap]
        constructor
        · rintro ⟨e, he, hname⟩
          obtain ⟨⟨n, i⟩, hi, rfl⟩ := List.mem_map.mp he
          exact ⟨i, List.mem_map_of_mem hi, hname⟩
        · rintro ⟨i, hi, hname⟩
          obtain ⟨⟨n, i⟩, he, rfl⟩ := List.mem_map.mp hi
          exact ⟨(n, .item i), mem_entries_items.mpr he, hname⟩
      rw [hitems, names_categories, known, knownCategories, List.mem_append]
      simp

variable {w w' : World}

/-- A registration adds what it supplies to what is known. -/
theorem mem_known_of_added {r : Registration}
    (h : ∀ t, w'.entries t = w.entries t ++ entriesIn t [r]) (t : TableName) (name : String) :
    name ∈ w'.known t ↔ name ∈ w.known t ∨ (t, name) ∈ r.supplies := by
  have hnames : name ∈ w'.names t ↔ name ∈ w.names t ∨ t = r.table ∧ name = r.name := by
    rw [names, h, List.map_append, Registration.map_fst_entriesIn, List.mem_append,
      Registration.mem_namesIn_iff]
    simp [names, eq_comm]
  have hitems : (∃ e ∈ w'.entries .items, name ∈ e.2.memberships)
      ↔ (∃ e ∈ w.entries .items, name ∈ e.2.memberships) ∨ name ∈ r.entity.memberships := by
    rw [h, Registration.entriesIn_singleton]
    cases r <;> simp [Registration.table, Registration.entity, Entity.memberships, or_and_right,
      exists_or]
  rw [mem_known_iff, mem_known_iff, hnames, hitems, Registration.mem_supplies_iff, and_or_left,
    and_or_left, or_or_or_comm]

/-- What is known depends on what the tables hold, in whatever order. -/
theorem mem_known_congr (h : ∀ t, (w.entries t).Perm (w'.entries t)) (t : TableName)
    (name : String) : name ∈ w'.known t ↔ name ∈ w.known t := by
  have hnames : name ∈ w'.names t ↔ name ∈ w.names t := ((h t).map Prod.fst).mem_iff.symm
  simp only [mem_known_iff, hnames, (h .items).mem_iff]

/-- Gating a category makes nothing known. -/
theorem mem_known_of_gated {name : String} {options : Reference ToggleOption} {e : Entity}
    (h : w.perform (.gate name options) = .ok (e, w')) (t : TableName) (n : String) :
    n ∈ w'.known t ↔ n ∈ w.known t := by
  have hentries : ∀ t, w'.entries t = (w.entries t).map (gated [.gate name options]) := by
    intro t
    rw [entries_perform h t]
    simp [Operation.registration?, entriesIn]
  have hnames : w'.names t = w.names t := by
    rw [names, names, hentries, List.map_map]
    exact List.map_congr_left fun e _ => Operation.fst_gated _ e
  have hitems : w'.entries .items = w.entries .items := by
    cases takes_of_perform h with
    | gating _ _ _ hrest => exact hrest .items (by decide)
  rw [mem_known_iff, mem_known_iff, hnames, hitems]

/-! ### One more registration -/

theorem entries_of_register {r : Registration} {e : Entity}
    (h : w.perform (.register r) = .ok (e, w')) (t : TableName) :
    w'.entries t = w.entries t ++ entriesIn t [r] := by
  obtain ⟨hfree, -, rfl⟩ := enter_eq_ok_iff.mp h
  exact entries_put_entity hfree t

/-- The reports after a registration: what is left of those that there were, and the entity's
own, behind the others of its table. -/
theorem unresolved_of_added {r : Registration}
    (h : ∀ t, w'.entries t = w.entries t ++ entriesIn t [r]) :
    w'.unresolved
      = r.settle (w.broken (w.links .locations))
          ++ w'.broken ((entriesIn .locations [r]).flatMap Link.ofEntry)
        ++ (r.settle (w.broken (w.links .categories))
          ++ w'.broken ((entriesIn .categories [r]).flatMap Link.ofEntry)) := by
  rw [unresolved_eq_broken, links, links, h, h, List.flatMap_append, List.flatMap_append,
    broken_append, broken_append, ← broken_settle (mem_known_of_added h),
    ← broken_settle (mem_known_of_added h)]
  rfl

theorem settle_unresolved (w : World) (r : Registration) :
    r.settle w.unresolved
      = r.settle (w.broken (w.links .locations))
        ++ r.settle (w.broken (w.links .categories)) := by
  rw [unresolved_eq_broken, Registration.settle, List.filter_append]
  rfl

/-- An entity that refers to nothing has no reports of its own. -/
theorem unresolved_of_linkless {r : Registration}
    (h : ∀ t, w'.entries t = w.entries t ++ entriesIn t [r])
    (hlinks : ∀ t, (entriesIn t [r]).flatMap Link.ofEntry = []) :
    w'.unresolved = r.settle w.unresolved := by
  have hnone : w'.broken [] = [] := rfl
  rw [unresolved_of_added h, settle_unresolved, hlinks, hlinks, hnone, List.append_nil,
    List.append_nil]

theorem unresolved_of_category {name : String} {spec : Category.Spec}
    (h : ∀ t, w'.entries t = w.entries t ++ entriesIn t [.category name spec]) :
    w'.unresolved
      = (Registration.category name spec).settle w.unresolved
        ++ absent .options w.options.keys name (Reference.namesOf? spec.options?) := by
  -- an option is known now if it was known before
  have hown : w'.broken ((Reference.namesOf? spec.options?).map (⟨.options, name, ·⟩))
      = absent .options w.options.keys name (Reference.namesOf? spec.options?) := by
    refine Eq.trans (broken_congr fun l hl => ?_) (w.absent_eq_broken .options name _).symm
    obtain ⟨n, -, rfl⟩ := List.mem_map.mp hl
    simp [mem_known_of_added h, Registration.supplies]
  have hlocations : w'.broken ((entriesIn .locations [.category name spec]).flatMap Link.ofEntry)
      = [] := rfl
  have hcategories : (entriesIn .categories [.category name spec]).flatMap Link.ofEntry
      = (Reference.namesOf? spec.options?).map (⟨.options, name, ·⟩) := List.append_nil _
  rw [unresolved_of_added h, settle_unresolved, hlocations, hcategories, hown, List.append_nil,
    List.append_assoc]

/-! ### How one call changes the reports -/

/-- Every report is there that was, in the order it was.  Those that came stand together, and
they are all about one entity. -/
def Grows (referrer : String) (own reports reports' : List WorldError) : Prop :=
  (∀ e ∈ own, e.referrer? = some referrer)
    ∧ ∃ before after, reports = before ++ after ∧ reports' = before ++ own ++ after

/-- What a call makes of the reports. -/
def Revises (w w' : World) : Operation → Prop
  | .register (.item name spec) =>
    w'.unresolved = (Registration.item name spec).settle w.unresolved
  | .register (.option name spec) =>
    w'.unresolved = (Registration.option name spec).settle w.unresolved
  | .register (.category name spec) =>
    w'.unresolved
      = (Registration.category name spec).settle w.unresolved
        ++ absent .options w.options.keys name (Reference.namesOf? spec.options?)
  | .register (.location name spec) =>
    Grows name (w.missingFromLocation name (Location.ofSpec name spec)) w.unresolved w'.unresolved
  | .gate name options =>
    Grows name (absent .options w.options.keys name options.names) w.unresolved w'.unresolved

theorem grows_of_location {name : String} {spec : Location.Spec}
    (h : ∀ t, w'.entries t = w.entries t ++ entriesIn t [.location name spec]) :
    Grows name (w.missingFromLocation name (Location.ofSpec name spec)) w.unresolved
      w'.unresolved := by
  have hown : w.missingFromLocation name (Location.ofSpec name spec)
      = w.broken ((entriesIn .locations [.location name spec]).flatMap Link.ofEntry) :=
    (w.missingFrom_eq_broken (name, .location (Location.ofSpec name spec))).trans
      (congrArg w.broken (List.append_nil _).symm)
  refine ⟨fun e he => ?_, w.broken (w.links .locations), w.broken (w.links .categories),
    unresolved_eq_broken w, ?_⟩
  · obtain ⟨l, hl, hreferrer⟩ := exists_link_of_mem_broken (hown ▸ he)
    obtain ⟨entry, hentry, hl⟩ := List.mem_flatMap.mp hl
    obtain rfl := List.mem_singleton.mp hentry
    exact hreferrer.trans (congrArg some (Link.referrer_of_mem_ofEntry hl))
  · have hkept : ∀ reports, (Registration.location name spec).settle reports = reports :=
      fun reports => by simp [Registration.settle, Registration.supplies]
    have hcategories :
        w'.broken ((entriesIn .categories [.location name spec]).flatMap Link.ofEntry) = [] := rfl
    rw [unresolved_of_added h, broken_settle (mem_known_of_added h), ← hown, hkept, hkept, hkept,
      hcategories, List.append_nil]

/-- Where a category stands, there are its links. -/
theorem links_categories_of_split {name : String} {c : Category}
    {before after : List (String × Category)}
    (h : w.categories.entries = before ++ (name, c) :: after) :
    w.links .categories
      = before.flatMap (fun e => Link.ofEntry (e.1, .category e.2))
        ++ c.options.map (⟨.options, name, ·⟩)
        ++ after.flatMap (fun e => Link.ofEntry (e.1, .category e.2)) := by
  rw [links, entries, h, List.flatMap_map, List.flatMap_append, List.flatMap_cons,
    List.append_assoc]
  rfl

/-- The options that a category is gated by are links right after its own. -/
theorem grows_of_gate {name : String} {options : Reference ToggleOption} {e : Entity}
    (h : w.perform (.gate name options) = .ok (e, w')) :
    Grows name (absent .options w.options.keys name options.names) w.unresolved
      w'.unresolved := by
  have hsame : ∀ ls, w'.broken ls = w.broken ls := fun ls =>
    broken_congr fun l _ => mem_known_of_gated h l.table l.name
  have hown : absent .options w.options.keys name options.names
      = w.broken (options.names.map (⟨.options, name, ·⟩)) :=
    w.absent_eq_broken .options name options.names
  refine ⟨fun e he => ?_, ?_⟩
  · obtain ⟨l, hl, hreferrer⟩ := exists_link_of_mem_broken (hown ▸ he)
    obtain ⟨n, -, rfl⟩ := List.mem_map.mp hl
    exact hreferrer
  cases takes_of_perform h with
  | @gating _ _ before after c c' _ hc hbefore hafter hrest =>
  have hlocations : w'.links .locations = w.links .locations := by
    rw [links, links, hrest .locations (by decide)]
  refine ⟨w.broken (w.links .locations)
      ++ w.broken (before.flatMap (fun e => Link.ofEntry (e.1, .category e.2))
        ++ c.options.map (⟨.options, name, ·⟩)),
    w.broken (after.flatMap fun e => Link.ofEntry (e.1, .category e.2)), ?_, ?_⟩
  · rw [unresolved_eq_broken, links_categories_of_split hbefore, broken_append,
      List.append_assoc]
  · rw [unresolved_eq_broken, hlocations, links_categories_of_split hafter, hc, hown, hsame,
      hsame, List.map_append, ← List.append_assoc (before.flatMap _), broken_append,
      broken_append]
    simp only [List.append_assoc]

theorem revises_of_perform {op : Operation} {e : Entity} (h : w.perform op = .ok (e, w')) :
    w.Revises w' op := by
  cases op with
  | gate name options => exact grows_of_gate h
  | register r =>
      have hentries := entries_of_register h
      cases r with
      | item name spec => exact unresolved_of_linkless hentries fun t => by cases t <;> rfl
      | option name spec => exact unresolved_of_linkless hentries fun t => by cases t <;> rfl
      | location name spec => exact grows_of_location hentries
      | category name spec => exact unresolved_of_category hentries

/-! ### The order of entries -/

theorem unresolved_perm (h : ∀ t, (w.entries t).Perm (w'.entries t)) :
    w.unresolved.Perm w'.unresolved := by
  have hsame : ∀ ls, w'.broken ls = w.broken ls := fun ls =>
    broken_congr fun l _ => mem_known_congr h l.table l.name
  have hlinks : ∀ t, (w.broken (w.links t)).Perm (w.broken (w'.links t)) := fun t =>
    (((h t).flatMap_right Link.ofEntry).filter _).map Link.report
  rw [unresolved_eq_broken, unresolved_eq_broken, hsame, hsame]
  exact (hlinks .locations).append (hlinks .categories)

/-- **How the reports change.**  One more item, option or category settles those that miss what
it supplies, and the others stay in their order; behind them stand the options that the category
misses.  One more location, or gating a category, keeps all reports and brings those about it.
And worlds that hold the same entries, whatever the calls were and in whatever order the entries
are, have the same reports up to order, so that both are valid or neither is. -/
theorem unresolved_revised (w : World) :
    (∀ op e w', w.perform op = .ok (e, w') → w.Revises w' op)
      ∧ ∀ w' : World, (∀ t, (w.entries t).Perm (w'.entries t)) →
        w.unresolved.Perm w'.unresolved ∧ (w.validate = .ok () ↔ w'.validate = .ok ()) := by
  refine ⟨fun op e w' h => revises_of_perform h, fun w' h => ⟨unresolved_perm h, ?_⟩⟩
  rw [validate_eq_ok_iff, validate_eq_ok_iff, ← List.perm_nil, ← List.perm_nil]
  exact ⟨(unresolved_perm h).symm.trans, (unresolved_perm h).trans⟩

namespace House

def lamp : Operation := .register (.item "Lamp" { categories? := some (.name "Gems") })

def gems : Operation := .register (.category "Gems" { options? := some (.name "night") })

def attic : Operation := .register (.location "Attic" {
  requires? := some (.subject (.item "Rope"))
  placedItemCategories? := some (.name "Gems") })

def bars : Operation := .gate "Doors" (.name "barred_doors")

end House

theorem unresolved_revised_house :
    let house := ({} : World).run House.calls
    house.Revises (house.after House.lamp) House.lamp
      ∧ house.Revises (house.after House.gems) House.gems
      ∧ house.Revises (house.after House.attic) House.attic
      ∧ house.Revises (house.after House.bars) House.bars
      ∧ (house.run [House.lamp, House.attic]).unresolved.Perm
        ((({} : World).run [House.attic, House.lamp]).run House.calls).unresolved := by
  intro house
  refine ⟨?_, ?_, ?_, ?_, ?_⟩
  · exact (unresolved_revised house).1 _ _ _ rfl
  · exact (unresolved_revised house).1 _ _ _ rfl
  · exact (unresolved_revised house).1 _ _ _ rfl
  · exact (unresolved_revised house).1 _ _ _ rfl
  · refine ((unresolved_revised _).2 _ fun t => ?_).1
    cases t with
    | items => exact .swap _ _ []
    | locations => exact .swap _ _ []
    | categories => exact .refl _
    | options => exact .refl _

end World

end Worldsmith
