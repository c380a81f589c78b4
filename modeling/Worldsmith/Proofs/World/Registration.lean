/-
What one registration does to a world.

A caller registers entities of four kinds, each in a table of its own.  `entries` shows the
four tables in one way, so that a registration can be said once for all of them: it succeeds
when the name is free and the entity can be made, and it then adds one entry to the end of
one table and does nothing else.
-/
import Mathlib.Data.List.Nodup
import Worldsmith.Proofs.Requirement.Tree
import Worldsmith.Proofs.Table
import Worldsmith.World.Basic

namespace Worldsmith

/-- An entity of any kind. -/
inductive Entity where
  | item (i : Item)
  | location (l : Location)
  | category (c : Category)
  | option (o : ToggleOption)

/-- The table that an entity belongs in. -/
def Entity.table : Entity → TableName
  | .item _ => .items
  | .location _ => .locations
  | .category _ => .categories
  | .option _ => .options

/-- The name that the entity has by itself. -/
def Entity.name : Entity → String
  | .item i => i.name
  | .location l => l.name
  | .category c => c.name
  | .option o => o.name

/-! ### Entities as they are specified -/

def Item.ofSpec (name : String) (spec : Item.Spec) : Item :=
  { name, count? := spec.count?, flags := spec.flags, value := spec.value
    categories := Reference.namesOf? spec.categories? }

def Location.ofSpec (name : String) (spec : Location.Spec) : Location :=
  { name, region? := spec.region?, categories := Reference.namesOf? spec.categories?
    requires? := (spec.requires?.map Requirement.text).filter (· ≠ "")
    placedItems := Reference.namesOf? spec.placedItems?
    placedItemCategories := Reference.namesOf? spec.placedItemCategories?
    victory := spec.victory }

/-- Text that is empty is dropped, but only raw text is empty. -/
theorem Location.ofSpec_of_requires {name : String} {spec : Location.Spec} {r : Requirement}
    (h : spec.requires? = some r) (hraw : r ≠ .raw "") :
    Location.ofSpec name spec =
      { name, region? := spec.region?, categories := Reference.namesOf? spec.categories?
        requires? := some r.text
        placedItems := Reference.namesOf? spec.placedItems?
        placedItemCategories := Reference.namesOf? spec.placedItemCategories?
        victory := spec.victory } := by
  have hne : r.text ≠ "" := fun hempty => hraw (Requirement.text_eq_empty_iff.mp hempty)
  simp [Location.ofSpec, h, hne, Option.filter]

def Category.ofSpec (name : String) (spec : Category.Spec) : Category :=
  { name, hidden := spec.hidden, options := Reference.namesOf? spec.options? }

def ToggleOption.ofSpec (name : String) (spec : ToggleOption.Spec) : ToggleOption :=
  { name, description := spec.description, default := spec.default }

/-! ### Registrations -/

/-- A call for a new entity. -/
inductive Registration where
  | item (name : String) (spec : Item.Spec)
  | location (name : String) (spec : Location.Spec)
  | category (name : String) (spec : Category.Spec)
  | option (name : String) (spec : ToggleOption.Spec)

namespace Registration

def table : Registration → TableName
  | .item .. => .items
  | .location .. => .locations
  | .category .. => .categories
  | .option .. => .options

def name : Registration → String
  | .item name _ | .location name _ | .category name _ | .option name _ => name

/-- The entity that is asked for. -/
def entity : Registration → Entity
  | .item name spec => .item (Item.ofSpec name spec)
  | .location name spec => .location (Location.ofSpec name spec)
  | .category name spec => .category (Category.ofSpec name spec)
  | .option name spec => .option (ToggleOption.ofSpec name spec)

@[simp] theorem table_entity (r : Registration) : r.entity.table = r.table := by
  cases r <;> rfl

@[simp] theorem name_entity (r : Registration) : r.entity.name = r.name := by
  cases r <;> rfl

/-- What is wrong with the specification, apart from the name. -/
def specFault? : Registration → Option WorldError
  | .item name spec => if spec.count? = some 0 then some (.invalidCount name) else none
  | .location name spec =>
    (spec.requires?.bind Requirement.fault?).map (.invalidRequirement name)
  | .category .. => none
  | .option .. => none

/-- Why there is no such entity. -/
def fault? (r : Registration) : Option WorldError :=
  if Text.isBlank r.name then some (.emptyName r.table) else r.specFault?

theorem fault?_eq_none_iff {r : Registration} :
    r.fault? = none ↔ Text.isBlank r.name = false ∧ r.specFault? = none := by
  rw [fault?]
  split <;> simp [*]

/-- The entity, unless something is wrong with it. -/
def make : Registration → Except WorldError Entity
  | .item name spec => (Item.make name spec).map .item
  | .location name spec => (Location.make name spec).map .location
  | .category name spec => (Category.make name spec).map .category
  | .option name spec => (ToggleOption.make name spec).map .option

/-- A location has the text of its requirement, unless the requirement has none. -/
theorem requirementText_eq (name : String) (requires? : Option Requirement) :
    Location.requirementText name requires? =
      match requires?.bind Requirement.fault? with
      | some cause => .error (.invalidRequirement name cause)
      | none => .ok ((requires?.map Requirement.text).filter (· ≠ "")) := by
  cases requires? with
  | none => rfl
  | some r =>
      rw [Location.requirementText, Requirement.compile, Option.bind_some]
      cases r.fault? with
      | some cause => rfl
      | none => simp [Option.filter]

theorem make_eq (r : Registration) :
    r.make = match r.fault? with
      | some e => .error e
      | none => .ok r.entity := by
  cases r with
  | item name spec =>
      rw [make, Item.make, checkName, fault?, specFault?, Registration.name]
      split
      · rfl
      · split <;> rfl
  | location name spec =>
      rw [make, Location.make, checkName, fault?, specFault?, Registration.name,
        requirementText_eq]
      split
      · rfl
      · cases spec.requires?.bind Requirement.fault? <;> rfl
  | category name spec =>
      rw [make, Category.make, checkName, fault?, specFault?, Registration.name]
      split <;> rfl
  | option name spec =>
      rw [make, ToggleOption.make, checkName, fault?, specFault?, Registration.name]
      split <;> rfl

/-- The names that are registered in a table. -/
def namesIn (t : TableName) (rs : List Registration) : List String :=
  (rs.filter (·.table = t)).map name

/-- The entries that registrations add to a table. -/
def entriesIn (t : TableName) (rs : List Registration) : List (String × Entity) :=
  (rs.filter (·.table = t)).map fun r => (r.name, r.entity)

@[simp] theorem map_fst_entriesIn (t : TableName) (rs : List Registration) :
    (entriesIn t rs).map Prod.fst = namesIn t rs := by
  simp [entriesIn, namesIn, Function.comp_def]

theorem namesIn_append (t : TableName) (rs rs' : List Registration) :
    namesIn t (rs ++ rs') = namesIn t rs ++ namesIn t rs' := by
  simp [namesIn]

theorem namesIn_flatMap {α : Type} (t : TableName) (xs : List α) (f : α → List Registration) :
    namesIn t (xs.flatMap f) = xs.flatMap fun x => namesIn t (f x) := by
  rw [namesIn, List.filter_flatMap, List.map_flatMap]
  rfl

theorem mem_namesIn_iff {t : TableName} {rs : List Registration} {name : String} :
    name ∈ namesIn t rs ↔ ∃ r ∈ rs, r.table = t ∧ r.name = name := by
  simp [namesIn, and_assoc]

theorem mem_namesIn {rs : List Registration} {r : Registration} (h : r ∈ rs) :
    r.name ∈ namesIn r.table rs :=
  mem_namesIn_iff.mpr ⟨r, h, rfl, rfl⟩

theorem namesIn_mono {rs rs' : List Registration} (h : rs ⊆ rs') (t : TableName) :
    namesIn t rs ⊆ namesIn t rs' := by
  intro name hname
  obtain ⟨r, hr, ht, hn⟩ := mem_namesIn_iff.mp hname
  exact mem_namesIn_iff.mpr ⟨r, h hr, ht, hn⟩

@[simp] theorem entriesIn_append (t : TableName) (rs rs' : List Registration) :
    entriesIn t (rs ++ rs') = entriesIn t rs ++ entriesIn t rs' := by
  simp [entriesIn]

theorem entriesIn_cons (t : TableName) (r : Registration) (rs : List Registration) :
    entriesIn t (r :: rs) = entriesIn t [r] ++ entriesIn t rs :=
  entriesIn_append t [r] rs

theorem entriesIn_singleton (t : TableName) (r : Registration) :
    entriesIn t [r] = if r.table = t then [(r.name, r.entity)] else [] := by
  by_cases h : r.table = t <;> simp [entriesIn, h]

end Registration

namespace World

/-- A registration's outcome: the entity as it was registered, and the world with it. -/
def enter (w : World) : Registration → Except WorldError (Entity × World)
  | .item name spec => (w.addItem name spec).map fun (i, w) => (.item i, w)
  | .location name spec => (w.addLocation name spec).map fun (l, w) => (.location l, w)
  | .category name spec => (w.addCategory name spec).map fun (c, w) => (.category c, w)
  | .option name spec => (w.addOption name spec).map fun (o, w) => (.option o, w)

/-! ### Tables in one view -/

/-- The entries of a table. -/
def entries (w : World) : TableName → List (String × Entity)
  | .items => w.items.entries.map fun e => (e.1, .item e.2)
  | .locations => w.locations.entries.map fun e => (e.1, .location e.2)
  | .categories => w.categories.entries.map fun e => (e.1, .category e.2)
  | .options => w.options.entries.map fun e => (e.1, .option e.2)

def names (w : World) (t : TableName) : List String := (w.entries t).map Prod.fst

theorem names_items (w : World) : w.names .items = w.items.keys := by
  simp [names, entries, Table.keys, Function.comp_def]

theorem names_locations (w : World) : w.names .locations = w.locations.keys := by
  simp [names, entries, Table.keys, Function.comp_def]

theorem names_categories (w : World) : w.names .categories = w.categories.keys := by
  simp [names, entries, Table.keys, Function.comp_def]

theorem names_options (w : World) : w.names .options = w.options.keys := by
  simp [names, entries, Table.keys, Function.comp_def]

theorem names_nodup (w : World) (t : TableName) : (w.names t).Nodup := by
  cases t with
  | items => rw [names_items]; exact w.items.distinct
  | locations => rw [names_locations]; exact w.locations.distinct
  | categories => rw [names_categories]; exact w.categories.distinct
  | options => rw [names_options]; exact w.options.distinct

@[simp] theorem entries_empty (t : TableName) : ({} : World).entries t = [] := by
  cases t <;> rfl

@[simp] theorem names_empty (t : TableName) : ({} : World).names t = [] := by
  simp [names]

section Members

variable {w : World} {name : String}

theorem mem_entries_items {i : Item} :
    (name, .item i) ∈ w.entries .items ↔ (name, i) ∈ w.items.entries := by
  simp [entries]

theorem mem_entries_locations {l : Location} :
    (name, .location l) ∈ w.entries .locations ↔ (name, l) ∈ w.locations.entries := by
  simp [entries]

theorem mem_entries_categories {c : Category} :
    (name, .category c) ∈ w.entries .categories ↔ (name, c) ∈ w.categories.entries := by
  simp [entries]

theorem mem_entries_options {o : ToggleOption} :
    (name, .option o) ∈ w.entries .options ↔ (name, o) ∈ w.options.entries := by
  simp [entries]

end Members

/-- Entries are the same when they are in the view. -/
theorem eq_of_map_entity {α : Type} {f : α → Entity} (hf : ∀ a b, f a = f b → a = b)
    {es es' : List (String × α)}
    (h : (es.map fun e => (e.1, f e.2)) = es'.map fun e => (e.1, f e.2)) : es = es' := by
  refine List.map_injective_iff.mpr ?_ h
  rintro ⟨n, a⟩ ⟨n', a'⟩ hpair
  obtain ⟨hn, ha⟩ := Prod.mk.inj hpair
  exact Prod.ext hn (hf a a' ha)

/-- The view shows everything there is in a world. -/
theorem ext_entries {w w' : World} (h : ∀ t, w.entries t = w'.entries t) : w = w' := by
  have hitems := eq_of_map_entity (fun _ _ h => Entity.item.inj h) (h .items)
  have hlocations := eq_of_map_entity (fun _ _ h => Entity.location.inj h) (h .locations)
  have hcategories := eq_of_map_entity (fun _ _ h => Entity.category.inj h) (h .categories)
  have hoptions := eq_of_map_entity (fun _ _ h => Entity.option.inj h) (h .options)
  cases w
  cases w'
  simp only [World.mk.injEq]
  exact ⟨Table.ext hitems, Table.ext hlocations, Table.ext hcategories, Table.ext hoptions⟩

/-! ### One registration -/

/-- The world with an entity under a name in the table of its kind. -/
def put (w : World) (name : String) : Entity → World
  | .item i => { w with items := w.items.set name i }
  | .location l => { w with locations := w.locations.set name l }
  | .category c => { w with categories := w.categories.set name c }
  | .option o => { w with options := w.options.set name o }

theorem register_eq {ε : Type} (table : TableName) (t : Table String ε) (name : String)
    (made : Except WorldError ε) :
    register table t name made =
      if name ∈ t.keys then .error (.duplicateName table name)
      else made.map fun e => (e, t.set name e) := by
  unfold register
  by_cases h : name ∈ t.keys
  · rw [dif_pos h, if_pos h]
  · rw [dif_neg h, if_neg h]
    congr 1
    funext e
    rw [Table.set, dif_neg h]

/-- Registering in one of the tables of a world. -/
theorem register_back {ε : Type} (w : World) (table : TableName) (t : Table String ε)
    (name : String) (made : Except WorldError ε) (wrap : ε → Entity)
    (back : Table String ε → World) (hback : ∀ e, back (t.set name e) = w.put name (wrap e)) :
    Except.map (fun (p : ε × World) => (wrap p.1, p.2)) (do
        let (e, t') ← register table t name made
        return (e, back t')) =
      if name ∈ t.keys then .error (.duplicateName table name)
      else (made.map wrap).map fun e => (e, w.put name e) := by
  rw [register_eq]
  by_cases h : name ∈ t.keys
  · rw [if_pos h, if_pos h]
    rfl
  · rw [if_neg h, if_neg h]
    cases made with
    | error err => rfl
    | ok e =>
        show Except.ok (wrap e, back (t.set name e)) = Except.ok (wrap e, w.put name (wrap e))
        rw [hback]

theorem enter_eq_make (w : World) (r : Registration) :
    w.enter r = if r.name ∈ w.names r.table then .error (.duplicateName r.table r.name)
      else r.make.map fun e => (e, w.put r.name e) := by
  cases r with
  | item name spec =>
      rw [Registration.table, names_items]
      exact register_back w .items w.items name (Item.make name spec) .item
        (fun items => { w with items }) fun _ => rfl
  | location name spec =>
      rw [Registration.table, names_locations]
      exact register_back w .locations w.locations name (Location.make name spec) .location
        (fun locations => { w with locations }) fun _ => rfl
  | category name spec =>
      rw [Registration.table, names_categories]
      exact register_back w .categories w.categories name (Category.make name spec) .category
        (fun categories => { w with categories }) fun _ => rfl
  | option name spec =>
      rw [Registration.table, names_options]
      exact register_back w .options w.options name (ToggleOption.make name spec) .option
        (fun options => { w with options }) fun _ => rfl

/-- Why a world does not take an entity. -/
def refusal? (w : World) (r : Registration) : Option WorldError :=
  if r.name ∈ w.names r.table then some (.duplicateName r.table r.name) else r.fault?

/-- **A registration is refused when the name is taken, and then when there is no such
entity; otherwise the entity goes under its name.** -/
theorem enter_eq (w : World) (r : Registration) :
    w.enter r = match w.refusal? r with
      | some e => .error e
      | none => .ok (r.entity, w.put r.name r.entity) := by
  rw [enter_eq_make, refusal?, Registration.make_eq]
  split
  · rfl
  · cases r.fault? <;> rfl

theorem refusal?_eq_none_iff {w : World} {r : Registration} :
    w.refusal? r = none ↔ r.name ∉ w.names r.table ∧ r.fault? = none := by
  rw [refusal?]
  split <;> simp [*]

theorem entries_put {w : World} {name : String} {e : Entity} (h : name ∉ w.names e.table)
    (t : TableName) :
    (w.put name e).entries t = w.entries t ++ if e.table = t then [(name, e)] else [] := by
  cases e with
  | item i =>
      rw [Entity.table, names_items] at h
      cases t <;> simp [put, entries, Table.set, h, Entity.table]
  | location l =>
      rw [Entity.table, names_locations] at h
      cases t <;> simp [put, entries, Table.set, h, Entity.table]
  | category c =>
      rw [Entity.table, names_categories] at h
      cases t <;> simp [put, entries, Table.set, h, Entity.table]
  | option o =>
      rw [Entity.table, names_options] at h
      cases t <;> simp [put, entries, Table.set, h, Entity.table]

theorem enter_eq_ok_iff {w w' : World} {r : Registration} {e : Entity} :
    w.enter r = .ok (e, w') ↔
      w.refusal? r = none ∧ e = r.entity ∧ w' = w.put r.name r.entity := by
  rw [enter_eq]
  cases w.refusal? r with
  | some err => simp
  | none => simp [eq_comm]

/-- **What a registration does.**  One table has one more entry, at its end. -/
theorem entries_put_entity {w : World} {r : Registration} (h : w.refusal? r = none)
    (t : TableName) :
    (w.put r.name r.entity).entries t = w.entries t ++ Registration.entriesIn t [r] := by
  obtain ⟨hfree, -⟩ := refusal?_eq_none_iff.mp h
  rw [entries_put (by rwa [r.table_entity]), r.table_entity, Registration.entriesIn_singleton]

end World

end Worldsmith
