/-
Which references of a world lead nowhere, said of the calls that filled it.

The check reads the world alone: a requirement is text there, and what it mentions is found
by scanning for bars.  `dangling` says what the answer should be without any of that, from
the specifications in the log of accepted calls: the subjects of a requirement are the
leaves of its tree, and the options of a category are those of its specification and of
every call that gates it.

The two agree (`unresolved_run`) where requirements are structure throughout.  Each entry
of the world is the entity that some registration asks for, and for one entry the text
mentions what the tree does.
-/
import Worldsmith.Proofs.Requirement.Mentions
import Worldsmith.Proofs.World.Run
import Worldsmith.World.Unresolved

namespace Worldsmith

open Operation (gated gating registration?)
open Registration (entriesIn)

/-! ### What specifications refer to -/

/-- The subjects of the requirement, from left to right. -/
def Location.Spec.subjects (spec : Location.Spec) : List Subject :=
  (spec.requires?.map Requirement.subjects).getD []

/-- No part of a requirement is text that an author wrote himself. -/
def Registration.RawFree : Registration → Prop
  | .location _ spec => ∀ r, spec.requires? = some r → r.RawFree
  | .item .. | .category .. | .option .. => True

namespace World

variable (w : World)

/-- The categories that there are: the registered ones and those that some item is in. -/
def knownCategories : List String :=
  w.categories.keys ++ w.items.values.flatMap (·.categories)

/-- One report for each of the names that is not among the known ones. -/
def absent (table : TableName) (known : List String) (referrer : String)
    (names : List String) : List WorldError :=
  (names.filter (· ∉ known)).map (.unresolvedReference table referrer)

/-- The report of a subject that stands for nothing. -/
def absentSubject (referrer : String) : Subject → List WorldError
  | .item name => absent .items w.items.keys referrer [name]
  | .category name => absent .categories w.knownCategories referrer [name]

/-- The reports of a location: the subjects of its requirement, the items placed there, and
the categories of items placed there. -/
def danglingOfLocation (name : String) (spec : Location.Spec) : List WorldError :=
  spec.subjects.flatMap (w.absentSubject name)
    ++ absent .items w.items.keys name (Reference.namesOf? spec.placedItems?)
    ++ absent .categories w.knownCategories name
      (Reference.namesOf? spec.placedItemCategories?)

/-- The reports of a category: its options, those it has from the start and those that it
is gated by afterwards. -/
def danglingOfCategory (log : List Operation) (name : String) (spec : Category.Spec) :
    List WorldError :=
  absent .options w.options.keys name
    (Reference.namesOf? spec.options? ++ log.flatMap (gating name))

/-- Every reference of a log of calls that leads nowhere in the world: those of locations
first, then those of categories, each in the order of the calls. -/
def dangling (log : List Operation) : List WorldError :=
  log.flatMap (fun
    | .register (.location name spec) => w.danglingOfLocation name spec
    | _ => [])
  ++ log.flatMap (fun
    | .register (.category name spec) => w.danglingOfCategory log name spec
    | _ => [])

/-! ### The check in the view of entries -/

variable {w}

/-- The references of an entry that lead nowhere. -/
def missingFrom (w : World) : String × Entity → List WorldError
  | (name, .location l) => w.missingFromLocation name l
  | (name, .category c) => missing .options w.knowsOption name c.options
  | (_, .item _) | (_, .option _) => []

theorem unresolved_eq (w : World) :
    w.unresolved
      = (w.entries .locations).flatMap w.missingFrom
        ++ (w.entries .categories).flatMap w.missingFrom := by
  rw [unresolved, entries, entries, List.flatMap_map, List.flatMap_map]
  rfl

theorem validate_eq_ok_iff : w.validate = .ok () ↔ w.unresolved = [] := by
  rw [validate]
  cases w.unresolved with
  | nil => simp
  | cons e es => simp

theorem validate_of_cons {e : WorldError} {es : List WorldError} (h : w.unresolved = e :: es) :
    w.validate = .error e := by
  rw [validate, h]
  rfl

/-! ### One reference -/

theorem knowsItem_iff {name : String} : w.knowsItem name = true ↔ name ∈ w.items.keys := by
  rw [knowsItem, Table.contains_iff]

theorem knowsCategory_iff {name : String} :
    w.knowsCategory name = true ↔ name ∈ w.knownCategories := by
  simp [knowsCategory, knownCategories]

theorem knowsOption_iff {name : String} :
    w.knowsOption name = true ↔ name ∈ w.options.keys := by
  rw [knowsOption, Table.contains_iff]

theorem missing_eq_absent {table : TableName} {knows : String → Bool} {known : List String}
    (h : ∀ name, knows name = true ↔ name ∈ known) (referrer : String) (names : List String) :
    missing table knows referrer names = absent table known referrer names := by
  rw [missing, absent]
  congr 1
  refine List.filter_congr fun name _ => ?_
  rw [Bool.eq_iff_iff, decide_eq_true_iff, ← h name, Bool.not_eq_true', Bool.not_eq_true]

theorem missingSubject_eq (referrer : String) (s : Subject) :
    w.missingSubject referrer s = w.absentSubject referrer s := by
  cases s with
  | item name => exact missing_eq_absent (fun _ => knowsItem_iff) referrer [name]
  | category name => exact missing_eq_absent (fun _ => knowsCategory_iff) referrer [name]

theorem missing_eq_nil_iff {table : TableName} {knows : String → Bool} {referrer : String}
    {names : List String} :
    missing table knows referrer names = [] ↔ ∀ name ∈ names, knows name = true := by
  simp [missing]

/-! ### Worlds without a report -/

/-- There is something that the subject stands for. -/
def Knows (w : World) : Subject → Prop
  | .item name => name ∈ w.items.keys
  | .category name => name ∈ w.knownCategories

/-- Every reference leads somewhere. -/
structure Resolved (w : World) : Prop where
  subjects : ∀ l ∈ w.locations.values, ∀ text, l.requires? = some text →
    ∀ m ∈ Mention.scan text, w.Knows m.subject
  placedItems : ∀ l ∈ w.locations.values, ∀ name ∈ l.placedItems, name ∈ w.items.keys
  placedItemCategories : ∀ l ∈ w.locations.values, ∀ name ∈ l.placedItemCategories,
    name ∈ w.knownCategories
  options : ∀ c ∈ w.categories.values, ∀ name ∈ c.options, name ∈ w.options.keys

theorem missingSubject_eq_nil_iff {referrer : String} {s : Subject} :
    w.missingSubject referrer s = [] ↔ w.Knows s := by
  cases s with
  | item name => simp [missingSubject, missing_eq_nil_iff, knowsItem_iff, Knows]
  | category name => simp [missingSubject, missing_eq_nil_iff, knowsCategory_iff, Knows]

theorem missingFromLocation_eq_nil_iff {name : String} {l : Location} :
    w.missingFromLocation name l = [] ↔
      (∀ text, l.requires? = some text → ∀ m ∈ Mention.scan text, w.Knows m.subject)
        ∧ (∀ name ∈ l.placedItems, name ∈ w.items.keys)
        ∧ ∀ name ∈ l.placedItemCategories, name ∈ w.knownCategories := by
  rw [missingFromLocation, List.append_eq_nil_iff, List.append_eq_nil_iff, and_assoc,
    missing_eq_nil_iff, missing_eq_nil_iff, List.flatMap_eq_nil_iff]
  simp only [missingSubject_eq_nil_iff, knowsItem_iff, knowsCategory_iff]
  cases l.requires? <;> simp

theorem unresolved_eq_nil_iff : w.unresolved = [] ↔ w.Resolved := by
  rw [unresolved, List.append_eq_nil_iff, List.flatMap_eq_nil_iff, List.flatMap_eq_nil_iff]
  simp only [missingFromLocation_eq_nil_iff, missing_eq_nil_iff, knowsOption_iff]
  constructor
  · intro h
    obtain ⟨hlocations, hcategories⟩ := h
    have hlocation : ∀ l ∈ w.locations.values, ∃ name, (name, l) ∈ w.locations.entries := by
      intro l hl
      obtain ⟨e, he, rfl⟩ := List.mem_map.mp hl
      exact ⟨e.1, he⟩
    constructor
    · intro l hl
      obtain ⟨name, he⟩ := hlocation l hl
      exact (hlocations _ he).1
    · intro l hl
      obtain ⟨name, he⟩ := hlocation l hl
      exact (hlocations _ he).2.1
    · intro l hl
      obtain ⟨name, he⟩ := hlocation l hl
      exact (hlocations _ he).2.2
    · intro c hc
      obtain ⟨e, he, rfl⟩ := List.mem_map.mp hc
      exact hcategories e he
  · intro h
    refine ⟨fun e he => ?_, fun e he => ?_⟩
    · have hl : e.2 ∈ w.locations.values := List.mem_map_of_mem he
      exact ⟨h.subjects _ hl, h.placedItems _ hl, h.placedItemCategories _ hl⟩
    · exact h.options _ (List.mem_map_of_mem he)

/-! ### One location -/

/-- **The text that a location keeps mentions the subjects of the tree.** -/
theorem map_subject_scan {name : String} {spec : Location.Spec}
    (hraw : (Registration.location name spec).RawFree)
    (hfault : (Registration.location name spec).fault? = none) :
    ((((Location.ofSpec name spec).requires?.map Mention.scan).getD []).map (·.subject))
      = spec.subjects := by
  rw [Location.Spec.subjects]
  cases hrequires : spec.requires? with
  | none => simp [Location.ofSpec, hrequires]
  | some r =>
      have hraw : r.RawFree := hraw r hrequires
      have hfault : r.fault? = none := by
        rw [Registration.fault?, Registration.specFault?, hrequires] at hfault
        split at hfault
        · cases hfault
        · simpa using hfault
      have hscan : Mention.scan r.text = r.mentions := Requirement.scan_text hraw.paired hfault
      -- no requirement is kept for empty text, and nothing is mentioned in it either
      by_cases hempty : r.text = ""
      · have hnone : r.mentions = [] := by rw [← hscan, hempty]; rfl
        simp [Location.ofSpec, hrequires, hempty, Option.filter,
          ← Requirement.map_subject_mentions hraw, hnone]
      · simp [Location.ofSpec, hrequires, hempty, Option.filter, hscan,
          Requirement.map_subject_mentions hraw]

theorem missingFrom_location {name : String} {spec : Location.Spec}
    (hraw : (Registration.location name spec).RawFree)
    (hfault : (Registration.location name spec).fault? = none) :
    w.missingFromLocation name (Location.ofSpec name spec) = w.danglingOfLocation name spec := by
  rw [missingFromLocation, danglingOfLocation, ← map_subject_scan hraw hfault,
    missing_eq_absent fun _ => knowsItem_iff, missing_eq_absent fun _ => knowsCategory_iff,
    List.flatMap_map]
  simp only [missingSubject_eq]
  rfl

/-! ### Runs -/

theorem entriesIn_registrations (t : TableName) (log : List Operation) :
    entriesIn t (log.filterMap registration?)
      = log.flatMap fun op => entriesIn t op.registration?.toList := by
  induction log with
  | nil => rfl
  | cons op log ih =>
      rw [List.flatMap_cons, ← ih, List.filterMap_cons]
      cases op.registration? with
      | none => rfl
      | some r => exact Registration.entriesIn_cons t r _

/-- Where the entries are those of a log, so are the reports. -/
theorem unresolved_eq_dangling {log : List Operation}
    (hentries : ∀ t, w.entries t
      = (entriesIn t (log.filterMap registration?)).map (gated log))
    (hfault : ∀ r ∈ log.filterMap registration?, r.fault? = none)
    (hraw : ∀ r ∈ log.filterMap registration?, r.RawFree) :
    w.unresolved = w.dangling log := by
  have hmem : ∀ r, .register r ∈ log → r ∈ log.filterMap registration? := fun r hr =>
    List.mem_filterMap.mpr ⟨.register r, hr, rfl⟩
  rw [unresolved_eq, dangling, hentries, hentries, entriesIn_registrations,
    entriesIn_registrations, List.map_flatMap, List.map_flatMap, List.flatMap_assoc,
    List.flatMap_assoc]
  congr 1
  · refine List.flatMap_congr fun op hop => ?_
    cases op with
    | gate name options => rfl
    | register r =>
        cases r with
        | item name spec => rfl
        | category name spec => rfl
        | option name spec => rfl
        | location name spec =>
            have hr := hmem _ hop
            exact (List.append_nil _).trans (missingFrom_location (hraw _ hr) (hfault _ hr))
  · refine List.flatMap_congr fun op hop => ?_
    cases op with
    | gate name options => rfl
    | register r =>
        cases r with
        | item name spec => rfl
        | location name spec => rfl
        | option name spec => rfl
        | category name spec =>
            exact (List.append_nil _).trans
              (missing_eq_absent (fun _ => knowsOption_iff) name _)

/-- **The check reports exactly what the calls leave dangling**, however they were mixed and
whichever of them failed, and the first report is the failure. -/
theorem unresolved_run (ops : List Operation)
    (hraw : ∀ r ∈ ({} : World).registered ops, r.RawFree) :
    let w := ({} : World).run ops
    let reports := w.dangling (({} : World).accepted ops)
    w.unresolved = reports
      ∧ (w.validate = .ok () ↔ reports = [])
      ∧ ∀ e es, reports = e :: es → w.validate = .error e := by
  intro w reports
  have hunresolved : w.unresolved = reports := by
    refine unresolved_eq_dangling (fun t => ?_) (fun r hr => ?_) hraw
    · rw [entries_run, entries_empty, List.nil_append]
      rfl
    · exact (refusal?_eq_none_iff.mp (refusal?_of_registered hr)).2
  refine ⟨hunresolved, ?_, fun e es h => ?_⟩
  · rw [validate_eq_ok_iff, hunresolved]
  · exact validate_of_cons (hunresolved.trans h)

/-! ### A house with something missing -/

namespace House

def key : Registration := .item "Key" { categories? := some (.name "Tools") }

/-- The lamp is named in the requirement only; so are the coin and the gems where things are
placed. -/
def cellar : Registration := .location "Cellar" {
  requires? := some <| .combination .and [
    .subject (.item "Key"),
    .gate .optOne (.threshold (.category "Tools") (.count 2)),
    .threshold (.item "Lamp") (.percent "50%")]
  placedItems? := some (.list [.name "Key", .name "Coin"])
  placedItemCategories? := some (.name "Gems") }

def doors : Registration := .category "Doors" { options? := some (.name "open_doors") }

def openDoors : Registration := .option "open_doors" {}

/-- The second cellar is refused, and there are no windows. -/
def calls : List Operation := [
  .register key, .register cellar, .register cellar, .register doors,
  .gate "Doors" (.name "locked_doors"), .gate "Windows" (.name "barred_windows"),
  .register openDoors]

theorem rawFree_of_registered : ∀ r ∈ ({} : World).registered calls, r.RawFree := by
  have hregistered : ({} : World).registered calls = [key, cellar, doors, openDoors] := rfl
  rw [hregistered]
  simp only [List.forall_mem_cons, List.not_mem_nil, false_implies, implies_true, and_true]
  refine ⟨trivial, ?_, trivial, trivial⟩
  intro r hr
  obtain rfl := Option.some.inj hr
  refine .combination fun r hr => ?_
  simp only [List.mem_cons, List.not_mem_nil, or_false] at hr
  rcases hr with rfl | rfl | rfl
  · exact .subject _
  · exact .gate (.threshold _ _)
  · exact .threshold _ _

def reports : List WorldError := [
  .unresolvedReference .items "Cellar" "Lamp",
  .unresolvedReference .items "Cellar" "Coin",
  .unresolvedReference .categories "Cellar" "Gems",
  .unresolvedReference .options "Doors" "locked_doors"]

end House

theorem unresolved_run_house :
    (∀ r ∈ ({} : World).registered House.calls, r.RawFree)
      ∧ (({} : World).run House.calls).unresolved = House.reports
      ∧ (({} : World).run House.calls).validate
          = .error (.unresolvedReference .items "Cellar" "Lamp") := by
  have hdangling : (({} : World).run House.calls).dangling (({} : World).accepted House.calls)
      = House.reports := by decide +kernel
  obtain ⟨hunresolved, -, hfirst⟩ := unresolved_run House.calls House.rawFree_of_registered
  exact ⟨House.rawFree_of_registered, hunresolved.trans hdangling, hfirst _ _ hdangling⟩

end World

end Worldsmith
