/-
Resolving packs in a world that others fill as well.

A builder registers an option and a category for a pack that it meets, and then remembers the
category.  It is not alone with its world: anyone may have taken one of the two names before,
two packs may spell the name of their option the same way, and the option is registered before
it turns out that the name of the category is taken.  World and memory can thus come apart.

`Meets` lists what can happen when a pack is met.  `Sound` is what every call keeps: what is
remembered is gated in the world, by options of different names, and is what was given back
when the pack was first resolved.  From that alone it follows what resolving a pack does after
any calls (`remembers_run`).
-/
import Mathlib.Data.List.Dedup
import Worldsmith.Proofs.Catalog.Workshop
import Worldsmith.Proofs.World.Refusal

namespace Worldsmith

open Registration (entriesIn)

/-! ### Meeting a pack -/

/-- The world with the option of a pack. -/
def World.enable (w : World) (pack : String) : World :=
  w.put (Pack.option pack).name (Pack.option pack).entity

/-- And with the category that the option gates. -/
def World.enableGated (w : World) (pack : String) : World :=
  (w.enable pack).put (Pack.gate pack).name (Pack.gate pack).entity

namespace Pack

/-- Nothing but its name stands against a pack's option. -/
theorem fault?_option (pack : String) : (option pack).fault? = none :=
  Registration.fault?_eq_none_iff.mpr ⟨Catalog.isBlank_append (by decide), rfl⟩

theorem fault?_gate (pack : String) : (gate pack).fault? = none :=
  Registration.fault?_eq_none_iff.mpr ⟨Catalog.isBlank_append (by decide), rfl⟩

end Pack

namespace World

variable {w : World} {pack : String}

theorem entries_enable (h : Pack.optionName pack ∉ w.names .options) (t : TableName) :
    (w.enable pack).entries t = w.entries t ++ entriesIn t [Pack.option pack] :=
  entries_put_entity (refusal?_eq_none_iff.mpr ⟨h, Pack.fault?_option pack⟩) t

/-- The option takes no category's name. -/
theorem names_enable (h : Pack.optionName pack ∉ w.names .options) :
    (w.enable pack).names .categories = w.names .categories := by
  rw [names, entries_enable h]
  exact congrArg (List.map Prod.fst) (List.append_nil _)

theorem refusal?_gate (hoption : Pack.optionName pack ∉ w.names .options)
    (hcategory : Pack.categoryName pack ∉ w.names .categories) :
    (w.enable pack).refusal? (Pack.gate pack) = none := by
  refine refusal?_eq_none_iff.mpr ⟨?_, Pack.fault?_gate pack⟩
  show Pack.categoryName pack ∉ (w.enable pack).names .categories
  rwa [names_enable hoption]

theorem entries_enableGated (hoption : Pack.optionName pack ∉ w.names .options)
    (hcategory : Pack.categoryName pack ∉ w.names .categories) (t : TableName) :
    (w.enableGated pack).entries t
      = w.entries t ++ entriesIn t [Pack.option pack, Pack.gate pack] := by
  rw [enableGated, entries_put_entity (refusal?_gate hoption hcategory), entries_enable hoption,
    List.append_assoc, ← Registration.entriesIn_append]
  rfl

end World

namespace Site

/-- What can happen when a pack is met. -/
inductive Meets (s : Site) (pack : String) : Outcome → Prop
  | known (hknown : pack ∈ s.packs) : Meets s pack (.ok (), s)
  | optionTaken (hnew : pack ∉ s.packs) (hoption : Pack.optionName pack ∈ s.world.names .options) :
      Meets s pack (.error (.world (.duplicateName .options (Pack.optionName pack))), s)
  | categoryTaken (hnew : pack ∉ s.packs)
      (hoption : Pack.optionName pack ∉ s.world.names .options)
      (hcategory : Pack.categoryName pack ∈ s.world.names .categories) :
      Meets s pack (.error (.world (.duplicateName .categories (Pack.categoryName pack))),
        { s with world := s.world.enable pack })
  | gated (hnew : pack ∉ s.packs) (hoption : Pack.optionName pack ∉ s.world.names .options)
      (hcategory : Pack.categoryName pack ∉ s.world.names .categories) :
      Meets s pack
        (.ok (), { world := s.world.enableGated pack, packs := s.packs ++ [pack] })

theorem meets_meet (s : Site) (pack : String) : s.Meets pack (s.meet pack) := by
  rw [meet]
  by_cases hknown : pack ∈ s.packs
  · rw [if_pos hknown]
    exact .known hknown
  rw [if_neg hknown, add]
  by_cases hoption : Pack.optionName pack ∈ s.world.names .options
  · have hrefusal : s.world.refusal? (Pack.option pack)
        = some (.duplicateName .options (Pack.optionName pack)) := if_pos hoption
    rw [hrefusal]
    exact .optionTaken hknown hoption
  · have hfree : s.world.refusal? (Pack.option pack) = none :=
      World.refusal?_eq_none_iff.mpr ⟨hoption, Pack.fault?_option pack⟩
    rw [hfree]
    show s.Meets pack (Outcome.andThen (add { s with world := s.world.enable pack } _) _)
    rw [add]
    by_cases hcategory : Pack.categoryName pack ∈ s.world.names .categories
    · have hrefusal : (s.world.enable pack).refusal? (Pack.gate pack)
          = some (.duplicateName .categories (Pack.categoryName pack)) :=
        if_pos ((World.names_enable hoption).symm ▸ hcategory)
      rw [hrefusal]
      exact .categoryTaken hknown hoption hcategory
    · rw [World.refusal?_gate hoption hcategory]
      exact .gated hknown hoption hcategory

end Site

/-! ### Builders that others share the world of -/

namespace Builder

def resolve (b : Builder) (pack : String) : Except CatalogError Category × Builder :=
  (Build.packCategory pack).run.run b

def resolveOptional (b : Builder) (pack? : Option String) :
    Except CatalogError (List Category) × Builder :=
  (Build.packCategories pack?).run.run b

/-- A call: a pack is resolved, or someone else calls on the world. -/
inductive Call where
  | perform (op : Operation)
  | resolve (pack : String)
  | resolveOptional (pack? : Option String)

/-- The builder after a call, whether or not it succeeds. -/
def after (b : Builder) : Call → Builder
  | .perform op => { b with world := b.world.after op }
  | .resolve pack => (b.resolve pack).2
  | .resolveOptional pack? => (b.resolveOptional pack?).2

def run (b : Builder) (calls : List Call) : Builder := calls.foldl after b

/-- The pack that a call resolves with success, and the category that it gives back. -/
def given (b : Builder) : Call → List (String × Category)
  | .perform _ => []
  | .resolve pack =>
    match (b.resolve pack).1 with
    | .ok c => [(pack, c)]
    | .error _ => []
  | .resolveOptional pack? =>
    match (b.resolveOptional pack?).1 with
    | .ok cs => pack?.toList.zip cs
    | .error _ => []

/-- The packs that a run resolves with success, call by call. -/
def givenAll (b : Builder) : List Call → List (String × Category)
  | [] => []
  | call :: calls => b.given call ++ (b.after call).givenAll calls

/-- Resolving a pack that may be missing is resolving one, or nothing. -/
theorem resolveOptional_some (b : Builder) (pack : String) :
    b.resolveOptional (some pack)
      = ((b.resolve pack).1.map fun c => [c], (b.resolve pack).2) := by
  show (Build.packCategory pack >>= fun c => pure [c]).run.run b = _
  rw [Build.run_bind, resolve]
  obtain ⟨r, b'⟩ := (Build.packCategory pack).run.run b
  cases r <;> rfl

theorem given_resolveOptional_some (b : Builder) (pack : String) :
    b.given (.resolveOptional (some pack)) = b.given (.resolve pack) := by
  rw [given, given, resolveOptional_some]
  cases (b.resolve pack).1 <;> rfl

/-- The builder's world and the packs that it remembers. -/
def site (b : Builder) : Site := ⟨b.world, b.packs.keys⟩

/-! ### What calls keep -/

/-- What is true of a builder after calls that have given these categories back. -/
structure Sound (b : Builder) (log : List (String × Category)) : Prop where
  packs : b.packs.entries = b.packs.keys.map fun pack => (pack, Pack.category pack)
  gated : ∀ pack ∈ b.packs.keys, b.world.Gates pack
  apart : (b.packs.keys.map Pack.optionName).Nodup
  log : ∀ pack c, (pack, c) ∈ log ↔ pack ∈ b.packs.keys ∧ c = Pack.category pack

theorem At.keys {completed? : Option Category} {b : Builder} {s : Site}
    (h : b.At completed? s) : b.packs.keys = s.packs := by
  rw [Table.keys, h.packs, List.map_map]
  exact List.map_id _

namespace Sound

variable {b : Builder} {log : List (String × Category)}

theorem new (w : World) : Sound { world := w } [] where
  packs := rfl
  gated := nofun
  apart := List.nodup_nil
  log := by simp

/-- **What resolving a pack does** is what meeting it does. -/
theorem resolve (h : b.Sound log) (pack : String) :
    ∃ b', b.resolve pack = ((b.site.meet pack).1.map fun _ => Pack.category pack, b')
      ∧ b'.At b.completed? (b.site.meet pack).2 := by
  have hat : b.At b.completed? b.site := ⟨rfl, h.packs, rfl⟩
  have hends := Follows.packCategory pack b b.site hat
  rwa [Site.takeAll_singleton] at hends

theorem after_perform (h : b.Sound log) (op : Operation) : (b.after (.perform op)).Sound log where
  packs := h.packs
  gated pack hpack := (h.gated pack hpack).after op
  apart := h.apart
  log := h.log

/-- An option of a known pack is in the world, so a pack with a free name has another one. -/
theorem optionName_notMem (h : b.Sound log) {pack : String}
    (hfree : Pack.optionName pack ∉ b.world.names .options) :
    Pack.optionName pack ∉ b.packs.keys.map Pack.optionName := by
  intro hmem
  obtain ⟨p, hp, heq⟩ := List.mem_map.mp hmem
  apply hfree
  rw [← heq, World.names_options]
  exact List.mem_map_of_mem (h.gated p hp).option

section Meet

variable (h : b.Sound log) (pack : String)
include h

theorem gated_meet :
    ∀ p ∈ (b.site.meet pack).2.packs, (b.site.meet pack).2.world.Gates p := by
  intro p hp
  rcases Site.gates_meet b.site pack p hp with hknown | hnew
  · exact (h.gated p hknown).mono (Site.extends_take b.site (.meet pack))
  · exact hnew

theorem apart_meet : ((b.site.meet pack).2.packs.map Pack.optionName).Nodup := by
  have hmeets := b.site.meets_meet pack
  generalize b.site.meet pack = o at hmeets
  cases hmeets with
  | known | optionTaken | categoryTaken => exact h.apart
  | gated hnew hoption hcategory =>
      rw [List.map_append, List.map_singleton, List.nodup_append]
      refine ⟨h.apart, List.nodup_singleton _, fun name hname other hother heq => ?_⟩
      obtain rfl := List.mem_singleton.mp hother
      exact h.optionName_notMem hoption (heq ▸ hname)

theorem given_resolve :
    b.given (.resolve pack) = match (b.site.meet pack).1 with
      | .ok _ => [(pack, Pack.category pack)]
      | .error _ => [] := by
  obtain ⟨b', hrun, -⟩ := h.resolve pack
  rw [given, hrun]
  cases (b.site.meet pack).1 <;> rfl

/-- The category of a known pack was given back before, and that of a new one is now. -/
theorem mem_given_meet (p : String) (c : Category) :
    (p, c) ∈ log ++ b.given (.resolve pack)
      ↔ p ∈ (b.site.meet pack).2.packs ∧ c = Pack.category p := by
  rw [h.given_resolve, List.mem_append, h.log]
  have hmeets := b.site.meets_meet pack
  generalize b.site.meet pack = o at hmeets
  cases hmeets with
  | known hknown =>
      refine or_iff_left_of_imp fun hgiven => ?_
      obtain ⟨rfl, rfl⟩ := Prod.mk.inj (List.mem_singleton.mp hgiven)
      exact ⟨hknown, rfl⟩
  | optionTaken | categoryTaken => exact or_iff_left List.not_mem_nil
  | gated hnew hoption hcategory =>
      rw [List.mem_singleton, Prod.mk.injEq, List.mem_append, List.mem_singleton, or_and_right]
      exact or_congr_right (and_congr_right fun heq => heq ▸ Iff.rfl)

theorem after_resolve : (b.after (.resolve pack)).Sound (log ++ b.given (.resolve pack)) := by
  obtain ⟨b', hrun, hat⟩ := h.resolve pack
  have hafter : b.after (.resolve pack) = b' := congrArg Prod.snd hrun
  rw [hafter]
  constructor
  · rw [hat.packs, hat.keys]
  · rw [hat.keys, hat.world]
    exact h.gated_meet pack
  · rw [hat.keys]
    exact h.apart_meet pack
  · rw [hat.keys]
    exact h.mem_given_meet pack

end Meet

/-- **What a call keeps.** -/
theorem after (h : b.Sound log) (call : Call) : (b.after call).Sound (log ++ b.given call) := by
  cases call with
  | perform op =>
      rw [given, List.append_nil]
      exact h.after_perform op
  | resolve pack => exact h.after_resolve pack
  | resolveOptional pack? =>
      cases pack? with
      | none =>
          show b.Sound (log ++ [])
          rwa [List.append_nil]
      | some pack =>
          rw [given_resolveOptional_some, Builder.after, resolveOptional_some]
          exact h.after_resolve pack

/-- **What a run keeps.** -/
theorem run (h : b.Sound log) (calls : List Call) :
    (b.run calls).Sound (log ++ b.givenAll calls) := by
  induction calls generalizing b log with
  | nil => rwa [givenAll, List.append_nil]
  | cons call calls ih =>
      rw [givenAll, ← List.append_assoc]
      exact ih (h.after call)

end Sound

/-! ### What resolving does -/

/-- The next builder is the same but for a new pack, for which it has one option, one category
and one thing more to remember. -/
structure Adds (b : Builder) (pack : String) (c : Category) (b' : Builder) : Prop where
  option : b'.world.entries .options = b.world.entries .options
    ++ [(Pack.optionName pack,
      .option (Catalog.toggle (Pack.optionName pack) (Pack.description pack)))]
  category : b'.world.entries .categories = b.world.entries .categories
    ++ [(Pack.categoryName pack, .category c)]
  gated : c = Catalog.gate (Pack.categoryName pack) true (Pack.optionName pack)
  rest : ∀ t, t ≠ .options → t ≠ .categories → b'.world.entries t = b.world.entries t
  packs : b'.packs.entries = b.packs.entries ++ [(pack, c)]

/-- What can come of resolving a new pack.  Where it fails, nothing new is remembered; but where
it is the category that cannot be had, the option is left behind. -/
inductive Resolves (b : Builder) (pack : String) : Except CatalogError Category × Builder → Prop
  | gated {c : Category} {b' : Builder}
      (hoption : Pack.optionName pack ∉ b.world.names .options)
      (hcategory : Pack.categoryName pack ∉ b.world.names .categories) (hadds : b.Adds pack c b') :
      Resolves b pack (.ok c, b')
  | optionTaken {b' : Builder} (hoption : Pack.optionName pack ∈ b.world.names .options)
      (hworld : b'.world = b.world) (hpacks : b'.packs = b.packs) :
      Resolves b pack (.error (.world (.duplicateName .options (Pack.optionName pack))), b')
  | categoryTaken {b' : Builder} (hoption : Pack.optionName pack ∉ b.world.names .options)
      (hcategory : Pack.categoryName pack ∈ b.world.names .categories)
      (hadded : b'.world.entries .options = b.world.entries .options
        ++ [(Pack.optionName pack,
          .option (Catalog.toggle (Pack.optionName pack) (Pack.description pack)))])
      (hrest : ∀ t, t ≠ .options → b'.world.entries t = b.world.entries t)
      (hpacks : b'.packs = b.packs) :
      Resolves b pack (.error (.world (.duplicateName .categories (Pack.categoryName pack))), b')

/-- **What a builder remembers** after calls that have given these categories back, and what
comes of resolving a pack then. -/
structure Remembers (b : Builder) (log : List (String × Category)) : Prop where
  gated : ∀ pack ∈ b.packs.keys, b.world.Gates pack
  apart : ∀ p ∈ b.packs.keys, ∀ q ∈ b.packs.keys, p ≠ q → Pack.optionName p ≠ Pack.optionName q
  /-- A known pack gives what it gave first, and nothing changes. -/
  known : ∀ pack ∈ b.packs.keys, ∃ c b', log.lookup pack = some c
    ∧ b.resolve pack = (.ok c, b') ∧ b'.world = b.world ∧ b'.packs = b.packs
  /-- A new pack can be resolved when both names are free. -/
  new_iff : ∀ pack, pack ∉ b.packs.keys → ((∃ c b', b.resolve pack = (.ok c, b'))
    ↔ Pack.optionName pack ∉ b.world.names .options
      ∧ Pack.categoryName pack ∉ b.world.names .categories)
  new : ∀ pack, pack ∉ b.packs.keys → b.Resolves pack (b.resolve pack)
  none : b.resolveOptional none = (.ok [], b)
  some : ∀ pack, b.resolveOptional (some pack)
    = ((b.resolve pack).1.map fun c => [c], (b.resolve pack).2)
  /-- As much is remembered as different packs were resolved. -/
  size : b.packs.size = (log.map Prod.fst).dedup.length

namespace Sound

variable {b : Builder} {log : List (String × Category)} (h : b.Sound log) {pack : String}
include h

theorem mem_log_iff : pack ∈ log.map Prod.fst ↔ pack ∈ b.packs.keys := by
  rw [List.mem_map]
  constructor
  · rintro ⟨⟨p, c⟩, hmem, rfl⟩
    exact ((h.log p c).mp hmem).1
  · exact fun hpack => ⟨_, (h.log pack _).mpr ⟨hpack, rfl⟩, rfl⟩

theorem lookup_eq (hknown : pack ∈ b.packs.keys) :
    log.lookup pack = some (Pack.category pack) := by
  cases hlookup : log.lookup pack with
  | none =>
      obtain ⟨e, he, rfl⟩ := List.mem_map.mp (h.mem_log_iff.mpr hknown)
      have hne := List.lookup_eq_none_iff.mp hlookup e he
      simp at hne
  | some c =>
      obtain ⟨before, after, rfl, -⟩ := List.lookup_eq_some_iff.mp hlookup
      have hmem : (pack, c) ∈ before ++ (pack, c) :: after :=
        List.mem_append_right _ List.mem_cons_self
      rw [((h.log pack c).mp hmem).2]

/-- Builders that remember the same packs remember the same. -/
theorem packs_eq {b' : Builder} {completed? : Option Category} {w : World}
    (hat : b'.At completed? { world := w, packs := b.packs.keys }) : b'.packs = b.packs :=
  Table.ext (hat.packs.trans h.packs.symm)

theorem resolve_known (hknown : pack ∈ b.packs.keys) :
    ∃ b', b.resolve pack = (.ok (Pack.category pack), b') ∧ b'.world = b.world
      ∧ b'.packs = b.packs := by
  obtain ⟨b', hrun, hat⟩ := h.resolve pack
  have hmeet : b.site.meet pack = (.ok (), b.site) := if_pos hknown
  rw [hmeet] at hrun hat
  exact ⟨b', hrun, hat.world, h.packs_eq hat⟩

theorem resolve_new (hnew : pack ∉ b.packs.keys) : b.Resolves pack (b.resolve pack) := by
  obtain ⟨b', hrun, hat⟩ := h.resolve pack
  have hmeets := b.site.meets_meet pack
  generalize b.site.meet pack = o at hmeets hrun hat
  have hworld := hat.world
  rw [hrun]
  cases hmeets with
  | known hknown => exact absurd hknown hnew
  | optionTaken _ hoption => exact .optionTaken hoption hworld (h.packs_eq hat)
  | categoryTaken _ hoption hcategory =>
      have hentries := World.entries_enable hoption
      refine .categoryTaken hoption hcategory ?_ (fun t ht => ?_) (h.packs_eq hat)
      · rw [hworld]
        exact hentries .options
      · rw [hworld]
        refine (hentries t).trans ?_
        cases t with
        | options => exact absurd rfl ht
        | items | locations | categories => exact List.append_nil _
  | gated _ hoption hcategory =>
      have hentries := World.entries_enableGated hoption hcategory
      refine .gated hoption hcategory ⟨?_, ?_, rfl, fun t ht ht' => ?_, ?_⟩
      · rw [hworld]
        exact hentries .options
      · rw [hworld]
        exact hentries .categories
      · rw [hworld, hentries]
        cases t with
        | options => exact absurd rfl ht
        | categories => exact absurd rfl ht'
        | items | locations => exact List.append_nil _
      · rw [hat.packs, List.map_append, h.packs]
        rfl

theorem resolve_new_iff (hnew : pack ∉ b.packs.keys) :
    (∃ c b', b.resolve pack = (.ok c, b'))
      ↔ Pack.optionName pack ∉ b.world.names .options
        ∧ Pack.categoryName pack ∉ b.world.names .categories := by
  have hresolves := h.resolve_new hnew
  generalize b.resolve pack = o at hresolves
  cases hresolves with
  | gated hoption hcategory _ => exact iff_of_true ⟨_, _, rfl⟩ ⟨hoption, hcategory⟩
  | optionTaken hoption _ _ => exact iff_of_false nofun fun hfree => hfree.1 hoption
  | categoryTaken _ hcategory _ _ _ => exact iff_of_false nofun fun hfree => hfree.2 hcategory

theorem remembers : b.Remembers log where
  gated _ := h.gated _
  apart p hp q hq hne heq := hne (List.inj_on_of_nodup_map h.apart hp hq heq)
  known pack hpack := by
    obtain ⟨b', hresolve, hrest⟩ := h.resolve_known hpack
    exact ⟨_, b', h.lookup_eq hpack, hresolve, hrest⟩
  new_iff _ := h.resolve_new_iff
  new _ := h.resolve_new
  none := rfl
  some := b.resolveOptional_some
  size := by
    have hperm : b.packs.keys.Perm (log.map Prod.fst).dedup :=
      (List.perm_ext_iff_of_nodup b.packs.distinct (List.nodup_dedup _)).mpr fun p => by
        rw [List.mem_dedup, h.mem_log_iff]
        rfl
    rw [← hperm.length_eq, Table.keys, List.length_map, Table.size]

end Sound

/-- **What is remembered after any run**, and what comes of resolving a pack then: whatever was
in the world before, and whatever others have done to it since. -/
theorem remembers_run (w : World) (calls : List Call) :
    (run { world := w } calls).Remembers (givenAll { world := w } calls) :=
  ((Sound.new w).run calls).remembers

/-- Two packs whose options are spelled the same, and one whose category is taken. -/
example :
    let b := run {} [.resolve "Big Pack", .resolve "BigPack",
      .perform (.register (.category "Ice DLC" {})), .resolveOptional (some "Ice")]
    b.packs.keys = ["Big Pack"]
      ∧ b.world.names .options = ["enable_big_pack_dlc", "enable_ice_dlc"]
      ∧ b.world.names .categories = ["Big Pack DLC", "Ice DLC"] := by
  decide +kernel

end Builder

end Worldsmith
