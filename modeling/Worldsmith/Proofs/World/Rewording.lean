/-
How a reference is written plays no part.

A reference points at the names of its leaves, from left to right: `Leaves` says so one
constructor at a time.  The same leaves can be written in many ways.  `Reword` lists the ways in
which two references differ that are otherwise alike: an entity at hand stands for its name, one
that the world has long changed too, and lists may be opened and closed anywhere.  These are all
there are (`reworded_iff`), since each of them keeps the leaves, and any reference can be brought
by them into the form of a list of bare names.

A call reads its references only to store their leaves.  So two calls that are the same up to
rewording have the same outcome, and by induction two runs of such calls have (`perform_reworded`).
-/
import Mathlib.Logic.Relation
import Worldsmith.Proofs.World.Independence

namespace Worldsmith

/-! ### References -/

namespace Reference

variable {ε : Type} [Named ε] {r r' : Reference ε} {ns : List String}

/-- The names at the leaves of a reference, from left to right. -/
inductive Leaves : Reference ε → List String → Prop
  | name (n : String) : Leaves (.name n) [n]
  | entity (e : ε) : Leaves (.entity e) [Named.nameOf e]
  | nil : Leaves (.list []) []
  | cons {r : Reference ε} {rs : List (Reference ε)} {ns ns' : List String} (h : Leaves r ns)
      (hrest : Leaves (.list rs) ns') : Leaves (.list (r :: rs)) (ns ++ ns')

/-- Writing a reference in another way, at one place. -/
inductive Reword : Reference ε → Reference ε → Prop
  | handle (e : ε) : Reword (.entity e) (.name (Named.nameOf e))
  | single (r : Reference ε) : Reword (.list [r]) r
  | flatten (xs ys zs : List (Reference ε)) :
      Reword (.list (xs ++ .list ys :: zs)) (.list (xs ++ ys ++ zs))
  | inside {r r' : Reference ε} (xs zs : List (Reference ε)) (h : Reword r r') :
      Reword (.list (xs ++ r :: zs)) (.list (xs ++ r' :: zs))

/-- Two ways of writing a reference, any number of places apart. -/
abbrev Reworded : Reference ε → Reference ε → Prop := Relation.EqvGen Reword

/-- A reference that is missing is an empty list. -/
def orEmpty (r? : Option (Reference ε)) : Reference ε := r?.getD (.list [])

theorem namesOf?_eq (r? : Option (Reference ε)) : namesOf? r? = (orEmpty r?).names := by
  cases r? <;> simp [namesOf?, orEmpty, names, namesOfAll]

theorem namesOfAll_append (rs rs' : List (Reference ε)) :
    namesOfAll (rs ++ rs') = namesOfAll rs ++ namesOfAll rs' := by
  induction rs with
  | nil => rfl
  | cons r rs ih => rw [List.cons_append, namesOfAll, namesOfAll, ih, List.append_assoc]

mutual

theorem leaves_names : (r : Reference ε) → r.Leaves r.names
  | .name n => .name n
  | .entity e => .entity e
  | .list rs => leaves_namesOfAll rs

theorem leaves_namesOfAll : (rs : List (Reference ε)) → (list rs).Leaves (namesOfAll rs)
  | [] => .nil
  | r :: rs => .cons (leaves_names r) (leaves_namesOfAll rs)

end

/-- **The leaves are the names that are collected.** -/
theorem leaves_iff : r.Leaves ns ↔ r.names = ns := by
  constructor
  · intro h
    induction h with
    | name | entity => rfl
    | nil => rfl
    | cons _ _ ih ihrest => exact congrArg₂ (· ++ ·) ih ihrest
  · rintro rfl
    exact leaves_names r

/-! ### Rewording -/

theorem Reword.names_eq (h : Reword r r') : r.names = r'.names := by
  induction h with
  | handle e => rfl
  | single r => simp [names, namesOfAll]
  | flatten xs ys zs => simp [names, namesOfAll, namesOfAll_append]
  | inside xs zs h ih => simp [names, namesOfAll, namesOfAll_append, ih]

theorem Reworded.names_eq (h : r.Reworded r') : r.names = r'.names := by
  induction h with
  | rel _ _ h => exact h.names_eq
  | refl _ => rfl
  | symm _ _ _ ih => exact ih.symm
  | trans _ _ _ _ _ ih ih' => exact ih.trans ih'

theorem Reworded.inside (xs zs : List (Reference ε)) (h : r.Reworded r') :
    (list (xs ++ r :: zs)).Reworded (.list (xs ++ r' :: zs)) := by
  induction h with
  | rel _ _ h => exact .rel _ _ (.inside xs zs h)
  | refl _ => exact .refl _
  | symm _ _ _ ih => exact .symm _ _ ih
  | trans _ _ _ _ _ ih ih' => exact .trans _ _ _ ih ih'

/-- Two lists in a list are one list. -/
theorem reworded_append (xs ys : List (Reference ε)) :
    (list [.list xs, .list ys]).Reworded (.list (xs ++ ys)) := by
  have hfirst : (list [.list xs, .list ys]).Reworded (.list (xs ++ [.list ys])) :=
    .rel _ _ (.flatten [] xs [.list ys])
  have hsecond : (list (xs ++ [.list ys])).Reworded (.list (xs ++ ys ++ [])) :=
    .rel _ _ (.flatten xs ys [])
  rw [List.append_nil] at hsecond
  exact .trans _ _ _ hfirst hsecond

theorem Reworded.append {xs xs' ys ys' : List (Reference ε)}
    (h : (list xs).Reworded (.list xs')) (h' : (list ys).Reworded (.list ys')) :
    (list (xs ++ ys)).Reworded (.list (xs' ++ ys')) := by
  have hleft : (list [.list xs, .list ys]).Reworded (.list [.list xs', .list ys]) :=
    h.inside [] [.list ys]
  have hright : (list [.list xs', .list ys]).Reworded (.list [.list xs', .list ys']) :=
    h'.inside [.list xs'] []
  have hboth := Relation.EqvGen.trans _ _ _ hleft hright
  exact .trans _ _ _ (.symm _ _ (reworded_append xs ys))
    (.trans _ _ _ hboth (reworded_append xs' ys'))

/-- The list of bare names for a row of leaves. -/
def ofNames (ns : List String) : Reference ε := .list (ns.map .name)

mutual

/-- Every reference is a way of writing the list of its bare names. -/
theorem reworded_ofNames : (r : Reference ε) → r.Reworded (ofNames r.names)
  | .name n => .symm _ _ (.rel _ _ (.single (.name n)))
  | .entity e =>
      .trans _ _ _ (.rel _ _ (.handle e)) (.symm _ _ (.rel _ _ (.single (.name _))))
  | .list rs => reworded_ofNamesOfAll rs

theorem reworded_ofNamesOfAll :
    (rs : List (Reference ε)) → (list rs).Reworded (ofNames (namesOfAll rs))
  | [] => .refl _
  | r :: rs => by
      rw [namesOfAll, ofNames, List.map_append]
      have hfirst : (list [r]).Reworded (ofNames r.names) :=
        .trans _ _ _ (.rel _ _ (.single r)) (reworded_ofNames r)
      exact hfirst.append (reworded_ofNamesOfAll rs)

end

/-- **References are ways of writing the same when they have the same leaves.** -/
theorem reworded_iff : r.Reworded r' ↔ r.names = r'.names := by
  refine ⟨Reworded.names_eq, fun h => ?_⟩
  have hr' := reworded_ofNames r'
  rw [← h] at hr'
  exact .trans _ _ _ (reworded_ofNames r) (.symm _ _ hr')

theorem Reworded.namesOf?_eq {r? r'? : Option (Reference ε)}
    (h : (orEmpty r?).Reworded (orEmpty r'?)) : namesOf? r? = namesOf? r'? := by
  rw [Reference.namesOf?_eq, Reference.namesOf?_eq, h.names_eq]

theorem leaves_namesOf? (r? : Option (Reference ε)) : (orEmpty r?).Leaves (namesOf? r?) :=
  leaves_iff.mpr (namesOf?_eq r?).symm

end Reference

open Reference (orEmpty)

/-! ### Calls -/

/-- The same call with its references written in another way. -/
inductive Operation.Reworded : Operation → Operation → Prop
  | item {name : String} {spec : Item.Spec} {categories? : Option (Reference Category)}
      (hcategories : (orEmpty spec.categories?).Reworded (orEmpty categories?)) :
      Reworded (.register (.item name spec)) (.register (.item name { spec with categories? }))
  | location {name : String} {spec : Location.Spec} {categories? : Option (Reference Category)}
      {placedItems? : Option (Reference Item)}
      {placedItemCategories? : Option (Reference Category)}
      (hcategories : (orEmpty spec.categories?).Reworded (orEmpty categories?))
      (hplaced : (orEmpty spec.placedItems?).Reworded (orEmpty placedItems?))
      (hplacedCategories :
        (orEmpty spec.placedItemCategories?).Reworded (orEmpty placedItemCategories?)) :
      Reworded (.register (.location name spec))
        (.register (.location name
          { spec with categories?, placedItems?, placedItemCategories? }))
  | category {name : String} {spec : Category.Spec} {options? : Option (Reference ToggleOption)}
      (hoptions : (orEmpty spec.options?).Reworded (orEmpty options?)) :
      Reworded (.register (.category name spec)) (.register (.category name { spec with options? }))
  | option {name : String} {spec : ToggleOption.Spec} :
      Reworded (.register (.option name spec)) (.register (.option name spec))
  | gate {name : String} {options options' : Reference ToggleOption}
      (hoptions : options.Reworded options') : Reworded (.gate name options) (.gate name options')

/-- The name that a call is about. -/
def Operation.name : Operation → String
  | .register r => r.name
  | .gate name _ => name

namespace World

/-- What a call stores of its references in the entity that it gives back.  Gating stores it
after the options that the category has in the world. -/
inductive Stores (w : World) : Operation → Entity → Prop
  | item {name : String} {spec : Item.Spec} {i : Item}
      (hcategories : (orEmpty spec.categories?).Leaves i.categories) :
      Stores w (.register (.item name spec)) (.item i)
  | location {name : String} {spec : Location.Spec} {l : Location}
      (hcategories : (orEmpty spec.categories?).Leaves l.categories)
      (hplaced : (orEmpty spec.placedItems?).Leaves l.placedItems)
      (hplacedCategories : (orEmpty spec.placedItemCategories?).Leaves l.placedItemCategories) :
      Stores w (.register (.location name spec)) (.location l)
  | category {name : String} {spec : Category.Spec} {c : Category}
      (hoptions : (orEmpty spec.options?).Leaves c.options) :
      Stores w (.register (.category name spec)) (.category c)
  | option {name : String} {spec : ToggleOption.Spec} {o : ToggleOption} :
      Stores w (.register (.option name spec)) (.option o)
  | gate {name : String} {options : Reference ToggleOption} {ns : List String} {before c : Category}
      (hbefore : (name, before) ∈ w.categories.entries) (hleaves : options.Leaves ns)
      (hoptions : c.options = before.options ++ ns) :
      Stores w (.gate name options) (.category c)

variable {w w' : World} {op op' : Operation} {e : Entity}

/-- A world knows a registration by the entity and by what is wrong with it. -/
theorem enter_congr {r r' : Registration} (hentity : r.entity = r'.entity)
    (hfault : r.specFault? = r'.specFault?) : w.enter r = w.enter r' := by
  have hname : r.name = r'.name := by rw [← r.name_entity, hentity, r'.name_entity]
  have htable : r.table = r'.table := by rw [← r.table_entity, hentity, r'.table_entity]
  have hrefusal : w.refusal? r = w.refusal? r' := by
    rw [refusal?, refusal?, Registration.fault?, Registration.fault?, hname, htable, hfault]
  rw [enter_eq, enter_eq, hrefusal, hname, hentity]

/-- **One call does not see how its references are written.** -/
theorem perform_congr (w : World) (h : op.Reworded op') : w.perform op = w.perform op' := by
  cases h with
  | item hcategories =>
      rw [perform, perform]
      refine enter_congr ?_ rfl
      simp only [Registration.entity, Item.ofSpec, hcategories.namesOf?_eq]
  | location hcategories hplaced hplacedCategories =>
      rw [perform, perform]
      refine enter_congr ?_ rfl
      simp only [Registration.entity, Location.ofSpec, hcategories.namesOf?_eq,
        hplaced.namesOf?_eq, hplacedCategories.namesOf?_eq]
  | category hoptions =>
      rw [perform, perform]
      refine enter_congr ?_ rfl
      simp only [Registration.entity, Category.ofSpec, hoptions.namesOf?_eq]
  | option => rfl
  | @gate name options options' hoptions =>
      have hgate : ∀ c : Category, c.gate options = c.gate options' := by
        intro c
        rw [Category.gate, Category.gate, hoptions.names_eq]
      simp only [perform, gateCategory, hgate]

/-- What is given back stands in the world, and has the leaves. -/
theorem stores_of_perform (h : w.perform op = .ok (e, w')) :
    (op.name, e) ∈ w'.entries op.table ∧ w.Stores op e := by
  cases takes_of_perform h with
  | @entry r _ hadded hrest =>
      refine ⟨?_, ?_⟩
      · show (r.name, r.entity) ∈ w'.entries r.table
        rw [hadded]
        exact List.mem_append_right _ List.mem_cons_self
      · cases r with
        | item => exact .item (Reference.leaves_namesOf? _)
        | location =>
            exact .location (Reference.leaves_namesOf? _) (Reference.leaves_namesOf? _)
              (Reference.leaves_namesOf? _)
        | category => exact .category (Reference.leaves_namesOf? _)
        | option => exact .option
  | @gating name options before after c c' _ hc hbefore hafter hrest =>
      have hmem : (name, c') ∈ w'.categories.entries := by
        rw [hafter]
        exact List.mem_append_right _ List.mem_cons_self
      have hold : (name, c) ∈ w.categories.entries := by
        rw [hbefore]
        exact List.mem_append_right _ List.mem_cons_self
      exact ⟨mem_entries_categories.mpr hmem,
        .gate hold (Reference.leaves_names options) (by rw [hc])⟩

/-- **Nor does a run of calls.** -/
theorem run_congr {ops ops' : List Operation} (h : List.Forall₂ Operation.Reworded ops ops')
    (w : World) : (w.answers ops).map Prod.snd = (w.answers ops').map Prod.snd
      ∧ w.run ops = w.run ops' := by
  induction h generalizing w with
  | nil => exact ⟨rfl, rfl⟩
  | @cons op op' ops ops' hop _ ih =>
      have hanswer : w.answer op = w.answer op' := by rw [answer, answer, w.perform_congr hop]
      have hafter : w.after op = w.after op' := by rw [after, after, w.perform_congr hop]
      obtain ⟨hanswers, hrun⟩ := ih (w.after op)
      constructor
      · rw [answers, answers, List.map_cons, List.map_cons, hanswer, hanswers, hafter]
      · rw [run, run, List.foldl_cons, List.foldl_cons, ← hafter]
        exact hrun

/-- **How references are written plays no part.**  References with the same leaves are ways of
writing the same.  Calls that are the same up to rewording have the same outcome in every world,
and what goes through is stored as its leaves; and runs of such calls give the same answers and
end in the same world. -/
theorem perform_reworded :
    (∀ (ε : Type) [Named ε] (r r' : Reference ε),
        r.Reworded r' ↔ ∃ ns, r.Leaves ns ∧ r'.Leaves ns)
      ∧ (∀ (w : World) op op', op.Reworded op' → w.perform op = w.perform op')
      ∧ (∀ (w w' : World) op e, w.perform op = .ok (e, w') →
        (op.name, e) ∈ w'.entries op.table ∧ w.Stores op e)
      ∧ ∀ (w : World) ops ops', List.Forall₂ Operation.Reworded ops ops' →
        (w.answers ops).map Prod.snd = (w.answers ops').map Prod.snd
          ∧ w.run ops = w.run ops' := by
  refine ⟨fun ε _ r r' => ?_, fun w op op' => w.perform_congr,
    fun w w' op e => stores_of_perform, fun w ops ops' h => run_congr h w⟩
  rw [Reference.reworded_iff]
  constructor
  · intro h
    exact ⟨_, Reference.leaves_names r, Reference.leaves_iff.mpr h.symm⟩
  · rintro ⟨ns, h, h'⟩
    exact (Reference.leaves_iff.mp h).trans (Reference.leaves_iff.mp h').symm

/-- The category as it was before the cellar's was gated. -/
def ungatedFood : Category := { name := "Food", hidden := true, options := [] }

/-- Three names in a list. -/
def plainCategories : Reference Category := .list [.name "Tools", .name "Food", .name "Food"]

/-- The same in lists of lists, by entities where there are some. -/
def nestedCategories : Reference Category :=
  .list [.list [], .list [.name "Tools", .list [.entity ungatedFood, .list []]],
    .entity ungatedFood]

/-- Calls that name things. -/
def plainCalls : List Operation := [
  .register (.item "Rope" { categories? := some plainCategories }),
  .register (.location "Well" {
    categories? := some plainCategories, placedItems? := some (.name "Rope") }),
  .gate "Food" (.list [.name "night", .name "night"]),
  .gate "Nothing" (.name "night")]

/-- The same calls, with other references. -/
def nestedCalls : List Operation := [
  .register (.item "Rope" { categories? := some nestedCategories }),
  .register (.location "Well" {
    categories? := some nestedCategories, placedItems? := some (.list [.list [.name "Rope"]])
    placedItemCategories? := some (.list [.list []]) }),
  .gate "Food" (.list [.list [.name "night"], .entity ⟨"night", .text "", true⟩]),
  .gate "Nothing" (.list [.name "night"])]

theorem perform_reworded_cellar :
    (∃ e w', cellar.perform nestedCalls[2] = .ok (e, w')
        ∧ cellar.perform plainCalls[2] = cellar.perform nestedCalls[2]
        ∧ ("Food", e) ∈ w'.entries .categories ∧ cellar.Stores nestedCalls[2] e)
      ∧ (cellar.answers plainCalls).map Prod.snd = (cellar.answers nestedCalls).map Prod.snd
      ∧ cellar.run plainCalls = cellar.run nestedCalls := by
  have hgate : plainCalls[2].Reworded nestedCalls[2] := .gate (Reference.reworded_iff.mpr rfl)
  have hcalls : List.Forall₂ Operation.Reworded plainCalls nestedCalls := by
    have hcategories : plainCategories.Reworded nestedCategories := Reference.reworded_iff.mpr rfl
    refine .cons (.item hcategories) (.cons (.location hcategories ?_ ?_)
      (.cons hgate (.cons (.gate ?_) .nil)))
    all_goals exact Reference.reworded_iff.mpr rfl
  have hok : (cellar.perform nestedCalls[2]).toOption.isSome = true := by decide +kernel
  refine ⟨?_, perform_reworded.2.2.2 _ _ _ hcalls⟩
  cases hperform : cellar.perform nestedCalls[2] with
  | error err => rw [hperform] at hok; cases hok
  | ok p =>
      obtain ⟨hentry, hstores⟩ := perform_reworded.2.2.1 _ _ _ _ hperform
      exact ⟨p.1, p.2, rfl, (perform_reworded.2.1 _ _ _ hgate).trans hperform, hentry, hstores⟩

end World

end Worldsmith
