/-
What a world is published as says everything about it.

Two things could be lost on the way to the four files.  One is the step from a document to its
text: `Json.parse?_indented` reads it back, and what is left is that the documents of a world
are well formed, so that no two members of an object have one name.  The other is the step from
an entity to its object.  An entity has a fixed list of attributes, and its object is made of
those that have a value (`Json.ofAttributes`).  Names do not repeat, so the list is known from
the object, the attributes without a value included; and each attribute is left out for one
value of its field only.

Categories and options leave out their names.  These are the keys of the document, because
every entity stands under its own name (`World.own_run`).
-/
import Worldsmith.Proofs.Json.Document
import Worldsmith.Proofs.World.Record
import Worldsmith.World.Artifact

namespace Worldsmith

/-! ### Attributes -/

namespace Json

/-- An attribute as a member, if it has a value. -/
def present (a : String × Option Json) : Option (String × Json) := a.2.map fun j => (a.1, j)

/-- The object of the attributes that have a value. -/
def ofAttributes (as : List (String × Option Json)) : Json := .object (as.filterMap present)

theorem mem_present_iff {a : String × Option Json} {m : String × Json} :
    m ∈ present a ↔ a = (m.1, some m.2) := by
  obtain ⟨name, _ | j⟩ := a <;> simp [present, Prod.ext_iff, eq_comm]

theorem map_fst_filterMap_present_sublist (as : List (String × Option Json)) :
    ((as.filterMap present).map Prod.fst).Sublist (as.map Prod.fst) := by
  induction as with
  | nil => exact List.Sublist.refl _
  | cons a as ih =>
      obtain ⟨name, _ | j⟩ := a
      · exact ih.cons _
      · exact ih.cons_cons _

/-- **Attributes are known from their object** when their names do not repeat. -/
theorem ofAttributes_inj {as as' : List (String × Option Json)}
    (hnames : as.map Prod.fst = as'.map Prod.fst) (hnodup : (as.map Prod.fst).Nodup)
    (h : ofAttributes as = ofAttributes as') : as = as' := by
  have hmembers : as.filterMap present = as'.filterMap present := object.inj h
  clear h
  induction as generalizing as' with
  | nil => exact (List.map_eq_nil_iff.mp hnames.symm).symm
  | cons a as ih =>
      obtain ⟨name, value?⟩ := a
      obtain ⟨⟨name', value?'⟩, as', rfl, hname, hrest⟩ := List.map_eq_cons_iff.mp hnames.symm
      obtain rfl : name' = name := hname
      obtain ⟨hfresh, hlater⟩ := List.nodup_cons.mp hnodup
      -- a member by this name is not among the later ones
      have habsent : ∀ (later : List (String × Option Json)) (j : Json),
          later.map Prod.fst = as.map Prod.fst → (name', j) ∉ later.filterMap present := by
        intro later j hnames hmem
        have hname := (map_fst_filterMap_present_sublist later).subset (List.mem_map_of_mem hmem)
        exact hfresh (hnames ▸ hname)
      cases value? with
      | none =>
          cases value?' with
          | none => rw [ih hrest.symm hlater hmembers]
          | some j =>
              refine absurd ?_ (habsent as j rfl)
              rw [show as.filterMap present = _ from hmembers]
              exact List.mem_cons_self
      | some j =>
          cases value?' with
          | none =>
              refine absurd ?_ (habsent as' j hrest)
              rw [show as'.filterMap present = _ from hmembers.symm]
              exact List.mem_cons_self
          | some j' =>
              obtain ⟨hj, hmembers⟩ := List.cons.inj hmembers
              rw [ih hrest.symm hlater hmembers, (Prod.mk.inj hj).2]

/-- The value is well formed, if there is one. -/
def WellFormed? (value? : Option Json) : Prop := ∀ j ∈ value?, j.WellFormed

theorem wellFormed_ofAttributes {as : List (String × Option Json)}
    (hnodup : (as.map Prod.fst).Nodup) (h : ∀ a ∈ as, WellFormed? a.2) :
    (ofAttributes as).WellFormed := by
  refine .object ((map_fst_filterMap_present_sublist as).nodup hnodup) fun m hm => ?_
  obtain ⟨a, ha, hm⟩ := List.mem_filterMap.mp hm
  have hvalue := mem_present_iff.mp hm
  exact h a ha m.2 (by rw [hvalue]; rfl)

/-! ### Values of attributes -/

/-- A flag that is off has no value. -/
def ofFlag? (b : Bool) : Option Json := if b then some (.bool true) else none

/-- Nor has a list with nothing in it. -/
def ofTexts? (ss : List String) : Option Json :=
  if ss.isEmpty then none else some (.list (ss.map .text))

/-- Nor has a table with nothing in it. -/
def ofNumbers? (t : Table String Int64) : Option Json :=
  if t.isEmpty then none else some (.object (t.entries.map fun e => (e.1, .int e.2.toInt)))

def ofText? (s? : Option String) : Option Json := s?.map .text

def ofWord? (n? : Option UInt32) : Option Json := n?.map fun n => .int n.toNat

section Injective

variable {ss ss' : List String} {t t' : Table String Int64}

@[simp] theorem ofFlag?_inj {b b' : Bool} : ofFlag? b = ofFlag? b' ↔ b = b' := by
  cases b <;> cases b' <;> simp [ofFlag?]

theorem map_text_inj : ss.map Json.text = ss'.map Json.text ↔ ss = ss' :=
  List.map_inj_right fun _ _ => text.inj

@[simp] theorem ofTexts?_inj : ofTexts? ss = ofTexts? ss' ↔ ss = ss' := by
  cases ss <;> cases ss' <;> simp [ofTexts?, map_text_inj]

theorem eq_of_numbers {es es' : List (String × Int64)}
    (h : (es.map fun e => (e.1, Json.int e.2.toInt)) = es'.map fun e => (e.1, .int e.2.toInt)) :
    es = es' := by
  refine List.map_injective_iff.mpr ?_ h
  rintro ⟨name, n⟩ ⟨name', n'⟩ heq
  obtain ⟨hname, hn⟩ := Prod.mk.inj heq
  exact Prod.ext hname (Int64.toInt_inj.mp (int.inj hn))

@[simp] theorem ofNumbers?_inj : ofNumbers? t = ofNumbers? t' ↔ t = t' := by
  refine ⟨fun h => Table.ext ?_, congrArg ofNumbers?⟩
  obtain ⟨es, hes⟩ := t
  obtain ⟨es', hes'⟩ := t'
  cases es with
  | nil =>
      cases es' with
      | nil => rfl
      | cons e' es' => cases h
  | cons e es =>
      cases es' with
      | nil => cases h
      | cons e' es' => exact eq_of_numbers (object.inj (Option.some.inj h))

@[simp] theorem ofText?_inj {s? s?' : Option String} : ofText? s? = ofText? s?' ↔ s? = s?' := by
  cases s? <;> cases s?' <;> simp [ofText?]

@[simp] theorem ofWord?_inj {n? n?' : Option UInt32} : ofWord? n? = ofWord? n?' ↔ n? = n?' := by
  cases n? <;> cases n?' <;> simp [ofWord?, UInt32.toNat_inj]

end Injective

/-! Each of these is well formed. -/

@[simp] theorem wellFormed?_some {j : Json} : WellFormed? (some j) ↔ j.WellFormed := by
  simp [WellFormed?]

@[simp] theorem wellFormed?_ofFlag? (b : Bool) : WellFormed? (ofFlag? b) := by
  cases b with
  | false => simp [ofFlag?, WellFormed?]
  | true => exact wellFormed?_some.mpr (.bool true)

theorem wellFormed_texts (ss : List String) : (list (ss.map .text)).WellFormed := by
  refine .list fun j hj => ?_
  obtain ⟨s, -, rfl⟩ := List.mem_map.mp hj
  exact .text s

@[simp] theorem wellFormed?_ofTexts? (ss : List String) : WellFormed? (ofTexts? ss) := by
  cases ss with
  | nil => simp [ofTexts?, WellFormed?]
  | cons s ss => exact wellFormed?_some.mpr (wellFormed_texts (s :: ss))

/-- The keys of a table are the names of an object. -/
theorem wellFormed_table {α : Type} (t : Table String α) {f : α → Json}
    (h : ∀ a, (f a).WellFormed) :
    (object (t.entries.map fun e => (e.1, f e.2))).WellFormed := by
  refine .object ?_ fun m hm => ?_
  · simpa [Function.comp_def] using t.distinct
  · obtain ⟨e, -, rfl⟩ := List.mem_map.mp hm
    exact h e.2

@[simp] theorem wellFormed?_ofNumbers? (t : Table String Int64) :
    WellFormed? (ofNumbers? t) := by
  unfold ofNumbers?
  split
  · simp [WellFormed?]
  · exact wellFormed?_some.mpr (wellFormed_table t fun n => .int n.toInt)

@[simp] theorem wellFormed?_ofText? (s? : Option String) : WellFormed? (ofText? s?) := by
  cases s? with
  | none => simp [ofText?, WellFormed?]
  | some s => exact wellFormed?_some.mpr (.text s)

@[simp] theorem wellFormed?_ofWord? (n? : Option UInt32) : WellFormed? (ofWord? n?) := by
  cases n? with
  | none => simp [ofWord?, WellFormed?]
  | some n => exact wellFormed?_some.mpr (.int _)

/-! Each is what a member is made from. -/

theorem flagMember_eq (name : String) (b : Bool) :
    flagMember name b = [(name, ofFlag? b)].filterMap present := by
  cases b <;> rfl

theorem textsMember_eq (name : String) (ss : List String) :
    textsMember name ss = [(name, ofTexts? ss)].filterMap present := by
  cases ss <;> rfl

theorem textMember?_eq (name : String) (s? : Option String) :
    textMember? name s? = [(name, ofText? s?)].filterMap present := by
  cases s? <;> rfl

theorem valueMember_eq (t : Table String Int64) :
    valueMember t = [("value", ofNumbers? t)].filterMap present := by
  obtain ⟨es, hes⟩ := t
  cases es <;> rfl

end Json

open Json

/-! ### Entities and their attributes -/

def Item.attributes (i : Item) : List (String × Option Json) := [
  ("name", some (.text i.name)),
  ("count", ofWord? i.count?),
  ("progression", ofFlag? i.flags.progression),
  ("progression_skip_balancing", ofFlag? i.flags.progressionSkipBalancing),
  ("useful", ofFlag? i.flags.useful),
  ("trap", ofFlag? i.flags.trap),
  ("filler", ofFlag? i.flags.filler),
  ("early", ofFlag? i.flags.early),
  ("local", ofFlag? i.flags.localOnly),
  ("local_early", ofFlag? i.flags.localEarly),
  ("value", ofNumbers? i.value),
  ("category", ofTexts? i.categories)]

def Location.attributes (l : Location) : List (String × Option Json) := [
  ("name", some (.text l.name)),
  ("region", ofText? l.region?),
  ("category", ofTexts? l.categories),
  ("requires", ofText? l.requires?),
  ("place_item", ofTexts? l.placedItems),
  ("place_item_category", ofTexts? l.placedItemCategories),
  ("victory", ofFlag? l.victory)]

def Category.attributes (c : Category) : List (String × Option Json) := [
  ("hidden", ofFlag? c.hidden),
  ("yaml_option", ofTexts? c.options)]

def ToggleOption.attributes (o : ToggleOption) : List (String × Option Json) := [
  ("type", some (.text "Toggle")),
  ("description", some o.description.toJson),
  ("default", some (.bool o.default))]

/-! An entity's object is that of its attributes. -/

theorem Item.toJson_eq (i : Item) : i.toJson = ofAttributes i.attributes := by
  have hcount : i.toJson = .object (
      [("name", some (Json.text i.name))].filterMap present
        ++ [("count", ofWord? i.count?)].filterMap present
        ++ i.flags.members ++ valueMember i.value ++ textsMember "category" i.categories) := by
    rw [toJson]
    cases i.count? <;> rfl
  rw [hcount, ItemFlags.members, valueMember_eq]
  simp only [flagMember_eq, textsMember_eq]
  simp only [← List.filterMap_append]
  rfl

theorem Location.toJson_eq (l : Location) : l.toJson = ofAttributes l.attributes := by
  have hname : [("name", Json.text l.name)]
      = [("name", some (Json.text l.name))].filterMap present := rfl
  rw [toJson, hname]
  simp only [flagMember_eq, textsMember_eq, textMember?_eq]
  simp only [← List.filterMap_append]
  rfl

theorem Category.toJson_eq (c : Category) : c.toJson = ofAttributes c.attributes := by
  rw [toJson, flagMember_eq, textsMember_eq, ← List.filterMap_append]
  rfl

theorem ToggleOption.toJson_eq (o : ToggleOption) : o.toJson = ofAttributes o.attributes := rfl

/-! No two attributes of an entity have one name. -/

theorem Item.nodup_attributes (i : Item) : (i.attributes.map Prod.fst).Nodup := by
  simp [attributes]

theorem Location.nodup_attributes (l : Location) : (l.attributes.map Prod.fst).Nodup := by
  simp [attributes]

theorem Category.nodup_attributes (c : Category) : (c.attributes.map Prod.fst).Nodup := by
  simp [attributes]

theorem ToggleOption.nodup_attributes (o : ToggleOption) :
    (o.attributes.map Prod.fst).Nodup := by
  simp [attributes]

/-- One text is not a list of one text. -/
@[simp] theorem HelpText.toJson_inj {h h' : HelpText} : h.toJson = h'.toJson ↔ h = h' := by
  cases h <;> cases h' <;> simp [toJson, map_text_inj]

theorem HelpText.wellFormed_toJson (h : HelpText) : h.toJson.WellFormed := by
  cases h with
  | text s => exact .text s
  | lines ss => exact wellFormed_texts ss

/-! An entity is known from its object, and from its name where that is left out. -/

theorem Item.eq_of_toJson {i i' : Item} (h : i.toJson = i'.toJson) : i = i' := by
  rw [toJson_eq, toJson_eq] at h
  have hnames : i.attributes.map Prod.fst = i'.attributes.map Prod.fst := rfl
  have hattributes := ofAttributes_inj hnames i.nodup_attributes h
  obtain ⟨name, count?, ⟨⟩, value, categories⟩ := i
  obtain ⟨name', count?', ⟨⟩, value', categories'⟩ := i'
  simpa [attributes, and_assoc] using hattributes

theorem Location.eq_of_toJson {l l' : Location} (h : l.toJson = l'.toJson) : l = l' := by
  rw [toJson_eq, toJson_eq] at h
  have hnames : l.attributes.map Prod.fst = l'.attributes.map Prod.fst := rfl
  have hattributes := ofAttributes_inj hnames l.nodup_attributes h
  cases l
  cases l'
  simpa [attributes] using hattributes

theorem Category.eq_of_toJson {c c' : Category} (hname : c.name = c'.name)
    (h : c.toJson = c'.toJson) : c = c' := by
  rw [toJson_eq, toJson_eq] at h
  have hnames : c.attributes.map Prod.fst = c'.attributes.map Prod.fst := rfl
  have hattributes := ofAttributes_inj hnames c.nodup_attributes h
  cases c
  cases c'
  simpa [attributes] using And.intro hname hattributes

theorem ToggleOption.eq_of_toJson {o o' : ToggleOption} (hname : o.name = o'.name)
    (h : o.toJson = o'.toJson) : o = o' := by
  rw [toJson_eq, toJson_eq] at h
  have hnames : o.attributes.map Prod.fst = o'.attributes.map Prod.fst := rfl
  have hattributes := ofAttributes_inj hnames o.nodup_attributes h
  cases o
  cases o'
  simpa [attributes] using And.intro hname hattributes

/-! An entity's object is well formed. -/

theorem Item.wellFormed_toJson (i : Item) : i.toJson.WellFormed := by
  rw [toJson_eq]
  exact wellFormed_ofAttributes i.nodup_attributes (by simp [attributes, WellFormed.text])

theorem Location.wellFormed_toJson (l : Location) : l.toJson.WellFormed := by
  rw [toJson_eq]
  exact wellFormed_ofAttributes l.nodup_attributes (by simp [attributes, WellFormed.text])

theorem Category.wellFormed_toJson (c : Category) : c.toJson.WellFormed := by
  rw [toJson_eq]
  exact wellFormed_ofAttributes c.nodup_attributes (by simp [attributes])

theorem ToggleOption.wellFormed_toJson (o : ToggleOption) : o.toJson.WellFormed := by
  rw [toJson_eq]
  refine wellFormed_ofAttributes o.nodup_attributes ?_
  simp [attributes, WellFormed.text, WellFormed.bool, HelpText.wellFormed_toJson]

/-! ### Documents -/

namespace World

/-- **The documents of a world are well formed**, whatever it holds. -/
theorem wellFormed_of_mem_artifacts {w : World} {a : Artifact} (h : a ∈ w.artifacts) :
    a.document.WellFormed := by
  have hlist : ∀ {α : Type} (t : Table String α) {f : α → Json}, (∀ a, (f a).WellFormed) →
      (Json.list (t.values.map f)).WellFormed := by
    intro α t f hf
    refine .list fun j hj => ?_
    obtain ⟨a, -, rfl⟩ := List.mem_map.mp hj
    exact hf a
  simp only [artifacts, List.mem_cons, List.not_mem_nil, or_false] at h
  obtain rfl | rfl | rfl | rfl := h
  · exact hlist w.items Item.wellFormed_toJson
  · exact hlist w.locations Location.wellFormed_toJson
  · exact wellFormed_table w.categories Category.wellFormed_toJson
  · have hcore : (Json.object []).WellFormed := .object List.nodup_nil (by simp)
    have huser := wellFormed_table w.options ToggleOption.wellFormed_toJson
    exact .object (by simp) (by simpa using ⟨hcore, huser⟩)

/-- Every entity stands under its own name. -/
def KeyedByName (w : World) : Prop := ∀ t, ∀ e ∈ w.entries t, e.2.name = e.1

/-- Entries under their own names are known from what they look like, if of two entries that
look the same the names and the entities are the same. -/
theorem eq_of_map_entries {α β : Type} [Named α] {t t' : Table String α} {f : String × α → β}
    (ht : ∀ e ∈ t.entries, Named.nameOf e.2 = e.1)
    (ht' : ∀ e ∈ t'.entries, Named.nameOf e.2 = e.1) (h : t.entries.map f = t'.entries.map f)
    (hf : ∀ e e' : String × α, Named.nameOf e.2 = e.1 → Named.nameOf e'.2 = e'.1 → f e = f e' →
      e.2 = e'.2) : t = t' := by
  refine Table.ext ?_
  generalize t.entries = es at ht h
  generalize t'.entries = es' at ht' h
  induction es generalizing es' with
  | nil => exact (List.map_eq_nil_iff.mp h.symm).symm
  | cons e es ih =>
      obtain ⟨e', es', rfl, he, hes⟩ := List.map_eq_cons_iff.mp h.symm
      obtain ⟨hown, hlater⟩ := List.forall_mem_cons.mp ht
      obtain ⟨hown', hlater'⟩ := List.forall_mem_cons.mp ht'
      have hentity : e.2 = e'.2 := hf e e' hown hown' he.symm
      have hentry : e = e' := Prod.ext (by rw [← hown, ← hown', hentity]) hentity
      rw [hentry, ih hlater es' hlater' hes.symm]

/-- **A world is known from its documents** when its entities stand under their own names. -/
theorem eq_of_documents {w w' : World} (hw : w.KeyedByName) (hw' : w'.KeyedByName)
    (h : w.artifacts.map Artifact.document = w'.artifacts.map Artifact.document) : w = w' := by
  simp only [artifacts, itemsDocument, locationsDocument, categoriesDocument, optionsDocument,
    Table.values, List.map_map, List.map_cons, List.map_nil, List.cons.injEq, Json.list.injEq,
    Json.object.injEq, Prod.mk.injEq, true_and, and_true] at h
  obtain ⟨hitems, hlocations, hcategories, hoptions⟩ := h
  have hitems : w.items = w'.items :=
    eq_of_map_entries (fun e he => hw .items _ (List.mem_map_of_mem he))
      (fun e he => hw' .items _ (List.mem_map_of_mem he)) hitems
      fun e e' _ _ heq => Item.eq_of_toJson heq
  have hlocations : w.locations = w'.locations :=
    eq_of_map_entries (fun e he => hw .locations _ (List.mem_map_of_mem he))
      (fun e he => hw' .locations _ (List.mem_map_of_mem he)) hlocations
      fun e e' _ _ heq => Location.eq_of_toJson heq
  -- here the name is the key
  have hcategories : w.categories = w'.categories := by
    refine eq_of_map_entries (fun e he => hw .categories _ (List.mem_map_of_mem he))
      (fun e he => hw' .categories _ (List.mem_map_of_mem he)) hcategories ?_
    intro e e' hown hown' heq
    obtain ⟨hkey, hjson⟩ := Prod.mk.inj heq
    exact Category.eq_of_toJson (hown.trans (hkey.trans hown'.symm)) hjson
  have hoptions : w.options = w'.options := by
    refine eq_of_map_entries (fun e he => hw .options _ (List.mem_map_of_mem he))
      (fun e he => hw' .options _ (List.mem_map_of_mem he)) hoptions ?_
    intro e e' hown hown' heq
    obtain ⟨hkey, hjson⟩ := Prod.mk.inj heq
    exact ToggleOption.eq_of_toJson (hown.trans (hkey.trans hown'.symm)) hjson
  cases w
  cases w'
  simp only [World.mk.injEq]
  exact ⟨hitems, hlocations, hcategories, hoptions⟩

/-! ### Files -/

theorem parse?_of_mem_artifacts {w : World} {a : Artifact} (h : a ∈ w.artifacts) :
    Json.parse? a.text = some a.document :=
  Json.parse?_indented (wellFormed_of_mem_artifacts h)

/-- Where the texts are the same, so are the documents. -/
theorem documents_of_texts {w w' : World}
    (h : w.artifacts.map Artifact.text = w'.artifacts.map Artifact.text) :
    w.artifacts.map Artifact.document = w'.artifacts.map Artifact.document := by
  have hread : ∀ w : World, (w.artifacts.map Artifact.text).map Json.parse?
      = (w.artifacts.map Artifact.document).map some := by
    intro w
    rw [List.map_map, List.map_map]
    exact List.map_congr_left fun a ha => parse?_of_mem_artifacts ha
  refine List.map_injective_iff.mpr (Option.some_injective _) ?_
  rw [← hread, ← hread, h]

/-- **The files of a world lose nothing.**  After any run each of them is read back as the
document that was written, in which no object has two members of one name.  And where two runs
end with the same four texts, they end with the same world. -/
theorem artifacts_lossless (ops : List Operation) :
    let w := ({} : World).run ops
    (∀ a ∈ w.artifacts, a.document.WellFormed ∧ Json.parse? a.text = some a.document)
      ∧ ∀ ops', let w' := ({} : World).run ops'
        w.artifacts.map Artifact.text = w'.artifacts.map Artifact.text → w = w' := by
  intro w
  refine ⟨fun a ha => ⟨wellFormed_of_mem_artifacts ha, parse?_of_mem_artifacts ha⟩, ?_⟩
  intro ops' w' htexts
  exact eq_of_documents (own_run ops) (own_run ops') (documents_of_texts htexts)

/-! ### An attic, filled twice -/

namespace Attic

def ball : Operation :=
  .register (.item "Ball \"red\"" {
    count? := some 3, flags := { useful := true, localEarly := true }
    value := Table.ofList [("grams", -250), ("", 9)]
    categories? := some (.list [.name "Toys", .name "Toys"]) })

def help : Operation :=
  .register (.option "find_toys" { description := .lines ["Toys\tare hidden.", "\x00"] })

def toys : Operation :=
  .register (.category "Toys" { hidden := true, options? := some (.name "find_toys") })

def trunk : Operation :=
  .register (.location "Trunk \\ lid" {
    region? := some "", requires? := some (.gate .optOne (.subject (.category "Toys")))
    placedItems? := some (.name "Ball \"red\""), victory := true })

/-- Table by table. -/
def sorted : List Operation := [ball, trunk, toys, .gate "Toys" (.name "é"), help]

/-- In another order, with calls that fail. -/
def mixed : List Operation := [
  .gate "Toys" (.name "too early"), help, toys, ball, toys, .gate "Toys" (.name "é"), trunk, ball]

end Attic

open Attic in
theorem artifacts_lossless_attic :
    let w := ({} : World).run sorted
    let w' := ({} : World).run mixed
    w.artifacts.map Artifact.text = w'.artifacts.map Artifact.text ∧ w = w'
      ∧ w.size .items = 1 ∧ ∀ a ∈ w.artifacts, Json.parse? a.text = some a.document := by
  intro w w'
  obtain ⟨hread, hsame⟩ := artifacts_lossless sorted
  have htexts : w.artifacts.map Artifact.text = w'.artifacts.map Artifact.text := by
    decide +kernel
  exact ⟨htexts, hsame mixed htexts, by decide +kernel, fun a ha => (hread a ha).2⟩

end World

end Worldsmith
