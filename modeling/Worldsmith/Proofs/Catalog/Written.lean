/-
The documents of a catalog.

A catalog may be written in full, or with fields left out for which something stands that says
the same.  A writer has both: the full document of a value, and what documents there are of it.
Writers are put together as catalogs are, from records, tables and optional values, so the
documents of a catalog are given once for all formats, and a `Form` says what a format has for
each kind of value.

What all forms keep, the documents of a catalog have (`Catalog.keeps_writer`).  In JSON they
are well formed, and in RON they are spelled by the text that is written for them.
-/
import Worldsmith.Catalog.Json
import Worldsmith.Catalog.Ron
import Worldsmith.Proofs.Json.Document
import Worldsmith.Proofs.Ron.Spelling
import Worldsmith.Proofs.Table

namespace Worldsmith

/-! ### Forms and writers -/

/-- What a format has for each kind of value. -/
structure Form (δ : Type) where
  text : String → δ
  word : UInt32 → δ
  bool : Bool → δ
  absent : δ
  present : δ → δ
  record : List (String × δ) → δ
  /-- A record behind the name of what it is. -/
  kind : String → List (String × δ) → δ
  table : List (String × δ) → δ

/-- How values are written: in full, and in other ways that say the same. -/
structure Writer (α δ : Type) where
  full : α → δ
  Allows : α → δ → Prop
  allows_full : ∀ a, Allows a (full a)

/-- A field of a record with the value that it has there. -/
structure Field (δ : Type) where
  name : String
  full : δ
  Allows : δ → Prop
  allows_full : Allows full
  /-- Does what stands for the field when it is left out say the same? -/
  MayOmit : Prop

/-- The members of a record are its fields in order, but for some that may be left out. -/
inductive Members {δ : Type} : List (Field δ) → List (String × δ) → Prop
  | nil : Members [] []
  | keep {f : Field δ} {fs : List (Field δ)} {d : δ} {ms : List (String × δ)} (h : f.Allows d)
      (hms : Members fs ms) : Members (f :: fs) ((f.name, d) :: ms)
  | skip {f : Field δ} {fs : List (Field δ)} {ms : List (String × δ)} (h : f.MayOmit)
      (hms : Members fs ms) : Members (f :: fs) ms

namespace Writer

variable {α δ : Type}

/-- The field for a value that may be left out if it is the one that stands for it then. -/
def field (w : Writer α δ) (name : String) (default? : Option α) (a : α) : Field δ where
  name
  full := w.full a
  Allows := w.Allows a
  allows_full := w.allows_full a
  MayOmit := default? = some a

/-- Values that are written in one way only. -/
def leaf (write : α → δ) : Writer α δ where
  full := write
  Allows a d := d = write a
  allows_full _ := rfl

def optional (F : Form δ) (w : Writer α δ) : Writer (Option α) δ where
  full
    | none => F.absent
    | some a => F.present (w.full a)
  Allows
    | none, d => d = F.absent
    | some a, d => ∃ d', w.Allows a d' ∧ d = F.present d'
  allows_full
    | none => rfl
    | some a => ⟨w.full a, w.allows_full a, rfl⟩

/-- Tables keep their keys and the order of these. -/
def table (F : Form δ) (w : Writer α δ) : Writer (Table String α) δ where
  full t := F.table (t.entries.map fun e => (e.1, w.full e.2))
  Allows t d := ∃ ms, List.Forall₂ (fun e m => m.1 = e.1 ∧ w.Allows e.2 m.2) t.entries ms
    ∧ d = F.table ms
  allows_full t := by
    refine ⟨_, ?_, rfl⟩
    rw [List.forall₂_map_right_iff]
    exact List.forall₂_same.mpr fun e _ => ⟨rfl, w.allows_full e.2⟩

theorem members_full (fs : List (Field δ)) : Members fs (fs.map fun f => (f.name, f.full)) := by
  induction fs with
  | nil => exact .nil
  | cons f fs ih => exact .keep f.allows_full ih

def record (wrap : α → List (String × δ) → δ) (fields : α → List (Field δ)) : Writer α δ where
  full a := wrap a ((fields a).map fun f => (f.name, f.full))
  Allows a d := ∃ ms, Members (fields a) ms ∧ d = wrap a ms
  allows_full a := ⟨_, members_full (fields a), rfl⟩

end Writer

/-! ### Catalogs -/

section Writers

variable {δ : Type} (F : Form δ)

open Writer

def Campaign.fieldNames : List String := ["episodes", "dlc"]

def Campaign.fields (c : Campaign) : List (Field δ) := [
  (optional F (leaf F.word)).field "episodes" (some none) c.episodes?,
  (optional F (leaf F.text)).field "dlc" (some none) c.pack?]

def Campaign.writer : Writer Campaign δ := .record (fun _ => F.record) (fields F)

def ExtraEpisode.fieldNames : List String := ["dlc"]

def ExtraEpisode.fields (e : ExtraEpisode) : List (Field δ) := [
  (optional F (leaf F.text)).field "dlc" (some none) e.pack?]

def ExtraEpisode.writer : Writer ExtraEpisode δ := .record (fun _ => F.record) (fields F)

def Character.fieldNames : List String := ["goal"]

def Character.fields (c : Character) : List (Field δ) := [
  (optional F (leaf F.text)).field "goal" (some none) c.goal?]

def Character.writer : Writer Character δ := .record (fun _ => F.record) (fields F)

def Card.fieldNames : List String := ["count"]

def Card.fields (c : Card) : List (Field δ) := [(leaf F.word).field "count" none c.count]

def Card.writer : Writer Card δ := .record (fun _ => F.record) (fields F)

def Victory.kind : Victory → String
  | .oranges .. => "oranges"
  | .completedCampaigns .. => "completed_campaigns"

def Victory.fieldNames : Victory → List String
  | .oranges .. => ["location", "count", "percent"]
  | .completedCampaigns .. => ["location", "percent"]

def Victory.fields : Victory → List (Field δ)
  | .oranges location count percent => [
      (leaf F.text).field "location" none location,
      (leaf F.word).field "count" (some defaultOranges) count,
      (leaf F.text).field "percent" (some defaultOrangePercent) percent]
  | .completedCampaigns location percent => [
      (leaf F.text).field "location" none location,
      (leaf F.text).field "percent" (some defaultCompletionPercent) percent]

def Victory.writer : Writer Victory δ := .record (fun v => F.kind v.kind) (fields F)

def Catalog.fieldNames : List String :=
  ["campaigns", "extra_episodes", "characters", "cards", "victory", "track_completion"]

def Catalog.fields (c : Catalog) : List (Field δ) := [
  (table F (Campaign.writer F)).field "campaigns" (some ∅) c.campaigns,
  (table F (ExtraEpisode.writer F)).field "extra_episodes" (some ∅) c.extraEpisodes,
  (table F (Character.writer F)).field "characters" (some ∅) c.characters,
  (table F (Card.writer F)).field "cards" (some ∅) c.cards,
  (optional F (Victory.writer F)).field "victory" (some none) c.victory?,
  (leaf F.bool).field "track_completion" (some false) c.trackCompletion]

/-- **The documents of a catalog.** -/
def Catalog.writer : Writer Catalog δ := .record (fun _ => F.record) (fields F)

end Writers

/-! ### What documents have in common -/

/-- The names of all fields. -/
def Form.fieldNames : List String :=
  Catalog.fieldNames ++ Campaign.fieldNames ++ Character.fieldNames
    ++ Victory.fieldNames (.oranges "" 0 "")

/-- The members have names of fields, each of its own, and values of a kind. -/
structure Form.Regular {δ : Type} (P : δ → Prop) (ms : List (String × δ)) : Prop where
  names : (ms.map Prod.fst).Nodup
  known : ∀ m ∈ ms, m.1 ∈ Form.fieldNames
  values : ∀ m ∈ ms, P m.2

/-- A property that a form keeps in whatever it puts together. -/
structure Form.Keeps {δ : Type} (F : Form δ) (P : δ → Prop) : Prop where
  text : ∀ s, P (F.text s)
  word : ∀ n, P (F.word n)
  bool : ∀ b, P (F.bool b)
  absent : P F.absent
  present : ∀ d, P d → P (F.present d)
  record : ∀ ms, Regular P ms → P (F.record ms)
  kind : ∀ (v : Victory) ms, Regular P ms → ms ≠ [] → P (F.kind v.kind ms)
  table : ∀ ms, (ms.map Prod.fst).Nodup → (∀ m ∈ ms, P m.2) → P (F.table ms)

theorem Members.sublist {δ : Type} {fs : List (Field δ)} {ms : List (String × δ)}
    (h : Members fs ms) : (ms.map Prod.fst).Sublist (fs.map Field.name) := by
  induction h with
  | nil => exact .slnil
  | keep _ _ ih => exact ih.cons_cons _
  | skip _ _ ih => exact ih.cons _

theorem Members.forall_values {δ : Type} {P : δ → Prop} {fs : List (Field δ)}
    {ms : List (String × δ)} (h : Members fs ms) (hfs : ∀ f ∈ fs, ∀ d, f.Allows d → P d) :
    ∀ m ∈ ms, P m.2 := by
  induction h with
  | nil => simp
  | keep hd _ ih =>
      obtain ⟨hf, hfs⟩ := List.forall_mem_cons.mp hfs
      exact List.forall_mem_cons.mpr ⟨hf _ hd, ih hfs⟩
  | skip _ _ ih => exact ih (List.forall_mem_cons.mp hfs).2

theorem Members.regular {δ : Type} {P : δ → Prop} {fs : List (Field δ)} {ms : List (String × δ)}
    {names : List String} (h : Members fs ms) (hnames : fs.map Field.name = names)
    (hnodup : names.Nodup) (hknown : names ⊆ Form.fieldNames)
    (hfs : ∀ f ∈ fs, ∀ d, f.Allows d → P d) : Form.Regular P ms where
  names := h.sublist.nodup (hnames ▸ hnodup)
  known _ hm := hknown (hnames ▸ h.sublist.subset (List.mem_map_of_mem hm))
  values := h.forall_values hfs

namespace Writer

variable {α δ : Type} {F : Form δ} {P : δ → Prop}

/-- All documents have the property. -/
def Keeps (w : Writer α δ) (P : δ → Prop) : Prop := ∀ a d, w.Allows a d → P d

theorem keeps_leaf {write : α → δ} (h : ∀ a, P (write a)) : (leaf write).Keeps P := by
  rintro a _ rfl
  exact h a

theorem keeps_optional (hF : F.Keeps P) {w : Writer α δ} (hw : w.Keeps P) :
    (optional F w).Keeps P := by
  intro a? d h
  cases a? with
  | none =>
      obtain rfl : d = F.absent := h
      exact hF.absent
  | some a =>
      obtain ⟨d', hd', rfl⟩ := h
      exact hF.present d' (hw a d' hd')

theorem keys_of_forall₂ {w : Writer α δ} {es : List (String × α)} {ms : List (String × δ)}
    (h : List.Forall₂ (fun e m => m.1 = e.1 ∧ w.Allows e.2 m.2) es ms) :
    ms.map Prod.fst = es.map Prod.fst := by
  induction h with
  | nil => rfl
  | cons hm _ ih => rw [List.map_cons, List.map_cons, hm.1, ih]

theorem values_of_forall₂ {w : Writer α δ} (hw : w.Keeps P) {es : List (String × α)}
    {ms : List (String × δ)}
    (h : List.Forall₂ (fun e m => m.1 = e.1 ∧ w.Allows e.2 m.2) es ms) : ∀ m ∈ ms, P m.2 := by
  induction h with
  | nil => simp
  | cons hm _ ih => exact List.forall_mem_cons.mpr ⟨hw _ _ hm.2, ih⟩

theorem keeps_table (hF : F.Keeps P) {w : Writer α δ} (hw : w.Keeps P) : (table F w).Keeps P := by
  rintro t _ ⟨ms, hms, rfl⟩
  exact hF.table ms (keys_of_forall₂ hms ▸ t.distinct) (values_of_forall₂ hw hms)

/-- A record needs the property for its fields. -/
theorem keeps_record (hF : F.Keeps P) {fields : α → List (Field δ)} (names : List String)
    (hnames : ∀ a, (fields a).map Field.name = names) (hnodup : names.Nodup)
    (hknown : names ⊆ Form.fieldNames) (h : ∀ a, ∀ f ∈ fields a, ∀ d, f.Allows d → P d) :
    (record (fun _ => F.record) fields).Keeps P := by
  rintro a _ ⟨ms, hms, rfl⟩
  exact hF.record ms (hms.regular (hnames a) hnodup hknown (h a))

end Writer

section Keeps

variable {δ : Type} {F : Form δ} {P : δ → Prop} (hF : F.Keeps P)
include hF

open Writer

theorem Campaign.keeps_writer : (Campaign.writer F).Keeps P := by
  refine keeps_record hF fieldNames (fun _ => rfl) (by decide) (by decide) fun c => ?_
  simp only [fields, List.forall_mem_cons]
  exact ⟨keeps_optional hF (keeps_leaf hF.word) _, keeps_optional hF (keeps_leaf hF.text) _,
    by simp⟩

theorem ExtraEpisode.keeps_writer : (ExtraEpisode.writer F).Keeps P := by
  refine keeps_record hF fieldNames (fun _ => rfl) (by decide) (by decide) fun e => ?_
  simp only [fields, List.forall_mem_cons]
  exact ⟨keeps_optional hF (keeps_leaf hF.text) _, by simp⟩

theorem Character.keeps_writer : (Character.writer F).Keeps P := by
  refine keeps_record hF fieldNames (fun _ => rfl) (by decide) (by decide) fun c => ?_
  simp only [fields, List.forall_mem_cons]
  exact ⟨keeps_optional hF (keeps_leaf hF.text) _, by simp⟩

theorem Card.keeps_writer : (Card.writer F).Keeps P := by
  refine keeps_record hF fieldNames (fun _ => rfl) (by decide) (by decide) fun c => ?_
  simp only [fields, List.forall_mem_cons]
  exact ⟨keeps_leaf hF.word _, by simp⟩

/-- The location of a victory is never left out. -/
theorem Victory.keeps_writer : (Victory.writer F).Keeps P := by
  rintro v _ ⟨ms, hms, rfl⟩
  have hnames : (fields F v).map Field.name = v.fieldNames := by cases v <;> rfl
  have hnodup : v.fieldNames.Nodup := by cases v <;> (rw [fieldNames]; decide)
  have hknown : v.fieldNames ⊆ Form.fieldNames := by cases v <;> (rw [fieldNames]; decide)
  have hne : ms ≠ [] := by
    rintro rfl
    cases v <;> cases hms with | skip h _ => cases h
  refine hF.kind v ms (hms.regular hnames hnodup hknown ?_) hne
  cases v with
  | oranges location count percent =>
      simp only [fields, List.forall_mem_cons]
      exact ⟨keeps_leaf hF.text _, keeps_leaf hF.word _, keeps_leaf hF.text _, by simp⟩
  | completedCampaigns location percent =>
      simp only [fields, List.forall_mem_cons]
      exact ⟨keeps_leaf hF.text _, keeps_leaf hF.text _, by simp⟩

/-- **What a form keeps, every document of a catalog has.** -/
theorem Catalog.keeps_writer : (Catalog.writer F).Keeps P := by
  refine keeps_record hF fieldNames (fun _ => rfl) (by decide) (by decide) fun c => ?_
  simp only [fields, List.forall_mem_cons]
  exact ⟨keeps_table hF (Campaign.keeps_writer hF) _,
    keeps_table hF (ExtraEpisode.keeps_writer hF) _, keeps_table hF (Character.keeps_writer hF) _,
    keeps_table hF (Card.keeps_writer hF) _, keeps_optional hF (Victory.keeps_writer hF) _,
    keeps_leaf hF.bool _, by simp⟩

end Keeps

/-! ### The two formats -/

namespace Json

def form : Form Json where
  text := .text
  word := ofWord
  bool := .bool
  absent := .null
  present j := j
  record := .object
  kind name ms := .object [(name, .object ms)]
  table := .object

/-- Documents in JSON are well formed. -/
theorem form_keeps_wellFormed : form.Keeps WellFormed where
  text := .text
  word n := .int n.toNat
  bool := .bool
  absent := .null
  present _ h := h
  record _ hms := .object hms.names hms.values
  kind _ _ hms _ := .object (by simp) (by simpa using WellFormed.object hms.names hms.values)
  table _ := .object

theorem full_optional {α : Type} (w : Writer α Json) :
    (Writer.optional form w).full = ofOption w.full := by
  funext a?
  cases a? <;> rfl

end Json

namespace Ron

def form : Form Ron where
  text := .text
  word := ofWord
  bool := .bool
  absent := .absent
  present := .present 1
  record ms := if ms.isEmpty then .unit else .record none ms
  kind name ms := .record (some name) ms
  table ms := .map (ms.map fun m => (.text m.1, m.2))

theorem isPlainName_of_regular {P : Ron → Prop} {ms : List (String × Ron)}
    (h : Form.Regular P ms) : ∀ m ∈ ms, isPlainName m.1 = true := by
  have hplain : ∀ name ∈ Form.fieldNames, isPlainName name = true := by decide +kernel
  exact fun m hm => hplain m.1 (h.known m hm)

/-- Documents in RON are spelled by the text that is written for them. -/
theorem form_keeps_wellSpelled : form.Keeps WellSpelled where
  text := wellSpelled_text
  word := wellSpelled_ofWord
  bool := wellSpelled_bool
  absent := wellSpelled_absent
  present _ := WellSpelled.present
  record ms hms := by
    show WellSpelled (if ms.isEmpty then .unit else .record none ms)
    split
    · exact wellSpelled_unit
    · rename_i hne
      exact .record (by simp) (by simpa using hne) (isPlainName_of_regular hms) hms.values
  kind v ms hms hne := by
    have hkind : isPlainName v.kind = true ∧ v.kind.toList ∉ reserved := by
      cases v <;> (rw [Victory.kind]; decide +kernel)
    refine .record ?_ hne (isPlainName_of_regular hms) hms.values
    rintro name hname
    obtain rfl := Option.some.inj hname
    exact hkind
  table _ _ h := .map h

theorem full_optional {α : Type} (w : Writer α Ron) :
    (Writer.optional form w).full = ofOption w.full := by
  funext a?
  cases a? <;> rfl

end Ron

/-! ### Full documents -/

theorem Json.full_catalog : (Catalog.writer form).full = Catalog.toJson := by
  have hvictory : (Victory.writer form).full = Victory.toJson := by
    funext v
    cases v <;> rfl
  funext c
  simp only [Catalog.writer, Catalog.fields, Campaign.writer, Campaign.fields, ExtraEpisode.writer,
    ExtraEpisode.fields, Character.writer, Character.fields, Writer.record, Writer.field,
    Writer.table, full_optional, hvictory]
  rfl

theorem Ron.full_catalog : (Catalog.writer form).full = Catalog.toRon := by
  have hvictory : (Victory.writer form).full = Victory.toRon := by
    funext v
    cases v <;> rfl
  funext c
  simp only [Catalog.writer, Catalog.fields, Campaign.writer, Campaign.fields, ExtraEpisode.writer,
    ExtraEpisode.fields, Character.writer, Character.fields, Writer.record, Writer.field,
    Writer.table, full_optional, hvictory]
  simp only [form, List.map_cons, List.map_map, List.map_nil]
  rfl

end Worldsmith
