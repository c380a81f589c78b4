/-
Reading the documents of a catalog.

The two readers of catalogs differ in what they take for a text, a table or a record, and make
the same of these.  So the records of a catalog are read here over the parts that a format has
(`Form.Readers`), and each of the two readers is shown to be this one over its own parts.  That
a catalog is read back from each of its documents is then proved once, by a lemma for each
kind of record, and with what is known about documents as text it follows for files.
-/
import Worldsmith.Catalog.File
import Worldsmith.Catalog.World
import Worldsmith.Proofs.Catalog.Written
import Worldsmith.Proofs.Ron.Document
import Worldsmith.Proofs.World.Artifact

namespace Worldsmith

/-! ### Readers -/

/-- The parts of a reader for a form.  Each of them undoes what the form does. -/
structure Form.Readers {δ : Type} (F : Form δ) where
  text? : δ → Option String
  word? : δ → Option UInt32
  bool? : δ → Option Bool
  optional? {α : Type} (read : δ → Option α) : δ → Option (Option α)
  table? {α : Type} (read : δ → Option α) : δ → Option (Table String α)
  /-- The fields of a record, from its name, their names and the depth that other fields may
  have. -/
  record? (name : String) (fields : List String) (room : Nat) : δ → Option (List (String × δ))
  kind? (name : String) (fields : List String) : δ → Option (List (String × δ))
  /-- A field of a record, or what stands for it when it is left out. -/
  field? {α : Type} (record : List (String × δ)) (name : String) (read : δ → Option α)
    (default? : Option α) : Option α
  text?_text : ∀ s, text? (F.text s) = some s
  text?_absent : text? F.absent = none
  word?_word : ∀ n, word? (F.word n) = some n
  word?_absent : word? F.absent = none
  bool?_bool : ∀ b, bool? (F.bool b) = some b
  optional?_absent : ∀ {α : Type} (read : δ → Option α), optional? read F.absent = some none
  /-- What may be absent must not be read from what is written for that. -/
  optional?_present : ∀ {α : Type} {read : δ → Option α} {d : δ} {a : α}, read F.absent = none →
    read d = some a → optional? read (F.present d) = some (some a)
  table?_table : ∀ {α : Type} {read : δ → Option α} {t : Table String α} {ms : List (String × δ)},
    List.Forall₂ (fun e m => m.1 = e.1 ∧ read m.2 = some e.2) t.entries ms →
    table? read (F.table ms) = some t
  record?_record : ∀ {name fields room ms}, (ms.map Prod.fst).Nodup → ms.map Prod.fst ⊆ fields →
    record? name fields room (F.record ms) = some ms
  kind?_kind : ∀ {name fields ms}, (ms.map Prod.fst).Nodup → ms.map Prod.fst ⊆ fields →
    kind? name fields (F.kind name ms) = some ms
  kind?_other : ∀ {name name' fields ms}, name ≠ name' →
    kind? name fields (F.kind name' ms) = none
  kind?_absent : ∀ name fields, kind? name fields F.absent = none
  field?_some : ∀ {α : Type} {record name d} {read : δ → Option α} {default? : Option α},
    record.lookup name = some d → field? record name read default? = read d
  field?_none : ∀ {α : Type} {record name} {read : δ → Option α} {default? : Option α},
    record.lookup name = none → field? record name read default? = default?

/-- Each document of a value is read as the value. -/
def Writer.ReadBy {α δ : Type} (w : Writer α δ) (read : δ → Option α) : Prop :=
  ∀ a d, w.Allows a d → read d = some a

section Parts

variable {α δ : Type} {F : Form δ} (R : F.Readers) {w : Writer α δ} {read : δ → Option α}

namespace Writer

theorem readBy_leaf {write : α → δ} (h : ∀ a, read (write a) = some a) :
    (leaf write).ReadBy read := by
  rintro a _ rfl
  exact h a

theorem readBy_optional (hw : w.ReadBy read) (habsent : read F.absent = none) :
    (optional F w).ReadBy (R.optional? read) := by
  intro a? d h
  cases a? with
  | none =>
      obtain rfl : d = F.absent := h
      exact R.optional?_absent read
  | some a =>
      obtain ⟨d', hd', rfl⟩ := h
      exact R.optional?_present habsent (hw a d' hd')

theorem readBy_table (hw : w.ReadBy read) : (table F w).ReadBy (R.table? read) := by
  rintro t _ ⟨ms, hms, rfl⟩
  exact R.table?_table (hms.imp fun e m hm => ⟨hm.1, hw e.2 m.2 hm.2⟩)

end Writer

/-- A field that is looked up is one that is there, or may be left out. -/
theorem Members.lookup {fs : List (Field δ)} {ms : List (String × δ)} (h : Members fs ms)
    (hnodup : (fs.map Field.name).Nodup) {f : Field δ} (hf : f ∈ fs) :
    (∃ d, ms.lookup f.name = some d ∧ f.Allows d) ∨ (ms.lookup f.name = none ∧ f.MayOmit) := by
  induction h with
  | nil => cases hf
  | @keep g fs d ms hd hms ih =>
      obtain ⟨hfresh, hnodup⟩ := List.nodup_cons.mp hnodup
      obtain rfl | hf := List.mem_cons.mp hf
      · exact .inl ⟨d, by simp, hd⟩
      · have hne : f.name ≠ g.name := fun heq => hfresh (heq ▸ List.mem_map_of_mem hf)
        rw [List.lookup_cons, beq_false_of_ne hne]
        exact ih hnodup hf
  | @skip g fs ms hg hms ih =>
      obtain ⟨hfresh, hnodup⟩ := List.nodup_cons.mp hnodup
      obtain rfl | hf := List.mem_cons.mp hf
      · refine .inr ⟨?_, hg⟩
        rw [List.lookup_eq_none_iff]
        rintro m hm
        have hname : m.1 ∈ fs.map Field.name := hms.sublist.subset (List.mem_map_of_mem hm)
        have hne : f.name ≠ m.1 := fun heq => hfresh (heq.symm ▸ hname)
        exact bne_iff_ne.mpr hne
      · exact ih hnodup hf

/-- **A field is read back**, also when it is left out. -/
theorem Members.field? {fs : List (Field δ)} {ms : List (String × δ)} (h : Members fs ms)
    (hnodup : (fs.map Field.name).Nodup) {name : String} {default? : Option α} {a : α}
    (hw : w.ReadBy read) (hf : w.field name default? a ∈ fs) :
    R.field? ms name read default? = some a := by
  obtain ⟨d, hlookup, hd⟩ | ⟨hlookup, hdefault⟩ := h.lookup hnodup hf
  · exact (R.field?_some hlookup).trans (hw a d hd)
  · exact (R.field?_none hlookup).trans hdefault

end Parts

/-! ### Records -/

section Records

variable {δ : Type} {F : Form δ} (R : F.Readers)

open Writer

def Campaign.read? (d : δ) : Option Campaign := do
  let r ← R.record? "CampaignEntry" fieldNames Catalog.entryRoom d
  return {
    episodes? := ← R.field? r "episodes" (R.optional? R.word?) (some none)
    pack? := ← R.field? r "dlc" (R.optional? R.text?) (some none) }

def ExtraEpisode.read? (d : δ) : Option ExtraEpisode := do
  let r ← R.record? "ExtraEpisodeEntry" fieldNames Catalog.entryRoom d
  return { pack? := ← R.field? r "dlc" (R.optional? R.text?) (some none) }

def Character.read? (d : δ) : Option Character := do
  let r ← R.record? "CharacterEntry" fieldNames Catalog.entryRoom d
  return { goal? := ← R.field? r "goal" (R.optional? R.text?) (some none) }

def Card.read? (d : δ) : Option Card := do
  let r ← R.record? "CardEntry" fieldNames Catalog.entryRoom d
  return { count := ← R.field? r "count" R.word? none }

def Victory.read? (d : δ) : Option Victory :=
  match R.kind? "oranges" ["location", "count", "percent"] d with
  | some r => do
    return .oranges
      (← R.field? r "location" R.text? none)
      (← R.field? r "count" R.word? (some defaultOranges))
      (← R.field? r "percent" R.text? (some defaultOrangePercent))
  | none => do
    let r ← R.kind? "completed_campaigns" ["location", "percent"] d
    return .completedCampaigns
      (← R.field? r "location" R.text? none)
      (← R.field? r "percent" R.text? (some defaultCompletionPercent))

def Catalog.read? (d : δ) : Option Catalog := do
  let r ← R.record? "ContentDescription" fieldNames Ron.maxDepth d
  return {
    campaigns := ← R.field? r "campaigns" (R.table? (Campaign.read? R)) (some ∅)
    extraEpisodes := ← R.field? r "extra_episodes" (R.table? (ExtraEpisode.read? R)) (some ∅)
    characters := ← R.field? r "characters" (R.table? (Character.read? R)) (some ∅)
    cards := ← R.field? r "cards" (R.table? (Card.read? R)) (some ∅)
    victory? := ← R.field? r "victory" (R.optional? (Victory.read? R)) (some none)
    trackCompletion := ← R.field? r "track_completion" R.bool? (some false) }

theorem Members.record? {fs : List (Field δ)} {ms : List (String × δ)} (h : Members fs ms)
    (hnodup : (fs.map Field.name).Nodup) (name : String) (room : Nat) :
    R.record? name (fs.map Field.name) room (F.record ms) = some ms :=
  R.record?_record (h.sublist.nodup hnodup) h.sublist.subset

theorem Campaign.readBy_read? : (writer F).ReadBy (read? R) := by
  rintro c _ ⟨ms, hms, rfl⟩
  have hnodup : ((fields F c).map Field.name).Nodup := (by decide : fieldNames.Nodup)
  have hrecord : R.record? "CampaignEntry" fieldNames Catalog.entryRoom (F.record ms) = some ms :=
    hms.record? R hnodup _ _
  have hepisodes : R.field? ms "episodes" (R.optional? R.word?) (some none) = some c.episodes? :=
    hms.field? R hnodup (readBy_optional R (readBy_leaf R.word?_word) R.word?_absent)
      (by simp [fields])
  have hpack : R.field? ms "dlc" (R.optional? R.text?) (some none) = some c.pack? :=
    hms.field? R hnodup (readBy_optional R (readBy_leaf R.text?_text) R.text?_absent)
      (by simp [fields])
  simp [read?, hrecord, hepisodes, hpack]

theorem ExtraEpisode.readBy_read? : (writer F).ReadBy (read? R) := by
  rintro e _ ⟨ms, hms, rfl⟩
  have hnodup : ((fields F e).map Field.name).Nodup := (by decide : fieldNames.Nodup)
  have hrecord : R.record? "ExtraEpisodeEntry" fieldNames Catalog.entryRoom (F.record ms)
      = some ms := hms.record? R hnodup _ _
  have hpack : R.field? ms "dlc" (R.optional? R.text?) (some none) = some e.pack? :=
    hms.field? R hnodup (readBy_optional R (readBy_leaf R.text?_text) R.text?_absent)
      (by simp [fields])
  simp [read?, hrecord, hpack]

theorem Character.readBy_read? : (writer F).ReadBy (read? R) := by
  rintro c _ ⟨ms, hms, rfl⟩
  have hnodup : ((fields F c).map Field.name).Nodup := (by decide : fieldNames.Nodup)
  have hrecord : R.record? "CharacterEntry" fieldNames Catalog.entryRoom (F.record ms) = some ms :=
    hms.record? R hnodup _ _
  have hgoal : R.field? ms "goal" (R.optional? R.text?) (some none) = some c.goal? :=
    hms.field? R hnodup (readBy_optional R (readBy_leaf R.text?_text) R.text?_absent)
      (by simp [fields])
  simp [read?, hrecord, hgoal]

theorem Card.readBy_read? : (writer F).ReadBy (read? R) := by
  rintro c _ ⟨ms, hms, rfl⟩
  have hnodup : ((fields F c).map Field.name).Nodup := (by decide : fieldNames.Nodup)
  have hrecord : R.record? "CardEntry" fieldNames Catalog.entryRoom (F.record ms) = some ms :=
    hms.record? R hnodup _ _
  have hcount : R.field? ms "count" R.word? none = some c.count :=
    hms.field? R hnodup (readBy_leaf R.word?_word) (by simp [fields])
  simp [read?, hrecord, hcount]

/-- The name of a victory's kind tells how its fields are read. -/
theorem Victory.readBy_read? : (writer F).ReadBy (read? R) := by
  rintro v _ ⟨ms, hms, rfl⟩
  have hnodup : ((fields F v).map Field.name).Nodup := by
    cases v with
    | oranges => exact (by decide : ["location", "count", "percent"].Nodup)
    | completedCampaigns => exact (by decide : ["location", "percent"].Nodup)
  have hkind : R.kind? v.kind ((fields F v).map Field.name) (F.kind v.kind ms) = some ms :=
    R.kind?_kind (hms.sublist.nodup hnodup) hms.sublist.subset
  cases v with
  | oranges location count percent =>
      have hkind : R.kind? "oranges" ["location", "count", "percent"] (F.kind "oranges" ms)
          = some ms := hkind
      have hlocation : R.field? ms "location" R.text? none = some location :=
        hms.field? R hnodup (readBy_leaf R.text?_text) (by simp [fields])
      have hcount : R.field? ms "count" R.word? (some defaultOranges) = some count :=
        hms.field? R hnodup (readBy_leaf R.word?_word) (by simp [fields])
      have hpercent : R.field? ms "percent" R.text? (some defaultOrangePercent) = some percent :=
        hms.field? R hnodup (readBy_leaf R.text?_text) (by simp [fields])
      simp [read?, kind, hkind, hlocation, hcount, hpercent]
  | completedCampaigns location percent =>
      have hother : R.kind? "oranges" ["location", "count", "percent"]
          (F.kind "completed_campaigns" ms) = none := R.kind?_other (by decide)
      have hkind : R.kind? "completed_campaigns" ["location", "percent"]
          (F.kind "completed_campaigns" ms) = some ms := hkind
      have hlocation : R.field? ms "location" R.text? none = some location :=
        hms.field? R hnodup (readBy_leaf R.text?_text) (by simp [fields])
      have hpercent : R.field? ms "percent" R.text? (some defaultCompletionPercent)
          = some percent :=
        hms.field? R hnodup (readBy_leaf R.text?_text) (by simp [fields])
      simp [read?, kind, hother, hkind, hlocation, hpercent]

theorem Victory.read?_absent : read? R F.absent = none := by
  simp [read?, R.kind?_absent]

/-- **A catalog is read back** from each of its documents. -/
theorem Catalog.readBy_read? : (writer F).ReadBy (read? R) := by
  rintro c _ ⟨ms, hms, rfl⟩
  have hnodup : ((fields F c).map Field.name).Nodup := (by decide : fieldNames.Nodup)
  have hrecord : R.record? "ContentDescription" fieldNames Ron.maxDepth (F.record ms) = some ms :=
    hms.record? R hnodup _ _
  have hcampaigns : R.field? ms "campaigns" (R.table? (Campaign.read? R)) (some ∅)
      = some c.campaigns :=
    hms.field? R hnodup (readBy_table R (Campaign.readBy_read? R)) (by simp [fields])
  have hextras : R.field? ms "extra_episodes" (R.table? (ExtraEpisode.read? R)) (some ∅)
      = some c.extraEpisodes :=
    hms.field? R hnodup (readBy_table R (ExtraEpisode.readBy_read? R)) (by simp [fields])
  have hcharacters : R.field? ms "characters" (R.table? (Character.read? R)) (some ∅)
      = some c.characters :=
    hms.field? R hnodup (readBy_table R (Character.readBy_read? R)) (by simp [fields])
  have hcards : R.field? ms "cards" (R.table? (Card.read? R)) (some ∅) = some c.cards :=
    hms.field? R hnodup (readBy_table R (Card.readBy_read? R)) (by simp [fields])
  have hvictory : R.field? ms "victory" (R.optional? (Victory.read? R)) (some none)
      = some c.victory? :=
    hms.field? R hnodup (readBy_optional R (Victory.readBy_read? R) (Victory.read?_absent R))
      (by simp [fields])
  have hcompletion : R.field? ms "track_completion" R.bool? (some false) = some c.trackCompletion :=
    hms.field? R hnodup (readBy_leaf R.bool?_bool) (by simp [fields])
  simp [read?, hrecord, hcampaigns, hextras, hcharacters, hcards, hvictory, hcompletion]

end Records

/-! ### The readers of the two formats -/

theorem mapM_of_forall₂ {α β : Type} {f : α → Option β} {as : List α} {bs : List β}
    (h : List.Forall₂ (fun b a => f a = some b) bs as) : as.mapM f = some bs := by
  induction h with
  | nil => rfl
  | cons hab _ ih =>
      rw [List.mapM_cons, hab, ih]
      rfl

namespace Json

/-- A record of a kind, in an object with the name of the kind alone. -/
def kind? (name : String) (fields : List String) : Json → Option (List (String × Json))
  | .object [(name', j)] => if name' = name then j.record? fields else none
  | _ => none

theorem record?_object {fields : List String} {ms : List (String × Json)}
    (hnodup : (ms.map Prod.fst).Nodup) (hknown : ms.map Prod.fst ⊆ fields) :
    record? fields (.object ms) = some ms := by
  have hall : ms.filter (fun m => fields.contains m.1) = ms := by
    rw [List.filter_eq_self]
    exact fun m hm => List.contains_iff_mem.mpr (hknown (List.mem_map_of_mem hm))
  rw [record?, hall]
  exact if_pos hnodup

theorem word?_ofWord (n : UInt32) : word? (ofWord n) = some n := by
  show (if h : n.toNat < UInt32.size then some (UInt32.ofNatLT n.toNat h) else none) = some n
  rw [dif_pos n.toNat_lt, UInt32.ofNatLT_toNat]

def readers : form.Readers where
  text?
  word?
  bool?
  optional? := nullable?
  table?
  record? _ fields _ := record? fields
  kind?
  text?_text _ := rfl
  text?_absent := rfl
  word?_word := word?_ofWord
  word?_absent := rfl
  bool?_bool _ := rfl
  optional?_absent _ := rfl
  optional?_present {α read d a} habsent hread := by
    show nullable? read d = some (some a)
    have hne : d ≠ .null := by
      rintro rfl
      cases habsent.symm.trans hread
    rw [nullable?, hread]
    · rfl
    · exact hne
  table?_table {α read t ms} h := by
    have hread := mapM_of_forall₂ (f := fun m => (read m.2).map (m.1, ·)) (h.imp fun e m hm => by
      rw [hm.1, hm.2]
      rfl)
    show (ms.mapM fun m => (read m.2).map (m.1, ·)).map Table.ofList = some t
    rw [hread, Option.map_some, Table.ofList_entries]
  record?_record := record?_object
  kind?_kind {name fields ms} hnodup hknown := by
    show (if name = name then record? fields (.object ms) else none) = some ms
    rw [if_pos rfl, record?_object hnodup hknown]
  kind?_other hne := if_neg hne.symm
  kind?_absent _ _ := rfl
  field?
  field?_some h := by rw [field?, h]
  field?_none h := by rw [field?, h]

end Json

namespace Ron

theorem record?_record {name : String} {fields : List String} {room : Nat} {name? : Option String}
    {ms : List (String × Ron)} (hname : namedWell {} name name? = true)
    (hnodup : (ms.map Prod.fst).Nodup) (hknown : ms.map Prod.fst ⊆ fields) :
    record? {} name fields room (.record name? ms) = some ms := by
  have hall : ms.partition (fun m => fields.contains m.1) = (ms, []) := by
    rw [List.partition_eq_filter_filter]
    have hmem : ∀ m ∈ ms, fields.contains m.1 = true :=
      fun m hm => List.contains_iff_mem.mpr (hknown (List.mem_map_of_mem hm))
    refine Prod.ext (List.filter_eq_self.mpr hmem) (List.filter_eq_nil_iff.mpr fun m hm => ?_)
    rw [Function.comp_apply, hmem m hm]
    decide
  rw [record?, if_pos hname, knownFields?, hall]
  simp [hnodup]

def readers : form.Readers where
  text? := readText?
  word? := readWord?
  bool? := readBool?
  optional? := optional? {}
  table?
  record? := record? {}
  kind? := Victory.fields? {}
  text?_text _ := rfl
  text?_absent := rfl
  word?_word := word32?_decimal
  word?_absent := rfl
  bool?_bool _ := rfl
  optional?_absent _ := rfl
  optional?_present {α read d a} _ hread := by
    show (read d).map some = some (some a)
    rw [hread]
    rfl
  table?_table {α read t ms} h := by
    have hread : (ms.map fun m => (Ron.text m.1, m.2)).mapM
        (fun (k, v) => do return (← readText? k, ← read v)) = some t.entries := by
      refine mapM_of_forall₂ (List.forall₂_map_right_iff.mpr (h.imp fun e m hm => ?_))
      simp [readText?, hm.1, hm.2]
    show Option.map Table.ofList _ = some t
    rw [hread, Option.map_some, Table.ofList_entries]
  record?_record {name fields room ms} hnodup hknown := by
    show record? {} name fields room (if ms.isEmpty then .unit else .record none ms) = some ms
    split
    · rename_i hempty
      rw [List.isEmpty_iff.mp hempty]
      rfl
    · exact record?_record rfl hnodup hknown
  kind?_kind {name fields ms} hnodup hknown :=
    record?_record (decide_eq_true rfl) hnodup hknown
  kind?_other {name name' fields ms} hne := by
    show (if namedWell {} name (some name') then _ else none) = none
    rw [if_neg (by simpa [namedWell] using hne.symm)]
  kind?_absent _ _ := rfl
  field?
  field?_some h := by rw [field?, h]
  field?_none h := by rw [field?, h]

end Ron

theorem Json.kind?_object (name : String) (fields : List String) (j : Json) :
    kind? name fields (.object [(name, j)]) = j.record? fields := if_pos rfl

theorem Json.kind?_eq_none {name : String} {d : Json} (h : ∀ j, d ≠ .object [(name, j)])
    (fields : List String) : kind? name fields d = none := by
  unfold kind?
  split
  · rename_i name' j
    exact if_neg fun heq => h j (by rw [heq])
  · rfl

/-- An object that is named for no kind is no victory. -/
theorem Victory.read?_json : read? Json.readers = ofJson? := by
  funext d
  have hkind : Json.readers.kind? = Json.kind? := rfl
  unfold ofJson?
  split
  · rename_i j
    rw [read?, hkind, Json.kind?_object, Json.kind?_eq_none (by simp)]
    -- Without its fields it is not taken for a victory of the other kind.
    cases j.record? ["location", "count", "percent"] <;> rfl
  · rename_i j
    rw [read?, hkind, Json.kind?_object, Json.kind?_eq_none (by simp)]
    rfl
  · rename_i horanges hcompleted
    rw [read?, hkind, Json.kind?_eq_none horanges, Json.kind?_eq_none hcompleted]
    rfl

theorem Victory.read?_ron : read? Ron.readers = ofRon? {} := by
  funext v
  have hkind : Ron.readers.kind? = fields? {} := rfl
  rw [read?, ofRon?, hkind]
  cases fields? {} "oranges" ["location", "count", "percent"] v <;> rfl

theorem Catalog.read?_json : read? Json.readers = ofJson? := by
  funext j
  simp only [read?, Victory.read?_json]
  rfl

theorem Catalog.read?_ron : read? Ron.readers = ofRon? {} := by
  funext v
  simp only [read?, Victory.read?_ron]
  rfl

/-! ### Texts -/

theorem HelpText.ofJson?_toJson (h : HelpText) : ofJson? h.toJson = some h := by
  cases h with
  | text s => rfl
  | lines ss =>
      have hread : (ss.map Json.text).mapM Json.text? = some ss :=
        mapM_of_forall₂ (List.forall₂_map_right_iff.mpr (List.forall₂_same.mpr fun _ _ => rfl))
      show ((ss.map Json.text).mapM Json.text?).map HelpText.lines = some (.lines ss)
      rw [hread]
      rfl

namespace Catalog

/-- The texts of a catalog: those of its documents, with blanks where a format has them. -/
def IsText (c : Catalog) : Format → String → Prop
  | .json, text => ∃ j layout, (writer Json.form).Allows c j ∧ layout.Neutral
      ∧ text = j.write layout 0
  | .ron, text => ∃ v before cs after, (writer Ron.form).Allows c v ∧ Ron.Blanks before
      ∧ Ron.Blanks after ∧ Ron.Spells v cs ∧ text = String.ofList (before ++ (cs ++ after))

theorem isText_compact (c : Catalog) : c.IsText .json c.toJson.compact :=
  ⟨c.toJson, .compact, Json.full_catalog ▸ (writer Json.form).allows_full c,
    Json.Layout.neutral_compact, rfl⟩

theorem isText_write (c : Catalog) : c.IsText .ron c.toRon.write := by
  have hallows : (writer Ron.form).Allows c c.toRon :=
    Ron.full_catalog ▸ (writer Ron.form).allows_full c
  have hspells : Ron.Spells c.toRon c.toRon.write.toList :=
    keeps_writer Ron.form_keeps_wellSpelled c c.toRon hallows
  exact ⟨c.toRon, [], c.toRon.write.toList, [], hallows, by simp [Ron.Blanks],
    by simp [Ron.Blanks], hspells, by simp⟩

/-- **A catalog is read back from each of its texts.** -/
theorem parse_of_isText {c : Catalog} {format : Format} {text : String} (h : c.IsText format text)
    (path : Path) : parse format path text = .ok c := by
  have hread : ofText? format text = some c := by
    cases format with
    | json =>
        obtain ⟨j, layout, hallows, hlayout, rfl⟩ := h
        have hwell : j.WellFormed := keeps_writer Json.form_keeps_wellFormed c j hallows
        rw [ofText?, Json.parse?_write hlayout hwell, Option.bind_some, ← read?_json]
        exact readBy_read? Json.readers c j hallows
    | ron =>
        obtain ⟨v, before, cs, after, hallows, hbefore, hafter, hspells, rfl⟩ := h
        rw [ofText?, Ron.parse?_of_spells hbefore hafter hspells, Option.bind_some]
        show ofRon? {} v = some c
        rw [← read?_ron]
        exact readBy_read? Ron.readers c v hallows
  rw [parse, hread]

/-- **What is written in JSON is read back**: a catalog whatever it holds, with the order of its
tables, and the help for an option. -/
theorem read_back_from_json :
    (∀ (c : Catalog) (path : Path), parse .json path c.toJson.compact = .ok c)
      ∧ ∀ help : HelpText, (Json.parse? help.toJson.compact).bind HelpText.ofJson? = some help := by
  refine ⟨fun c path => parse_of_isText c.isText_compact path, fun help => ?_⟩
  rw [Json.parse?_compact help.wellFormed_toJson, Option.bind_some, HelpText.ofJson?_toJson]

/-- **The two formats agree.**  What is written in full are texts of the catalog, and all texts
of it in either format, with blanks in them and with fields left out that say nothing new, give
the catalog, and so the same world or the same error. -/
theorem formats_agree (c : Catalog) (path path' : Path) :
    c.IsText .json c.toJson.compact ∧ c.IsText .ron c.toRon.write
      ∧ ∀ text text', c.IsText .json text → c.IsText .ron text' →
        parse .json path text = .ok c ∧ parse .ron path' text' = .ok c
          ∧ (parse .json path text).map compile = (parse .ron path' text').map compile := by
  refine ⟨c.isText_compact, c.isText_write, fun text text' htext htext' => ?_⟩
  have hjson := parse_of_isText htext path
  have hron := parse_of_isText htext' path'
  exact ⟨hjson, hron, by rw [hjson, hron]⟩

/-- A catalog that says little. -/
def town : Catalog where
  campaigns := ⟨[("Old \"Town\"", { episodes? := some 3 })], by decide⟩
  victory? := some (.oranges "Gate" 50 "70%")

/-- Its campaigns and its victory in a form, without what needs not be said. -/
def townMembers {δ : Type} (F : Form δ) : List (String × δ) := [
  ("campaigns", F.table [("Old \"Town\"", F.record [("episodes", F.present (F.word 3))])]),
  ("victory", F.present (F.kind "oranges" [("location", F.text "Gate")]))]

theorem allows_townMembers {δ : Type} (F : Form δ) :
    (writer F).Allows town (F.record (townMembers F)) := by
  refine ⟨townMembers F, ?_, rfl⟩
  refine .keep ⟨_, .cons ⟨rfl, _, .keep ⟨_, rfl, rfl⟩ (.skip rfl .nil), rfl⟩ .nil, rfl⟩ ?_
  refine .skip rfl (.skip rfl (.skip rfl (.keep ⟨_, ?_, rfl⟩ (.skip rfl .nil))))
  exact ⟨_, .keep rfl (.skip rfl (.skip rfl .nil)), rfl⟩

def townJson : String :=
  "\x7b\"campaigns\":\x7b\"Old \\\"Town\\\"\":\x7b\"episodes\":3\x7d\x7d,"
    ++ "\"victory\":\x7b\"oranges\":\x7b\"location\":\"Gate\"\x7d\x7d\x7d"

/-- A field to a line, with a comma after each. -/
def townRon : String :=
  "(\n    campaigns: \x7b\"Old \\\"Town\\\"\": (episodes: Some(3))\x7d,\n"
    ++ "    victory: Some(oranges(location: \"Gate\")),\n)\n"

theorem isText_townJson : town.IsText .json townJson :=
  ⟨_, .compact, allows_townMembers Json.form, Json.Layout.neutral_compact, by decide +kernel⟩

theorem wellSpelled_townMembers : ∀ m ∈ townMembers Ron.form, Ron.WellSpelled m.2 := by
  simp only [townMembers, List.forall_mem_cons]
  refine ⟨?_, ?_, by simp⟩
  · refine .map (List.forall_mem_singleton.mpr (.record (by simp) (by simp) ?_ ?_))
    · decide +kernel
    · exact List.forall_mem_singleton.mpr (.present (Ron.wellSpelled_ofWord 3))
  · refine .present (.record (by decide +kernel) (by simp) (by decide +kernel) ?_)
    exact List.forall_mem_singleton.mpr (Ron.wellSpelled_text _)

theorem isText_townRon : town.IsText .ron townRon := by
  have hfirst : Ron.Blanks "\n    ".toList := by simp [Ron.Blanks, Ron.isSpace]
  have hlast : Ron.Blanks ['\n'] := by simp [Ron.Blanks, Ron.isSpace]
  have hlisting : Ron.Listing ')' String.toList
      ((townMembers Ron.form).map fun m => Ron.Part.written m.1 m.2) _ :=
    .cons (Ron.Part.stands_written _ _ _) hfirst
      (.cons (Ron.Part.stands_written _ _ _) hlast .nil)
  have hspells : Ron.Spells (Ron.form.record (townMembers Ron.form)) _ :=
    @Ron.Spells.record none _ _ _ (by simp) (by simp [townMembers]) hfirst hlisting
      (by decide +kernel) (List.forall_mem_map.mpr wellSpelled_townMembers)
  exact ⟨_, [], _, ['\n'], allows_townMembers Ron.form, by simp [Ron.Blanks], hlast, hspells,
    by decide +kernel⟩

theorem formats_agree_town :
    town.IsText .json townJson ∧ town.IsText .ron townRon
      ∧ parse .json ⟨"town.json"⟩ townJson = .ok town ∧ parse .ron ⟨"town.ron"⟩ townRon = .ok town
      ∧ (parse .json ⟨"town.json"⟩ townJson).map compile
        = (parse .ron ⟨"town.ron"⟩ townRon).map compile := by
  obtain ⟨-, -, hagree⟩ := formats_agree town ⟨"town.json"⟩ ⟨"town.ron"⟩
  exact ⟨isText_townJson, isText_townRon,
    hagree townJson townRon isText_townJson isText_townRon⟩

end Catalog

end Worldsmith
