/-
A world that comes from a catalog refers to nothing that is not there.

Each section of a catalog brings along what its registrations refer to: a campaign's
locations are behind the item that the same campaign registers, a gated category holds the
option registered just before it.  `Resolves` says this of a registration and a list, and it
stays true as the list grows, so the sections can be looked at one by one.  Only the victory
may refer to another section, and it is refused when that is left out.

Since no requirement of a catalog is raw text, the check of the world finds what the
specifications refer to, whatever the names are; so there is nothing to report
(`resolved_of_compile`).
-/
import Worldsmith.Proofs.Catalog.Building
import Worldsmith.Proofs.World.References

namespace Worldsmith

open Registration (namesIn entriesIn)

/-! ### What registrations refer to -/

namespace Registration

/-- The list registers what the subject stands for. -/
def Provides (rs : List Registration) : Subject → Prop
  | .item name => name ∈ namesIn .items rs
  | .category name => name ∈ namesIn .categories rs

/-- The list registers everything that the registration refers to. -/
def Resolves (rs : List Registration) : Registration → Prop
  | .location _ spec =>
    (∀ s ∈ spec.subjects, Provides rs s)
      ∧ (∀ name ∈ Reference.namesOf? spec.placedItems?, name ∈ namesIn .items rs)
      ∧ ∀ name ∈ Reference.namesOf? spec.placedItemCategories?, name ∈ namesIn .categories rs
  | .category _ spec => ∀ name ∈ Reference.namesOf? spec.options?, name ∈ namesIn .options rs
  | .item .. | .option .. => True

theorem Resolves.mono {rs rs' : List Registration} (h : rs ⊆ rs') {r : Registration}
    (hr : Resolves rs r) : Resolves rs' r := by
  cases r with
  | item name spec => trivial
  | option name spec => trivial
  | category name spec => exact fun name hname => namesIn_mono h _ (hr name hname)
  | location name spec =>
      obtain ⟨hsubjects, hitems, hcategories⟩ := hr
      refine ⟨fun s hs => ?_, fun n hn => namesIn_mono h _ (hitems n hn),
        fun n hn => namesIn_mono h _ (hcategories n hn)⟩
      have hprovides := hsubjects s hs
      cases s with
      | item name => exact namesIn_mono h _ hprovides
      | category name => exact namesIn_mono h _ hprovides

/-- A registration that is structure throughout and is resolved by the list. -/
structure Sound (rs : List Registration) (r : Registration) : Prop where
  rawFree : r.RawFree
  resolves : Resolves rs r

theorem Sound.mono {rs rs' : List Registration} (h : rs ⊆ rs') {r : Registration}
    (hr : Sound rs r) : Sound rs' r :=
  ⟨hr.rawFree, hr.resolves.mono h⟩

theorem sound_item (rs : List Registration) (name : String) (spec : Item.Spec) :
    Sound rs (.item name spec) :=
  ⟨trivial, trivial⟩

theorem sound_option (rs : List Registration) (name : String) (spec : ToggleOption.Spec) :
    Sound rs (.option name spec) :=
  ⟨trivial, trivial⟩

end Registration

/-! ### Worlds of sound registrations -/

namespace World

variable {w : World} {rs : List Registration}

/-- Every entry is one that was asked for. -/
theorem registration_of_entry (h : ({} : World).enterAll rs = .ok w) {t : TableName}
    {e : String × Entity} (he : e ∈ w.entries t) : ∃ r ∈ rs, r.name = e.1 ∧ r.entity = e.2 := by
  rw [entries_enterAll h, entries_empty, List.nil_append, entriesIn] at he
  obtain ⟨r, hr, rfl⟩ := List.mem_map.mp he
  exact ⟨r, (List.mem_filter.mp hr).1, rfl, rfl⟩

theorem registration_of_location (h : ({} : World).enterAll rs = .ok w) {l : Location}
    (hl : l ∈ w.locations.values) :
    ∃ name spec, .location name spec ∈ rs ∧ Location.ofSpec name spec = l := by
  obtain ⟨e, he, rfl⟩ := List.mem_map.mp hl
  have hentry : (e.1, Entity.location e.2) ∈ w.entries .locations := List.mem_map_of_mem he
  obtain ⟨r, hr, -, hentity⟩ := registration_of_entry h hentry
  cases r with
  | location name spec => exact ⟨name, spec, hr, Entity.location.inj hentity⟩
  | item | category | option => cases hentity

theorem registration_of_category (h : ({} : World).enterAll rs = .ok w) {c : Category}
    (hc : c ∈ w.categories.values) :
    ∃ name spec, .category name spec ∈ rs ∧ Category.ofSpec name spec = c := by
  obtain ⟨e, he, rfl⟩ := List.mem_map.mp hc
  have hentry : (e.1, Entity.category e.2) ∈ w.entries .categories := List.mem_map_of_mem he
  obtain ⟨r, hr, -, hentity⟩ := registration_of_entry h hentry
  cases r with
  | category name spec => exact ⟨name, spec, hr, Entity.category.inj hentity⟩
  | item | location | option => cases hentity

/-- **What is sound as it is registered is resolved as it is stored.** -/
theorem resolved_of_enterAll (h : ({} : World).enterAll rs = .ok w)
    (hsound : ∀ r ∈ rs, r.Sound rs) : w.Resolved := by
  obtain ⟨-, hfault⟩ := enterAll_ok_iff.mp ⟨w, h⟩
  have hnames : ∀ t, w.names t = namesIn t rs := fun t => by
    rw [names_enterAll h, names_empty, List.nil_append]
  have hknows : ∀ s, Registration.Provides rs s → w.Knows s := by
    intro s hs
    cases s with
    | item name => rwa [Knows, ← names_items, hnames]
    | category name =>
        refine List.mem_append_left _ ?_
        rwa [← names_categories, hnames]
  constructor
  · intro l hl text htext m hm
    obtain ⟨name, spec, hr, rfl⟩ := registration_of_location h hl
    refine hknows _ ((hsound _ hr).resolves.1 _ ?_)
    rw [← map_subject_scan (hsound _ hr).rawFree (hfault _ hr), htext]
    exact List.mem_map_of_mem hm
  · intro l hl n hn
    obtain ⟨name, spec, hr, rfl⟩ := registration_of_location h hl
    exact hknows (.item n) ((hsound _ hr).resolves.2.1 n hn)
  · intro l hl n hn
    obtain ⟨name, spec, hr, rfl⟩ := registration_of_location h hl
    exact hknows (.category n) ((hsound _ hr).resolves.2.2 n hn)
  · intro c hc
    obtain ⟨name, spec, hr, rfl⟩ := registration_of_category h hc
    rw [← names_options, hnames]
    exact (hsound _ hr).resolves

end World

/-! ### Catalogs -/

namespace Catalog

open Registration (Sound Resolves mem_namesIn)

/-- A location that depends on one subject, where items may be placed. -/
theorem sound_location {rs : List Registration} {name : String} {spec : Location.Spec}
    {r : Requirement} {s : Subject} (hrequires : spec.requires? = some r) (hraw : r.RawFree)
    (hsubjects : r.subjects = [s]) (hs : Registration.Provides rs s)
    (hplaced : ∀ n ∈ Reference.namesOf? spec.placedItems?, n ∈ namesIn .items rs)
    (hcategories : spec.placedItemCategories? = none) : Sound rs (.location name spec) where
  rawFree := by
    intro r' hr'
    obtain rfl : r = r' := Option.some.inj (hrequires.symm.trans hr')
    exact hraw
  resolves := by
    refine ⟨fun s' hs' => ?_, hplaced, by simp [hcategories, Reference.namesOf?]⟩
    rw [Location.Spec.subjects, hrequires, Option.map_some, Option.getD_some, hsubjects] at hs'
    obtain rfl : s' = s := List.mem_singleton.mp hs'
    exact hs

theorem sound_lockedLocation {rs : List Registration} {unlock : String}
    (hunlock : unlock ∈ namesIn .items rs) (name : String) (category : Reference Category)
    (pack? : Option String) : Sound rs (lockedLocation name category pack? unlock) :=
  sound_location rfl (.subject _) rfl hunlock (by simp [Reference.namesOf?]) rfl

variable (c : Catalog)

theorem sound_completion {rs : List Registration} {reward location unlock : String}
    {category : Reference Category} {pack? : Option String}
    (hsub : c.completionRegistrations reward location category pack? unlock ⊆ rs)
    (hunlock : unlock ∈ namesIn .items rs) :
    ∀ r ∈ c.completionRegistrations reward location category pack? unlock, Sound rs r := by
  intro r hr
  unfold completionRegistrations at hsub hr
  split at hr
  · rename_i htrack
    rw [if_pos htrack] at hsub
    have hreward : reward ∈ namesIn .items rs :=
      mem_namesIn (r := keyItem reward (.entity completed) pack?) (hsub List.mem_cons_self)
    rcases List.mem_pair.mp hr with rfl | rfl
    · exact Registration.sound_item ..
    · refine sound_location rfl (.subject _) rfl hunlock (fun n hn => ?_) rfl
      obtain rfl : n = reward := List.mem_singleton.mp hn
      exact hreward
  · cases hr

theorem sound_campaign (name : String) (campaign : Campaign) :
    ∀ r ∈ c.campaignRegistrations name campaign,
      Sound (c.campaignRegistrations name campaign) r := by
  have hunlock : Names.campaignUnlock c name
      ∈ namesIn .items (c.campaignRegistrations name campaign) :=
    mem_namesIn (r := keyItem (Names.campaignUnlock c name) (.name Names.campaigns) campaign.pack?)
      List.mem_cons_self
  intro r hr
  rcases List.mem_append.mp hr with hr | hcompletion
  · rcases List.mem_cons.mp hr with rfl | hepisode
    · exact Registration.sound_item ..
    · obtain ⟨episode, -, rfl⟩ := List.mem_map.mp hepisode
      exact sound_lockedLocation hunlock ..
  · exact c.sound_completion (List.subset_append_right _ _) hunlock r hcompletion

theorem sound_extra (name : String) (extra : ExtraEpisode) :
    ∀ r ∈ c.extraRegistrations name extra, Sound (c.extraRegistrations name extra) r := by
  have hunlock : Names.extraUnlock name ∈ namesIn .items (c.extraRegistrations name extra) :=
    mem_namesIn (r := keyItem (Names.extraUnlock name) (.name Names.campaigns) extra.pack?)
      List.mem_cons_self
  intro r hr
  rcases List.mem_append.mp hr with hr | hcompletion
  · rcases List.mem_pair.mp hr with rfl | rfl
    · exact Registration.sound_item ..
    · exact sound_lockedLocation hunlock ..
  · exact c.sound_completion (List.subset_append_right _ _) hunlock r hcompletion

theorem sound_pack {rs : List Registration} {pack : String} (h : Pack.option pack ∈ rs) :
    Sound rs (Pack.option pack) ∧ Sound rs (Pack.gate pack) := by
  refine ⟨Registration.sound_option .., trivial, fun name hname => ?_⟩
  obtain rfl : name = Pack.optionName pack := List.mem_singleton.mp hname
  exact mem_namesIn h

theorem sound_gated {rs : List Registration} {category option kind : String}
    (hsub : gatedRegistrations category option kind ⊆ rs) :
    ∀ r ∈ gatedRegistrations category option kind, Sound rs r := by
  intro r hr
  rcases List.mem_pair.mp hr with rfl | rfl
  · exact Registration.sound_option ..
  · refine ⟨trivial, fun name hname => ?_⟩
    obtain rfl : name = option := List.mem_singleton.mp hname
    exact mem_namesIn (r := .option name (randomizeSpec kind)) (hsub List.mem_cons_self)

theorem sound_characters :
    ∀ r ∈ c.characterRegistrations, Sound c.characterRegistrations r := by
  unfold characterRegistrations
  split
  · intro r hr
    cases hr
  · intro r hr
    rcases List.mem_append.mp hr with hr | hgoal
    · rcases List.mem_append.mp hr with hgated | hitem
      · refine sound_gated (fun r hr => ?_) r hgated
        exact List.mem_append_left _ (List.mem_append_left _ hr)
      · obtain ⟨e, -, rfl⟩ := List.mem_map.mp hitem
        exact Registration.sound_item ..
    · obtain ⟨e, he, hr⟩ := List.mem_flatMap.mp hgoal
      obtain ⟨goal, -, rfl⟩ := List.mem_map.mp hr
      refine sound_location rfl (.gate (.subject _)) rfl ?_ (by simp [Reference.namesOf?]) rfl
      refine mem_namesIn (r := characterItem e.1) ?_
      exact List.mem_append_left _ (List.mem_append_right _ (List.mem_map_of_mem he))

theorem sound_cards : ∀ r ∈ c.cardRegistrations, Sound c.cardRegistrations r := by
  unfold cardRegistrations
  split
  · intro r hr
    cases hr
  · intro r hr
    rcases List.mem_append.mp hr with hgated | hitem
    · exact sound_gated (List.subset_append_left _ _) r hgated
    · obtain ⟨e, -, rfl⟩ := List.mem_map.mp hitem
      exact Registration.sound_item ..

/-- The victory refers to the oranges, which it brings along, or to the category of
completed campaigns. -/
theorem sound_victory {rs : List Registration} {v : Victory}
    (hsub : victoryRegistrations v ⊆ rs)
    (htracked : ∀ location percent, v = .completedCampaigns location percent →
      Names.completedCampaigns ∈ namesIn .categories rs) :
    ∀ r ∈ victoryRegistrations v, Sound rs r := by
  intro r hr
  cases v with
  | oranges location count percent =>
      rcases List.mem_pair.mp hr with rfl | rfl
      · exact Registration.sound_item ..
      · refine sound_location rfl (.threshold _ _) rfl ?_ (by simp [Reference.namesOf?]) rfl
        exact mem_namesIn (r := orangeItem count) (hsub List.mem_cons_self)
  | completedCampaigns location percent =>
      obtain rfl := List.mem_singleton.mp hr
      refine sound_location rfl (.threshold _ _) rfl ?_ (by simp [Reference.namesOf?]) rfl
      exact htracked location percent rfl

theorem sound_registrations (hno : ∀ e, .refuse e ∉ c.plan) :
    ∀ r ∈ c.registrations, Sound c.registrations r := by
  obtain ⟨htracking, hcampaigns, hextras, hpacks, hcharacters, hcards, hvictory⟩ :=
    (c.forall_registrations_iff (P := (· ∈ c.registrations))).mp fun _ hr => hr
  refine c.forall_registrations_iff.mpr ⟨?_, ?_, ?_, ?_, ?_, ?_, ?_⟩
  · intro r hr
    unfold trackingRegistrations at hr
    split at hr
    · obtain rfl := List.mem_singleton.mp hr
      exact ⟨trivial, by simp [Resolves, Reference.namesOf?]⟩
    · cases hr
  · exact fun e he r hr => (c.sound_campaign e.1 e.2 r hr).mono (hcampaigns e he)
  · exact fun e he r hr => (c.sound_extra e.1 e.2 r hr).mono (hextras e he)
  · exact fun pack hpack => sound_pack (hpacks pack hpack).1
  · exact fun r hr => (c.sound_characters r hr).mono hcharacters
  · exact fun r hr => (c.sound_cards r hr).mono hcards
  · intro v hv
    refine sound_victory (hvictory v hv) ?_
    rintro location percent rfl
    have htrack := c.refuse_notMem_plan_iff.mp hno location percent hv
    refine mem_namesIn (r := .category Names.completedCampaigns { hidden := true }) ?_
    exact htracking _ (by rw [trackingRegistrations, if_pos htrack]; exact List.mem_cons_self)

theorem resolved_world {w : World} (h : c.compile.1 = .ok w) : w.Resolved := by
  obtain ⟨hno, henter⟩ := c.compile_eq_ok_iff.mp h
  exact World.resolved_of_enterAll henter (c.sound_registrations hno)

theorem unresolved_world {w : World} (h : c.compile.1 = .ok w) : w.unresolved = [] :=
  World.unresolved_eq_nil_iff.mpr (c.resolved_world h)

/-- **Whatever a catalog says, its world passes the check**: every subject that is found in
the text of a requirement, every item that is placed and every option of a category is
there. -/
theorem resolved_of_compile {w : World} (h : c.compile.1 = .ok w) :
    w.unresolved = [] ∧ w.validate = .ok () ∧ w.Resolved := by
  have hnone := c.unresolved_world h
  exact ⟨hnone, World.validate_eq_ok_iff.mpr hnone, c.resolved_world h⟩

/-- A catalog with every section in it, and with names that look like the grammar of
requirements. -/
def park : Catalog where
  campaigns := Table.ofList [
    ("Rise: (a) and \x7bb", { episodes? := some 2, pack? := some "Big Pack" }),
    ("Fall", {})]
  extraEpisodes := Table.ofList [("Rise:7x", { pack? := some "Big Pack" })]
  characters := Table.ofList [("Fall", { goal? := some "|win|" }), ("Max:", {})]
  cards := Table.ofList [("@card", { count := 3 })]
  victory? := some (.completedCampaigns "End" "80%")
  trackCompletion := true

theorem resolved_of_compile_park :
    ∃ w, park.compile.1 = .ok w ∧ w.unresolved = [] ∧ w.validate = .ok () ∧ w.Resolved := by
  have hok : park.compile.1.toOption.isSome = true := by decide +kernel
  cases hcompile : park.compile.1 with
  | error e => rw [hcompile] at hok; cases hok
  | ok w => exact ⟨w, rfl, resolved_of_compile park hcompile⟩

end Catalog

end Worldsmith
