/-
Thresholds that ask for nothing.

The report of a bad amount calls for a positive count or a share, and `Amount.Proper` is what it
calls for.  The check behind it looks at shares only and lets every count pass, zero too, so a
threshold of zero has text like any other (`exists_vacuous_threshold`).

It is the one thing that gets through: whatever else is not proper keeps a tree from having text.
In the world of a catalog only the victory measures anything, and so a victory that is won with
nothing is told by the text of its amount: zeros, perhaps with a plus sign.
-/
import Worldsmith.Proofs.Catalog.Names
import Worldsmith.Proofs.Catalog.Parts
import Worldsmith.Proofs.Requirement.Amount
import Worldsmith.Proofs.Requirement.Grammar

namespace Worldsmith

namespace Amount

/-- What the report of a bad amount calls for. -/
inductive Proper : Amount → Prop
  | count {k : UInt32} (h : 0 < k) : Proper (.count k)
  | share {text : String} (h : IsShare text) : Proper (.percent text)

/-- Text that is zero as a number, perhaps with a plus sign. -/
def IsZero (text : String) : Prop :=
  ∃ zeros, zeros ≠ [] ∧ (∀ c ∈ zeros, c = '0') ∧ (text.toList = zeros ∨ text.toList = '+' :: zeros)

theorem not_proper_zero : ¬ (count 0).Proper := by
  rintro (h | -)
  exact absurd h (by decide)

/-- **The check lets zero pass**, and nothing else that it should not. -/
theorem fault?_eq_none_iff_proper {a : Amount} : a.fault? = none ↔ a.Proper ∨ a = .count 0 := by
  cases a with
  | count k =>
      refine ⟨fun _ => ?_, fun _ => rfl⟩
      by_cases hk : k = 0
      · exact .inr (congrArg count hk)
      · exact .inl (.count (UInt32.pos_iff_ne_zero.mpr hk))
  | percent text =>
      rw [← isShare_iff]
      constructor
      · intro h
        exact .inl (.share h)
      · rintro (hproper | hzero)
        · cases hproper with
          | share h => exact h
        · cases hzero

theorem proper_iff_of_fault? {a : Amount} (h : a.fault? = none) : a.Proper ↔ a ≠ .count 0 := by
  constructor
  · rintro hproper rfl
    exact not_proper_zero hproper
  · exact (fault?_eq_none_iff_proper.mp h).resolve_right

theorem ofText_eq_zero_iff {text : String} : ofText text = .count 0 ↔ IsZero text := by
  rw [ofText_eq_count_iff]
  simp only [IsNumber, IsZero, UInt32.toNat_zero, Text.numeral_zero_iff, and_assoc]

end Amount

/-! ### Trees -/

namespace Requirement

variable {r : Requirement}

theorem amount_fault?_of_mem_nodes (h : r.fault? = none) {s : Subject} {a : Amount}
    (hmem : .threshold s a ∈ r.nodes) : a.fault? = none := by
  rw [fault?_eq_findSome?, List.findSome?_eq_none_iff] at h
  cases Node.fault?_eq_none_iff.mp (h _ hmem) with
  | threshold _ hvalid => exact Amount.fault?_eq_none_iff.mpr hvalid

/-- An amount that is reported is that of a threshold in the tree, and is not zero. -/
theorem exists_threshold_of_invalidAmount {text : String}
    (h : r.fault? = some (.invalidAmount text)) :
    ∃ s, .threshold s (.percent text) ∈ r.nodes ∧ ¬ (Amount.percent text).Proper := by
  rw [fault?_eq_findSome?] at h
  obtain ⟨n, hn, hfault⟩ := List.exists_of_findSome?_eq_some h
  cases (Node.gravest_of_fault? hfault).1 with
  | subject hs | threshold hs => exact absurd hs.rank_lt (Nat.lt_irrefl 3)
  | @amount s a hvalid =>
      cases a with
      | count k => exact absurd (.count k) hvalid
      | percent text =>
          refine ⟨s, hn, fun hproper => hvalid ?_⟩
          exact Amount.fault?_eq_none_iff.mp (Amount.fault?_eq_none_iff_proper.mpr (.inl hproper))

end Requirement

/-! ### Catalogs -/

/-- What a victory needs a number of. -/
def Victory.measured : Victory → Subject
  | .oranges .. => .item Names.orange
  | .completedCampaigns .. => .category Names.completedCampaigns

namespace Catalog

variable {c : Catalog} {l : Location} {r : Requirement} {s : Subject} {a : Amount}

/-- Only the victory measures anything. -/
theorem HasLocation.exists_victory (h : c.HasLocation l r) (hmem : .threshold s a ∈ r.nodes) :
    ∃ v, c.victory? = some v ∧ l.name = v.location ∧ s = v.measured
      ∧ a = Amount.ofText v.percent := by
  cases h with
  | episode | completion | goal => simp [Requirement.nodes] at hmem
  | oranges hv | completedCampaigns hv =>
      cases List.mem_singleton.mp hmem
      exact ⟨_, hv, rfl, rfl, rfl⟩

theorem hasLocation_victory {v : Victory} (hv : c.victory? = some v) :
    ∃ l, l.name = v.location
      ∧ c.HasLocation l (.threshold v.measured (Amount.ofText v.percent)) := by
  cases v with
  | oranges location count percent => exact ⟨_, rfl, .oranges hv⟩
  | completedCampaigns location percent => exact ⟨_, rfl, .completedCampaigns hv⟩

/-- A location of the world measures what the victory needs if it is the victory's, and nothing
otherwise. -/
theorem HasLocation.threshold_iff {w : World} (h : c.compile.1 = .ok w) (hl : c.HasLocation l r) :
    .threshold s a ∈ r.nodes ↔
      ∃ v, c.victory? = some v ∧ l.name = v.location ∧ s = v.measured
        ∧ a = Amount.ofText v.percent := by
  constructor
  · exact hl.exists_victory
  · rintro ⟨v, hv, hname, rfl, rfl⟩
    obtain ⟨l', hname', hl'⟩ := hasLocation_victory hv
    obtain rfl : l' = l := Table.eq_of_mem_entries ((mem_locations_iff h).mpr ⟨rfl, _, hl'⟩)
      ((mem_locations_iff h).mpr ⟨hname.trans hname'.symm, _, hl⟩)
    -- the location has one text, and the text is that of one tree only
    have htext := Option.some.inj (hl.requires?_eq.symm.trans hl'.requires?_eq)
    have hread := Requirement.parse?_text hl.rawFree (hl.fault? h)
    rw [htext, Requirement.parse?_text hl'.rawFree (hl'.fault? h)] at hread
    rw [← Option.some.inj hread]
    exact List.mem_singleton_self _

/-- **What thresholds of text ask for.**  In a tree that has text they are proper, all but those
of zero; and an amount that is reported is that of a threshold that is not.  Text is read as zero
only if it is zeros, perhaps with a plus sign.  And in the world of a catalog the requirements
read back as trees, in which nothing is measured but what the victory needs, in its location:
that is proper unless the victory is won with zero. -/
theorem thresholds_of_compile (r : Requirement) (c : Catalog) :
    (∀ text, r.compile = .ok text →
        ∀ s a, .threshold s a ∈ r.nodes → (a.Proper ↔ a ≠ .count 0))
      ∧ (∀ text, r.compile = .error (.invalidAmount text) →
        ∃ s, .threshold s (.percent text) ∈ r.nodes ∧ ¬ (Amount.percent text).Proper)
      ∧ (∀ text, Amount.ofText text = .count 0 ↔ Amount.IsZero text)
      ∧ ∀ w, c.compile.1 = .ok w →
        (∀ l ∈ w.locations.values, ∃ r : Requirement,
          l.requires? = some r.text ∧ Requirement.parse? r.text = some r
            ∧ ∀ s a, .threshold s a ∈ r.nodes ↔
                ∃ v, c.victory? = some v ∧ l.name = v.location ∧ s = v.measured
                  ∧ a = Amount.ofText v.percent)
        ∧ ∀ v, c.victory? = some v →
          ((Amount.ofText v.percent).Proper ↔ ¬ Amount.IsZero v.percent) := by
  refine ⟨fun text hr s a hmem => ?_, fun text hr => ?_,
    fun text => Amount.ofText_eq_zero_iff, fun w h => ⟨fun l hl => ?_, fun v hv => ?_⟩⟩
  · have hfault := (Requirement.compile_eq_ok_iff.mp hr).1
    exact Amount.proper_iff_of_fault? (Requirement.amount_fault?_of_mem_nodes hfault hmem)
  · exact Requirement.exists_threshold_of_invalidAmount (Requirement.compile_eq_error_iff.mp hr)
  · obtain ⟨r, hlocation⟩ := (mem_locations_values_iff h).mp hl
    have hread := Requirement.parse?_text hlocation.rawFree (hlocation.fault? h)
    exact ⟨r, hlocation.requires?_eq, hread, fun s a => hlocation.threshold_iff h⟩
  · obtain ⟨l, -, hlocation⟩ := hasLocation_victory hv
    have hfault := Requirement.amount_fault?_of_mem_nodes (hlocation.fault? h)
      (List.mem_singleton_self _)
    rw [Amount.proper_iff_of_fault? hfault, ne_eq, Amount.ofText_eq_zero_iff]

/-- A catalog that is won with none of the oranges. -/
def toll : Catalog where
  campaigns := Table.ofList [("Bridge", {})]
  victory? := some (.oranges "Gate" 5 "+00")

/-- A tree with a threshold of each kind. -/
def tollRequirement : Requirement :=
  .combination .or [
    .threshold (.item "Orange") (.count 3),
    .gate .optOne (.threshold (.category "Oranges") (.percent "070%")),
    .threshold (.item "Orange") (.count 0)]

theorem thresholds_of_compile_toll :
    (∃ text, tollRequirement.compile = .ok text
        ∧ ∀ s a, .threshold s a ∈ tollRequirement.nodes → (a.Proper ↔ a ≠ .count 0))
      ∧ (∃ s, .threshold s (.percent "few") ∈
          (Requirement.threshold (.item "Orange") (.percent "few")).nodes
        ∧ ¬ (Amount.percent "few").Proper)
      ∧ Amount.ofText "+00" = .count 0
      ∧ ∃ w, toll.compile.1 = .ok w
        ∧ (∀ l ∈ w.locations.values, ∃ r : Requirement,
          l.requires? = some r.text ∧ Requirement.parse? r.text = some r
            ∧ ∀ s a, .threshold s a ∈ r.nodes ↔
                ∃ v, toll.victory? = some v ∧ l.name = v.location ∧ s = v.measured
                  ∧ a = Amount.ofText v.percent)
        ∧ ¬ (Amount.ofText "+00").Proper := by
  have htree : tollRequirement.compile = .ok tollRequirement.text :=
    Requirement.compile_eq_ok_iff.mpr ⟨by decide +kernel, rfl⟩
  have hcatalog : toll.compile.1.toOption.isSome = true := by decide +kernel
  have hzero : Amount.IsZero "+00" :=
    ⟨['0', '0'], List.cons_ne_nil _ _, by simp, .inr (by decide +kernel)⟩
  have htoll := thresholds_of_compile tollRequirement toll
  have hreport := (thresholds_of_compile (.threshold (.item "Orange") (.percent "few")) toll).2.1
  refine ⟨⟨_, htree, htoll.1 _ htree⟩, hreport _ (by decide +kernel),
    (htoll.2.2.1 _).mpr hzero, ?_⟩
  cases hcompile : toll.compile.1 with
  | error e => rw [hcompile] at hcatalog; cases hcatalog
  | ok w =>
      obtain ⟨hlocations, hproper⟩ := htoll.2.2.2 _ hcompile
      exact ⟨w, rfl, hlocations, fun h => (hproper _ rfl).mp h hzero⟩

/-- **Zero has text.**  A threshold of zero is not proper, yet nothing is reported of it, and a
catalog may be won with it. -/
theorem exists_vacuous_threshold :
    (Requirement.threshold (.item "Orange") (.count 0)).compile = .ok "|Orange:0|"
      ∧ ¬ (∀ (r : Requirement) text, r.compile = .ok text →
        ∀ s a, .threshold s a ∈ r.nodes → a.Proper)
      ∧ ∃ w, toll.compile.1 = .ok w
        ∧ ∃ l ∈ w.locations.values, l.victory = true ∧ l.requires? = some "|Orange:0|" := by
  have htree : (Requirement.threshold (.item "Orange") (.count 0)).compile = .ok "|Orange:0|" := by
    decide +kernel
  have hcatalog : toll.compile.1.toOption.map (fun w =>
      w.locations.values.any fun l => l.victory && l.requires? == some "|Orange:0|")
        = some true := by decide +kernel
  refine ⟨htree, fun hall => ?_, ?_⟩
  · exact Amount.not_proper_zero (hall _ _ htree _ _ (List.mem_singleton_self _))
  · cases hcompile : toll.compile.1 with
    | error e => rw [hcompile] at hcatalog; cases hcatalog
    | ok w =>
        rw [hcompile] at hcatalog
        obtain ⟨l, hl, hgoal⟩ := List.any_eq_true.mp (Option.some.inj hcatalog)
        obtain ⟨hvictory, hrequires⟩ := Bool.and_eq_true_iff.mp hgoal
        exact ⟨w, rfl, l, hl, hvictory, eq_of_beq hrequires⟩

end Catalog

end Worldsmith
