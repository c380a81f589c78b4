/-
Lookup in a table.

A key stands in a table once, so a lookup finds the one value under it.  A value that is
changed is changed where it stands.  After a value is set, it is found under its key, and under
every other key what was found before.
-/
import Mathlib.Data.List.Nodup
import Worldsmith.Table

namespace Worldsmith.Table

variable {κ α : Type}

/-- Under a key there is one value. -/
theorem eq_of_mem_entries {t : Table κ α} {k : κ} {v v' : α} (h : (k, v) ∈ t.entries)
    (h' : (k, v') ∈ t.entries) : v = v' := by
  have hsame := List.inj_on_of_nodup_map t.distinct h h' rfl
  exact (Prod.mk.inj hsame).2

variable [DecidableEq κ]

theorem get?_push (t : Table κ α) {k : κ} (v : α) (h : k ∉ t.keys) (k' : κ) :
    (t.push k v h).get? k' = if k' = k then some v else t.get? k' := by
  rw [get?, entries_push, List.find?_append, Option.map_or]
  split
  · rename_i heq
    subst heq
    have hnone : t.get? k' = none := get?_eq_none_iff.mpr h
    rw [← get?, hnone]
    simp
  · rename_i hne
    rw [← get?, List.find?_singleton, if_neg (by simpa using Ne.symm hne)]
    simp

theorem get?_modify (t : Table κ α) (k : κ) (f : α → α) (k' : κ) :
    (t.modify k f).get? k' = (t.get? k').map fun v => if k' = k then f v else v := by
  rw [get?, modify, List.find?_map, Option.map_map, get?, Option.map_map]
  cases hfind : t.entries.find? (fun e => e.1 = k') with
  | none => simp [Function.comp_def, hfind]
  | some e =>
      have hkey : e.1 = k' := by simpa using List.find?_some hfind
      simp [Function.comp_def, hfind, hkey]

/-- **A value that was set** is found under its key, and under no other. -/
theorem get?_set (t : Table κ α) (k : κ) (v : α) (k' : κ) :
    (t.set k v).get? k' = if k' = k then some v else t.get? k' := by
  rw [set]
  split
  · rename_i hmem
    rw [get?_modify]
    by_cases heq : k' = k
    · subst heq
      obtain ⟨v', hv'⟩ := Option.ne_none_iff_exists'.mp fun hnone => get?_eq_none_iff.mp hnone hmem
      simp [hv']
    · simp [heq]
  · exact get?_push t v _ k'

/-- A value that is there is changed where it stands, and no other. -/
theorem entries_modify {t : Table κ α} {k : κ} {v : α} (h : t.get? k = some v) (f : α → α) :
    ∃ before after, t.entries = before ++ (k, v) :: after
      ∧ (t.modify k f).entries = before ++ (k, f v) :: after := by
  obtain ⟨⟨k', v'⟩, hfind, rfl⟩ := Option.map_eq_some_iff.mp h
  obtain ⟨hk, before, after, hentries, -⟩ := List.find?_eq_some_iff_append.mp hfind
  obtain rfl : k' = k := of_decide_eq_true hk
  have hdistinct := t.distinct
  rw [hentries, List.map_append, List.map_cons, List.nodup_middle, List.nodup_cons,
    ← List.map_append] at hdistinct
  have hother : ∀ es ⊆ before ++ after,
      es.map (fun e => (e.1, if e.1 = k' then f e.2 else e.2)) = es := by
    intro es hes
    refine (List.map_congr_left fun e he => ?_).trans (List.map_id _)
    have hne : e.1 ≠ k' := fun heq => hdistinct.1 (List.mem_map.mpr ⟨e, hes he, heq⟩)
    rw [if_neg hne]
    rfl
  refine ⟨before, after, hentries, ?_⟩
  calc (t.modify k' f).entries
      = (before ++ (k', v') :: after).map (fun e => (e.1, if e.1 = k' then f e.2 else e.2)) := by
        rw [← hentries]
        rfl
    _ = before ++ (k', f v') :: after := by
        rw [List.map_append, List.map_cons, hother _ (List.subset_append_left _ _),
          hother _ (List.subset_append_right _ _), if_pos rfl]

/-- Setting what is there already changes nothing. -/
theorem set_eq_self {t : Table κ α} {k : κ} {v : α} (h : t.get? k = some v) : t.set k v = t := by
  have hkey : k ∈ t.keys := by
    by_contra hnot
    rw [get?_eq_none_iff.mpr hnot] at h
    cases h
  obtain ⟨before, after, hentries, hmodify⟩ := entries_modify h fun _ => v
  rw [set, dif_pos hkey]
  exact ext (hmodify.trans hentries.symm)

/-- Entries under keys of their own are added one by one. -/
theorem entries_foldl_set (es : List (κ × α)) (t : Table κ α)
    (h : ((t.entries ++ es).map Prod.fst).Nodup) :
    (es.foldl (fun t e => t.set e.1 e.2) t).entries = t.entries ++ es := by
  induction es generalizing t with
  | nil => simp
  | cons e es ih =>
      have hfresh : e.1 ∉ t.keys := by
        rw [List.map_append, List.nodup_append] at h
        exact fun hmem => h.2.2 e.1 hmem e.1 List.mem_cons_self rfl
      have hpush : (t.push e.1 e.2 hfresh).entries ++ es = t.entries ++ e :: es := by simp
      rw [List.foldl_cons, set, dif_neg hfresh, ih _ (by rwa [hpush]), hpush]

/-- **A table is made again from its entries.** -/
theorem ofList_entries (t : Table κ α) : ofList t.entries = t := by
  refine ext ((entries_foldl_set t.entries empty ?_).trans (List.nil_append _))
  exact t.distinct

end Worldsmith.Table
