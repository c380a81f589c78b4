/-
Tables: entries under distinct keys, in the order they were added.

Everything a world is made of is looked up by name and written out in the order it was
registered, so one type serves both needs.  That no key occurs twice is part of the
type: `push` asks for a fresh key, and `set` on a key that is taken replaces the value
where it stands.
-/
namespace Worldsmith

structure Table (κ : Type) (α : Type) where
  entries : List (κ × α)
  distinct : (entries.map Prod.fst).Nodup

namespace Table

variable {κ α : Type}

def empty : Table κ α := ⟨[], List.nodup_nil⟩

instance : EmptyCollection (Table κ α) := ⟨empty⟩

instance : Inhabited (Table κ α) := ⟨empty⟩

theorem ext {t u : Table κ α} (h : t.entries = u.entries) : t = u := by
  cases t; cases u; cases h; rfl

def keys (t : Table κ α) : List κ := t.entries.map Prod.fst

def values (t : Table κ α) : List α := t.entries.map Prod.snd

def size (t : Table κ α) : Nat := t.entries.length

def isEmpty (t : Table κ α) : Bool := t.entries.isEmpty

/-- The table with one more entry at its end. -/
def push (t : Table κ α) (k : κ) (v : α) (h : k ∉ t.keys) : Table κ α where
  entries := t.entries ++ [(k, v)]
  distinct := by
    rw [List.map_append, List.nodup_append]
    refine ⟨t.distinct, by simp, ?_⟩
    intro a ha b hb hab
    have : b = k := by simpa using hb
    exact h (this ▸ hab ▸ ha)

@[simp] theorem entries_empty : (∅ : Table κ α).entries = [] := rfl

@[simp] theorem keys_empty : (∅ : Table κ α).keys = [] := rfl

@[simp] theorem entries_push (t : Table κ α) (k : κ) (v : α) (h : k ∉ t.keys) :
    (t.push k v h).entries = t.entries ++ [(k, v)] := rfl

@[simp] theorem keys_push (t : Table κ α) (k : κ) (v : α) (h : k ∉ t.keys) :
    (t.push k v h).keys = t.keys ++ [k] := by
  simp [keys]

variable [DecidableEq κ]

def contains (t : Table κ α) (k : κ) : Bool := decide (k ∈ t.keys)

def get? (t : Table κ α) (k : κ) : Option α :=
  (t.entries.find? (fun e => e.1 = k)).map Prod.snd

/-- The table with `f` applied to the value under `k`; keys and order stay. -/
def modify (t : Table κ α) (k : κ) (f : α → α) : Table κ α where
  entries := t.entries.map fun e => (e.1, if e.1 = k then f e.2 else e.2)
  distinct := by simpa [Function.comp_def] using t.distinct

@[simp] theorem keys_modify (t : Table κ α) (k : κ) (f : α → α) :
    (t.modify k f).keys = t.keys := by
  simp [keys, modify, Function.comp_def]

@[simp] theorem contains_iff (t : Table κ α) (k : κ) : t.contains k = true ↔ k ∈ t.keys := by
  simp [contains]

/-- The table with `v` under `k`: in the place of the value that `k` had, or else at the
end. -/
def set (t : Table κ α) (k : κ) (v : α) : Table κ α :=
  if h : k ∈ t.keys then t.modify k fun _ => v else t.push k v h

theorem get?_eq_none_iff {t : Table κ α} {k : κ} : t.get? k = none ↔ k ∉ t.keys := by
  rw [get?, Option.map_eq_none_iff, List.find?_eq_none, keys, List.mem_map]
  constructor
  · rintro h ⟨e, he, rfl⟩
    exact h e he (by simp)
  · rintro h e he heq
    exact h ⟨e, he, by simpa using heq⟩

theorem keys_set (t : Table κ α) (k : κ) (v : α) :
    (t.set k v).keys = if k ∈ t.keys then t.keys else t.keys ++ [k] := by
  by_cases h : k ∈ t.keys <;> simp [set, h]

/-- The entries one after the other into an empty table. -/
def ofList (es : List (κ × α)) : Table κ α :=
  es.foldl (fun t e => t.set e.1 e.2) empty

end Table

end Worldsmith
