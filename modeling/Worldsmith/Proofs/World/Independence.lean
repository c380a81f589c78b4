/-
The four tables are independent of one another.

A call is about one table.  What it answers, and what it makes of that table, depend on
nothing else (`answer_congr`, `entries_after_congr`), not even where it names things of
another table; and the other tables it leaves alone.  By induction the answers and the final
entries that one table sees in a run are those of a run of its own calls only
(`answers_filter`, `entries_run_filter`), whatever was called in between and whether or not
that failed.

So calls on different tables may be merged in any order, and two runs that make the same
calls on each table cannot be told apart.
-/
import Worldsmith.Proofs.World.Refusal

namespace Worldsmith

/-- The third list is the first two merged, each in its own order. -/
inductive Interleaves {α : Type} : List α → List α → List α → Prop
  | nil : Interleaves [] [] []
  | left {x : α} {xs ys zs : List α} (h : Interleaves xs ys zs) : Interleaves (x :: xs) ys (x :: zs)
  | right {y : α} {xs ys zs : List α} (h : Interleaves xs ys zs) :
      Interleaves xs (y :: ys) (y :: zs)

namespace Interleaves

variable {α : Type} {xs ys zs : List α}

theorem symm (h : Interleaves xs ys zs) : Interleaves ys xs zs := by
  induction h with
  | nil => exact nil
  | left _ ih => exact ih.right
  | right _ ih => exact ih.left

/-- What all comes from the one list is in the order of that list. -/
theorem filter_eq (h : Interleaves xs ys zs) {p : α → Bool} (hys : ys.filter p = []) :
    zs.filter p = xs.filter p := by
  induction h with
  | nil => rfl
  | left _ ih => rw [List.filter_cons, List.filter_cons, ih hys]
  | right _ ih =>
      rw [List.filter_eq_nil_iff, List.forall_mem_cons] at hys
      rw [List.filter_cons_of_neg hys.1, ih (List.filter_eq_nil_iff.mpr hys.2)]

end Interleaves

/-- The table that a call is about. -/
def Operation.table : Operation → TableName
  | .register r => r.table
  | .gate .. => .categories

namespace World

/-- What a call answers: an entity, or else why it fails. -/
def answer (w : World) (op : Operation) : Except WorldError Entity :=
  (w.perform op).map Prod.fst

/-- The calls of a run, each with its answer. -/
def answers (w : World) : List Operation → List (Operation × Except WorldError Entity)
  | [] => []
  | op :: ops => (op, w.answer op) :: (w.after op).answers ops

/-! ### One call -/

variable {w v : World} {op : Operation} {t : TableName}

/-- A call answers by its table. -/
theorem answer_congr (h : w.entries op.table = v.entries op.table) :
    w.answer op = v.answer op := by
  cases op with
  | register r =>
      have hnames : w.names r.table = v.names r.table := congrArg (List.map Prod.fst) h
      have hrefusal : w.refusal? r = v.refusal? r := by rw [refusal?, refusal?, hnames]
      rw [answer, answer, perform, perform, enter_eq, enter_eq, hrefusal]
      cases v.refusal? r <;> rfl
  | gate name options =>
      have hcategories : w.categories = v.categories :=
        Table.ext (eq_of_map_entity (fun _ _ h => Entity.category.inj h) h)
      rw [answer, answer, perform, perform, gateCategory, gateCategory, hcategories]
      cases v.categories.get? name <;> rfl

/-- It makes of its table what the table alone tells. -/
theorem entries_after_congr (h : w.entries op.table = v.entries op.table) :
    (w.after op).entries op.table = (v.after op).entries op.table := by
  have hanswer := answer_congr h
  rw [answer, answer] at hanswer
  rw [after, after]
  cases hw : w.perform op with
  | error err =>
      cases hv : v.perform op with
      | error err' => exact h
      | ok p => rw [hw, hv] at hanswer; cases hanswer
  | ok p =>
      cases hv : v.perform op with
      | error err => rw [hw, hv] at hanswer; cases hanswer
      | ok q =>
          show p.2.entries op.table = q.2.entries op.table
          rw [entries_perform hw, entries_perform hv, h]

/-- And the other tables stay. -/
theorem entries_after_of_ne (h : op.table ≠ t) : (w.after op).entries t = w.entries t := by
  rw [after]
  cases hop : w.perform op with
  | error err => rfl
  | ok p =>
      obtain ⟨e, w'⟩ := p
      cases takes_of_perform hop with
      | entry _ hrest => exact hrest t h.symm
      | gating _ _ _ hrest => exact hrest t h.symm

/-- **Where worlds agree on a table, they still do after the same call.** -/
theorem agree_after (h : w.entries t = v.entries t) (op : Operation) :
    (w.after op).entries t = (v.after op).entries t := by
  by_cases htable : op.table = t
  · subst htable
    exact entries_after_congr h
  · rw [entries_after_of_ne htable, entries_after_of_ne htable, h]

/-! ### Runs -/

/-- **A table is what its own calls make it.** -/
theorem entries_run_filter (h : w.entries t = v.entries t) (ops : List Operation) :
    (w.run ops).entries t = (v.run (ops.filter (·.table = t))).entries t := by
  induction ops generalizing w v with
  | nil => exact h
  | cons op ops ih =>
      by_cases htable : op.table = t
      · rw [List.filter_cons_of_pos (by simpa using htable)]
        exact ih (agree_after h op)
      · rw [List.filter_cons_of_neg (by simpa using htable)]
        exact ih ((entries_after_of_ne htable).trans h)

/-- **A table's calls are answered as if there were no others.** -/
theorem answers_filter (h : w.entries t = v.entries t) (ops : List Operation) :
    (w.answers ops).filter (·.1.table = t) = v.answers (ops.filter (·.table = t)) := by
  induction ops generalizing w v with
  | nil => rfl
  | cons op ops ih =>
      rw [answers]
      by_cases htable : op.table = t
      · subst htable
        rw [List.filter_cons_of_pos (by simp), List.filter_cons_of_pos (by simp), answers,
          ih (entries_after_congr h), answer_congr h]
      · rw [List.filter_cons_of_neg (by simpa using htable),
          List.filter_cons_of_neg (by simpa using htable)]
        exact ih ((entries_after_of_ne htable).trans h)

/-- Calls on other tables in between change no answer. -/
theorem interleaves_answers {u : World} {xs ys zs : List Operation} (h : Interleaves xs ys zs)
    (hapart : ∀ x ∈ xs, ∀ y ∈ ys, x.table ≠ y.table)
    (hxs : ∀ x ∈ xs, w.entries x.table = u.entries x.table)
    (hys : ∀ y ∈ ys, w.entries y.table = v.entries y.table) :
    Interleaves (u.answers xs) (v.answers ys) (w.answers zs) := by
  induction h generalizing w u v with
  | nil => exact .nil
  | @left x xs ys zs _ ih =>
      obtain ⟨hx, hxs'⟩ := List.forall_mem_cons.mp hxs
      obtain ⟨hapart', hrest⟩ := List.forall_mem_cons.mp hapart
      rw [answers, answers, answer_congr hx]
      refine (ih hrest (fun x' hx' => agree_after (hxs' x' hx') x) fun y hy => ?_).left
      rw [entries_after_of_ne (hapart' y hy), hys y hy]
  | @right y xs ys zs _ ih =>
      obtain ⟨hy, hys'⟩ := List.forall_mem_cons.mp hys
      rw [answers, answers, answer_congr hy]
      refine (ih (fun x hx y' hy' => hapart x hx y' (List.mem_cons_of_mem y hy'))
        (fun x hx => ?_) fun y' hy' => agree_after (hys' y' hy') y).right
      rw [entries_after_of_ne (hapart x hx y List.mem_cons_self).symm, hxs x hx]

/-- The same calls on each table make the same world. -/
theorem run_eq_of_filter_eq (w : World) {ops ops' : List Operation}
    (h : ∀ t, ops.filter (·.table = t) = ops'.filter (·.table = t)) : w.run ops = w.run ops' := by
  refine ext_entries fun t => ?_
  rw [entries_run_filter rfl, h t, ← entries_run_filter rfl]

/-- Merged calls on different tables are, on each table, the calls of one list. -/
theorem filter_table_of_interleaves {xs ys zs : List Operation} (h : Interleaves xs ys zs)
    (hapart : ∀ x ∈ xs, ∀ y ∈ ys, x.table ≠ y.table) (t : TableName) :
    zs.filter (·.table = t) = (xs ++ ys).filter (·.table = t) := by
  rw [List.filter_append]
  by_cases hxs : ∃ x ∈ xs, x.table = t
  · obtain ⟨x, hx, rfl⟩ := hxs
    have hys : ys.filter (·.table = x.table) = [] := by
      simpa [List.filter_eq_nil_iff] using fun y hy => (hapart x hx y hy).symm
    rw [h.filter_eq hys, hys, List.append_nil]
  · have hnone : xs.filter (·.table = t) = [] := by simpa [List.filter_eq_nil_iff] using hxs
    rw [h.symm.filter_eq hnone, hnone, List.nil_append]

/-- **The tables are independent.**  Two lists of calls on different tables can be merged in any
way: every call answers as it does without the other list, and the world is the same.  And two
runs in which the calls on each table are the same give the same answers and the same world. -/
theorem tables_independent (w : World) :
    (∀ xs ys zs, Interleaves xs ys zs → (∀ x ∈ xs, ∀ y ∈ ys, x.table ≠ y.table) →
        Interleaves (w.answers xs) (w.answers ys) (w.answers zs)
          ∧ w.run zs = w.run (xs ++ ys))
      ∧ ∀ ops ops', (∀ t, ops.filter (·.table = t) = ops'.filter (·.table = t)) →
        (∀ t, (w.answers ops).filter (·.1.table = t) = (w.answers ops').filter (·.1.table = t))
          ∧ w.run ops = w.run ops' := by
  constructor
  · intro xs ys zs h hapart
    exact ⟨interleaves_answers h hapart (fun _ _ => rfl) fun _ _ => rfl,
      w.run_eq_of_filter_eq (filter_table_of_interleaves h hapart)⟩
  · intro ops ops' h
    refine ⟨fun t => ?_, w.run_eq_of_filter_eq h⟩
    rw [answers_filter rfl, h t, ← answers_filter rfl]

/-- Calls on items, one of which fails. -/
def itemCalls : List Operation := [
  .register (.item "Bell" { categories? := some (.name "Bell") }),
  .register (.item "Bell" {})]

/-- Calls on categories and options, one of which fails: the category comes after it. -/
def gateCalls : List Operation := [
  .gate "Bell" (.name "Bell"),
  .register (.category "Bell" { options? := some (.name "loud") }),
  .register (.option "Bell" {}),
  .gate "Bell" (.name "Bell")]

/-- The calls merged. -/
def mergedCalls : List Operation :=
  [gateCalls[0], itemCalls[0], gateCalls[1], gateCalls[2], itemCalls[1], gateCalls[3]]

theorem tables_independent_bell :
    Interleaves (({} : World).answers itemCalls) (({} : World).answers gateCalls)
        (({} : World).answers mergedCalls)
      ∧ ({} : World).run mergedCalls = ({} : World).run (gateCalls ++ itemCalls) := by
  have hmerged : Interleaves itemCalls gateCalls mergedCalls :=
    .right (.left (.right (.right (.left (.right .nil)))))
  exact ⟨((tables_independent {}).1 _ _ _ hmerged (by decide)).1,
    ((tables_independent {}).2 _ _ fun t => by cases t <;> rfl).2⟩

end World

end Worldsmith
