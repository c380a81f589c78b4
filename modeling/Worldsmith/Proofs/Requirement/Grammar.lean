/-
Text of the grammar has one tree.

Whatever tree a text was written from, reading the text gives that tree back, down to the
names and to whether an amount was a count or a percentage.  So no two trees share a text,
and an engine that reads by the grammar sees the condition that was meant.

The reader works on what is left of the text, so what is proved is about text with more
behind it: after a tree has been read, exactly what followed it is left.  The induction is
on the tree.  A name cannot interfere, however it looks, because a token is cut out at its
bars before anything inside it is considered, and no legal name or good amount holds a bar.
Reading a tree takes less fuel than its text is long, since every level of the tree has at
least one character of its own.
-/
import Worldsmith.Proofs.Requirement.Tree
import Worldsmith.Requirement.Grammar

namespace Worldsmith.Requirement

namespace Grammar

open Text (after? after?_append)

/-! ### Lexemes -/

theorem token?_append {token : List Char} (h : '|' ∉ token) (rest : List Char) :
    token? (token ++ '|' :: rest) = some (token, rest) := by
  have hall : ∀ c ∈ token, decide (c ≠ '|') = true := by
    intro c hc
    simp only [decide_eq_true_eq]
    rintro rfl
    exact h hc
  have hdrop : (token ++ '|' :: rest).dropWhile (· ≠ '|') = '|' :: rest := by
    rw [List.dropWhile_append_of_pos hall]
    simp
  have htake : (token ++ '|' :: rest).takeWhile (· ≠ '|') = token := by
    rw [List.takeWhile_append_of_pos hall]
    simp
  rw [token?, hdrop, htake]

theorem leaf_subject {s : Subject} (hs : s.Legal) : leaf (s.body none) = .subject s := by
  unfold leaf
  rw [Subject.ofToken_body hs (by simp)]
  rfl

theorem leaf_threshold {s : Subject} (hs : s.Legal) {amount : Amount}
    (ha : amount.fault? = none) : leaf (s.body (some amount)) = .threshold s amount := by
  unfold leaf
  rw [Subject.ofToken_body hs (by simpa using ha)]
  show Requirement.threshold s (Amount.ofText amount.text) = _
  rw [Amount.ofText_text ha]

theorem operator?_append (op : Operator) (rest : List Char) :
    operator? ((separator op).toList ++ rest) = some (op, rest) := by
  cases op with
  | and =>
      show operator? (" and ".toList ++ rest) = _
      rw [operator?, after?_append]
  | or =>
      have hnot : after? " and ".toList (" or ".toList ++ rest) = none := by
        simp [after?, List.isPrefixOf]
      show operator? (" or ".toList ++ rest) = _
      rw [operator?, hnot, after?_append]
      rfl

theorem gate?_append (g : Gate) (rest : List Char) :
    gate? (g.text.toList ++ '(' :: rest) = some (g, rest) := by
  cases g with
  | optOne =>
      have htext : "OptOne".toList ++ '(' :: rest = "OptOne(".toList ++ rest := by simp
      show gate? ("OptOne".toList ++ '(' :: rest) = _
      rw [htext, gate?, after?_append]
  | optAll =>
      have htext : "OptAll".toList ++ '(' :: rest = "OptAll(".toList ++ rest := by simp
      have hnot : after? "OptOne(".toList ("OptAll(".toList ++ rest) = none := by
        simp [after?, List.isPrefixOf]
      show gate? ("OptAll".toList ++ '(' :: rest) = _
      rw [htext, gate?, hnot, after?_append]
      rfl

/-! ### Reading a tree off the front of text -/

/-- Reading takes just the tree's own text, whatever follows. -/
def ReadsBack (r : Requirement) : Prop :=
  ∀ (fuel : Nat) (rest : List Char), r.text.toList.length ≤ fuel →
    requirement? fuel (r.text.toList ++ rest) = some (r, rest)

/-- A leaf is read by its token. -/
theorem requirement?_token {s : Subject} (hs : s.Legal) {amount? : Option Amount}
    (ha : ∀ a ∈ amount?, a.fault? = none) (fuel : Nat) (rest : List Char) :
    requirement? (fuel + 1) ('|' :: (s.body amount? ++ '|' :: rest))
      = some (leaf (s.body amount?), rest) := by
  rw [requirement?, if_pos rfl, token?_append (Subject.bar_not_mem_body hs ha)]
  rfl

theorem readsBack_subject {s : Subject} (hs : s.Legal) : ReadsBack (.subject s) := by
  intro fuel rest hfuel
  rw [toList_text_subject] at hfuel ⊢
  obtain ⟨fuel, rfl⟩ := Nat.exists_eq_add_of_le' (by simp at hfuel; omega : 1 ≤ fuel)
  simp only [List.cons_append, List.append_assoc, List.nil_append]
  rw [requirement?_token hs (by simp), leaf_subject hs]

theorem readsBack_threshold {s : Subject} (hs : s.Legal) {amount : Amount}
    (ha : amount.fault? = none) : ReadsBack (.threshold s amount) := by
  intro fuel rest hfuel
  rw [toList_text_threshold] at hfuel ⊢
  obtain ⟨fuel, rfl⟩ := Nat.exists_eq_add_of_le' (by simp at hfuel; omega : 1 ≤ fuel)
  simp only [List.cons_append, List.append_assoc, List.nil_append]
  rw [requirement?_token hs (by simpa using ha), leaf_threshold hs ha]

theorem readsBack_gate {g : Gate} {r : Requirement} (h : ReadsBack r) :
    ReadsBack (.gate g r) := by
  intro fuel rest hfuel
  rw [toList_text_gate] at hfuel ⊢
  simp only [List.length_cons, List.length_append] at hfuel
  obtain ⟨fuel, rfl⟩ := Nat.exists_eq_add_of_le' (by omega : 1 ≤ fuel)
  have hinner := h fuel (')' :: '}' :: rest) (by omega)
  have hclose : after? ")\x7d".toList (')' :: '}' :: rest) = some rest :=
    after?_append ")\x7d".toList rest
  simp only [List.cons_append, List.append_assoc, List.nil_append]
  rw [requirement?, if_neg (by decide), if_neg (by decide), if_pos rfl, gate?_append]
  simp only [Option.bind_eq_bind, Option.bind_some, hinner, hclose, Option.pure_def]

/-- The operands after the first, up to the parenthesis that closes the combination. -/
theorem operands?_textsJoined (op : Operator) {rs : List Requirement} :
    ∀ {r : Requirement}, (∀ x ∈ r :: rs, ReadsBack x) → ∀ (fuel : Nat) (rest : List Char),
      (textsJoined (separator op) (r :: rs)).toList.length < fuel →
      operands? fuel op ((textsJoined (separator op) (r :: rs)).toList ++ ')' :: rest)
        = some (r :: rs, rest) := by
  induction rs with
  | nil =>
      intro r h fuel rest hfuel
      rw [textsJoined_singleton] at hfuel ⊢
      obtain ⟨fuel, rfl⟩ := Nat.exists_eq_add_of_le' (by omega : 1 ≤ fuel)
      have hr := h r (by simp) fuel (')' :: rest) (by omega)
      have hclose : after? [')'] (')' :: rest) = some rest := after?_append [')'] rest
      rw [operands?]
      simp only [Option.bind_eq_bind, Option.bind_some, hr, hclose, Option.pure_def]
  | cons r' rs ih =>
      intro r h fuel rest hfuel
      rw [toList_textsJoined_cons_cons] at hfuel ⊢
      simp only [List.length_append] at hfuel
      obtain ⟨fuel, rfl⟩ := Nat.exists_eq_add_of_le' (by omega : 1 ≤ fuel)
      have hr := h r (by simp) fuel
        ((separator op).toList ++ ((textsJoined (separator op) (r' :: rs)).toList
          ++ ')' :: rest)) (by omega)
      have hopen : ∀ cs, after? [')'] ((separator op).toList ++ cs) = none := by
        intro cs
        cases op <;> simp [separator, after?, List.isPrefixOf]
      have hlength : 0 < (separator op).toList.length := by simp [separator]
      have hrest := ih (r := r') (fun x hx => h x (List.mem_cons_of_mem r hx)) fuel rest
        (by omega)
      rw [operands?]
      simp only [List.append_assoc, Option.bind_eq_bind, Option.bind_some, hr, hopen,
        operator?_append, ne_eq, not_true_eq_false, if_false, hrest, Option.pure_def]

theorem readsBack_combination {op : Operator} {rs : List Requirement}
    (hlength : 2 ≤ rs.length) (h : ∀ r ∈ rs, ReadsBack r) : ReadsBack (.combination op rs) := by
  intro fuel rest hfuel
  obtain ⟨first, r, rs, rfl⟩ : ∃ first r rs', rs = first :: r :: rs' := by
    match rs, hlength with
    | first :: r :: rs', _ => exact ⟨first, r, rs', rfl⟩
  rw [toList_text_combination, toList_textsJoined_cons_cons] at hfuel ⊢
  simp only [List.length_cons, List.length_append] at hfuel
  obtain ⟨fuel, rfl⟩ := Nat.exists_eq_add_of_le' (by omega : 1 ≤ fuel)
  have hfirst := h first (by simp) fuel
    ((separator op).toList ++ ((textsJoined (separator op) (r :: rs)).toList
      ++ ')' :: rest)) (by omega)
  have hsep : 0 < (separator op).toList.length := by simp [separator]
  have hothers := operands?_textsJoined op (fun x hx => h x (List.mem_cons_of_mem first hx))
    fuel rest (by omega)
  simp only [List.cons_append, List.append_assoc, List.nil_append]
  rw [requirement?, if_neg (by decide), if_pos rfl]
  simp only [Option.bind_eq_bind, Option.bind_some, hfirst, operator?_append, hothers,
    Option.pure_def]

theorem readsBack_of_fault?_eq_none {r : Requirement} (hraw : r.RawFree) :
    r.fault? = none → ReadsBack r := by
  induction hraw with
  | subject s =>
      intro h
      exact readsBack_subject (Subject.fault?_eq_none_iff.mp (fault?_subject_eq_none_iff.mp h))
  | threshold s amount =>
      intro h
      obtain ⟨hs, ha⟩ := fault?_threshold_eq_none_iff.mp h
      exact readsBack_threshold (Subject.fault?_eq_none_iff.mp hs) ha
  | combination _ ih =>
      intro h
      obtain ⟨hlength, hrs⟩ := fault?_combination_eq_none_iff.mp h
      exact readsBack_combination hlength fun r hr => ih r hr (hrs r hr)
  | gate _ ih =>
      intro h
      exact readsBack_gate (ih (fault?_gate_eq_none_iff.mp h))
  | raw h => exact absurd h not_false

end Grammar

/-! ### The text of a tree -/

theorem parse?_text {r : Requirement} (hraw : r.RawFree) (h : r.fault? = none) :
    parse? r.text = some r := by
  have hread := Grammar.readsBack_of_fault?_eq_none hraw h (r.text.toList.length + 1) []
    (Nat.le_succ _)
  rw [List.append_nil] at hread
  rw [parse?, hread]
  rfl

/--
**A tree is read back from the text it compiles to.**  Reading takes the whole text and
gives the tree itself, so no other tree compiles to it.
-/
theorem parse?_of_compile {r : Requirement} {text : String} (hraw : r.RawFree)
    (h : r.compile = .ok text) :
    parse? text = some r ∧
      ∀ r' : Requirement, r'.RawFree → r'.compile = .ok text → r' = r := by
  have hread : ∀ r' : Requirement, r'.RawFree → r'.compile = .ok text →
      parse? text = some r' := by
    intro r' hraw' h'
    obtain ⟨hfault, rfl⟩ := compile_eq_ok_iff.mp h'
    exact parse?_text hraw' hfault
  refine ⟨hread r hraw h, fun r' hraw' h' => ?_⟩
  exact Option.some.inj ((hread r' hraw' h').symm.trans (hread r hraw h))

/-- A tree whose names look like the grammar's own text. -/
def disguised : Requirement :=
  .combination .or [
    .subject (.item "a) and (b:x"),
    .gate .optAll (.threshold (.category "@\x7b") (.percent "007%")),
    .threshold (.item "x:y") (.count 0)]

theorem disguised_rawFree : disguised.RawFree := by
  refine .combination fun r hr => ?_
  simp only [List.mem_cons, List.not_mem_nil, or_false] at hr
  rcases hr with rfl | rfl | rfl
  · exact .subject _
  · exact .gate (.threshold _ _)
  · exact .threshold _ _

def disguisedText : String := "(|a) and (b:x| or \x7bOptAll(|@@\x7b:007%|)\x7d or |x:y:0|)"

theorem parse?_of_compile_disguised :
    disguised.RawFree ∧ disguised.compile = .ok disguisedText ∧
      parse? disguisedText = some disguised ∧
      ∀ r' : Requirement, r'.RawFree → r'.compile = .ok disguisedText → r' = disguised :=
  ⟨disguised_rawFree, rfl, parse?_of_compile disguised_rawFree rfl⟩

end Worldsmith.Requirement
