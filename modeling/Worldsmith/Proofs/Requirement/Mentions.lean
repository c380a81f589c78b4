/-
What a search of the text finds is what the tree holds.

The search knows nothing of the tree: it pairs off the bars of flat text.  It finds the
tree's subjects all the same, because the bars of a tree's text come in pairs around its
tokens and nowhere else.  Legal names and good amounts hold none, nor do operators and
macros.

The invariant is that of a text being searched with more behind it: when a piece with an
even number of bars has been passed, the search stands outside a token again, so what
follows is searched as if it stood alone.  Text of an author's own keeps the invariant
when its bars pair off.
-/
import Mathlib.Data.List.Basic
import Worldsmith.Proofs.Requirement.Tree
import Worldsmith.Requirement.Scan

namespace Worldsmith

/-! ### Pieces of text -/

namespace Mention

theorem scanOutside_append_of_no_bar {pre : List Char} (h : '|' ∉ pre) (rest : List Char) :
    scanOutside (pre ++ rest) = scanOutside rest := by
  induction pre with
  | nil => rfl
  | cons c cs ih =>
      have hc : c ≠ '|' := fun hc => h (by simp [hc])
      rw [List.cons_append, scanOutside, if_neg hc]
      exact ih fun hmem => h (by simp [hmem])

theorem scanInside_append_bar {body : List Char} (h : '|' ∉ body) (token rest : List Char) :
    scanInside token (body ++ '|' :: rest)
      = (ofToken? (token.reverse ++ body)).toList ++ scanOutside rest := by
  induction body generalizing token with
  | nil => rw [List.nil_append, scanInside, if_pos rfl, List.append_nil]
  | cons c cs ih =>
      have hc : c ≠ '|' := fun hc => h (by simp [hc])
      rw [List.cons_append, scanInside, if_neg hc, ih fun hmem => h (by simp [hmem])]
      simp

/-- A token with its bars gives at most one mention, and the search goes on behind it. -/
theorem scanOutside_token {body : List Char} (h : '|' ∉ body) (rest : List Char) :
    scanOutside ('|' :: (body ++ '|' :: rest)) = (ofToken? body).toList ++ scanOutside rest := by
  rw [scanOutside, if_pos rfl, scanInside_append_bar h, List.reverse_nil, List.nil_append]

/--
After an even number of bars the search is outside again, and after an odd number it is
outside if it began inside.  The two go through the text together, changing places at
each bar.
-/
theorem scan_append_of_count (pre rest : List Char) :
    (pre.count '|' % 2 = 0 →
      scanOutside (pre ++ rest) = scanOutside pre ++ scanOutside rest) ∧
    ∀ token, pre.count '|' % 2 = 1 →
      scanInside token (pre ++ rest) = scanInside token pre ++ scanOutside rest := by
  induction pre with
  | nil => exact ⟨fun _ => by simp [scanOutside], fun _ h => by simp at h⟩
  | cons c cs ih =>
      obtain ⟨ihOutside, ihInside⟩ := ih
      by_cases hc : c = '|'
      · subst hc
        rw [List.count_cons_self, List.cons_append]
        constructor
        · intro h
          rw [scanOutside, scanOutside, if_pos rfl, if_pos rfl]
          exact ihInside [] (by omega)
        · intro token h
          rw [scanInside, scanInside, if_pos rfl, if_pos rfl, ihOutside (by omega),
            List.append_assoc]
      · rw [List.count_cons_of_ne hc, List.cons_append]
        constructor
        · intro h
          rw [scanOutside, scanOutside, if_neg hc, if_neg hc]
          exact ihOutside h
        · intro token h
          rw [scanInside, scanInside, if_neg hc, if_neg hc]
          exact ihInside (c :: token) h

end Mention

namespace Requirement

open Mention

/-! ### What a tree mentions -/

mutual

/-- The subjects at the leaves, from left to right.  Raw text is no subject. -/
def subjects : Requirement → List Subject
  | .subject s => [s]
  | .threshold s _ => [s]
  | .combination _ rs => subjectsOfAll rs
  | .gate _ r => r.subjects
  | .raw _ => []

def subjectsOfAll : List Requirement → List Subject
  | [] => []
  | r :: rs => r.subjects ++ subjectsOfAll rs

end

mutual

/-- The mentions at the leaves, from left to right: each subject with its amount as it is
written, and what raw text mentions. -/
def mentions : Requirement → List Mention
  | .subject s => [⟨s, none⟩]
  | .threshold s amount => [⟨s, some amount.text⟩]
  | .combination _ rs => mentionsOfAll rs
  | .gate _ r => r.mentions
  | .raw text => Mention.scan text

def mentionsOfAll : List Requirement → List Mention
  | [] => []
  | r :: rs => r.mentions ++ mentionsOfAll rs

end

theorem subjectsOfAll_eq (rs : List Requirement) : subjectsOfAll rs = rs.flatMap subjects := by
  induction rs with
  | nil => rfl
  | cons r rs ih => rw [subjectsOfAll, ih, List.flatMap_cons]

theorem mentionsOfAll_eq (rs : List Requirement) : mentionsOfAll rs = rs.flatMap mentions := by
  induction rs with
  | nil => rfl
  | cons r rs ih => rw [mentionsOfAll, ih, List.flatMap_cons]

/-- Without raw text, what is mentioned is the subjects. -/
theorem map_subject_mentions {r : Requirement} (hraw : r.RawFree) :
    r.mentions.map Mention.subject = r.subjects := by
  induction hraw with
  | subject s => simp [mentions, subjects]
  | threshold s amount => simp [mentions, subjects]
  | combination _ ih =>
      rw [mentions, subjects, mentionsOfAll_eq, subjectsOfAll_eq, List.map_flatMap]
      exact List.flatMap_congr ih
  | gate _ ih => rw [mentions, subjects, ih]
  | raw h => exact absurd h not_false

/-! ### Leaves -/

/-- A leaf of a tree: a subject, with the amount that it is qualified by, or raw text. -/
inductive Leaf where
  | subject (s : Subject) (amount? : Option Amount)
  | raw (text : String)

/-- What a leaf mentions: its subject with the amount as it is written, or what a search of
its text finds. -/
def Leaf.mentions : Leaf → List Mention
  | .subject s amount? => [⟨s, amount?.map Amount.text⟩]
  | .raw text => Mention.scan text

mutual

/-- The leaves of a tree, from left to right. -/
def leaves : Requirement → List Leaf
  | .subject s => [.subject s none]
  | .threshold s amount => [.subject s (some amount)]
  | .combination _ rs => leavesOfAll rs
  | .gate _ r => r.leaves
  | .raw text => [.raw text]

def leavesOfAll : List Requirement → List Leaf
  | [] => []
  | r :: rs => r.leaves ++ leavesOfAll rs

end

theorem leavesOfAll_eq (rs : List Requirement) : leavesOfAll rs = rs.flatMap leaves := by
  induction rs with
  | nil => rfl
  | cons r rs ih => rw [leavesOfAll, ih, List.flatMap_cons]

/-- Inner nodes mention nothing of their own. -/
theorem flatMap_mentions_leaves {p : String → Prop} {r : Requirement} (h : r.EachRaw p) :
    r.leaves.flatMap Leaf.mentions = r.mentions := by
  induction h with
  | subject s => rfl
  | threshold s amount => rfl
  | combination _ ih =>
      rw [leaves, mentions, leavesOfAll_eq, mentionsOfAll_eq, List.flatMap_assoc]
      exact List.flatMap_congr ih
  | gate _ ih => rw [leaves, mentions, ih]
  | raw h => rw [leaves, mentions, List.flatMap_singleton, Leaf.mentions]

/-! ### Searching the text of a tree -/

/-- Raw text whose bars pair off. -/
abbrev Paired (r : Requirement) : Prop := r.EachRaw fun text => text.toList.count '|' % 2 = 0

theorem RawFree.paired {r : Requirement} (h : r.RawFree) : r.Paired := by
  induction h with
  | subject s => exact .subject s
  | threshold s amount => exact .threshold s amount
  | combination _ ih => exact .combination ih
  | gate _ ih => exact .gate ih
  | raw h => exact absurd h not_false

/-- Searching the tree's text finds its mentions, whatever follows. -/
def Scans (r : Requirement) : Prop :=
  ∀ rest : List Char, scanOutside (r.text.toList ++ rest) = r.mentions ++ scanOutside rest

theorem ofToken?_body {s : Subject} (hs : s.Legal) {amount? : Option Amount}
    (ha : ∀ a ∈ amount?, a.fault? = none) :
    ofToken? (s.body amount?) = some ⟨s, amount?.map Amount.text⟩ := by
  unfold ofToken?
  rw [Subject.ofToken_body hs ha]
  exact if_neg hs.nonempty

theorem scans_subject {s : Subject} (hs : s.Legal) : Scans (.subject s) := by
  intro rest
  rw [toList_text_subject, mentions]
  simp only [List.cons_append, List.append_assoc, List.nil_append]
  rw [scanOutside_token (Subject.bar_not_mem_body hs (by simp)), ofToken?_body hs (by simp)]
  rfl

theorem scans_threshold {s : Subject} (hs : s.Legal) {amount : Amount}
    (ha : amount.fault? = none) : Scans (.threshold s amount) := by
  have ha' : ∀ a ∈ some amount, a.fault? = none := by simpa using ha
  intro rest
  rw [toList_text_threshold, mentions]
  simp only [List.cons_append, List.append_assoc, List.nil_append]
  rw [scanOutside_token (Subject.bar_not_mem_body hs ha'), ofToken?_body hs ha']
  rfl

theorem scanOutside_textsJoined (op : Operator) {rs : List Requirement}
    (h : ∀ r ∈ rs, Scans r) (rest : List Char) :
    scanOutside ((textsJoined (separator op) rs).toList ++ rest)
      = rs.flatMap mentions ++ scanOutside rest := by
  have hsep : '|' ∉ (separator op).toList := by cases op <;> decide
  induction rs with
  | nil => simp [textsJoined]
  | cons r rs ih =>
      cases rs with
      | nil => rw [textsJoined_singleton, h r (by simp)]; simp
      | cons r' rs =>
          rw [toList_textsJoined_cons_cons, List.append_assoc, List.append_assoc,
            h r (by simp), scanOutside_append_of_no_bar hsep,
            ih fun x hx => h x (List.mem_cons_of_mem r hx)]
          simp

theorem scans_of_fault?_eq_none {r : Requirement} (hpaired : r.Paired) :
    r.fault? = none → Scans r := by
  induction hpaired with
  | subject s =>
      intro h
      exact scans_subject (Subject.fault?_eq_none_iff.mp (fault?_subject_eq_none_iff.mp h))
  | threshold s amount =>
      intro h
      obtain ⟨hs, ha⟩ := fault?_threshold_eq_none_iff.mp h
      exact scans_threshold (Subject.fault?_eq_none_iff.mp hs) ha
  | @combination op rs _ ih =>
      intro h rest
      obtain ⟨-, hrs⟩ := fault?_combination_eq_none_iff.mp h
      rw [toList_text_combination, mentions, mentionsOfAll_eq, ← List.singleton_append,
        List.append_assoc, List.append_assoc, scanOutside_append_of_no_bar (by decide),
        scanOutside_textsJoined op fun r hr => ih r hr (hrs r hr),
        scanOutside_append_of_no_bar (by decide)]
  | @gate g r _ ih =>
      intro h rest
      have hopen : '|' ∉ '{' :: (g.text.toList ++ ['(']) := by cases g <;> decide
      have htext : (gate g r).text.toList ++ rest
          = ('{' :: (g.text.toList ++ ['('])) ++ (r.text.toList ++ ([')', '}'] ++ rest)) := by
        simp [toList_text_gate]
      rw [htext, mentions, scanOutside_append_of_no_bar hopen,
        ih (fault?_gate_eq_none_iff.mp h), scanOutside_append_of_no_bar (by decide)]
  | @raw text h =>
      intro _ rest
      rw [Requirement.text, mentions]
      exact (scan_append_of_count text.toList rest).1 h

/-- **The search finds in a tree's text what stands at its leaves.** -/
theorem scan_text {r : Requirement} (hpaired : r.Paired) (h : r.fault? = none) :
    Mention.scan r.text = r.mentions := by
  have hscan := scans_of_fault?_eq_none hpaired h []
  rw [List.append_nil, scanOutside, List.append_nil] at hscan
  exact hscan

/--
**The text that a tree compiles to mentions what its leaves do**, one leaf after the other.
Nothing that is written around the leaves is taken for a mention, and no leaf is passed over
or taken for two.
-/
theorem scan_of_compile {r : Requirement} {text : String} (hpaired : r.Paired)
    (h : r.compile = .ok text) : Mention.scan text = r.leaves.flatMap Leaf.mentions := by
  obtain ⟨hfault, rfl⟩ := compile_eq_ok_iff.mp h
  rw [flatMap_mentions_leaves hpaired]
  exact scan_text hpaired hfault

/-- A tree whose names hold all that the grammar is written with, and with text of an author's
own in it. -/
def patched : Requirement :=
  .combination .and [
    .gate .optOne (.subject (.item "a:b) or (@c")),
    .raw "|x:1%| or (|@|) and \x7b|@y:z|",
    .threshold (.category "@:(") (.count 30)]

def patchedText : String :=
  "(\x7bOptOne(|a:b) or (@c|)\x7d and |x:1%| or (|@|) and \x7b|@y:z| and |@@:(:30|)"

theorem patched_paired : patched.Paired := by
  refine .combination fun r hr => ?_
  simp only [List.mem_cons, List.not_mem_nil, or_false] at hr
  rcases hr with rfl | rfl | rfl
  · exact .gate (.subject _)
  · exact .raw (by decide)
  · exact .threshold _ _

theorem scan_of_compile_patched :
    patched.Paired ∧ patched.compile = .ok patchedText ∧
      Mention.scan patchedText = [
        ⟨.item "a:b) or (@c", none⟩,
        ⟨.item "x", some "1%"⟩,
        ⟨.category "y:z", none⟩,
        ⟨.category "@:(", some "30"⟩] :=
  ⟨patched_paired, rfl, (scan_of_compile patched_paired rfl).trans (by decide +kernel)⟩

end Requirement

end Worldsmith
