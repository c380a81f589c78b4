/-
What a search of text reads.

Text falls into pieces at its bars, one more than there are bars.  A piece is read when an odd
number of bars stands before it and another one behind it; all else stands outside, and so does
what follows a bar without a partner (`scan_of_pieces`).

`Reads` says of a piece and a mention that the one is the other written out.  A piece in which
no name is left, `Hollow`, is passed over.  Reading decides between the two, so the search
gives one mention for each piece that is not hollow.

The check of names was written apart from all this.  It lets through just the subjects that are
found again in their own token (`compiles_iff_scan_token`).
-/
import Mathlib.Data.List.Forall2
import Worldsmith.Proofs.Requirement.Mentions

namespace Worldsmith

open Text (cutAll)

namespace Mention

/-! ### One piece -/

/-- The mention is what stands in the piece, and it has a name. -/
structure Reads (piece : List Char) (m : Mention) : Prop where
  cuts : Subject.Cuts piece m.subject m.amount?
  named : m.subject.name ≠ ""

/-- Nothing but a sigil and an amount stands in the piece, if that. -/
def Hollow (piece : List Char) : Prop :=
  ∃ sigil amount, piece = sigil ++ amount ∧ (sigil = [] ∨ sigil = ['@'])
    ∧ (amount = [] ∨ ∃ digits, amount = ':' :: digits ∧ Amount.Written digits)

theorem ofToken?_of_cuts {piece : List Char} {s : Subject} {amount? : Option String}
    (h : Subject.Cuts piece s amount?) :
    ofToken? piece = if s.name = "" then none else some ⟨s, amount?⟩ := by
  rw [ofToken?, Subject.ofToken_eq_iff.mpr h]

theorem ofToken?_eq_some_iff {piece : List Char} {m : Mention} :
    ofToken? piece = some m ↔ m.Reads piece := by
  constructor
  · intro h
    obtain ⟨s, amount?, hcuts⟩ := Subject.exists_cuts piece
    rw [ofToken?_of_cuts hcuts] at h
    obtain ⟨hnamed, hm⟩ := Option.ite_none_left_eq_some.mp h
    obtain rfl := Option.some.inj hm
    exact ⟨hcuts, hnamed⟩
  · intro h
    rw [ofToken?_of_cuts h.cuts, if_neg h.named]

theorem ofToken?_eq_none_iff {piece : List Char} : ofToken? piece = none ↔ Hollow piece := by
  constructor
  · intro h
    obtain ⟨s, amount?, hcuts⟩ := Subject.exists_cuts piece
    rw [ofToken?_of_cuts hcuts] at h
    have hname : s.name = "" := by simpa using h
    refine ⟨_, _, hcuts.eq, ?_, ?_⟩
    · cases s <;> simp [Subject.sigil]
    · rw [hname, String.toList_empty, List.nil_append]
      cases amount? with
      | none => exact .inl rfl
      | some amount => exact .inr ⟨amount.toList, rfl, hcuts.amount amount rfl⟩
  · intro h
    obtain ⟨sigil, suffix, hpiece, hsigil, hsuffix⟩ := h
    -- the subject without a name that is written so
    obtain ⟨s, hs, hempty⟩ : ∃ s : Subject, s.sigil.toList = sigil ∧ s.name = "" := by
      rcases hsigil with rfl | rfl
      · exact ⟨.item "", rfl, rfl⟩
      · exact ⟨.category "", rfl, rfl⟩
    obtain ⟨amount?, hamount, hwritten⟩ : ∃ amount? : Option String,
        Subject.suffix amount? = suffix
          ∧ ∀ amount, amount? = some amount → Amount.Written amount.toList := by
      rcases hsuffix with rfl | ⟨digits, rfl, hdigits⟩
      · exact ⟨none, rfl, by simp⟩
      · refine ⟨some (String.ofList digits), by simp [Subject.suffix], fun amount heq => ?_⟩
        obtain rfl := Option.some.inj heq
        rwa [String.toList_ofList]
    have hcuts : Subject.Cuts piece s amount? := {
      eq := by rw [Subject.written, hs, hempty, hamount, hpiece]; rfl
      amount := hwritten
      noSigil := fun name hname => by
        obtain rfl : name = "" := by rw [hname] at hempty; exact hempty
        simp
      noAmount := fun _ before after hname => by simp [hempty] at hname }
    rw [ofToken?_of_cuts hcuts, if_pos hempty]

instance : DecidablePred Hollow := fun _ => decidable_of_iff _ ofToken?_eq_none_iff

/-! ### All pieces -/

/-- The pieces between two bars that belong together. -/
def enclosed : List (List Char) → List (List Char)
  | _ :: piece :: next :: pieces => piece :: enclosed (next :: pieces)
  | _ => []

theorem enclosed_sublist (pieces : List (List Char)) : (enclosed pieces).Sublist pieces := by
  fun_induction enclosed pieces with
  | case1 outside piece next pieces ih => exact (ih.cons_cons piece).cons outside
  | case2 pieces hshort => exact List.nil_sublist pieces

theorem enclosed_eq_from {pieces : List (List Char)} {k n : Nat} (hk : k % 2 = 0)
    (hn : k + pieces.length = n + 1) :
    enclosed pieces
      = ((pieces.zipIdx k).filter fun p => p.2 % 2 = 1 ∧ p.2 < n).map Prod.fst := by
  fun_induction enclosed pieces generalizing k with
  | case1 outside piece next pieces ih =>
      simp only [List.length_cons] at hn ih
      rw [List.zipIdx_cons, List.zipIdx_cons, List.filter_cons_of_neg (by simp [hk]),
        List.filter_cons_of_pos (by simp; omega), List.map_cons, ← ih (by omega) (by omega)]
  | case2 pieces hshort =>
      match pieces, hshort with
      | [], _ => rfl
      | [outside], _ => simp [hk]
      | [outside, piece], _ =>
          have hlast : n ≤ k + 1 := by simpa using Nat.le_of_eq hn.symm
          simp [List.zipIdx_cons, hk, hlast]
      | _ :: _ :: _ :: _, hshort => exact absurd rfl (hshort _ _ _ _)

/-- **The pieces that are read** have an odd number, and the last is none of them. -/
theorem enclosed_eq {pieces : List (List Char)} {n : Nat} (hn : pieces.length = n + 1) :
    enclosed pieces = (pieces.zipIdx.filter fun p => p.2 % 2 = 1 ∧ p.2 < n).map Prod.fst :=
  enclosed_eq_from rfl (by omega)

/-- A token that is not closed is none. -/
theorem scanInside_of_no_bar {cs : List Char} (h : '|' ∉ cs) (token : List Char) :
    scanInside token cs = [] := by
  induction cs generalizing token with
  | nil => rfl
  | cons c cs ih =>
      have hc : c ≠ '|' := fun hc => h (by simp [hc])
      rw [scanInside, if_neg hc]
      exact ih (fun hmem => h (by simp [hmem])) _

/-- What follows the last bar of a text that ends inside a token is passed over. -/
theorem scanOutside_bar_of_no_bar {cs : List Char} (h : '|' ∉ cs) :
    scanOutside ('|' :: cs) = [] := by
  rw [scanOutside, if_pos rfl, scanInside_of_no_bar h]

/-- The search goes from piece to piece. -/
theorem scanOutside_intercalate {pieces : List (List Char)} (h : ∀ piece ∈ pieces, '|' ∉ piece) :
    scanOutside (['|'].intercalate pieces) = (enclosed pieces).filterMap ofToken? := by
  fun_induction enclosed pieces with
  | case1 outside piece next pieces ih =>
      have hbars : ['|'].intercalate (outside :: piece :: next :: pieces)
          = outside ++ '|' :: (piece ++ '|' :: ['|'].intercalate (next :: pieces)) := by
        simp [List.intercalate_cons_cons]
      rw [hbars, scanOutside_append_of_no_bar (h outside (by simp)),
        scanOutside_token (h piece (by simp)), ih fun p hp => h p (by simp [hp])]
      cases hpiece : ofToken? piece <;> simp [hpiece]
  | case2 pieces hshort =>
      match pieces, hshort with
      | [], _ => rfl
      | [outside], _ =>
          have hempty : scanOutside (outside ++ []) = [] :=
            scanOutside_append_of_no_bar (h outside (by simp)) []
          simpa using hempty
      | [outside, rest], _ =>
          have hbar : ['|'].intercalate [outside, rest] = outside ++ '|' :: rest := by
            simp [List.intercalate_cons_cons]
          rw [hbar, scanOutside_append_of_no_bar (h outside (by simp)),
            scanOutside_bar_of_no_bar (h rest (by simp))]
          rfl
      | _ :: _ :: _ :: _, hshort => exact absurd rfl (hshort _ _ _ _)

theorem scan_eq (text : String) :
    scan text = (enclosed (cutAll '|' text.toList)).filterMap ofToken? := by
  rw [← scanOutside_intercalate fun _ => Text.notMem_of_mem_cutAll, Text.intercalate_cutAll, scan]

/-- What is mentioned holds no bar. -/
theorem bar_notMem_of_mem_scan {text : String} {m : Mention} (h : m ∈ scan text) :
    '|' ∉ m.subject.name.toList := by
  rw [scan_eq] at h
  obtain ⟨piece, hpiece, hm⟩ := List.mem_filterMap.mp h
  have hbar : '|' ∉ piece := Text.notMem_of_mem_cutAll ((enclosed_sublist _).mem hpiece)
  rw [(ofToken?_eq_some_iff.mp hm).cuts.eq] at hbar
  exact fun hname => hbar (by simp [Subject.written, hname])

/-- One mention for each of the pieces that are not hollow. -/
theorem forall₂_reads (pieces : List (List Char)) :
    List.Forall₂ Reads (pieces.filter (¬ Hollow ·)) (pieces.filterMap ofToken?) := by
  induction pieces with
  | nil => exact .nil
  | cons piece pieces ih =>
      cases hpiece : ofToken? piece with
      | none =>
          rw [List.filter_cons_of_neg (by simpa using ofToken?_eq_none_iff.mp hpiece),
            List.filterMap_cons_none hpiece]
          exact ih
      | some m =>
          have hfull : ¬ Hollow piece := fun hhollow => by
            rw [ofToken?_eq_none_iff.mpr hhollow] at hpiece
            cases hpiece
          rw [List.filter_cons_of_pos (by simpa using hfull), List.filterMap_cons_some hpiece]
          exact .cons (ofToken?_eq_some_iff.mp hpiece) ih

/-- **What a search of any text finds.**  Of the pieces between its bars, those with an odd
number except for the last are read one after the other, and each that is not hollow is a
mention written out.  So text in which the bars pair off is searched by itself, whatever
follows, and from a bar without a partner on nothing is found. -/
theorem scan_of_pieces (text : String) :
    let pieces := cutAll '|' text.toList
    let bars := text.toList.count '|'
    pieces.length = bars + 1
      ∧ List.Forall₂ Reads
          (((pieces.zipIdx.filter fun p => p.2 % 2 = 1 ∧ p.2 < bars).map Prod.fst).filter
            (¬ Hollow ·))
          (scan text)
      ∧ (bars % 2 = 0 → ∀ rest : String, scan (text ++ rest) = scan text ++ scan rest)
      ∧ (bars % 2 = 0 → ∀ rest : String, '|' ∉ rest.toList → scan (text ++ "|" ++ rest) = scan text)
      := by
  intro pieces bars
  have happend : bars % 2 = 0 → ∀ rest : String, scan (text ++ rest) = scan text ++ scan rest := by
    intro heven rest
    rw [scan, String.toList_append]
    exact (scan_append_of_count text.toList rest.toList).1 heven
  refine ⟨Text.length_cutAll '|' text.toList, ?_, happend, fun heven rest hrest => ?_⟩
  · rw [← enclosed_eq (Text.length_cutAll '|' text.toList), scan_eq]
    exact forall₂_reads _
  · have hnothing : scan ("|" ++ rest) = [] := by
      rw [scan, String.toList_append]
      exact scanOutside_bar_of_no_bar hrest
    rw [String.append_assoc, happend heven, hnothing, List.append_nil]

/-- Text with a mention, a token that holds an amount and no name, and two bars side by side. -/
def sign : String := "(|@Keys:2| or |:5%|) ||"

theorem scan_of_pieces_sign :
    sign.toList.count '|' % 2 = 0
      ∧ (∃ m, scan sign = [m] ∧ m.Reads "@Keys:2".toList)
      ∧ scan (sign ++ " and |@@Lamp|") = scan sign ++ [⟨.category "@Lamp", none⟩]
      ∧ '|' ∉ "Lamp:".toList
      ∧ scan (sign ++ "|" ++ "Lamp:") = scan sign := by
  have heven : sign.toList.count '|' % 2 = 0 := by decide
  obtain ⟨-, hreads, happend, hrest⟩ := scan_of_pieces sign
  refine ⟨heven, ?_, ?_, by decide, hrest heven "Lamp:" (by decide)⟩
  · have hpieces : (((cutAll '|' sign.toList).zipIdx.filter fun p =>
        p.2 % 2 = 1 ∧ p.2 < sign.toList.count '|').map Prod.fst).filter (¬ Hollow ·)
          = ["@Keys:2".toList] := by decide +kernel
    rw [hpieces] at hreads
    obtain ⟨m, ms, hm, hnil, hscan⟩ := List.forall₂_cons_left_iff.mp hreads
    obtain rfl := List.forall₂_nil_left_iff.mp hnil
    exact ⟨m, hscan, hm⟩
  · rw [happend heven]
    rfl

end Mention

/-! ### Names -/

namespace Subject

/-- Legal subjects come back out of what stands between their bars. -/
theorem legal_iff_reads {s : Subject} :
    s.Legal ↔ '|' ∉ s.name.toList ∧ Mention.Reads (s.written none) ⟨s, none⟩ := by
  constructor
  · intro h
    have hnone : ∀ a ∈ (none : Option Amount), a.fault? = none := by simp
    exact ⟨h.noBar, h.cuts hnone, h.nonempty⟩
  · intro h
    obtain ⟨hbar, hreads⟩ := h
    refine ⟨hreads.named, hbar, hreads.cuts.noSigil, fun before after hname => ?_⟩
    have hnot := hreads.cuts.noAmount rfl before after hname
    exact Bool.eq_false_iff.mpr (Amount.isWritten_iff.not.mpr hnot)

theorem scan_token {s : Subject} (h : '|' ∉ s.name.toList) :
    Mention.scan (s.token none) = (Mention.ofToken? (s.written none)).toList := by
  have hbar : '|' ∉ s.written none := by
    cases s with
    | item name => simpa [suffix, Subject.name] using h
    | category name => simpa [suffix, Subject.name] using h
  rw [Mention.scan, toList_token, body_eq_written]
  exact (Mention.scanOutside_token hbar []).trans (List.append_nil _)

end Subject

/-- **A subject may be named when it is found again.**  The check of its name lets it through
exactly if a search of its token, written unchecked, gives the subject without an amount and
nothing else. -/
theorem Requirement.compiles_iff_scan_token (s : Subject) :
    (∃ text, (Requirement.subject s).compile = .ok text)
      ↔ Mention.scan (s.token none) = [⟨s, none⟩] := by
  have hcompile : (∃ text, (Requirement.subject s).compile = .ok text) ↔ s.Legal := by
    simp [compile_eq_ok_iff, fault?_subject_eq_none_iff, Subject.fault?_eq_none_iff]
  rw [hcompile, Subject.legal_iff_reads]
  constructor
  · intro h
    obtain ⟨hbar, hreads⟩ := h
    rw [Subject.scan_token hbar, Mention.ofToken?_eq_some_iff.mpr hreads]
    rfl
  · intro h
    have hbar : '|' ∉ s.name.toList :=
      Mention.bar_notMem_of_mem_scan (m := ⟨s, none⟩) (h ▸ List.mem_singleton_self _)
    rw [Subject.scan_token hbar] at h
    have hfound : Mention.ofToken? (s.written none) = some ⟨s, none⟩ := by simpa using h
    exact ⟨hbar, Mention.ofToken?_eq_some_iff.mp hfound⟩

end Worldsmith
