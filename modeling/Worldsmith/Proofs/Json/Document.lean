/-
A JSON document is read back from its text.

This holds in every layout, as long as a layout puts nothing but blanks around the parts of a
document.  The induction is on the document.  What is proved of each part is that it is read
off the front of any text that goes on after it, blanks before it being skipped, and that what
followed it is left.  A number needs to know that no digit follows; what stands behind an
element or a member is a comma, a bracket or a blank.

Reading counts down fuel with the nesting and with the place in a list.  A part never needs
more than the number of its characters, since each call has a bracket or a comma of its own.
-/
import Worldsmith.Proofs.Json.Token

namespace Worldsmith.Json

/-- The document holds nothing foreign, and no object has two members of one name: reading
members into a map loses none. -/
inductive WellFormed : Json → Prop
  | null : WellFormed .null
  | bool (b : Bool) : WellFormed (.bool b)
  | int (n : Int) : WellFormed (.int n)
  | text (s : String) : WellFormed (.text s)
  | list {js : List Json} (h : ∀ j ∈ js, WellFormed j) : WellFormed (.list js)
  | object {ms : List (String × Json)} (names : (ms.map Prod.fst).Nodup)
      (h : ∀ m ∈ ms, WellFormed m.2) : WellFormed (.object ms)

/-! ### Blanks -/

/-- A row of characters that may stand between tokens. -/
def Blanks (cs : List Char) : Prop := ∀ c ∈ cs, isSpace c = true

/-- The layout puts nothing but blanks around the parts of a document. -/
structure Layout.Neutral (l : Layout) : Prop where
  lineBreak : ∀ depth, Blanks (l.lineBreak depth).toList
  colon : ∃ blanks, Blanks blanks ∧ l.colon.toList = ':' :: blanks

theorem Layout.neutral_compact : Layout.compact.Neutral where
  lineBreak _ := by simp [compact, Blanks]
  colon := ⟨[], by simp [Blanks], rfl⟩

theorem toList_pushn (s : String) (c : Char) (n : Nat) :
    (s.pushn c n).toList = s.toList ++ List.replicate n c := by
  induction n with
  | zero => simp [String.pushn, Nat.repeat]
  | succ n ih =>
      have hpush : s.pushn c (n + 1) = (s.pushn c n).push c := rfl
      rw [hpush, String.toList_push, ih, List.append_assoc, List.replicate_succ']

theorem Layout.neutral_indented : Layout.indented.Neutral where
  lineBreak depth := by
    intro c hc
    rw [indented, String.toList_append, toList_pushn] at hc
    rcases List.mem_append.mp hc with hbreak | hindent
    · obtain rfl := List.mem_singleton.mp hbreak
      rfl
    · obtain rfl := List.eq_of_mem_replicate hindent
      rfl
  colon := ⟨[' '], by simp [Blanks, isSpace], rfl⟩

theorem skipSpace_append {blanks : List Char} (h : Blanks blanks) (cs : List Char) :
    Reader.skipSpace (blanks ++ cs) = Reader.skipSpace cs := by
  rw [Reader.skipSpace, List.dropWhile_append_of_pos h, Reader.skipSpace]

theorem skipSpace_cons {c : Char} (h : isSpace c = false) (cs : List Char) :
    Reader.skipSpace (c :: cs) = c :: cs := by
  simp [Reader.skipSpace, h]

/-- A number ends before blanks and before any character that cannot stand in one. -/
theorem endsNumber_append {blanks : List Char} (h : Blanks blanks) {rest : List Char}
    (hrest : EndsNumber rest) : EndsNumber (blanks ++ rest) := by
  cases blanks with
  | nil => exact hrest
  | cons c blanks =>
      have hspace : isSpace c = true := h c List.mem_cons_self
      have hcases : ((c = ' ' ∨ c = '\n') ∨ c = '\t') ∨ c = '\r' := by
        simpa [isSpace] using hspace
      refine endsNumber_cons.mpr ?_
      obtain ((rfl | rfl) | rfl) | rfl := hcases <;> decide

/-! ### Values -/

namespace Reader

theorem value?_append {blanks : List Char} (h : Blanks blanks) (fuel : Nat) (cs : List Char) :
    value? fuel (blanks ++ cs) = value? fuel cs := by
  rw [← value?_skipSpace, skipSpace_append h, value?_skipSpace]

end Reader

open Reader

/-- The text, read with as much fuel as it is long, is the document, and what follows it is
left. -/
def ReadsAs (j : Json) (text : String) : Prop :=
  ∀ fuel rest, text.toList.length ≤ fuel → EndsNumber rest →
    value? fuel (text.toList ++ rest) = some (j, rest)

variable {l : Layout}

theorem readsAs_text (s : String) : ReadsAs (.text s) (writeText s) := by
  intro fuel rest hfuel _
  cases fuel with
  | zero => simp [toList_writeText] at hfuel
  | succ fuel =>
      rw [toList_writeText, List.cons_append, value?, skipSpace_cons (by decide)]
      simp only [List.append_assoc, List.singleton_append, units?_writeText, Option.map_some,
        ofUnits, Text.textOfUnits?_map_toNat]

/-- A digit begins no other value than a number. -/
theorem value?_of_digit {c : Char} (h : c.isDigit = true) (fuel : Nat) (cs : List Char) :
    value? (fuel + 1) (c :: cs) = number? false (c :: cs) := by
  have hspace : isSpace c = false := by
    rw [Bool.eq_false_iff]
    intro hspace
    have hcases : ((c = ' ' ∨ c = '\n') ∨ c = '\t') ∨ c = '\r' := by
      simpa [isSpace] using hspace
    obtain ((rfl | rfl) | rfl) | rfl := hcases <;> exact absurd h (by decide)
  rw [value?, skipSpace_cons hspace]
  split
  all_goals first
    | rfl
    | (rename_i heq
       obtain ⟨rfl, -⟩ := List.cons.inj heq
       exact absurd h (by decide))

theorem readsAs_int (n : Int) : ReadsAs (.int n) (writeInt n) := by
  intro fuel rest hfuel hrest
  cases fuel with
  | zero =>
      cases n <;> simp [writeInt, Text.toList_decimal, Nat.toDigits_ne_nil] at hfuel
  | succ fuel =>
      cases n with
      | ofNat n =>
          obtain ⟨hne, hdigits⟩ := Text.isDigits_iff.mp (Text.isDigits_decimal n)
          obtain ⟨d, ds, hcons⟩ := List.exists_cons_of_ne_nil hne
          have hdigit : d.isDigit = true := hdigits d (hcons ▸ List.mem_cons_self)
          rw [writeInt, hcons, List.cons_append, value?_of_digit hdigit, ← List.cons_append,
            ← hcons, number?_decimal false n hrest (by simp)]
          rfl
      | negSucc n =>
          have hminus : (writeInt (.negSucc n)).toList = '-' :: (Text.decimal (n + 1)).toList := by
            simp [writeInt]
          rw [hminus, List.cons_append, value?, skipSpace_cons (by decide)]
          simp only
          rw [number?_decimal true (n + 1) hrest (by simp)]
          rfl

/-! ### Elements and members -/

section Parts

variable {depth fuel : Nat} {j : Json} {blanks last rest : List Char}

/-- An element is read first, and what follows it decides. -/
theorem elements?_element (hj : ReadsAs j (write l depth j)) (hblanks : Blanks blanks)
    (hfuel : (write l depth j).toList.length ≤ fuel) (hrest : EndsNumber rest) :
    elements? (fuel + 1) (blanks ++ ((write l depth j).toList ++ rest)) =
      match skipSpace rest with
      | ',' :: r => do
        let (js, r) ← elements? fuel r
        return (j :: js, r)
      | ']' :: r => return ([j], r)
      | _ => none := by
  rw [elements?, value?_append hblanks, hj fuel rest hfuel hrest]
  rfl

/-- A member is read first, and what follows it decides. -/
theorem members?_member (hl : l.Neutral) (name : String) (hj : ReadsAs j (write l depth j))
    (hblanks : Blanks blanks) (hfuel : (write l depth j).toList.length ≤ fuel)
    (hrest : EndsNumber rest) :
    members? (fuel + 1) (blanks ++ ((writeText name).toList ++ (l.colon.toList
        ++ ((write l depth j).toList ++ rest)))) =
      match skipSpace rest with
      | ',' :: r => do
        let (ms?, r) ← members? fuel r
        return (ms?.map ((name, j) :: ·), r)
      | '}' :: r => return (some [(name, j)], r)
      | _ => none := by
  obtain ⟨gap, hgap, hcolon⟩ := hl.colon
  rw [members?, skipSpace_append hblanks, toList_writeText, List.cons_append,
    skipSpace_cons (by decide)]
  simp only
  rw [List.append_assoc, List.singleton_append, units?_writeText, Option.bind_eq_bind,
    Option.bind_some]
  simp only
  rw [hcolon, List.cons_append, skipSpace_cons (by decide)]
  simp only
  rw [value?_append hgap, hj fuel rest hfuel hrest, Text.textOfUnits?_map_toNat]
  rfl

/-- The elements of a list are read up to the closing bracket. -/
theorem elements?_append (hl : l.Neutral) {js : List Json}
    (h : ∀ j ∈ js, ReadsAs j (write l depth j)) (hj : ReadsAs j (write l depth j))
    (hblanks : Blanks blanks) (hlast : Blanks last)
    (hfuel : (write l depth j).toList.length + (writeElements l depth js).toList.length < fuel) :
    elements? fuel (blanks ++ ((write l depth j).toList
      ++ ((writeElements l depth js).toList ++ (last ++ ']' :: rest)))) = some (j :: js, rest) := by
  induction js generalizing j fuel blanks with
  | nil =>
      obtain ⟨fuel, rfl⟩ := Nat.exists_eq_succ_of_ne_zero (Nat.ne_zero_of_lt hfuel)
      have hends : EndsNumber (last ++ ']' :: rest) :=
        endsNumber_append hlast (endsNumber_cons.mpr (by decide))
      rw [writeElements, String.toList_empty, List.nil_append,
        elements?_element hj hblanks (by omega) hends, skipSpace_append hlast,
        skipSpace_cons (by decide)]
      rfl
  | cons j' js ih =>
      obtain ⟨fuel, rfl⟩ := Nat.exists_eq_succ_of_ne_zero (Nat.ne_zero_of_lt hfuel)
      obtain ⟨hj', hjs⟩ := List.forall_mem_cons.mp h
      have htext : (writeElements l depth (j' :: js)).toList
          = ',' :: ((l.lineBreak depth).toList ++ ((write l depth j').toList
            ++ (writeElements l depth js).toList)) := by
        simp [writeElements]
      rw [htext] at hfuel ⊢
      simp only [List.length_cons, List.length_append] at hfuel
      simp only [List.cons_append, List.append_assoc]
      rw [elements?_element hj hblanks (by omega) (endsNumber_cons.mpr (by decide)),
        skipSpace_cons (by decide)]
      simp only
      rw [ih hjs hj' (hl.lineBreak depth) (by omega)]
      rfl

/-- The members of an object are read up to the closing brace. -/
theorem members?_append (hl : l.Neutral) {ms : List (String × Json)}
    (h : ∀ m ∈ ms, ReadsAs m.2 (write l depth m.2)) {name : String}
    (hj : ReadsAs j (write l depth j)) (hblanks : Blanks blanks) (hlast : Blanks last)
    (hfuel : (write l depth j).toList.length + (writeMembers l depth ms).toList.length < fuel) :
    members? fuel (blanks ++ ((writeText name).toList ++ (l.colon.toList
      ++ ((write l depth j).toList ++ ((writeMembers l depth ms).toList
        ++ (last ++ '}' :: rest)))))) = some (some ((name, j) :: ms), rest) := by
  induction ms generalizing name j fuel blanks with
  | nil =>
      obtain ⟨fuel, rfl⟩ := Nat.exists_eq_succ_of_ne_zero (Nat.ne_zero_of_lt hfuel)
      have hends : EndsNumber (last ++ '}' :: rest) :=
        endsNumber_append hlast (endsNumber_cons.mpr (by decide))
      rw [writeMembers, String.toList_empty, List.nil_append,
        members?_member hl name hj hblanks (by omega) hends, skipSpace_append hlast,
        skipSpace_cons (by decide)]
      rfl
  | cons m ms ih =>
      obtain ⟨name', j'⟩ := m
      obtain ⟨fuel, rfl⟩ := Nat.exists_eq_succ_of_ne_zero (Nat.ne_zero_of_lt hfuel)
      obtain ⟨hj', hms⟩ := List.forall_mem_cons.mp h
      have htext : (writeMembers l depth ((name', j') :: ms)).toList
          = ',' :: ((l.lineBreak depth).toList ++ ((writeText name').toList ++ (l.colon.toList
            ++ ((write l depth j').toList ++ (writeMembers l depth ms).toList)))) := by
        simp [writeMembers]
      rw [htext] at hfuel ⊢
      simp only [List.length_cons, List.length_append] at hfuel
      simp only [List.cons_append, List.append_assoc]
      rw [members?_member hl name hj hblanks (by omega) (endsNumber_cons.mpr (by decide)),
        skipSpace_cons (by decide)]
      simp only
      rw [ih hms (j := j') hj' (hl.lineBreak depth) (by omega)]
      rfl

end Parts

/-! ### Lists and objects -/

/-- A bracket that closes is no element. -/
theorem elements?_closing (fuel : Nat) (cs : List Char) : elements? fuel (']' :: cs) = none := by
  cases fuel with
  | zero => rw [elements?]
  | succ fuel =>
      cases fuel with
      | zero => rw [elements?, value?]; rfl
      | succ fuel => rw [elements?, value?, skipSpace_cons (by decide)]; rfl

/-- What reads as elements is a list once it has its opening bracket. -/
theorem value?_list {fuel : Nat} {cs rest : List Char} {js : List Json}
    (h : elements? fuel cs = some (js, rest)) :
    value? (fuel + 1) ('[' :: cs) = some (.list js, rest) := by
  have hskip : elements? fuel (skipSpace cs) = some (js, rest) :=
    (elements?_skipSpace fuel cs).trans h
  rw [value?, skipSpace_cons (by decide)]
  simp only
  split
  · rename_i r hclosing
    rw [hclosing, elements?_closing] at hskip
    cases hskip
  · rw [hskip]
    rfl

/-- What reads as members is an object once it has its opening brace. -/
theorem value?_object {fuel : Nat} {cs rest : List Char} {ms : List (String × Json)}
    (h : members? fuel cs = some (some ms, rest)) :
    value? (fuel + 1) ('{' :: cs) = some (.object ms, rest) := by
  have hskip : members? fuel (skipSpace cs) = some (some ms, rest) :=
    (members?_skipSpace fuel cs).trans h
  rw [value?, skipSpace_cons (by decide)]
  simp only
  split
  · rename_i r hclosing
    rw [hclosing] at hskip
    cases fuel with
    | zero => rw [members?] at hskip; cases hskip
    | succ fuel => rw [members?, skipSpace_cons (by decide)] at hskip; cases hskip
  · rw [hskip]
    rfl

/-! ### Documents -/

theorem readsAs_null : ReadsAs .null "null" := by
  intro fuel rest hfuel _
  cases fuel with
  | zero => exact absurd hfuel (by decide)
  | succ fuel => rfl

theorem readsAs_bool (b : Bool) : ReadsAs (.bool b) (if b then "true" else "false") := by
  intro fuel rest hfuel _
  cases fuel with
  | zero => cases b <;> exact absurd hfuel (by decide)
  | succ fuel => cases b <;> rfl

theorem readsAs_list (hl : l.Neutral) {depth : Nat} {js : List Json}
    (h : ∀ j ∈ js, ∀ depth, ReadsAs j (write l depth j)) :
    ReadsAs (.list js) (write l depth (.list js)) := by
  intro fuel rest hfuel _
  cases js with
  | nil =>
      cases fuel with
      | zero => rw [write] at hfuel; exact absurd hfuel (by decide)
      | succ fuel => rw [write]; rfl
  | cons j js =>
      obtain ⟨hj, hjs⟩ := List.forall_mem_cons.mp h
      have htext : (write l depth (.list (j :: js))).toList
          = '[' :: ((l.lineBreak (depth + 1)).toList ++ ((write l (depth + 1) j).toList
            ++ ((writeElements l (depth + 1) js).toList
              ++ ((l.lineBreak depth).toList ++ [']'])))) := by
        simp [write]
      rw [htext] at hfuel ⊢
      simp only [List.length_cons, List.length_append] at hfuel
      obtain ⟨fuel, rfl⟩ := Nat.exists_eq_succ_of_ne_zero (n := fuel) (by omega)
      simp only [List.cons_append, List.append_assoc, List.nil_append]
      exact value?_list <| elements?_append hl (fun j hj => hjs j hj (depth + 1)) (hj (depth + 1))
        (hl.lineBreak (depth + 1)) (hl.lineBreak depth) (by omega)

theorem readsAs_object (hl : l.Neutral) {depth : Nat} {ms : List (String × Json)}
    (h : ∀ m ∈ ms, ∀ depth, ReadsAs m.2 (write l depth m.2)) :
    ReadsAs (.object ms) (write l depth (.object ms)) := by
  intro fuel rest hfuel _
  cases ms with
  | nil =>
      cases fuel with
      | zero => rw [write] at hfuel; exact absurd hfuel (by decide)
      | succ fuel => rw [write]; rfl
  | cons m ms =>
      obtain ⟨name, j⟩ := m
      obtain ⟨hj, hms⟩ := List.forall_mem_cons.mp h
      have htext : (write l depth (.object ((name, j) :: ms))).toList
          = '{' :: ((l.lineBreak (depth + 1)).toList ++ ((writeText name).toList
            ++ (l.colon.toList ++ ((write l (depth + 1) j).toList
              ++ ((writeMembers l (depth + 1) ms).toList
                ++ ((l.lineBreak depth).toList ++ ['}'])))))) := by
        simp [write]
      rw [htext] at hfuel ⊢
      simp only [List.length_cons, List.length_append] at hfuel
      obtain ⟨fuel, rfl⟩ := Nat.exists_eq_succ_of_ne_zero (n := fuel) (by omega)
      have hmember : ReadsAs j (write l (depth + 1) j) := hj (depth + 1)
      simp only [List.cons_append, List.append_assoc, List.nil_append]
      exact value?_object <| members?_append hl (fun m hm => hms m hm (depth + 1)) hmember
        (hl.lineBreak (depth + 1)) (hl.lineBreak depth) (by omega)

/-- **Every part of a document is read back**, at whatever depth it stands. -/
theorem readsAs_write (hl : l.Neutral) {j : Json} (h : j.WellFormed) (depth : Nat) :
    ReadsAs j (write l depth j) := by
  induction h generalizing depth with
  | null => rw [write_null]; exact readsAs_null
  | bool b => rw [write_bool]; exact readsAs_bool b
  | int n => rw [write_int]; exact readsAs_int n
  | text s => rw [write_text]; exact readsAs_text s
  | list _ ih => exact readsAs_list hl ih
  | object _ _ ih => exact readsAs_object hl ih

/-- **A document is read back from its text**, in whatever layout it was written. -/
theorem parse?_write (hl : l.Neutral) {j : Json} (h : j.WellFormed) :
    parse? (write l 0 j) = some j := by
  have hread := readsAs_write hl h 0 (2 * (write l 0 j).toList.length + 2) [] (by omega)
    endsNumber_nil
  rw [List.append_nil] at hread
  simp only [parse?, hread]
  rfl

theorem parse?_indented {j : Json} (h : j.WellFormed) : parse? j.indented = some j :=
  parse?_write Layout.neutral_indented h

theorem parse?_compact {j : Json} (h : j.WellFormed) : parse? j.compact = some j :=
  parse?_write Layout.neutral_compact h

end Worldsmith.Json
