/-
The texts of a RON document.

There are many texts of one document, for blanks may stand between any two lexemes and a comma
may stand behind the last part of a record or a map.  `Spells` says which they are, for the
documents that content is made of.  The text that is written for such a document is one of
them, with a blank after each colon and each comma and no others.
-/
import Worldsmith.Proofs.Ron.Token

namespace Worldsmith.Ron

open Text

/-! ### Spellings -/

/-- A field of a record, or an entry of a map under a text, with a spelling of its value. -/
structure Part where
  key : String
  value : Ron
  text : List Char

/-- How a part is spelled: with its key, a colon and its value, and blanks after each. -/
inductive Part.Stands (spell : String → List Char) (p : Part) : List Char → Prop
  | intro {gap₁ gap₂ gap₃ : List Char} (h₁ : Blanks gap₁) (h₂ : Blanks gap₂) (h₃ : Blanks gap₃) :
      p.Stands spell (spell p.key ++ (gap₁ ++ ':' :: (gap₂ ++ (p.text ++ gap₃))))

/-- Parts up to the closing bracket, with a comma after each but perhaps the last. -/
inductive Listing (closing : Char) (spell : String → List Char) : List Part → List Char → Prop
  | nil : Listing closing spell [] [closing]
  | last {p : Part} {cs : List Char} (h : p.Stands spell cs) :
      Listing closing spell [p] (cs ++ [closing])
  | cons {p : Part} {ps : List Part} {cs gap cs' : List Char} (h : p.Stands spell cs)
      (hgap : Blanks gap) (hps : Listing closing spell ps cs') :
      Listing closing spell (p :: ps) (cs ++ ',' :: (gap ++ cs'))

/-- Text as it stands in a document. -/
def textSpelling (s : String) : List Char := (writeText s).toList

/-- **The characters spell the document.**  Only what content is made of is spelled: there are
no lists, and a map has texts for its keys. -/
inductive Spells : Ron → List Char → Prop
  | bool (b : Bool) : Spells (.bool b) (if b then "true".toList else "false".toList)
  | number (n : Nat) (h : n ≤ 0xffffffffffffffff) :
      Spells (.number (decimal n).toList) (decimal n).toList
  | text (s : String) : Spells (.text s) (textSpelling s)
  | absent : Spells .absent "None".toList
  | present {v : Ron} {gap cs gap' : List Char} (hgap : Blanks gap) (hgap' : Blanks gap')
      (h : Spells v cs) :
      Spells (.present 1 v) ("Some".toList ++ '(' :: (gap ++ (cs ++ (gap' ++ [')']))))
  | unit : Spells .unit "()".toList
  | record {name? : Option String} {ps : List Part} {gap cs : List Char}
      (hname : ∀ name ∈ name?, isPlainName name = true ∧ name.toList ∉ reserved)
      (hne : ps ≠ []) (hgap : Blanks gap) (hcs : Listing ')' String.toList ps cs)
      (hkeys : ∀ p ∈ ps, isPlainName p.key = true) (h : ∀ p ∈ ps, Spells p.value p.text) :
      Spells (.record name? (ps.map fun p => (p.key, p.value)))
        ((name?.getD "").toList ++ '(' :: (gap ++ cs))
  | map {ps : List Part} {gap cs : List Char} (hgap : Blanks gap)
      (hcs : Listing '}' textSpelling ps cs) (h : ∀ p ∈ ps, Spells p.value p.text) :
      Spells (.map (ps.map fun p => (.text p.key, p.value))) ('{' :: (gap ++ cs))

/-! ### Writing -/

variable {v : Ron}

/-- A field or an entry, with its value as it is written. -/
def Part.written (key : String) (v : Ron) : Part := ⟨key, v, v.write.toList⟩

theorem blanks_space : Blanks [' '] := by
  simp [Blanks, isSpace]

/-- It stands with a blank after the colon. -/
theorem Part.stands_written (spell : String → List Char) (key : String) (v : Ron) :
    (Part.written key v).Stands spell (spell key ++ (':' :: ' ' :: v.write.toList)) := by
  have hstands : (Part.written key v).Stands spell
      (spell key ++ ([] ++ ':' :: ([' '] ++ (v.write.toList ++ [])))) :=
    .intro blanks_nil blanks_space blanks_nil
  rwa [List.append_nil] at hstands

theorem listing_writeFields (fs : List (String × Ron)) :
    Listing ')' String.toList (fs.map fun f => Part.written f.1 f.2)
      ((writeFields fs).toList ++ [')']) := by
  induction fs with
  | nil => exact .nil
  | cons f fs ih =>
      have hf := Part.stands_written String.toList f.1 f.2
      cases fs with
      | nil =>
          have hlast : Listing ')' String.toList [Part.written f.1 f.2] _ := .last hf
          simpa [writeFields] using hlast
      | cons f' fs =>
          have hcons := Listing.cons hf blanks_space ih
          simpa [writeFields] using hcons

theorem listing_writeEntries (es : List (String × Ron)) :
    Listing '}' textSpelling (es.map fun e => Part.written e.1 e.2)
      ((writeEntries (es.map fun e => (.text e.1, e.2))).toList ++ ['}']) := by
  induction es with
  | nil => exact .nil
  | cons e es ih =>
      have he := Part.stands_written textSpelling e.1 e.2
      cases es with
      | nil =>
          have hlast : Listing '}' textSpelling [Part.written e.1 e.2] _ := .last he
          simpa [writeEntries, textSpelling] using hlast
      | cons e' es =>
          have hcons := Listing.cons he blanks_space ih
          simpa [writeEntries, textSpelling] using hcons

/-- The document is spelled by the text that is written for it. -/
def WellSpelled (v : Ron) : Prop := Spells v v.write.toList

theorem wellSpelled_bool (b : Bool) : WellSpelled (.bool b) := by
  have h := Spells.bool b
  rw [WellSpelled, write_bool]
  cases b <;> exact h

theorem wellSpelled_text (s : String) : WellSpelled (.text s) := by
  rw [WellSpelled, write_text]
  exact .text s

theorem wellSpelled_ofWord (n : UInt32) : WellSpelled (.number (decimal n.toNat).toList) := by
  have hlt : n.toNat < UInt32.size := n.toNat_lt
  rw [WellSpelled, write_number, String.toList_ofList]
  exact .number n.toNat (Nat.le_of_lt (Nat.lt_trans hlt (by decide)))

theorem wellSpelled_absent : WellSpelled .absent := by
  rw [WellSpelled, write_absent]
  exact .absent

theorem wellSpelled_unit : WellSpelled .unit := by
  rw [WellSpelled, write_unit]
  exact .unit

theorem WellSpelled.present (h : WellSpelled v) : WellSpelled (.present 1 v) := by
  have hpresent := Spells.present blanks_nil blanks_nil h
  rw [WellSpelled, write]
  simpa using hpresent

theorem WellSpelled.record {name? : Option String} {fs : List (String × Ron)}
    (hname : ∀ name ∈ name?, isPlainName name = true ∧ name.toList ∉ reserved) (hne : fs ≠ [])
    (hkeys : ∀ f ∈ fs, isPlainName f.1 = true) (h : ∀ f ∈ fs, WellSpelled f.2) :
    WellSpelled (.record name? fs) := by
  have hrecord := Spells.record hname (by simpa using hne) blanks_nil (listing_writeFields fs)
    (List.forall_mem_map.mpr hkeys) (List.forall_mem_map.mpr h)
  rw [WellSpelled, write]
  simpa [Part.written, Function.comp_def] using hrecord

theorem WellSpelled.map {es : List (String × Ron)} (h : ∀ e ∈ es, WellSpelled e.2) :
    WellSpelled (.map (es.map fun e => (.text e.1, e.2))) := by
  have hmap := Spells.map blanks_nil (listing_writeEntries es)
    (List.forall_mem_map.mpr h)
  rw [WellSpelled, write]
  simpa [Part.written, Function.comp_def] using hmap

end Worldsmith.Ron
