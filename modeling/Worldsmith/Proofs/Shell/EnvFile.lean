/-
The environment file, and what it passes on.

The program looks for the file above the place where it is.  It finds the same text after files
of other names were written (`textOn?_of_receives`).

A value may hold the values of other variables.  A name of letters and digits follows the dollar
sign as it is, and a name with any other character must stand in braces.  So a file in which
such a name nowhere stands in braces passes nothing of its value on: environments that differ in
this variable alone do so still after the file (`AlikeBut.environmentOn`).
-/
import Mathlib.Data.List.Find
import Worldsmith.Proofs.Shell.Files
import Worldsmith.Shell.EnvFile

namespace Worldsmith.EnvFile

open Text (isSpace isAlphanumeric trimEnd fullLines withoutLineEnd)

/-! ### Looking it up -/

/-- Where the file is looked for. -/
def candidates (here : Place) : List Path := (Path.ofPlace here).ancestors.map (·.join ⟨".env"⟩)

/-- The text of the file, if there is one. -/
def textOn? (w : Workspace) : Option String :=
  ((candidates w.here).find? (w.disk.isFile w.here)).bind (w.disk.read? w.here)

/-- The environment as the file on a workspace extends it. -/
def environmentOn (env : Environment) (w : Workspace) : Environment :=
  ((textOn? w).map (load env)).getD env

theorem looks_extend (env : Environment) :
    Looks (extend env : StateM Workspace Environment) (environmentOn env) := by
  intro w
  have hfind := Looks.findM? Looks.isFile (candidates w.here)
  rw [extend, Looks.currentDirectory.run_bind]
  show StateT.run ((candidates w.here).findM? MonadFiles.isFile >>= _) w = _
  rw [hfind.run_bind, environmentOn, textOn?]
  cases (candidates w.here).find? (w.disk.isFile w.here) with
  | none => rfl
  | some path => exact (Looks.read? path).run_bind _ w

/-- **The file is that of before** when files of other names were written. -/
theorem textOn?_of_receives {w w' : Workspace} {place : Place} {files : List (String × String)}
    (h : w.disk.Receives w'.disk place files) (hhere : w'.here = w.here)
    (hnames : ∀ f ∈ files, f.1 ≠ ".env") (hw : w.IsGrounded) : textOn? w' = textOn? w := by
  have hread : ∀ p ∈ candidates w.here, w'.disk.read? w.here p = w.disk.read? w.here p := by
    intro p hp
    obtain ⟨dir, hdir, rfl⟩ := List.mem_map.mp hp
    obtain ⟨q, hat⟩ := Disk.directoryAt?_of_isDirectory (hw.isDirectory_above hdir)
    exact h.read?_join_kept (by decide) hat hnames
  have hfind : (candidates w.here).find? (w'.disk.isFile w.here)
      = (candidates w.here).find? (w.disk.isFile w.here) :=
    List.find?_congr fun p hp => by rw [Disk.isFile_eq, Disk.isFile_eq, hread p hp]
  rw [textOn?, textOn?, hhere, hfind]
  cases hfound : (candidates w.here).find? (w.disk.isFile w.here) with
  | none => rfl
  | some path => exact hread path (List.mem_of_find?_eq_some hfound)

/-! ### Values of other variables -/

/-- Environments differ in one variable at most. -/
def AlikeBut (name : String) (env env' : Environment) : Prop :=
  ∀ other, other ≠ name → env.get? other = env'.get? other

/-- How a value asks for that of a variable whose name takes braces. -/
def reference (name : String) : List Char := '$' :: '{' :: name.toList ++ ['\x7d']

/-- What was read from a dollar sign on. -/
def ValueState.spelled : ValueState → List Char
  | .name read _ => '$' :: read.reverse
  | .bracedName read _ => '$' :: '{' :: read.reverse
  | _ => []

/-- From a state on, a value does not ask for a variable. -/
structure Spares (name : String) (s : ValueState) (cs : List Char) : Prop where
  plain : ∀ read quoted, s = .name read quoted → ∀ c ∈ read, isAlphanumeric c = true
  text : ¬reference name <:+: s.spelled ++ cs

section Spares

variable {name : String} {s s' : ValueState} {c : Char} {cs : List Char}

/-- Names begin with a dollar sign, and everything else begins anew. -/
theorem Spares.next (h : Spares name s (c :: cs)) (hs : s'.spelled = []) : Spares name s' cs where
  plain := fun read quoted heq => by simp [heq, ValueState.spelled] at hs
  text := fun hwithin => h.text <| hwithin.trans <| by
    rw [hs, List.nil_append]
    exact ((List.suffix_cons c cs).trans (List.suffix_append _ _)).isInfix

theorem Spares.dollar (h : Spares name s ('$' :: cs)) (quoted : Bool) :
    Spares name (.name [] quoted) cs where
  plain := fun read _ heq => by simp_all
  text := fun hwithin => h.text (hwithin.trans (List.suffix_append _ _).isInfix)

theorem Spares.letter {read : List Char} {quoted : Bool}
    (h : Spares name (.name read quoted) (c :: cs)) (hc : isAlphanumeric c = true) :
    Spares name (.name (c :: read) quoted) cs where
  plain := fun read' _ heq d hd => by
    obtain ⟨rfl, -⟩ := ValueState.name.inj heq
    rcases List.mem_cons.mp hd with rfl | hd
    · exact hc
    · exact h.plain read quoted rfl d hd
  text := by simpa [ValueState.spelled] using h.text

theorem Spares.brace {quoted : Bool} (h : Spares name (.name [] quoted) ('{' :: cs)) :
    Spares name (.bracedName [] quoted) cs where
  plain := fun _ _ heq => by cases heq
  text := h.text

theorem Spares.braced {read : List Char} {quoted : Bool}
    (h : Spares name (.bracedName read quoted) (c :: cs)) :
    Spares name (.bracedName (c :: read) quoted) cs where
  plain := fun _ _ heq => by cases heq
  text := by simpa [ValueState.spelled] using h.text

variable {env env' : Environment} (henv : AlikeBut name env env')
include henv

theorem valueOf_congr {read : List Char} (hread : read.reverse ≠ name.toList) :
    valueOf env read = valueOf env' read := by
  rw [valueOf, valueOf, henv]
  intro heq
  rw [← heq, String.toList_ofList] at hread
  exact hread rfl

variable (hname : ∃ c ∈ name.toList, isAlphanumeric c = false)
include hname

theorem Spares.valueOf_name {read : List Char} {quoted : Bool}
    (h : Spares name (.name read quoted) cs) : valueOf env read = valueOf env' read := by
  refine valueOf_congr henv fun heq => ?_
  obtain ⟨c, hc, hother⟩ := hname
  rw [← heq, List.mem_reverse] at hc
  rw [h.plain read quoted rfl c hc] at hother
  cases hother

omit hname in
theorem Spares.valueOf_bracedName {read : List Char} {quoted : Bool}
    (h : Spares name (.bracedName read quoted) ('\x7d' :: cs)) :
    valueOf env read = valueOf env' read := by
  refine valueOf_congr henv fun heq => h.text ?_
  rw [ValueState.spelled, heq, reference]
  exact ⟨[], cs, by simp⟩

/-- **A value that does not ask for a variable** does not depend on it. -/
theorem Spares.value?_congr (h : Spares name s cs) : value? env s cs = value? env' s cs := by
  induction cs generalizing s with
  | nil =>
      cases s with
      | name read quoted => cases quoted <;> simp [value?, h.valueOf_name henv hname]
      | escape quoted => cases quoted <;> rfl
      | _ => rfl
  | cons c cs ih =>
      have hback : ∀ quoted, value? env (.back quoted) cs = value? env' (.back quoted) cs :=
        fun quoted => ih (h.next (by cases quoted <;> rfl))
      have hplain : value? env .plain cs = value? env' .plain cs := hback false
      have hdouble : value? env .double cs = value? env' .double cs := hback true
      have hsingle : value? env .single cs = value? env' .single cs := ih (h.next rfl)
      have hended : value? env .ended cs = value? env' .ended cs := ih (h.next rfl)
      have hescape : ∀ quoted, value? env (.escape quoted) cs = value? env' (.escape quoted) cs :=
        fun quoted => ih (h.next rfl)
      have hdollar : c = '$' → ∀ quoted,
          value? env (.name [] quoted) cs = value? env' (.name [] quoted) cs := by
        rintro rfl quoted
        exact ih (h.dollar quoted)
      cases s with
      | ended => simp only [value?, hended]
      | escape quoted => simp only [value?, hback]
      | single => simp only [value?, hplain, hsingle]
      | plain =>
          by_cases hc : c = '$'
          · simp only [value?, if_pos hc, hdollar hc]
          · simp only [value?, if_neg hc, hplain, hsingle, hdouble, hescape, hended]
      | double =>
          by_cases hc : c = '$'
          · simp only [value?, if_pos hc, hdollar hc]
          · simp only [value?, if_neg hc, hplain, hdouble, hescape]
      | name read quoted =>
          have hvalue := h.valueOf_name henv hname
          by_cases hletter : isAlphanumeric c = true
          · simp only [value?, if_pos hletter, ih (h.letter hletter)]
          · by_cases hbrace : (c = '{' && read.isEmpty) = true
            · obtain ⟨hc, hread⟩ : c = '{' ∧ read = [] := by simpa using hbrace
              subst hc hread
              simp [value?, hletter, ih h.brace]
            · by_cases hc : c = '$'
              · simp only [value?, if_neg hletter, if_neg hbrace, if_pos hc, hvalue, hdollar hc]
              · simp only [value?, if_neg hletter, if_neg hbrace, if_neg hc, hvalue, hback]
      | bracedName read quoted =>
          by_cases hc : c = '\x7d'
          · subst hc
            simp only [value?, if_pos, h.valueOf_bracedName henv, hback]
          · simp only [value?, if_neg hc, ih h.braced]

end Spares

/-! ### Lines of the file -/

theorem isPrefix_trimEnd (cs : List Char) : trimEnd cs <+: cs := by
  rw [trimEnd, ← List.reverse_suffix, List.reverse_reverse]
  exact List.dropWhile_suffix _

theorem suffix_of_key? {cs key r : List Char} (h : key? cs = some (key, r)) : r <:+ cs := by
  cases cs with
  | nil => cases h
  | cons c cs =>
      simp only [key?] at h
      split at h
      · obtain ⟨-, rfl⟩ := Prod.mk.inj (Option.some.inj h)
        exact List.dropWhile_suffix _
      · cases h

theorem suffix_of_afterEqual? {cs r : List Char} (h : afterEqual? cs = some r) : r <:+ cs := by
  unfold afterEqual? at h
  split at h
  · obtain rfl := Option.some.inj h
    exact List.suffix_cons _ _
  · cases h

theorem suffix_of_keyAndEqual? {cs key r : List Char} (h : keyAndEqual? cs = some (key, r)) :
    r <:+ cs := by
  obtain ⟨⟨key', rest⟩, hkey, hrest⟩ := Option.bind_eq_some_iff.mp h
  obtain ⟨r', hequal, hr⟩ := Option.bind_eq_some_iff.mp hrest
  obtain ⟨-, rfl⟩ := Prod.mk.inj (Option.some.inj hr)
  exact (suffix_of_afterEqual? hequal).trans
    ((List.dropWhile_suffix _).trans (suffix_of_key? hkey))

theorem isPrefix_withoutLineEnd (cs : List Char) : withoutLineEnd cs <+: cs := by
  rw [withoutLineEnd]
  split
  · split
    · exact (List.dropLast_prefix _).trans (List.dropLast_prefix _)
    · exact List.dropLast_prefix _
  · exact List.prefix_refl _

theorem isPrefix_follow (s : LineState) (cs : List Char) : (follow s cs).1 <+: cs := by
  induction cs generalizing s with
  | nil => exact List.prefix_refl _
  | cons c cs ih =>
      rw [follow]
      split
      · exact List.nil_prefix
      · exact (List.cons_prefix_cons).mpr ⟨rfl, ih _⟩

/-- A line is a piece of the text. -/
theorem infix_of_mem_logicalLines {begun : List Char} {s : LineState} {lines : List (List Char)} :
    ∀ line ∈ logicalLines begun s lines, line <:+: begun ++ lines.flatten := by
  -- a line that was kept begins where the text does, and a later one is in what follows
  have hkept : ∀ {begun line rest kept : List Char}, kept <+: begun ++ line →
      kept <:+: begun ++ (line ++ rest) := fun h => by
    rw [← List.append_assoc]
    exact h.isInfix.trans (List.prefix_append _ _).isInfix
  have hlater : ∀ {begun line rest later : List Char}, later <:+: [] ++ rest →
      later <:+: begun ++ (line ++ rest) := fun h => by
    rw [← List.append_assoc]
    exact h.trans (List.suffix_append _ _).isInfix
  fun_induction logicalLines begun s lines with
  | case1 => simp
  | case2 begun s line lines text hcomment ih =>
      intro l hl
      rcases List.mem_cons.mp hl with rfl | hl
      · exact List.nil_infix
      · exact hlater (ih l hl)
  | case3 begun s line lines text hcomment kept hfollow ih =>
      intro l hl
      rcases List.mem_cons.mp hl with rfl | hl
      · have hprefix := isPrefix_follow s line
        rw [hfollow] at hprefix
        exact hkept ((List.prefix_append_right_inj begun).mpr hprefix)
      · exact hlater (ih l hl)
  | case4 begun s line lines text hcomment kept hfollow ih =>
      intro l hl
      rcases List.mem_cons.mp hl with rfl | hl
      · exact hkept (isPrefix_withoutLineEnd _)
      · exact hlater (ih l hl)
  | case5 begun s line lines text hcomment kept state hstate hfollow ih =>
      intro l hl
      simpa [text] using ih l hl

/-- A line gives a variable a value if it has none. -/
theorem get?_given (env : Environment) (key value other : String) :
    Table.get? (if env.contains key then env else env.set key value) other
      = if other = key then some ((env.get? key).getD value) else env.get? other := by
  by_cases hkey : env.contains key = true
  · rw [if_pos hkey]
    split
    · rename_i heq
      have hsome := mt Table.get?_eq_none_iff.mp (not_not.mpr ((env.contains_iff key).mp hkey))
      obtain ⟨v, hv⟩ := Option.ne_none_iff_exists'.mp hsome
      rw [heq, hv, Option.getD_some]
    · rfl
  · rw [if_neg hkey, Table.get?_set]
    have hnone := Table.get?_eq_none_iff.mpr (mt (env.contains_iff key).mpr hkey)
    rw [hnone, Option.getD_none]

section Alike

variable {name : String} {env env' : Environment} (henv : AlikeBut name env env')
  (hname : ∃ c ∈ name.toList, isAlphanumeric c = false)
include henv hname

/-- A line that nowhere asks for a variable says the same whatever that is. -/
theorem assignment?_congr {line : List Char} (hline : ¬reference name <:+: line) :
    assignment? env line = assignment? env' line := by
  have hvalue : ∀ r, r <:+ (trimEnd line).dropWhile isSpace →
      value? env .plain r = value? env' .plain r := by
    intro r hr
    refine Spares.value?_congr henv hname ⟨fun _ _ heq => ?_, fun hwithin => hline ?_⟩
    · cases heq
    · exact hwithin.trans ((hr.trans (List.dropWhile_suffix _)).isInfix.trans
        (isPrefix_trimEnd line).isInfix)
  rw [assignment?, assignment?]
  generalize (trimEnd line).dropWhile isSpace = cs at hvalue ⊢
  simp only
  split
  · rfl
  · refine Option.bind_congr fun (key, r) hkey => ?_
    have hr := (List.dropWhile_suffix isSpace).trans (suffix_of_key? hkey)
    -- whichever way the equal sign was found, the value stands behind it
    have hrest : ∀ r', r' <:+ cs → ∀ key : List Char,
        (if (r'.dropWhile isSpace).isEmpty || (r'.dropWhile isSpace).head? = some '#' then
          pure (some (String.ofList key, ""))
        else do return some (String.ofList key,
          String.ofList (← value? env .plain (r'.dropWhile isSpace))))
        = (if (r'.dropWhile isSpace).isEmpty || (r'.dropWhile isSpace).head? = some '#' then
          pure (some (String.ofList key, ""))
        else do return some (String.ofList key,
          String.ofList (← value? env' .plain (r'.dropWhile isSpace))) :
          Option (Option (String × String))) := by
      intro r' hr' key
      rw [hvalue _ ((List.dropWhile_suffix _).trans hr')]
    split
    · rename_i r' hafter
      exact hrest r' ((suffix_of_afterEqual? hafter).trans hr) key
    · split
      · refine Option.bind_congr fun (key', r') hequal => ?_
        exact hrest r' ((suffix_of_keyAndEqual? hequal).trans hr) key'
      · rfl

/-- **Lines that nowhere ask for a variable** leave environments alike but for it. -/
theorem AlikeBut.loadLines {lines : List (List Char)}
    (hlines : ∀ line ∈ lines, ¬reference name <:+: line) :
    AlikeBut name (loadLines env lines) (loadLines env' lines) := by
  induction lines generalizing env env' with
  | nil => exact henv
  | cons line lines ih =>
      rw [EnvFile.loadLines, EnvFile.loadLines,
        assignment?_congr henv hname (hlines line List.mem_cons_self)]
      have hrest : ∀ l ∈ lines, ¬reference name <:+: l :=
        fun l hl => hlines l (List.mem_cons_of_mem _ hl)
      split
      · exact henv
      · exact ih henv hrest
      · rename_i key value _
        refine ih (fun other hother => ?_) hrest
        rw [get?_given, get?_given]
        split
        · rename_i heq
          rw [henv key (heq ▸ hother)]
        · exact henv other hother

/-- **A file that nowhere asks for a variable** leaves environments alike but for it. -/
theorem AlikeBut.load {text : String} (htext : ¬reference name <:+: text.toList) :
    AlikeBut name (load env text) (load env' text) := by
  refine henv.loadLines hname fun line hline hwithin => htext ?_
  have hall := hwithin.trans (infix_of_mem_logicalLines line hline)
  rw [List.nil_append, Text.flatten_fullLines] at hall
  split at hall
  · rename_i cs hmark
    rw [hmark]
    exact hall.trans (List.suffix_cons _ _).isInfix
  · exact hall

/-- So does the file on a workspace. -/
theorem AlikeBut.environmentOn {w : Workspace}
    (hspared : ∀ text, textOn? w = some text → ¬reference name <:+: text.toList) :
    AlikeBut name (environmentOn env w) (environmentOn env' w) := by
  rw [EnvFile.environmentOn, EnvFile.environmentOn]
  cases htext : textOn? w with
  | none => exact henv
  | some text => exact henv.load hname (hspared text htext)

end Alike

end Worldsmith.EnvFile
