/-
What is done to a disk, and what a path leads to afterwards.

The program makes directories and writes files, and takes nothing away.  `Receives` says what
comes of it: every directory is still there, some files are in one of them, and no other file
has changed.  It holds of each operation, and of several one after the other.

A path leads through directories, so where it led somewhere it leads there still
(`locate?_mono`).  Files are written by their names in a directory, and such a path leads to
that name at the place of the directory, whatever the path of the directory looks like
(`locate?_join`).
-/
import Worldsmith.Proofs.Table
import Worldsmith.Proofs.Text
import Worldsmith.Shell.Files

namespace Worldsmith

/-! ### Names -/

/-- A name leads one step down when it is in one piece and none of those that lead elsewhere. -/
def Path.IsName (name : String) : Prop := name ∉ ["", ".", ".."] ∧ '/' ∉ name.toList

instance (name : String) : Decidable (Path.IsName name) := inferInstanceAs (Decidable (_ ∧ _))

namespace Path

theorem IsName.steps {name : String} (h : IsName name) : steps ⟨name⟩ = [name] := by
  rw [Path.steps, Text.cutAll_of_notMem h.2, List.map_singleton, String.ofList_toList]

theorem IsName.not_isAbsolute {name : String} (h : IsName name) : isAbsolute ⟨name⟩ = false := by
  refine decide_eq_false fun hhead => h.2 ?_
  exact List.mem_of_mem_head? hhead

/-- A relative path is joined to what comes before the last slash of a directory that ends in
one, and else to all of it. -/
theorem join_relative {dir p : Path} (hdir : dir.text ≠ "") (hp : p.isAbsolute = false) :
    ∃ front, (dir.text.toList = front ∨ dir.text.toList = front ++ ['/'])
      ∧ (dir.join p).text.toList = front ++ '/' :: p.text.toList := by
  rw [join, if_neg (by simp [hp])]
  by_cases hslash : dir.text.toList.getLast? = some '/'
  · obtain ⟨front, hfront⟩ := List.getLast?_eq_some_iff.mp hslash
    refine ⟨front, .inr hfront, ?_⟩
    simp [hfront]
  · refine ⟨dir.text.toList, .inl rfl, ?_⟩
    simp [hslash, hdir]

theorem steps_of_toList {p : Path} {front back : List Char}
    (htext : p.text.toList = front ++ '/' :: back) :
    p.steps = (Text.cutAll '/' front).map String.ofList
      ++ (Text.cutAll '/' back).map String.ofList := by
  rw [steps, htext, Text.cutAll_append, List.map_append]

theorem steps_ne_nil (p : Path) : p.steps ≠ [] := by
  rw [steps, Ne, List.map_eq_nil_iff]
  exact Text.cutAll_ne_nil _ _

/-- The steps to the directory above come first. -/
theorem parentSteps_prefix (p : Path) : p.parentSteps <+: p.steps := by
  rw [parentSteps, ← List.reverse_suffix, List.reverse_reverse]
  exact (List.drop_suffix _ _).trans (List.dropWhile_suffix _)

variable {place : List String}

/-- The steps to a place are its names, from the root. -/
theorem steps_ofPlace (hplace : place ≠ []) (h : ∀ name ∈ place, IsName name) :
    (ofPlace place).steps = "" :: place := by
  have htext : (ofPlace place).text.toList
      = [] ++ '/' :: ['/'].intercalate (place.map String.toList) := by
    simp [ofPlace]
  rw [steps, htext, Text.cutAll_append, Text.cutAll_intercalate (by simpa using hplace)
    (List.forall_mem_map.mpr fun name hname => (h name hname).2)]
  simp [Text.cutAll]

/-- What is above a place is a beginning of it. -/
theorem exists_of_mem_ancestors (h : ∀ name ∈ place, IsName name) {p : Path}
    (hp : p ∈ (ofPlace place).ancestors) :
    ∃ above below, place = above ++ below ∧ p = ofPlace above := by
  have hnames : (ofPlace place).steps.filter (· ≠ "") = place := by
    by_cases hplace : place = []
    · rw [hplace]
      decide
    · rw [steps_ofPlace hplace h, List.filter_cons, if_neg (by decide), List.filter_eq_self]
      intro name hname
      have := (h name hname).1
      simp_all
  rw [ancestors, hnames] at hp
  obtain ⟨n, -, rfl⟩ := List.mem_map.mp hp
  exact ⟨_, _, (List.take_append_drop _ _).symm, rfl⟩

end Path

namespace Disk

variable {d d' : Disk} {here place : Place}

/-! ### Files and directories -/

/-- The text of the file at a place. -/
def file? (d : Disk) (place : Place) : Option String :=
  match d.node? place with
  | some (.file text) => some text
  | _ => none

/-- The place, if a directory is there. -/
def directory? (d : Disk) (place : Place) : Option Place :=
  if d.node? place = some .directory then some place else none

/-- The place of the directory that a path leads to.  The empty path leads nowhere by itself,
but in front of a name it stands for the place where one is. -/
def directoryAt? (d : Disk) (here : Place) (p : Path) : Option Place :=
  (if p.text = "" then some here else d.locate? here p).bind d.directory?

theorem file?_eq_some_iff {text : String} :
    d.file? place = some text ↔ d.node? place = some (.file text) := by
  rw [file?]
  split <;> simp_all

theorem directory?_eq_some_iff {place' : Place} :
    d.directory? place = some place' ↔ d.node? place = some .directory ∧ place = place' := by
  rw [directory?]
  split <;> simp_all

theorem read?_eq (d : Disk) (here : Place) (p : Path) :
    d.read? here p = (d.locate? here p).bind d.file? := by
  rw [read?, at?]
  cases d.locate? here p <;> rfl

theorem isFile_eq (d : Disk) (here : Place) (p : Path) :
    d.isFile here p = (d.read? here p).isSome :=
  rfl

theorem isDirectory_iff {p : Path} :
    d.isDirectory here p = true ↔
      ∃ place, d.locate? here p = some place ∧ d.node? place = some .directory := by
  simp [isDirectory, at?, Option.bind_eq_some_iff]

theorem directoryAt?_of_isDirectory {p : Path} (h : d.isDirectory here p = true) :
    ∃ place, d.directoryAt? here p = some place := by
  obtain ⟨place, hlocate, hnode⟩ := isDirectory_iff.mp h
  have htext : p.text ≠ "" := by
    intro heq
    rw [locate?, if_pos heq] at hlocate
    cases hlocate
  refine ⟨place, ?_⟩
  rw [directoryAt?, if_neg htext, hlocate]
  exact directory?_eq_some_iff.mpr ⟨hnode, rfl⟩

/-! ### Steps -/

theorem walk?_append (d : Disk) (place : Place) (steps steps' : List String) :
    d.walk? place (steps ++ steps')
      = (d.walk? place steps).bind fun place => d.walk? place steps' := by
  fun_induction d.walk? place steps with
  | case1 place => rfl
  | case2 place step steps h => rw [List.cons_append, walk?, if_pos h]; rfl
  | case3 place step steps h hstay ih =>
      rw [List.cons_append, walk?, if_neg h, if_pos hstay, ih]
  | case4 place steps h hstay ih =>
      rw [List.cons_append, walk?, if_neg h, if_neg hstay, if_pos rfl, ih]
  | case5 place step steps h hstay hup ih =>
      rw [List.cons_append, walk?, if_neg h, if_neg hstay, if_neg hup, ih]

theorem walk?_empty (d : Disk) (place : Place) : d.walk? place [""] = d.directory? place := by
  by_cases h : d.node? place = some .directory <;> simp [walk?, directory?, h]

theorem walk?_name (d : Disk) (place : Place) {name : String} (h : Path.IsName name) :
    d.walk? place [name] = (d.directory? place).map (· ++ [name]) := by
  obtain ⟨hname, -⟩ := h
  simp only [List.mem_cons, List.not_mem_nil, or_false, not_or] at hname
  by_cases hplace : d.node? place = some .directory <;> simp [walk?, directory?, hplace, hname]

/-- Steps are taken from a directory. -/
theorem walk?_of_ne_nil (d : Disk) (place : Place) {steps : List String} (hsteps : steps ≠ []) :
    d.walk? place steps = (d.directory? place).bind fun place => d.walk? place steps := by
  cases steps with
  | nil => exact absurd rfl hsteps
  | cons step steps =>
      by_cases hplace : d.node? place = some .directory <;> simp [walk?, directory?, hplace]

/-- No step is taken from anything else. -/
theorem node?_of_walk? {steps : List String} {q : Place}
    (hplace : d.node? place ≠ some .directory) (hwalk : d.walk? place steps = some q) :
    d.node? q ≠ some .directory := by
  cases steps with
  | nil =>
      obtain rfl := Option.some.inj hwalk
      exact hplace
  | cons step steps =>
      rw [walk?, if_pos hplace] at hwalk
      cases hwalk

/-- **A relative path in a directory** leads on from the place of the directory. -/
theorem locate?_join_relative (d : Disk) (here : Place) {dir p : Path}
    (hp : p.isAbsolute = false) (htext : dir.text ≠ "" ∨ p.text ≠ "") :
    d.locate? here (dir.join p)
      = (d.directoryAt? here dir).bind fun place => d.walk? place p.steps := by
  by_cases hdir : dir.text = ""
  · have hjoin : dir.join p = p := by
      simp [Path.join, hp, hdir]
    rw [hjoin, locate?, if_neg (htext.resolve_left (not_not.mpr hdir)), hp, if_neg (by decide),
      directoryAt?, if_pos hdir]
    exact d.walk?_of_ne_nil here p.steps_ne_nil
  · obtain ⟨front, hfront, hjoin⟩ := Path.join_relative hdir hp
    have hne : (dir.join p).text ≠ "" := by
      intro heq
      rw [heq] at hjoin
      simp at hjoin
    have habsolute : (dir.join p).isAbsolute = dir.isAbsolute := by
      rw [Path.isAbsolute, Path.isAbsolute, hjoin]
      rcases hfront with hfront | hfront <;> rw [hfront] <;> cases front <;> simp_all
    have hwalk : ∀ start, d.walk? start (dir.join p).steps
        = ((d.walk? start ((Text.cutAll '/' front).map String.ofList)).bind d.directory?).bind
          fun place => d.walk? place p.steps := by
      intro start
      rw [Path.steps_of_toList hjoin, walk?_append, Option.bind_assoc]
      exact congrArg _ (funext fun place => d.walk?_of_ne_nil place p.steps_ne_nil)
    rw [locate?, if_neg hne, habsolute, hwalk, directoryAt?, if_neg hdir, locate?, if_neg hdir]
    have hsteps : dir.steps = (Text.cutAll '/' dir.text.toList).map String.ofList := rfl
    rw [hsteps]
    rcases hfront with hfront | hfront
    · rw [hfront]
    · -- a slash at the end asks for a directory once more
      have hempty : (Text.cutAll '/' []).map String.ofList = [""] := rfl
      have htwice : ∀ place, (d.directory? place).bind d.directory? = d.directory? place := by
        intro place
        by_cases hplace : d.node? place = some .directory <;> simp [directory?, hplace]
      rw [hfront, Text.cutAll_append, List.map_append, walk?_append, hempty]
      simp only [walk?_empty, Option.bind_assoc, htwice]

theorem directory?_of_directoryAt? {dir : Path} (h : d.directoryAt? here dir = some place) :
    d.directory? place = some place := by
  obtain ⟨start, -, hdirectory⟩ := Option.bind_eq_some_iff.mp h
  obtain ⟨hnode, rfl⟩ := directory?_eq_some_iff.mp hdirectory
  exact hdirectory

/-- **A name in a directory** leads to that name at the place of the directory. -/
theorem locate?_join (d : Disk) (here : Place) (dir : Path) {name : String}
    (h : Path.IsName name) :
    d.locate? here (dir.join ⟨name⟩) = (d.directoryAt? here dir).map (· ++ [name]) := by
  have hname : name ≠ "" := fun heq => h.1 (by simp [heq])
  rw [locate?_join_relative d here h.not_isAbsolute (.inr hname), h.steps]
  cases hat : d.directoryAt? here dir with
  | none => rfl
  | some place =>
      rw [Option.bind_some, d.walk?_name place h, directory?_of_directoryAt? hat]

/-- Where a relative path leads somewhere, the directory it is in is there. -/
theorem directoryAt?_of_locate?_join {dir p : Path} {q : Place} (hp : p.isAbsolute = false)
    (h : d.locate? here (dir.join p) = some q) :
    ∃ place, d.directoryAt? here dir = some place := by
  have htext : dir.text ≠ "" ∨ p.text ≠ "" := by
    by_contra hempty
    obtain ⟨hdir, hpath⟩ := not_or.mp hempty
    have hjoin : (dir.join p).text = "" := by
      simp [Path.join, hp, not_not.mp hdir, not_not.mp hpath]
    rw [locate?, if_pos hjoin] at h
    cases h
  rw [locate?_join_relative d here hp htext] at h
  obtain ⟨place, hat, -⟩ := Option.bind_eq_some_iff.mp h
  exact ⟨place, hat⟩

/-! ### More directories -/

section More

variable (h : ∀ p, d.node? p = some .directory → d'.node? p = some .directory) {p : Path}
  {q : Place}
include h

/-- Steps lead where they led, for each is taken from a directory. -/
theorem walk?_mono {start : Place} {steps : List String} (hwalk : d.walk? start steps = some q) :
    d'.walk? start steps = some q := by
  have hkeep : ∀ start, ¬d.node? start ≠ some .directory → ¬d'.node? start ≠ some .directory :=
    fun start hstart => not_not.mpr (h start (not_not.mp hstart))
  fun_induction d.walk? start steps with
  | case1 start => exact hwalk
  | case2 start step steps hstart => cases hwalk
  | case3 start step steps hstart hstay ih =>
      rw [walk?, if_neg (hkeep start hstart), if_pos hstay]
      exact ih hwalk
  | case4 start steps hstart hstay ih =>
      rw [walk?, if_neg (hkeep start hstart), if_neg hstay, if_pos rfl]
      exact ih hwalk
  | case5 start step steps hstart hstay hup ih =>
      rw [walk?, if_neg (hkeep start hstart), if_neg hstay, if_neg hup]
      exact ih hwalk

/-- **Where a path led, it leads still.** -/
theorem locate?_mono (hlocate : d.locate? here p = some q) : d'.locate? here p = some q := by
  rw [locate?] at hlocate ⊢
  split at hlocate
  · cases hlocate
  · rename_i htext
    rw [if_neg htext]
    exact walk?_mono h hlocate

theorem directoryAt?_mono (hat : d.directoryAt? here p = some q) :
    d'.directoryAt? here p = some q := by
  obtain ⟨start, hstart, hdirectory⟩ := Option.bind_eq_some_iff.mp hat
  obtain ⟨hnode, rfl⟩ := directory?_eq_some_iff.mp hdirectory
  refine Option.bind_eq_some_iff.mpr
    ⟨start, ?_, directory?_eq_some_iff.mpr ⟨h _ hnode, rfl⟩⟩
  split at hstart
  · rename_i htext
    rw [if_pos htext]
    exact hstart
  · rename_i htext
    rw [if_neg htext]
    exact locate?_mono h hstart

theorem isDirectory_mono (hdirectory : d.isDirectory here p = true) :
    d'.isDirectory here p = true := by
  obtain ⟨q, hlocate, hnode⟩ := isDirectory_iff.mp hdirectory
  exact isDirectory_iff.mpr ⟨q, locate?_mono h hlocate, h q hnode⟩

end More

/-- Paths lead alike where there are the same directories. -/
theorem isDirectory_congr (h : ∀ q, d'.node? q = some .directory ↔ d.node? q = some .directory)
    (p : Path) : d'.isDirectory here p = d.isDirectory here p :=
  Bool.eq_iff_iff.mpr
    ⟨isDirectory_mono fun q => (h q).mp, isDirectory_mono fun q => (h q).mpr⟩

/-! ### What a disk receives -/

/-- The second disk is the first with some files, each a name and a text, in one place.  No
other file has changed, and the directories are there, perhaps with more of them. -/
structure Receives (d d' : Disk) (place : Place) (files : List (String × String)) : Prop where
  directories : ∀ p, d.node? p = some .directory → d'.node? p = some .directory
  written : ∀ f ∈ files, d'.file? (place ++ [f.1]) = some f.2
  kept : ∀ p, (∀ f ∈ files, p ≠ place ++ [f.1]) → d'.file? p = d.file? p

namespace Receives

variable {d'' : Disk} {files files' : List (String × String)}

theorem refl (d : Disk) (place : Place) : d.Receives d place [] where
  directories := fun _ h => h
  written := by simp
  kept := fun _ _ => rfl

theorem trans (h : d.Receives d' place files) (h' : d'.Receives d'' place files')
    (hnames : ∀ f ∈ files, ∀ f' ∈ files', f.1 ≠ f'.1) :
    d.Receives d'' place (files ++ files') where
  directories := fun p hp => h'.directories p (h.directories p hp)
  written := by
    intro f hf
    rcases List.mem_append.mp hf with hf | hf
    · rw [h'.kept _ fun f' hf' heq => hnames f hf f' hf' (by simpa using heq)]
      exact h.written f hf
    · exact h'.written f hf
  kept := by
    intro p hp
    rw [h'.kept p fun f hf => hp f (List.mem_append_right _ hf)]
    exact h.kept p fun f hf => hp f (List.mem_append_left _ hf)

/-- **A file reads as before** unless it was written. -/
theorem read?_kept (h : d.Receives d' place files) {p : Path} {q : Place}
    (hlocate : d.locate? here p = some q) (hother : ∀ f ∈ files, q ≠ place ++ [f.1]) :
    d'.read? here p = d.read? here p := by
  rw [read?_eq, read?_eq, locate?_mono h.directories hlocate, hlocate]
  exact h.kept q hother

/-- A file of another name is as it was, wherever it is. -/
theorem kept_of_name (h : d.Receives d' place files) (place' : Place) {name : String}
    (hother : ∀ f ∈ files, f.1 ≠ name) :
    d'.file? (place' ++ [name]) = d.file? (place' ++ [name]) := by
  refine h.kept _ fun f hf heq => hother f hf ?_
  have hlast := (List.append_inj' heq rfl).2
  exact (List.singleton_inj.mp hlast).symm

theorem read?_join_kept (h : d.Receives d' place files) {dir : Path} {name : String} {q : Place}
    (hname : Path.IsName name) (hat : d.directoryAt? here dir = some q)
    (hother : ∀ f ∈ files, f.1 ≠ name) :
    d'.read? here (dir.join ⟨name⟩) = d.read? here (dir.join ⟨name⟩) := by
  rw [read?_eq, read?_eq, locate?_join _ _ _ hname, locate?_join _ _ _ hname, hat,
    directoryAt?_mono h.directories hat]
  exact h.kept_of_name q hother

end Receives

/-! ### Writing -/

theorem node?_set (d : Disk) (place : Place) (name : String) (n : Node) (q : Place) :
    (⟨d.nodes.set (place ++ [name]) n⟩ : Disk).node? q
      = if q = place ++ [name] then some n else d.node? q := by
  rw [node?, node?, Table.get?_set]
  cases q with
  | nil => simp
  | cons => simp

section Writing

variable {dir : Path} {name text : String} (hname : Path.IsName name)
include hname

/-- A file cannot be written where there is no directory for it. -/
theorem write?_eq_none (hat : d.directoryAt? here dir = none) :
    d.write? here (dir.join ⟨name⟩) text = none := by
  rw [write?, locate?_join d here dir hname, hat]
  rfl

theorem write?_eq (hat : d.directoryAt? here dir = some place) :
    d.write? here (dir.join ⟨name⟩) text
      = if d.node? (place ++ [name]) = some .directory then none
        else some ⟨d.nodes.set (place ++ [name]) (.file text)⟩ := by
  rw [write?, locate?_join d here dir hname, hat]
  by_cases hnode : d.node? (place ++ [name]) = some .directory <;> simp [hnode]

theorem receives_write (hat : d.directoryAt? here dir = some place)
    (hwrite : d.write? here (dir.join ⟨name⟩) text = some d') :
    d.Receives d' place [(name, text)] := by
  rw [write?_eq hname hat] at hwrite
  split at hwrite
  · cases hwrite
  · rename_i hnode
    obtain rfl := Option.some.inj hwrite
    have hset := d.node?_set place name (.file text)
    constructor
    · intro p hp
      rw [hset, if_neg fun heq : p = place ++ [name] => hnode (heq ▸ hp)]
      exact hp
    · intro f hf
      obtain rfl := List.mem_singleton.mp hf
      rw [file?_eq_some_iff, hset, if_pos rfl]
    · intro p hp
      rw [file?, file?, hset, if_neg (hp _ List.mem_cons_self)]

/-- No directory is made by writing. -/
theorem node?_of_write (hat : d.directoryAt? here dir = some place)
    (hwrite : d.write? here (dir.join ⟨name⟩) text = some d') {p : Place}
    (hnode : d'.node? p = some .directory) : d.node? p = some .directory := by
  rw [write?_eq hname hat] at hwrite
  split at hwrite
  · cases hwrite
  · obtain rfl := Option.some.inj hwrite
    rw [d.node?_set place name (.file text)] at hnode
    split at hnode
    · cases hnode
    · exact hnode

/-- Writing what is there already changes nothing. -/
theorem write?_eq_self (hat : d.directoryAt? here dir = some place)
    (hfile : d.file? (place ++ [name]) = some text) :
    d.write? here (dir.join ⟨name⟩) text = some d := by
  have hnode := file?_eq_some_iff.mp hfile
  have hget : d.nodes.get? (place ++ [name]) = some (.file text) := by
    simpa [node?] using hnode
  rw [write?_eq hname hat, hnode, if_neg (by simp), Table.set_eq_self hget]

end Writing

/-! ### Making directories -/

variable {allows : Place → Bool}

/-- Where there is a directory, none is made. -/
theorem makeDirectories_of_directoryAt? {p : Path} (hat : d.directoryAt? here p = some place) :
    d.makeDirectories allows here p = (true, d) := by
  rw [makeDirectories, if_pos]
  by_cases htext : p.text = ""
  · simp [htext]
  · rw [directoryAt?, if_neg htext] at hat
    obtain ⟨start, hstart, hdirectory⟩ := Option.bind_eq_some_iff.mp hat
    have hpath := isDirectory_iff.mpr ⟨start, hstart, (directory?_eq_some_iff.mp hdirectory).1⟩
    simp [hpath]

/-- Everything on a disk is in a directory. -/
def IsTree (d : Disk) : Prop :=
  ∀ place ∈ d.nodes.keys, d.node? place.dropLast = some .directory

instance (d : Disk) : Decidable d.IsTree := inferInstanceAs (Decidable (∀ _ ∈ _, _))

theorem IsTree.above (h : d.IsTree) {n : Node} (hnode : d.node? place = some n) :
    d.node? place.dropLast = some .directory := by
  cases place with
  | nil => rfl
  | cons name names =>
      refine h _ ?_
      by_contra hnone
      rw [node?, List.isEmpty_cons, if_neg (by decide), Table.get?_eq_none_iff.mpr hnone] at hnode
      cases hnode

/-- In a tree, directories are in directories. -/
theorem IsTree.above_append (h : d.IsTree) {below : Place}
    (hnode : d.node? (place ++ below) = some .directory) : d.node? place = some .directory := by
  induction below generalizing place with
  | nil => simpa using hnode
  | cons name below ih =>
      have hnext := @ih (place ++ [name]) (by simpa using hnode)
      simpa using h.above hnext

/-- The names on the way to a directory lead there. -/
theorem IsTree.walk?_names (h : d.IsTree) {start names : Place}
    (hnames : ∀ name ∈ names, Path.IsName name)
    (hnode : d.node? (start ++ names) = some .directory) :
    d.walk? start names = some (start ++ names) := by
  induction names generalizing start with
  | nil => simp [walk?]
  | cons name names ih =>
      have hstart := h.above_append hnode
      have hname := (hnames name List.mem_cons_self).1
      simp only [List.mem_cons, List.not_mem_nil, or_false, not_or] at hname
      have hrest := @ih (start ++ [name]) (fun n hn => hnames n (List.mem_cons_of_mem _ hn))
        (by simpa using hnode)
      simp [walk?, hstart, hname, hrest]

/-- A directory has a path. -/
theorem IsTree.isDirectory_ofPlace (h : d.IsTree) (here : Place)
    (hnames : ∀ name ∈ place, Path.IsName name) (hnode : d.node? place = some .directory) :
    d.isDirectory here (.ofPlace place) = true := by
  refine isDirectory_iff.mpr ⟨place, ?_, hnode⟩
  have habsolute : (Path.ofPlace place).isAbsolute = true := by
    simp [Path.isAbsolute, Path.ofPlace]
  have htext : (Path.ofPlace place).text ≠ "" := by simp [Path.ofPlace]
  rw [locate?, if_neg htext, if_pos habsolute]
  by_cases hplace : place = []
  · rw [hplace]
    rfl
  · have hroot : d.node? [] = some .directory := rfl
    rw [Path.steps_ofPlace hplace hnames, walk?, if_neg (not_not.mpr hroot), if_pos (.inl rfl)]
    exact h.walk?_names hnames hnode

/-- A new directory. -/
theorem receives_makeStep {step : String} (hnone : d.node? (place ++ [step]) = none)
    (place' : Place) :
    d.Receives ⟨d.nodes.set (place ++ [step]) .directory⟩ place' [] := by
  have hset := d.node?_set place step .directory
  constructor
  · intro p hp
    rw [hset]
    split
    · rfl
    · exact hp
  · simp
  · intro p _
    rw [file?, file?, hset]
    by_cases heq : p = place ++ [step]
    · rw [if_pos heq, heq, hnone]
    · rw [if_neg heq]

/-- However far the making of directories comes, it is all that it does. -/
theorem receives_makeSteps {start : Place} {steps : List String} {made : Bool}
    (hmake : d.makeSteps allows start steps = (made, d')) (place' : Place) :
    d.Receives d' place' [] := by
  fun_induction makeSteps allows d start steps with
  | case1 d start =>
      obtain ⟨-, rfl⟩ := Prod.mk.inj hmake
      exact .refl d place'
  | case2 d start step steps hstay ih => exact ih hmake
  | case3 d start steps hstay ih => exact ih hmake
  | case4 d start step steps hstay hup next hnode ih => exact ih hmake
  | case5 d start step steps hstay hup next text hnode =>
      obtain ⟨-, rfl⟩ := Prod.mk.inj hmake
      exact .refl d place'
  | case6 d start step steps hstay hup next hnode hallows ih =>
      exact (receives_makeStep hnode place').trans (ih hmake) (by simp)
  | case7 d start step steps hstay hup next hnode hallows =>
      obtain ⟨-, rfl⟩ := Prod.mk.inj hmake
      exact .refl d place'

theorem receives_makeDirectories {p : Path} {made : Bool}
    (hmake : d.makeDirectories allows here p = (made, d')) (place' : Place) :
    d.Receives d' place' [] := by
  rw [makeDirectories] at hmake
  split at hmake
  · obtain ⟨-, rfl⟩ := Prod.mk.inj hmake
    exact .refl d place'
  · split at hmake
    · obtain ⟨-, rfl⟩ := Prod.mk.inj hmake
      exact receives_makeSteps rfl place'
    · exact receives_makeSteps hmake place'

theorem isTree_makeStep {step : String} (htree : d.IsTree)
    (hnode : d.node? place = some .directory) (hnone : d.node? (place ++ [step]) = none) :
    IsTree ⟨d.nodes.set (place ++ [step]) .directory⟩ := by
  have hkeep := (receives_makeStep hnone place).directories
  intro q hq
  rw [Table.keys_set] at hq
  split at hq
  · exact hkeep _ (htree q hq)
  · rcases List.mem_append.mp hq with hq | hq
    · exact hkeep _ (htree q hq)
    · obtain rfl := List.mem_singleton.mp hq
      rw [List.dropLast_concat]
      exact hkeep _ hnode

/-- In a tree, the directories that are made lead to one. -/
theorem walk?_makeSteps {start : Place} {steps : List String} (htree : d.IsTree)
    (hstart : d.node? start = some .directory)
    (hmake : d.makeSteps allows start steps = (true, d')) :
    ∃ q, d'.walk? start steps = some q ∧ d'.node? q = some .directory := by
  have hkeep := (receives_makeSteps hmake []).directories
  fun_induction makeSteps allows d start steps with
  | case1 d start => exact ⟨start, rfl, hkeep start hstart⟩
  | case2 d start step steps hstay ih =>
      rw [walk?, if_neg (not_not.mpr (hkeep start hstart)), if_pos hstay]
      exact ih htree hstart hmake hkeep
  | case3 d start steps hstay ih =>
      have hup := htree.above hstart
      rw [walk?, if_neg (not_not.mpr (hkeep start hstart)), if_neg hstay, if_pos rfl]
      exact ih htree hup hmake hkeep
  | case4 d start step steps hstay hup next hnode ih =>
      rw [walk?, if_neg (not_not.mpr (hkeep start hstart)), if_neg hstay, if_neg hup]
      exact ih htree hnode hmake hkeep
  | case5 d start step steps hstay hup next text hnode => cases hmake
  | case6 d start step steps hstay hup next hnode hallows ih =>
      have hnew : (⟨d.nodes.set next .directory⟩ : Disk).node? next = some .directory := by
        rw [d.node?_set start step, if_pos rfl]
      rw [walk?, if_neg (not_not.mpr (hkeep start hstart)), if_neg hstay, if_neg hup]
      exact ih (isTree_makeStep htree hstart hnode) hnew hmake
        (receives_makeSteps hmake []).directories
  | case7 d start step steps hstay hup next hnode hallows => cases hmake

/-- Where the making of directories stops, the steps lead to none, nor do any that go on. -/
theorem walk?_of_stuck {start q : Place} {steps rest : List String}
    (hmake : d.makeSteps allows start steps = (false, d'))
    (hwalk : d'.walk? start (steps ++ rest) = some q) : d'.node? q ≠ some .directory := by
  fun_induction makeSteps allows d start steps with
  | case1 d start => cases hmake
  | case2 d start step steps hstay ih =>
      rw [List.cons_append, walk?, if_pos hstay] at hwalk
      exact ih hmake (Option.ite_none_left_eq_some.mp hwalk).2
  | case3 d start steps hstay ih =>
      rw [List.cons_append, walk?, if_neg hstay, if_pos rfl] at hwalk
      exact ih hmake (Option.ite_none_left_eq_some.mp hwalk).2
  | case4 d start step steps hstay hup next hnode ih =>
      rw [List.cons_append, walk?, if_neg hstay, if_neg hup] at hwalk
      exact ih hmake (Option.ite_none_left_eq_some.mp hwalk).2
  | case5 d start step steps hstay hup next text hnode =>
      obtain ⟨-, rfl⟩ := Prod.mk.inj hmake
      rw [List.cons_append, walk?, if_neg hstay, if_neg hup] at hwalk
      have hfile : d.node? (start ++ [step]) ≠ some .directory := by
        rw [hnode]
        nofun
      exact node?_of_walk? hfile (Option.ite_none_left_eq_some.mp hwalk).2
  | case6 d start step steps hstay hup next hnode hallows ih =>
      rw [List.cons_append, walk?, if_neg hstay, if_neg hup] at hwalk
      exact ih hmake (Option.ite_none_left_eq_some.mp hwalk).2
  | case7 d start step steps hstay hup next hnode hallows =>
      obtain ⟨-, rfl⟩ := Prod.mk.inj hmake
      rw [List.cons_append, walk?, if_neg hstay, if_neg hup] at hwalk
      have hnothing : d.node? (start ++ [step]) ≠ some .directory := by
        rw [hnode]
        nofun
      exact node?_of_walk? hnothing (Option.ite_none_left_eq_some.mp hwalk).2

/-- The making of directories comes as far the next time, and finds what it made. -/
theorem makeSteps_again {start : Place} {steps : List String} {made : Bool}
    (hmake : d.makeSteps allows start steps = (made, d')) :
    d'.makeSteps allows start steps = (made, d') := by
  have hkeep := (receives_makeSteps hmake []).directories
  fun_induction makeSteps allows d start steps with
  | case1 d start =>
      obtain ⟨rfl, rfl⟩ := Prod.mk.inj hmake
      rfl
  | case2 d start step steps hstay ih =>
      rw [makeSteps, if_pos hstay]
      exact ih hmake hkeep
  | case3 d start steps hstay ih =>
      rw [makeSteps, if_neg hstay, if_pos rfl]
      exact ih hmake hkeep
  | case4 d start step steps hstay hup next hnode ih =>
      have hthere : d'.node? (start ++ [step]) = some .directory := hkeep next hnode
      rw [makeSteps, if_neg hstay, if_neg hup]
      simp only [hthere]
      exact ih hmake hkeep
  | case5 d start step steps hstay hup next text hnode =>
      obtain ⟨rfl, rfl⟩ := Prod.mk.inj hmake
      have hfile : d.node? (start ++ [step]) = some (.file text) := hnode
      rw [makeSteps, if_neg hstay, if_neg hup]
      simp only [hfile]
  | case6 d start step steps hstay hup next hnode hallows ih =>
      have hnew : (⟨d.nodes.set next .directory⟩ : Disk).node? next = some .directory := by
        rw [d.node?_set start step, if_pos rfl]
      have hkeep' := (receives_makeSteps hmake []).directories
      have hthere : d'.node? (start ++ [step]) = some .directory := hkeep' next hnew
      rw [makeSteps, if_neg hstay, if_neg hup]
      simp only [hthere]
      exact ih hmake hkeep'
  | case7 d start step steps hstay hup next hnode hallows =>
      obtain ⟨rfl, rfl⟩ := Prod.mk.inj hmake
      have hnothing : d.node? (start ++ [step]) = none := hnode
      rw [makeSteps, if_neg hstay, if_neg hup]
      simp only [hnothing]
      exact if_neg hallows

/-- **A directory that was made is there**, so there is nothing to make the next time, however
much is written in between. -/
theorem makeDirectories_again {d'' : Disk} {files : List (String × String)} {p : Path}
    (htree : d.IsTree) (hhere : d.node? here = some .directory)
    (hmake : d.makeDirectories allows here p = (true, d')) (h : d'.Receives d'' place files) :
    d''.makeDirectories allows here p = (true, d'') := by
  have hthere : p.text = "" ∨ d'.isDirectory here p = true := by
    rw [makeDirectories] at hmake
    split at hmake
    · rename_i hready
      obtain ⟨-, rfl⟩ := Prod.mk.inj hmake
      simpa using hready
    · rename_i hnew
      split at hmake
      · obtain ⟨hmade, rfl⟩ := Prod.mk.inj hmake
        exact .inr (Bool.and_eq_true_iff.mp hmade).2
      · have htext : p.text ≠ "" := fun heq => hnew (by simp [heq])
        have hstart : d.node? (if p.isAbsolute then [] else here) = some .directory := by
          split
          · rfl
          · exact hhere
        obtain ⟨q, hwalk, hnode⟩ := walk?_makeSteps htree hstart hmake
        exact .inr (isDirectory_iff.mpr ⟨q, by rw [locate?, if_neg htext, hwalk], hnode⟩)
  rw [makeDirectories]
  rcases hthere with htext | hdirectory
  · simp [htext]
  · simp [isDirectory_mono h.directories hdirectory]

/-- **A directory that could not be made** cannot be made the next time either. -/
theorem makeDirectories_stuck {p : Path}
    (hmake : d.makeDirectories allows here p = (false, d')) :
    d'.makeDirectories allows here p = (false, d') := by
  rw [makeDirectories] at hmake
  split at hmake
  · cases hmake
  · rename_i hnew
    have htext : p.text ≠ "" := fun heq => hnew (by simp [heq])
    have hstuck : ∀ steps, steps <+: p.steps →
        d.makeSteps allows (if p.isAbsolute then [] else here) steps = (false, d') →
        d'.isDirectory here p = false := by
      rintro steps ⟨rest, hsteps⟩ hsome
      refine Bool.eq_false_iff.mpr fun hdirectory => ?_
      obtain ⟨q, hlocate, hnode⟩ := isDirectory_iff.mp hdirectory
      rw [locate?, if_neg htext, ← hsteps] at hlocate
      exact walk?_of_stuck hsome hlocate hnode
    split at hmake
    · rename_i hdot
      cases hparent : d.makeSteps allows (if p.isAbsolute then [] else here) p.parentSteps with
      | mk made d₁ =>
          rw [hparent] at hmake
          obtain ⟨hmade, rfl⟩ := Prod.mk.inj hmake
          have hnone : d₁.isDirectory here p = false := by
            cases made with
            | true => simpa using hmade
            | false => exact hstuck _ p.parentSteps_prefix hparent
          rw [makeDirectories, if_neg (by simp [htext, hnone]), if_pos hdot,
            makeSteps_again hparent]
          simp [hnone]
    · rename_i hdot
      have hnone := hstuck _ List.prefix_rfl hmake
      rw [makeDirectories, if_neg (by simp [htext, hnone]), if_neg hdot]
      exact makeSteps_again hmake

end Disk

end Worldsmith
