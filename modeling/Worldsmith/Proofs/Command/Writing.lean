/-
Writing documents into a directory.

The tables are written one after the other, each under its own name, into a directory that is
made first if need be.  `Workspace.publish` follows this up to the first that fails, and says
what was written by then.

What was written stays, also when a later file fails: the documents are there in full, and after
them there may be one that was opened and not filled.  Each of these files holds what the system
stored of its document, and no other file has changed (`Workspace.exists_leaves_publish`).  The
names of the documents tell them apart, so where the system stores the same as before, publishing
them once more writes over each what it holds already, comes as far and changes nothing
(`Workspace.publish_again`).
-/
import Worldsmith.Proofs.Command.Session

namespace Worldsmith

/-- A document, and what is in its file. -/
structure Copy where
  document : Artifact
  text : String

namespace Copy

def file (c : Copy) : String × String := (c.document.fileName, c.text)

/-- A document in full. -/
def whole (a : Artifact) : Copy := ⟨a, a.text⟩

end Copy

/-- The names that the tables of a world are written under. -/
def World.fileNames : List String :=
  ["items.json", "locations.json", "categories.json", "options.json"]

theorem World.map_fileName_artifacts (w : World) :
    w.artifacts.map Artifact.fileName = fileNames :=
  rfl

/-- How far the writing of documents came. -/
structure Publication where
  /-- The documents that were written in full. -/
  written : List Artifact
  /-- The one after them, if its file was opened. -/
  torn? : Option Copy
  /-- The path that could not be made or written. -/
  failed? : Option Path
  disk : Disk

/-- The files that were opened. -/
def Publication.copies (p : Publication) : List Copy := p.written.map Copy.whole ++ p.torn?.toList

theorem Publication.mem_copies {p : Publication} {c : Copy} :
    c ∈ p.copies ↔ (∃ a ∈ p.written, Copy.whole a = c) ∨ c ∈ p.torn? := by
  simp [copies]

namespace Workspace

/-- Writes documents into a directory, up to the first that fails. -/
def writeAll (w : Workspace) (directory : Path) : List Artifact → Publication
  | [] => ⟨[], none, none, w.disk⟩
  | a :: as =>
    match w.fill? (directory.join ⟨a.fileName⟩) a.text with
    | none => ⟨[], none, some (directory.join ⟨a.fileName⟩), w.disk⟩
    | some (left, disk) =>
      if left = a.text then
        let rest := { w with disk }.writeAll directory as
        { rest with written := a :: rest.written }
      else ⟨[], some ⟨a, left⟩, some (directory.join ⟨a.fileName⟩), disk⟩

/-- Makes the directory if need be and writes documents into it. -/
def publish (w : Workspace) (directory : Path) (as : List Artifact) : Publication :=
  match w.disk.makeDirectories w.allows w.here directory with
  | (false, disk) => ⟨[], none, some directory, disk⟩
  | (true, disk) => { w with disk }.writeAll directory as

section Steps

variable {w : Workspace} {directory : Path} {a : Artifact} {left : String} {disk : Disk}

theorem writeAll_of_closed (h : w.fill? (directory.join ⟨a.fileName⟩) a.text = none)
    (as : List Artifact) :
    w.writeAll directory (a :: as)
      = ⟨[], none, some (directory.join ⟨a.fileName⟩), w.disk⟩ := by
  rw [writeAll, h]

theorem writeAll_of_torn (h : w.fill? (directory.join ⟨a.fileName⟩) a.text = some (left, disk))
    (hleft : left ≠ a.text) (as : List Artifact) :
    w.writeAll directory (a :: as)
      = ⟨[], some ⟨a, left⟩, some (directory.join ⟨a.fileName⟩), disk⟩ := by
  rw [writeAll, h]
  exact if_neg hleft

theorem writeAll_of_written
    (h : w.fill? (directory.join ⟨a.fileName⟩) a.text = some (a.text, disk)) (as : List Artifact) :
    w.writeAll directory (a :: as)
      = { { w with disk }.writeAll directory as with
        written := a :: ({ w with disk }.writeAll directory as).written } := by
  rw [writeAll, h]
  exact if_pos rfl

end Steps

end Workspace

/-! ### The steps of writing -/

namespace Session

variable (q : Session) (directory : Path)

/-- The session on another disk. -/
def onDisk (disk : Disk) : Session := { q with workspace := { q.workspace with disk } }

theorem workspace_onDisk (disk : Disk) :
    (q.onDisk disk).workspace = { q.workspace with disk } :=
  rfl

/-- What writing says, and the session after it. -/
def published (p : Publication) : Except Failure (List Path) × Session :=
  (match p.failed? with
    | none => .ok (p.written.map fun a => directory.join ⟨a.fileName⟩)
    | some path => .error (.notWritten directory path),
  (q.log (p.written.map fun a => .wrote (directory.join ⟨a.fileName⟩).text)).onDisk p.disk)

theorem run_ask_write (path : Path) (text : String) :
    q.run (Command.ask (MonadFiles.write path text))
      = match q.workspace.fill? path text with
        | none => (.ok false, q)
        | some (left, disk) => (.ok (left = text), q.onDisk disk) := by
  rw [run_ask]
  show (Except.ok (q.workspace.write path text).1, Session.mk _ (q.workspace.write path text).2) = _
  rw [Workspace.write]
  cases q.workspace.fill? path text <;> rfl

theorem run_ask_makeDirectories (path : Path) :
    q.run (Command.ask (MonadFiles.makeDirectories path))
      = ((.ok (q.workspace.disk.makeDirectories q.workspace.allows q.workspace.here path).1),
        q.onDisk (q.workspace.disk.makeDirectories q.workspace.allows q.workspace.here path).2) :=
  run_ask _ _

theorem run_writeAll (as : List Artifact) :
    q.run (Command.writeAll directory as)
      = q.published directory (q.workspace.writeAll directory as) := by
  induction as generalizing q with
  | nil =>
      rw [Command.writeAll, run_pure, published, Workspace.writeAll]
      simp [log, onDisk]
  | cons a as ih =>
      have hstep := q.run_ask_write (directory.join ⟨a.fileName⟩) a.text
      rw [Command.writeAll]
      cases hfill : q.workspace.fill? (directory.join ⟨a.fileName⟩) a.text with
      | none =>
          rw [hfill] at hstep
          rw [run_bind_of_ok _ hstep, Workspace.writeAll_of_closed hfill]
          simp [run_throw, published, log, onDisk]
      | some p =>
          obtain ⟨left, disk⟩ := p
          rw [hfill] at hstep
          rw [run_bind_of_ok _ hstep]
          by_cases hleft : left = a.text
          · subst hleft
            rw [Workspace.writeAll_of_written hfill]
            simp only [decide_true, if_true]
            rw [run_bind_of_ok _ (run_log _ _), run_bind, ih, workspace_log, workspace_onDisk]
            generalize Workspace.writeAll _ directory as = rest
            obtain ⟨written, torn, failed, disk'⟩ := rest
            cases failed <;> simp [published, log, onDisk, run_pure]
          · rw [Workspace.writeAll_of_torn hfill hleft]
            simp [hleft, run_throw, published, log, onDisk]

/-- **Writing the tables of a world** goes as far as publishing them. -/
theorem run_write (w : World) :
    q.run (Command.write directory w)
      = q.published directory (q.workspace.publish directory w.artifacts) := by
  have hstep := q.run_ask_makeDirectories directory
  rw [Command.write, Workspace.publish]
  cases hmake : q.workspace.disk.makeDirectories q.workspace.allows q.workspace.here directory with
  | mk made disk =>
      rw [hmake] at hstep
      rw [run_bind_of_ok _ hstep]
      cases made with
      | false => simp [run_throw, published, log, onDisk]
      | true => exact run_writeAll _ directory w.artifacts

end Session

/-! ### What is written -/

/-- The writing of documents stopped at one of them: its file could not be opened, and still
cannot, or it was opened and does not hold all of the text. -/
structure Publication.StopsAt (p : Publication) (w : Workspace) (directory : Path)
    (as : List Artifact) (a : Artifact) : Prop where
  before : p.written ++ [a] <+: as
  failed : p.failed? = some (directory.join ⟨a.fileName⟩)
  broken : (p.torn? = none
      ∧ { w with disk := p.disk }.fill? (directory.join ⟨a.fileName⟩) a.text = none)
    ∨ ∃ left, left ≠ a.text ∧ p.torn? = some ⟨a, left⟩

/-- No file was opened for a document after it. -/
theorem Publication.StopsAt.document_mem {p : Publication} {w : Workspace} {directory : Path}
    {as : List Artifact} {a : Artifact} (h : p.StopsAt w directory as a) {c : Copy}
    (hc : c ∈ p.copies) : c.document ∈ p.written ++ [a] := by
  obtain ⟨b, hb, rfl⟩ | htorn := Publication.mem_copies.mp hc
  · exact List.mem_append_left _ hb
  · rcases h.broken with ⟨hnone, -⟩ | ⟨left, -, hsome⟩
    · rw [hnone] at htorn
      cases htorn
    · obtain rfl := Option.some.inj (hsome.symm.trans htorn)
      exact List.mem_append_right _ List.mem_cons_self

namespace Workspace

variable {w : Workspace} {directory : Path} {as : List Artifact}

/-- Writing goes up to the end, or it stops at a document. -/
theorem outcome_writeAll :
    ((w.writeAll directory as).failed? = none
        ∧ (w.writeAll directory as).copies = as.map Copy.whole)
      ∨ ∃ a, (w.writeAll directory as).StopsAt w directory as a := by
  fun_induction writeAll w directory as with
  | case1 w => exact .inl ⟨rfl, rfl⟩
  | case2 w a as hfill => exact .inr ⟨a, List.prefix_append [a] as, rfl, .inl ⟨rfl, hfill⟩⟩
  | case3 w a as disk rest hfill ih =>
      rcases ih with ⟨hfailed, hcopies⟩ | ⟨b, hbefore, hfailed, hbroken⟩
      · exact .inl ⟨hfailed, congrArg (Copy.whole a :: ·) hcopies⟩
      · exact .inr ⟨b, List.cons_prefix_cons.mpr ⟨rfl, hbefore⟩, hfailed, hbroken⟩
  | case4 w a as left disk hfill hleft =>
      exact .inr ⟨a, List.prefix_append [a] as, rfl, .inr ⟨left, hleft, rfl⟩⟩

theorem document_mem_of_copies {c : Copy} (hc : c ∈ (w.writeAll directory as).copies) :
    c.document ∈ as := by
  rcases @outcome_writeAll w directory as with ⟨-, hcopies⟩ | ⟨a, hstops⟩
  · rw [hcopies] at hc
    obtain ⟨a, ha, rfl⟩ := List.mem_map.mp hc
    exact ha
  · exact hstops.before.subset (hstops.document_mem hc)

/-- Documents whose names tell them apart in a directory. -/
structure Distinct (as : List Artifact) : Prop where
  names : ∀ a ∈ as, Path.IsName a.fileName
  distinct : (as.map Artifact.fileName).Nodup

namespace Distinct

variable {a : Artifact}

theorem tail (h : Distinct (a :: as)) : Distinct as where
  names := fun b hb => h.names b (List.mem_cons_of_mem _ hb)
  distinct := (List.nodup_cons.mp h.distinct).2

theorem head (h : Distinct (a :: as)) : ∀ b ∈ as, a.fileName ≠ b.fileName := by
  intro b hb heq
  exact (List.nodup_cons.mp h.distinct).1 (List.mem_map.mpr ⟨b, hb, heq.symm⟩)

theorem isName_head (h : Distinct (a :: as)) : Path.IsName a.fileName :=
  h.names a List.mem_cons_self

end Distinct

theorem distinct_artifacts (world : World) : Distinct world.artifacts where
  names := by
    have hnames : ∀ name ∈ World.fileNames, Path.IsName name := by decide
    rw [← world.map_fileName_artifacts] at hnames
    exact List.forall_mem_map.mp hnames
  distinct := by
    rw [world.map_fileName_artifacts]
    decide

end Workspace

/-- The document at which writing stopped bears none of the names that were used. -/
theorem Publication.StopsAt.fileName_ne {p : Publication} {w : Workspace} {directory : Path}
    {as : List Artifact} {a : Artifact} (h : p.StopsAt w directory as a)
    (hdistinct : Workspace.Distinct as) : ∀ b ∈ p.written, b.fileName ≠ a.fileName := by
  intro b hb
  have hnames := hdistinct.distinct.sublist (h.before.sublist.map Artifact.fileName)
  rw [List.map_append, List.nodup_append] at hnames
  exact hnames.2.2 _ (List.mem_map_of_mem hb) _ List.mem_cons_self

namespace Workspace

variable {w : Workspace} {directory : Path} {as : List Artifact}

/-- The disk has come to hold documents in one place, each as the system stores it, and nothing
else on it has changed. -/
structure Fills (w : Workspace) (disk : Disk) (place : Place) (copies : List Copy) : Prop where
  receives : w.disk.Receives disk place (copies.map Copy.file)
  stored : ∀ c ∈ copies, w.stored? (place ++ [c.document.fileName]) c.document.text = some c.text
  made : ∀ q, disk.node? q = some .directory → w.disk.node? q = some .directory

namespace Fills

variable {disk disk' : Disk} {place : Place} {copies copies' : List Copy}

theorem refl (w : Workspace) (place : Place) : w.Fills w.disk place [] where
  receives := .refl _ _
  stored := by simp
  made := fun _ h => h

theorem trans (h : w.Fills disk place copies)
    (h' : { w with disk }.Fills disk' place copies')
    (hnames : ∀ c ∈ copies, ∀ c' ∈ copies', c.document.fileName ≠ c'.document.fileName) :
    w.Fills disk' place (copies ++ copies') where
  receives := by
    rw [List.map_append]
    refine h.receives.trans h'.receives fun f hf f' hf' => ?_
    obtain ⟨c, hc, rfl⟩ := List.mem_map.mp hf
    obtain ⟨c', hc', rfl⟩ := List.mem_map.mp hf'
    exact hnames c hc c' hc'
  stored := fun c hc => (List.mem_append.mp hc).elim (h.stored c) (h'.stored c)
  made := fun q hq => h.made q (h'.made q hq)

end Fills

/-- One document that is written, in full or not. -/
theorem fills_of_fill? {place : Place} {a : Artifact} {left : String} {disk : Disk}
    (hname : Path.IsName a.fileName) (hat : w.disk.directoryAt? w.here directory = some place)
    (hfill : w.fill? (directory.join ⟨a.fileName⟩) a.text = some (left, disk)) :
    w.Fills disk place [⟨a, left⟩] := by
  obtain ⟨hstored, hwrite⟩ := (fill?_eq_some_iff hname hat).mp hfill
  refine ⟨Disk.receives_write hname hat hwrite, fun c hc => ?_, fun q hq => ?_⟩
  · obtain rfl := List.mem_singleton.mp hc
    exact hstored
  · exact Disk.node?_of_write hname hat hwrite hq

/-- **What was written is on the disk**, and nothing else has changed. -/
theorem fills_writeAll {place : Place} (hdistinct : Distinct as)
    (hat : w.disk.directoryAt? w.here directory = some place) :
    w.Fills (w.writeAll directory as).disk place (w.writeAll directory as).copies := by
  fun_induction writeAll w directory as with
  | case1 w => exact .refl w place
  | case2 w a as hfill => exact .refl w place
  | case3 w a as disk rest hfill ih =>
      have hfirst := fills_of_fill? hdistinct.isName_head hat hfill
      have hrest := ih hdistinct.tail (Disk.directoryAt?_mono hfirst.receives.directories hat)
      refine hfirst.trans hrest fun c hc c' hc' => ?_
      obtain rfl := List.mem_singleton.mp hc
      exact hdistinct.head _ (document_mem_of_copies hc')
  | case4 w a as left disk hfill hleft =>
      exact fills_of_fill? hdistinct.isName_head hat hfill

/-- Nothing is written where there is no directory. -/
theorem writeAll_nowhere (hdistinct : Distinct as)
    (hat : w.disk.directoryAt? w.here directory = none) :
    (w.writeAll directory as).copies = [] ∧ (w.writeAll directory as).disk = w.disk := by
  cases as with
  | nil => exact ⟨rfl, rfl⟩
  | cons a as =>
      rw [writeAll_of_closed (fill?_eq_none hdistinct.isName_head hat)]
      exact ⟨rfl, rfl⟩

/-- All of it is in one place, and this is where the directory is. -/
theorem exists_fills_writeAll (hdistinct : Distinct as) :
    ∃ place, w.Fills (w.writeAll directory as).disk place (w.writeAll directory as).copies
      ∧ ((w.writeAll directory as).copies ≠ [] →
        (w.writeAll directory as).disk.directoryAt? w.here directory = some place) := by
  cases hat : w.disk.directoryAt? w.here directory with
  | none =>
      obtain ⟨hcopies, hdisk⟩ := writeAll_nowhere hdistinct hat
      rw [hcopies, hdisk]
      exact ⟨[], .refl _ _, fun hne => absurd rfl hne⟩
  | some place =>
      have hfills := fills_writeAll hdistinct hat
      exact ⟨place, hfills, fun _ => Disk.directoryAt?_mono hfills.receives.directories hat⟩

/-! ### What publishing leaves -/

/-- What is left on a disk: documents in one place, each as the system stores it, and everything
else as it was, but for directories that had to be made. -/
structure Leaves (w : Workspace) (disk : Disk) (directory : Path) (place : Place)
    (copies : List Copy) : Prop where
  receives : w.disk.Receives disk place (copies.map Copy.file)
  stored : ∀ c ∈ copies, w.stored? (place ++ [c.document.fileName]) c.document.text = some c.text
  place : copies ≠ [] → disk.directoryAt? w.here directory = some place
  directories : ∀ place, w.disk.directoryAt? w.here directory = some place →
    ∀ p, disk.isDirectory w.here p = w.disk.isDirectory w.here p

theorem Leaves.refl (w : Workspace) (directory : Path) : w.Leaves w.disk directory [] [] where
  receives := .refl _ _
  stored := by simp
  place := fun h => absurd rfl h
  directories := fun _ _ _ => rfl

/-- **What publishing leaves** is what it wrote. -/
theorem exists_leaves_publish (w : Workspace) (directory : Path) (hdistinct : Distinct as) :
    ∃ place, w.Leaves (w.publish directory as).disk directory place
      (w.publish directory as).copies := by
  rw [publish]
  cases hmake : w.disk.makeDirectories w.allows w.here directory with
  | mk made disk =>
      -- where the directory was there already, none was made
      have hmade : ∀ place, w.disk.directoryAt? w.here directory = some place → disk = w.disk :=
        fun place hthere => congrArg Prod.snd
          (hmake.symm.trans (Disk.makeDirectories_of_directoryAt? hthere))
      cases made with
      | false =>
          refine ⟨[], Disk.receives_makeDirectories hmake [], by simp [Publication.copies],
            fun h => absurd rfl h, fun place hthere p => ?_⟩
          simp only [hmade place hthere]
      | true =>
          obtain ⟨place, hfills, hat⟩ :=
            @exists_fills_writeAll { w with disk } directory as hdistinct
          have hall := (Disk.receives_makeDirectories hmake place).trans hfills.receives (by simp)
          refine ⟨place, hall, hfills.stored, hat, fun place' hthere p => ?_⟩
          obtain rfl := hmade place' hthere
          exact Disk.isDirectory_congr (fun q => ⟨hfills.made q, hall.directories q⟩) p

/-- Publishing goes up to the end, or the directory is not made and nothing is written, or it
stops at a document. -/
theorem outcome_publish :
    ((w.publish directory as).failed? = none
        ∧ (w.publish directory as).copies = as.map Copy.whole)
      ∨ ((w.publish directory as).failed? = some directory ∧ (w.publish directory as).copies = [])
      ∨ ∃ a, (w.publish directory as).StopsAt w directory as a := by
  rw [publish]
  split
  · exact .inr (.inl ⟨rfl, rfl⟩)
  · rename_i disk hmake
    rcases @outcome_writeAll { w with disk } directory as with hall | ⟨a, hstops⟩
    · exact .inl hall
    · exact .inr (.inr ⟨a, hstops.before, hstops.failed, hstops.broken⟩)

theorem copies_publish_of_none (h : (w.publish directory as).failed? = none) :
    (w.publish directory as).copies = as.map Copy.whole := by
  rcases @outcome_publish w directory as with ⟨-, hcopies⟩ | ⟨hfailed, -⟩ | ⟨a, hstops⟩
  · exact hcopies
  · rw [hfailed] at h
    cases h
  · rw [hstops.failed] at h
    cases h

theorem document_mem_of_publish {c : Copy} (hc : c ∈ (w.publish directory as).copies) :
    c.document ∈ as := by
  rw [publish] at hc
  split at hc
  · cases hc
  · exact document_mem_of_copies hc

/-! ### Writing again -/

/-- A file that holds what the system stores is not changed by one more attempt. -/
theorem fill?_again {place : Place} {name text left : String} {disk : Disk}
    (hname : Path.IsName name) (hat : disk.directoryAt? w.here directory = some place)
    (hstored : w.stored? (place ++ [name]) text = some left)
    (hfile : disk.file? (place ++ [name]) = some left) :
    { w with disk }.fill? (directory.join ⟨name⟩) text = some (left, disk) :=
  (fill?_eq_some_iff hname hat).mpr ⟨hstored, Disk.write?_eq_self hname hat hfile⟩

/-- **Writing the same documents again** comes as far, and changes nothing. -/
theorem writeAll_again (hdistinct : Distinct as) :
    { w with disk := (w.writeAll directory as).disk }.writeAll directory as
      = w.writeAll directory as := by
  fun_induction writeAll w directory as with
  | case1 w => rfl
  | case2 w a as hfill => exact writeAll_of_closed hfill as
  | case3 w a as disk rest hfill ih =>
      have hname := hdistinct.isName_head
      obtain ⟨place, hat⟩ := exists_directoryAt?_of_fill? hname hfill
      have hfirst := fills_of_fill? hname hat hfill
      have hat' := Disk.directoryAt?_mono hfirst.receives.directories hat
      have hrest : { w with disk }.Fills rest.disk place rest.copies :=
        fills_writeAll hdistinct.tail hat'
      -- the document that was written first is there after the others
      have hfile : rest.disk.file? (place ++ [a.fileName]) = some a.text := by
        rw [hrest.receives.kept_of_name place fun f hf heq => ?_]
        · exact hfirst.receives.written _ List.mem_cons_self
        · obtain ⟨c, hc, rfl⟩ := List.mem_map.mp hf
          exact hdistinct.head _ (document_mem_of_copies hc) heq.symm
      have hagain := fill?_again hname (Disk.directoryAt?_mono hrest.receives.directories hat')
        (hfirst.stored _ List.mem_cons_self) hfile
      show { w with disk := rest.disk }.writeAll directory (a :: as) = _
      rw [writeAll_of_written hagain, ih hdistinct.tail]
  | case4 w a as left disk hfill hleft =>
      have hname := hdistinct.isName_head
      obtain ⟨place, hat⟩ := exists_directoryAt?_of_fill? hname hfill
      have hfirst := fills_of_fill? hname hat hfill
      have hagain := fill?_again hname (Disk.directoryAt?_mono hfirst.receives.directories hat)
        (hfirst.stored _ List.mem_cons_self) (hfirst.receives.written _ List.mem_cons_self)
      exact writeAll_of_torn hagain hleft as

/-- **Publishing the same documents again** comes as far, and changes nothing. -/
theorem publish_again (hdistinct : Distinct as) (htree : w.disk.IsTree)
    (hhere : w.disk.node? w.here = some .directory) :
    { w with disk := (w.publish directory as).disk }.publish directory as
      = w.publish directory as := by
  cases hmake : w.disk.makeDirectories w.allows w.here directory with
  | mk made disk =>
      cases made with
      | false => simp only [publish, hmake, Disk.makeDirectories_stuck hmake]
      | true =>
          obtain ⟨place, hfills, -⟩ :=
            @exists_fills_writeAll { w with disk } directory as hdistinct
          have hmade := Disk.makeDirectories_again htree hhere hmake hfills.receives
          have hagain := @writeAll_again { w with disk } directory as hdistinct
          simp only [publish, hmake, hmade]
          exact hagain

end Workspace

end Worldsmith
