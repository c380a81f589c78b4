/-
What a run of the program does to the files.

`Program.runOn` is a run on a workspace.  All that it does is the command's, and a command that
is not `generate` or that finds no world changes nothing.  `generate` on a world that was found
publishes its tables, and this is all that it does to the files (`run_generate_of_ok`).

There is no going back: what was written stays when a later file fails, and a file that was
opened is not what it was, even if nothing could be stored in it.  So a failed run has either
changed no file, or it was interrupted at a table, and those before are there in full
(`files_of_failed_generate`).
-/
import Worldsmith.Proofs.Command.Arguments
import Worldsmith.Proofs.Command.Writing

namespace Worldsmith

/-- The surroundings with what the environment file adds. -/
def Surroundings.on (s : Surroundings) (w : Workspace) : Surroundings :=
  { s with environment := EnvFile.environmentOn s.environment w }

theorem Surroundings.environment_on (s : Surroundings) (w : Workspace) :
    (s.on w).environment = EnvFile.environmentOn s.environment w := by
  rw [on]

theorem Surroundings.home?_on (s : Surroundings) (w : Workspace) : (s.on w).home? = s.home? := by
  rw [on]

/-! ### Runs on a workspace -/

namespace Session

/-- What the program gives back when a command has ended. -/
def outcome (env : Environment) (r : Except Failure Unit × Session) : Outcome where
  ending := match r.1 with
    | .ok () => .success
    | .error f => .failure f
  output := r.2.report.output
  log := r.2.report.events.filter (LogFilter.ofEnvironment env).shows

end Session

/-! ### The tables of a world -/

namespace Session

variable (q : Session)

/-- What `generate` says of the tables, and the session after it. -/
def tabulated (coloured : Bool) (directory : Path) (p : Publication) :
    Except Failure Unit × Session :=
  let q := (q.log (p.written.map fun a => .wrote (directory.join ⟨a.fileName⟩).text)).onDisk p.disk
  match p.failed? with
  | some path => (.error (.notWritten directory path), q)
  | none =>
    (.ok (), q.print (p.written.map fun a =>
      Summary.written coloured (directory.join ⟨a.fileName⟩)))

theorem workspace_tabulated (coloured : Bool) (directory : Path) (p : Publication) :
    (q.tabulated coloured directory p).2.workspace = { q.workspace with disk := p.disk } := by
  rw [tabulated]
  cases p.failed? <;> rfl

/-- The writing fails the command where it fails itself. -/
theorem ending_tabulated (env : Environment) (coloured : Bool) (directory : Path)
    (p : Publication) :
    (outcome env (q.tabulated coloured directory p)).ending = match p.failed? with
      | none => .success
      | some path => .failure (.notWritten directory path) := by
  rw [outcome, tabulated]
  cases p.failed? <;> rfl

theorem run_tables (coloured : Bool) (directory : Path) (world : World) :
    q.run (do
        (← Command.write directory world).forM fun path =>
          Command.print (Summary.written coloured path))
      = q.tabulated coloured directory (q.workspace.publish directory world.artifacts) := by
  rw [run_bind, run_write, published, tabulated]
  generalize q.workspace.publish directory world.artifacts = p
  cases p.failed? with
  | some path => rfl
  | none =>
      simp only
      rw [run_forM_print, List.map_map]
      rfl

/-- **`generate` on a world that was found** says what it compiled, and publishes the tables
unless it is a dry run. -/
theorem run_generate_of_ok {s : Surroundings} {source : Source} {whereabouts : Whereabouts}
    {strict dryRun : Bool}
    (h : ((Command.generate whereabouts strict dryRun).sourceOn s q.workspace).1 = .ok source) :
    let coloured := Style.isForced s.environment
    let directory := (Command.generate whereabouts strict dryRun).directoryOn s q.workspace
    let q₁ := (q.log ((Command.generate whereabouts strict dryRun).sourceOn s q.workspace).2).print
      [Summary.compiled coloured source.world]
    q.run ((Command.generate whereabouts strict dryRun).perform s)
      = if dryRun then (.ok (), q₁.print [Summary.dryRun coloured directory])
        else q₁.tabulated coloured directory
          (q.workspace.publish directory source.world.artifacts) := by
  intro coloured directory q₁
  rw [q.run_generate h]
  cases dryRun with
  | true => exact run_print _ _
  | false => exact run_tables _ _ _ _

end Session

namespace Program

variable {s : Surroundings} {args : List String} {w w' : Workspace} {outcome : Outcome}

/-- A run of the program on a workspace. -/
def runOn (s : Surroundings) (args : List String) (w : Workspace) : Outcome × Workspace :=
  (run s args : StateM Workspace Outcome).run w

/-- A run of a command is its session. -/
theorem runOn_perform {c : Command} (hparse : Arguments.parse args = .ok (.perform c)) :
    runOn s args w
      = (Session.outcome (s.on w).environment (Session.run { workspace := w } (c.perform (s.on w))),
        (Session.run { workspace := w } (c.perform (s.on w))).2.workspace) := by
  rw [runOn, run, (EnvFile.looks_extend s.environment).run_bind, Surroundings.on]
  simp only [hparse]
  rfl

/-- Arguments that ask for no command are answered without looking at a file. -/
theorem runOn_of_not_perform (hparse : ∀ c, Arguments.parse args ≠ .ok (.perform c)) :
    runOn s args w = (match Arguments.parse args with
      | .error e => { ending := .usage e }
      | .ok .showVersion => { ending := .success, output := [version] }
      | .ok _ => { ending := .success, output := help }, w) := by
  rw [runOn, run, (EnvFile.looks_extend s.environment).run_bind]
  cases harguments : Arguments.parse args with
  | error e => rfl
  | ok request =>
      cases request with
      | perform c => exact absurd harguments (hparse c)
      | showHelp => rfl
      | showVersion => rfl

/-! ### Runs of generate -/

section Generate

variable {whereabouts : Whereabouts} {strict dryRun : Bool}
  (hparse : Arguments.parse args = .ok (.perform (.generate whereabouts strict dryRun)))
include hparse

/-- Without a world, nothing changes. -/
theorem runOn_generate_of_error {f : Failure}
    (h : ((Command.generate whereabouts strict dryRun).sourceOn (s.on w) w).1 = .error f) :
    (runOn s args w).2 = w := by
  rw [runOn_perform hparse, Session.run_perform_of_error { workspace := w } h]
  rfl

/-- With one, `generate` fails where the writing does, and leaves what was written. -/
theorem runOn_generate_of_ok {source : Source}
    (h : ((Command.generate whereabouts strict dryRun).sourceOn (s.on w) w).1 = .ok source) :
    let directory := (Command.generate whereabouts strict dryRun).directoryOn (s.on w) w
    let p := w.publish directory source.world.artifacts
    (runOn s args w).2 = (if dryRun then w else { w with disk := p.disk })
      ∧ (runOn s args w).1.ending = (if dryRun then .success else match p.failed? with
        | none => .success
        | some path => .failure (.notWritten directory path)) := by
  intro directory p
  have hsession := Session.run_generate_of_ok { workspace := w } h
  rw [runOn_perform hparse, hsession]
  cases dryRun with
  | true => exact ⟨rfl, rfl⟩
  | false => exact ⟨Session.workspace_tabulated _ _ _ _, Session.ending_tabulated _ _ _ _ _⟩

end Generate

/-- **What a `generate` leaves** are tables of the world that it found, and all of them in full
if it succeeds and the run is not dry. -/
theorem exists_leaves_of_generate {c : Command} {flags : List String} {source : Source}
    (hparse : Arguments.parse ("generate" :: flags) = .ok (.perform c))
    (hsource : (c.sourceOn (s.on w) w).1 = .ok source)
    (hrun : runOn s ("generate" :: flags) w = (outcome, w')) :
    ∃ disk place copies, w' = { w with disk }
      ∧ (∀ c ∈ copies, c.document ∈ source.world.artifacts)
      ∧ w.Leaves disk (c.directoryOn (s.on w) w) place copies
      ∧ ∀ whereabouts strict, c = .generate whereabouts strict false → outcome.ending.code = 0 →
        copies = source.world.artifacts.map Copy.whole := by
  obtain ⟨whereabouts, strict, dryRun, rfl⟩ := Arguments.generate_of_parse hparse
  obtain ⟨hworkspace, hending⟩ := runOn_generate_of_ok hparse hsource
  rw [hrun] at hworkspace hending
  cases dryRun with
  | true =>
      obtain rfl : w' = w := hworkspace
      exact ⟨_, [], [], rfl, by simp, .refl _ _, fun _ _ hc => by simp at hc⟩
  | false =>
      simp only [Bool.false_eq_true, if_false] at hworkspace hending
      obtain ⟨place, hleaves⟩ := w.exists_leaves_publish
        ((Command.generate whereabouts strict false).directoryOn (s.on w) w)
        (Workspace.distinct_artifacts source.world)
      refine ⟨_, place, _, hworkspace, fun c => Workspace.document_mem_of_publish, hleaves,
        fun _ _ _ hcode => Workspace.copies_publish_of_none ?_⟩
      split at hending
      · assumption
      · rw [hending] at hcode
        cases hcode

end Program

/-! ### Failed runs -/

/-- What has become of a document that could not be written in full.  Its file was not opened and
is as it was, or it holds what the system stored in place of the text. -/
inductive Workspace.Broken (w : Workspace) (disk : Disk) (place : Place) (a : Artifact) : Prop
    where
  | unopened (hclosed : disk.node? (place ++ [a.fileName]) = some .directory
        ∨ w.stored? (place ++ [a.fileName]) a.text = none)
      (hkept : disk.file? (place ++ [a.fileName]) = w.disk.file? (place ++ [a.fileName]))
  | torn (left : String) (hstored : w.stored? (place ++ [a.fileName]) a.text = some left)
      (hleft : left ≠ a.text) (hfile : disk.file? (place ++ [a.fileName]) = some left)

/-- The tables of a world were written into a place up to one that could not be written in full.
Those before it are there in full, and no other file has changed. -/
structure Workspace.Interrupted (w : Workspace) (disk : Disk) (place : Place) (world : World)
    (written : List Artifact) (broken : Artifact) : Prop where
  tables : written ++ [broken] <+: world.artifacts
  complete : ∀ a ∈ written, disk.file? (place ++ [a.fileName]) = some a.text
  incomplete : w.Broken disk place broken
  others : ∀ p, (∀ a ∈ written ++ [broken], p ≠ place ++ [a.fileName]) →
    disk.file? p = w.disk.file? p

/-- Publishing that stops at a table leaves those before it, and that one broken. -/
theorem Publication.StopsAt.interrupted {p : Publication} {w : Workspace} {directory : Path}
    {place : Place} {world : World} {a : Artifact} (h : p.StopsAt w directory world.artifacts a)
    (hleaves : w.Leaves p.disk directory place p.copies)
    (hat : p.disk.directoryAt? w.here directory = some place) :
    w.Interrupted p.disk place world p.written a := by
  have hdistinct := Workspace.distinct_artifacts world
  have hwritten := hleaves.receives.written
  refine ⟨h.before, fun b hb => ?_, ?_, fun q hq => ?_⟩
  · exact hwritten _ (List.mem_map_of_mem (mem_copies.mpr (.inl ⟨b, hb, rfl⟩)))
  · have hname := hdistinct.names a (h.before.subset (List.mem_append_right _ List.mem_cons_self))
    rcases h.broken with ⟨hnone, hfill⟩ | ⟨left, hleft, hsome⟩
    · refine .unopened ((Workspace.fill?_eq_none_iff hname hat).mp hfill) ?_
      refine hleaves.receives.kept_of_name place fun f hf heq => ?_
      obtain ⟨c, hc, rfl⟩ := List.mem_map.mp hf
      obtain ⟨b, hb, rfl⟩ | hc := mem_copies.mp hc
      · exact h.fileName_ne hdistinct b hb heq
      · rw [hnone] at hc
        cases hc
    · have hcopy : (⟨a, left⟩ : Copy) ∈ p.copies := mem_copies.mpr (.inr hsome)
      exact .torn left (hleaves.stored _ hcopy) hleft (hwritten _ (List.mem_map_of_mem hcopy))
  · refine hleaves.receives.kept q fun f hf => ?_
    obtain ⟨c, hc, rfl⟩ := List.mem_map.mp hf
    exact hq _ (h.document_mem hc)

namespace Program

variable {s : Surroundings} {w w' : Workspace} {outcome : Outcome}

/-- Publishing that fails leaves every file as it was, or it was interrupted at a table. -/
theorem files_of_failed_publish {directory path : Path} {world : World}
    (h : (w.publish directory world.artifacts).failed? = some path) :
    (∀ p, (w.publish directory world.artifacts).disk.file? p = w.disk.file? p)
      ∨ ∃ place written broken, path = directory.join ⟨broken.fileName⟩
        ∧ (w.publish directory world.artifacts).disk.directoryAt? w.here directory = some place
        ∧ w.Interrupted (w.publish directory world.artifacts).disk place world written broken := by
  obtain ⟨place, hleaves⟩ := w.exists_leaves_publish directory (Workspace.distinct_artifacts world)
  -- what tells the two apart is whether a file was opened
  by_cases hcopies : (w.publish directory world.artifacts).copies = []
  · refine .inl fun p => hleaves.receives.kept p ?_
    simp [hcopies]
  · refine .inr ?_
    rcases @Workspace.outcome_publish w directory world.artifacts with
      ⟨hnone, -⟩ | ⟨-, hnothing⟩ | ⟨broken, hstops⟩
    · rw [hnone] at h
      cases h
    · exact absurd hnothing hcopies
    · have hat := hleaves.place hcopies
      exact ⟨place, _, broken, Option.some.inj (h.symm.trans hstops.failed), hat,
        hstops.interrupted hleaves hat⟩

/-- **What a failed `generate` leaves.**  Every file is as it was, unless a world was found and
one of its tables could not be written in full.  The tables before that one are there then.  Its
own file is as it was if it was not opened, and else holds what the system stored in place of
the text; and no other file has changed. -/
theorem files_of_failed_generate {flags : List String}
    (hrun : runOn s ("generate" :: flags) w = (outcome, w')) (hcode : outcome.ending.code ≠ 0) :
    (∀ p, w'.disk.file? p = w.disk.file? p)
      ∨ ∃ (c : Command) (source : Source) (place : Place) (written : List Artifact)
          (broken : Artifact),
        Arguments.parse ("generate" :: flags) = .ok (.perform c)
        ∧ (c.sourceOn (s.on w) w).1 = .ok source
        ∧ outcome.ending = .failure (.notWritten (c.directoryOn (s.on w) w)
          ((c.directoryOn (s.on w) w).join ⟨broken.fileName⟩))
        ∧ w'.disk.directoryAt? w.here (c.directoryOn (s.on w) w) = some place
        ∧ w.Interrupted w'.disk place source.world written broken := by
  by_cases hparse : ∃ c, Arguments.parse ("generate" :: flags) = .ok (.perform c)
  · obtain ⟨c, hparse⟩ := hparse
    obtain ⟨whereabouts, strict, dryRun, rfl⟩ := Arguments.generate_of_parse hparse
    cases hsource : ((Command.generate whereabouts strict dryRun).sourceOn (s.on w) w).1 with
    | error f =>
        have hsame : w' = w :=
          (congrArg Prod.snd hrun).symm.trans (runOn_generate_of_error hparse hsource)
        exact .inl fun p => by rw [hsame]
    | ok source =>
        obtain ⟨hworkspace, hending⟩ := runOn_generate_of_ok hparse hsource
        rw [hrun] at hworkspace hending
        cases dryRun with
        | true => exact absurd (congrArg Ending.code hending) hcode
        | false =>
            simp only [Bool.false_eq_true, if_false] at hworkspace hending
            split at hending
            · exact absurd (congrArg Ending.code hending) hcode
            · rename_i path hfailed
              rw [hworkspace]
              rcases files_of_failed_publish hfailed with hsame | ⟨place, written, broken, rfl, h⟩
              · exact .inl hsame
              · exact .inr ⟨_, source, place, written, broken, hparse, hsource, hending, h⟩
  · have hsame : w' = w :=
      congrArg Prod.snd (hrun.symm.trans (runOn_of_not_perform (not_exists.mp hparse)))
    exact .inl fun p => by rw [hsame]

/-- A catalog of nothing and a table of old, on a system without room for another one. -/
def cramped : Workspace where
  disk := ⟨Table.ofList [
    (["data"], .directory),
    (["data", "content.json"], .file "\x7b\x7d"),
    (["data", "locations.json"], .file "a table of old")]⟩
  stored? := fun place text => if place = ["data", "locations.json"] then some "" else some text

/-- The items of the catalog are there, and nothing is left of the locations. -/
theorem files_of_cramped_generate :
    let run := runOn {} ["generate", "--data-dir", "data"] cramped
    run.1.ending.code ≠ 0
      ∧ run.2.disk.file? ["data", "locations.json"] = some ""
      ∧ ∃ (c : Command) (source : Source) (place : Place) (written : List Artifact)
          (broken : Artifact),
        Arguments.parse ["generate", "--data-dir", "data"] = .ok (.perform c)
        ∧ (c.sourceOn (Surroundings.on {} cramped) cramped).1 = .ok source
        ∧ run.1.ending = .failure (.notWritten (c.directoryOn (Surroundings.on {} cramped) cramped)
          ((c.directoryOn (Surroundings.on {} cramped) cramped).join ⟨broken.fileName⟩))
        ∧ run.2.disk.directoryAt? cramped.here
          (c.directoryOn (Surroundings.on {} cramped) cramped) = some place
        ∧ cramped.Interrupted run.2.disk place source.world written broken := by
  intro run
  have hcode : run.1.ending.code ≠ 0 := by decide +kernel
  have htorn : run.2.disk.file? ["data", "locations.json"] = some "" := by decide +kernel
  have hchanged : cramped.disk.file? ["data", "locations.json"] ≠ some "" := by decide
  have hrun : runOn {} ["generate", "--data-dir", "data"] cramped = (run.1, run.2) :=
    (Prod.eta run).symm
  refine ⟨hcode, htorn, (files_of_failed_generate hrun hcode).resolve_left fun hsame => ?_⟩
  exact hchanged ((hsame _).symm.trans htorn)

/-- A catalog of nothing, with a directory in the place of the second table. -/
def blocked : Workspace where
  disk := ⟨Table.ofList [
    (["data"], .directory),
    (["data", "content.json"], .file "\x7b\x7d"),
    (["data", "locations.json"], .directory)]⟩

/-- A failed run may leave some of the tables. -/
theorem exists_table_of_failed_generate :
    ¬∀ (s : Surroundings) (flags : List String) (w : Workspace),
      (runOn s ("generate" :: flags) w).1.ending.code ≠ 0 →
        ∀ p, (runOn s ("generate" :: flags) w).2.disk.file? p = w.disk.file? p := by
  intro h
  exact absurd (h {} ["--data-dir", "data"] blocked (by decide +kernel) ["data", "items.json"])
    (by decide +kernel)

end Program

end Worldsmith
