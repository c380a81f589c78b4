/-
What the steps of a command come to.

A command is run in a session, which has the report of what was said so far and the workspace.
Steps are read off one by one, and each does to the session what its name says (`run_bind` and
the lemmas after it).

The steps that every command begins with only look at files.  `Settings.sourceOn` says what
they find without running anything: the catalog that the settings lead to, and its world, or
else why there is none.  It does not depend on what the command does afterwards, nor on whether
it is strict.
-/
import Worldsmith.Command.Run
import Worldsmith.Proofs.Catalog.Resolved
import Worldsmith.Proofs.Shell.EnvFile

namespace Worldsmith

/-! ### Sessions -/

/-- What a run of a command has said so far, and the files that it works on. -/
structure Session where
  report : Report := {}
  workspace : Workspace

namespace Session

def print (q : Session) (lines : List String) : Session :=
  { q with report := { q.report with output := q.report.output ++ lines } }

def log (q : Session) (es : List Event) : Session :=
  { q with report := { q.report with events := q.report.events ++ es } }

/-- How steps end, and the session after them. -/
def run {α : Type} (q : Session) (x : Command.Run (StateM Workspace) α) :
    Except Failure α × Session :=
  let r := (x.run.run q.report).run q.workspace
  (r.1.1, ⟨r.1.2, r.2⟩)

variable {α β : Type} (q : Session)

@[simp] theorem workspace_log (es : List Event) : (q.log es).workspace = q.workspace := rfl

theorem log_log (es es' : List Event) : (q.log es).log es' = q.log (es ++ es') := by
  simp [log]

theorem print_print (ls ls' : List String) : (q.print ls).print ls' = q.print (ls ++ ls') := by
  simp [print]

theorem run_pure (a : α) : q.run (pure a) = (.ok a, q) := rfl

theorem run_throw (f : Failure) :
    q.run (throw f : Command.Run (StateM Workspace) α) = (.error f, q) :=
  rfl

/-- What follows goes on from the session that the first steps leave, unless they fail. -/
theorem run_bind (x : Command.Run (StateM Workspace) α)
    (f : α → Command.Run (StateM Workspace) β) :
    q.run (x >>= f) = match q.run x with
      | (.ok a, q') => q'.run (f a)
      | (.error e, q') => (.error e, q') := by
  obtain ⟨report, workspace⟩ := q
  have hbind : (x >>= f).run.run report
      = x.run.run report >>= fun r => (ExceptT.bindCont f r.1).run r.2 := rfl
  rw [run, hbind, StateT.run_bind, run]
  obtain ⟨⟨result, report'⟩, workspace'⟩ := (x.run.run report).run workspace
  cases result <;> rfl

theorem run_bind_of_ok {x : Command.Run (StateM Workspace) α} {q' : Session} {a : α}
    (h : q.run x = (.ok a, q')) (f : α → Command.Run (StateM Workspace) β) :
    q.run (x >>= f) = q'.run (f a) := by
  rw [run_bind, h]

theorem run_bind_of_error {x : Command.Run (StateM Workspace) α} {q' : Session} {e : Failure}
    (h : q.run x = (.error e, q')) (f : α → Command.Run (StateM Workspace) β) :
    q.run (x >>= f) = (.error e, q') := by
  rw [run_bind, h]

theorem run_print (line : String) : q.run (Command.print line) = (.ok (), q.print [line]) := rfl

theorem run_log (es : List Event) : q.run (Command.log es) = (.ok (), q.log es) := rfl

theorem run_ask (x : StateM Workspace α) :
    q.run (Command.ask x)
      = (.ok (x.run q.workspace).1, { q with workspace := (x.run q.workspace).2 }) :=
  rfl

theorem run_ask_of_looks {x : StateM Workspace α} {answer : Workspace → α}
    (h : Looks x answer) : q.run (Command.ask x) = (.ok (answer q.workspace), q) := by
  rw [run_ask, h q.workspace]

/-- Printing line by line. -/
theorem run_forM_print (f : α → String) (as : List α) :
    q.run (as.forM fun a => Command.print (f a)) = (.ok (), q.print (as.map f)) := by
  induction as generalizing q with
  | nil =>
      rw [List.forM, run_pure]
      simp [print]
  | cons a as ih =>
      rw [List.forM, q.run_bind_of_ok (q.run_print (f a)), ih, print_print]
      rfl

end Session

/-! ### What the settings lead to -/

/-- A catalog that was found, and the world that it compiles to. -/
structure Source where
  path : Path
  catalog : Catalog
  world : World

namespace Settings

variable (settings : Settings) (s : Surroundings)

/-- The directory of the catalog and of the tables, on a workspace. -/
def directoryOn (w : Workspace) : Path :=
  match settings.directory? with
  | some directory => directory
  | none =>
    if w.disk.isDirectory w.here projectDirectory then projectDirectory
    else fallbackDirectory s

/-- The path of the catalog. -/
def catalogOn? (directory : Path) (w : Workspace) : Option Path :=
  match settings.catalog? with
  | some path => some (directory.join path)
  | none => (Catalog.defaultFiles.map directory.join).find? (w.disk.isFile w.here)

theorem looks_directory :
    Looks (settings.directory s : StateM Workspace Path) (settings.directoryOn s) := by
  intro w
  rw [directory, directoryOn]
  cases settings.directory? with
  | some directory => rfl
  | none =>
      simp only [(Looks.isDirectory projectDirectory).run_bind]
      cases w.disk.isDirectory w.here projectDirectory <;> rfl

theorem looks_catalogIn? (directory : Path) :
    Looks (settings.catalogIn? directory : StateM Workspace (Option Path))
      (settings.catalogOn? directory) := by
  intro w
  rw [catalogIn?, catalogOn?]
  cases settings.catalog? with
  | some path => rfl
  | none => exact Looks.findM? Looks.isFile _ w

end Settings

namespace Catalog

/-- The catalog in a file on a workspace. -/
def loadOn (path : Path) (w : Workspace) : Except LoadError Catalog :=
  match Format.ofPath? path with
  | none => .error (.unknownFormat path)
  | some format =>
    match w.disk.read? w.here path with
    | none => .error (.unreadable path)
    | some text => parse format path text

theorem looks_load (path : Path) :
    Looks (load path : StateM Workspace (Except LoadError Catalog)) (loadOn path) := by
  intro w
  rw [load, loadOn]
  cases Format.ofPath? path with
  | none => rfl
  | some format =>
      simp only [(Looks.read? path).run_bind]
      cases w.disk.read? w.here path <;> rfl

end Catalog

/-- **What the settings lead to** on a workspace, and the events of looking for it. -/
def Settings.sourceOn (settings : Settings) (s : Surroundings) (w : Workspace) :
    Except Failure Source × List Event :=
  let directory := settings.directoryOn s w
  match settings.catalogOn? directory w with
  | none => (.error (.noCatalog directory), [])
  | some path =>
    match Catalog.loadOn path w with
    | .error e => (.error (.notLoaded path e), [.compiling path.text])
    | .ok catalog =>
      (match catalog.compile.1 with
        | .error e => .error (.notCompiled path e)
        | .ok world => .ok { path, catalog, world },
      [.compiling path.text, catalog.loaded path] ++ catalog.compile.2)

/-- The world of a command is that of the source. -/
theorem Session.run_world (q : Session) (settings : Settings) (s : Surroundings) :
    q.run (Command.world settings s)
      = ((settings.sourceOn s q.workspace).1.map Source.world,
        q.log (settings.sourceOn s q.workspace).2) := by
  rw [Command.world, Settings.sourceOn,
    q.run_bind_of_ok (q.run_ask_of_looks (settings.looks_directory s)),
    q.run_bind_of_ok (q.run_ask_of_looks (settings.looks_catalogIn? _))]
  cases settings.catalogOn? (settings.directoryOn s q.workspace) q.workspace with
  | none => simp [run_throw, Except.map, log]
  | some path =>
      simp only
      rw [run_bind_of_ok _ (run_log _ _),
        run_bind_of_ok _ (run_ask_of_looks _ (Catalog.looks_load path)), workspace_log]
      cases Catalog.loadOn path q.workspace with
      | error e => rfl
      | ok catalog =>
          simp only
          rw [run_bind_of_ok _ (run_log _ _), run_bind_of_ok _ (run_log _ _), log_log, log_log]
          cases catalog.compile.1 <;> rfl

theorem Settings.of_sourceOn_eq_ok {settings : Settings} {s : Surroundings} {w : Workspace}
    {source : Source} (h : (settings.sourceOn s w).1 = .ok source) :
    settings.catalogOn? (settings.directoryOn s w) w = some source.path
      ∧ Catalog.loadOn source.path w = .ok source.catalog
      ∧ source.catalog.compile.1 = .ok source.world := by
  rw [sourceOn] at h
  cases hpath : settings.catalogOn? (settings.directoryOn s w) w with
  | none => simp [hpath] at h
  | some path =>
      simp only [hpath] at h
      cases hload : Catalog.loadOn path w with
      | error e => simp [hload] at h
      | ok catalog =>
          simp only [hload] at h
          cases hcompile : catalog.compile.1 with
          | error e => simp [hcompile] at h
          | ok world =>
              simp only [hcompile] at h
              obtain rfl := Except.ok.inj h
              exact ⟨rfl, hload, hcompile⟩

theorem Settings.sourceOn_of_eq {settings : Settings} {s : Surroundings} {w : Workspace}
    {source : Source} (hpath : settings.catalogOn? (settings.directoryOn s w) w = some source.path)
    (hload : Catalog.loadOn source.path w = .ok source.catalog)
    (hcompile : source.catalog.compile.1 = .ok source.world) :
    settings.sourceOn s w = (.ok source,
      [.compiling source.path.text, source.catalog.loaded source.path]
        ++ source.catalog.compile.2) := by
  rw [sourceOn, hpath]
  simp only [hload, hcompile]

/-! ### Commands -/

namespace Command

/-- What a command finds. -/
def sourceOn (c : Command) (s : Surroundings) (w : Workspace) :
    Except Failure Source × List Event :=
  (c.settings s.environment).sourceOn s w

/-- Where a command puts the tables, if it does. -/
def directoryOn (c : Command) (s : Surroundings) (w : Workspace) : Path :=
  (c.settings s.environment).directoryOn s w

theorem exists_source {c : Command} {s : Surroundings} {w : Workspace} {p : Path}
    (h : (c.sourceOn s w).1.toOption.map Source.path = some p) :
    ∃ source, (c.sourceOn s w).1 = .ok source ∧ source.path = p := by
  cases hsource : (c.sourceOn s w).1 with
  | error f =>
      rw [hsource] at h
      cases h
  | ok source =>
      rw [hsource] at h
      exact ⟨source, rfl, Option.some.inj h⟩

end Command

namespace Session

variable (q : Session) {s : Surroundings} {source : Source}

/-- A command that finds no world does nothing else. -/
theorem run_perform_of_error {c : Command} {f : Failure}
    (h : (c.sourceOn s q.workspace).1 = .error f) :
    q.run (c.perform s) = (.error f, q.log (c.sourceOn s q.workspace).2) := by
  rw [Command.sourceOn] at h ⊢
  rw [Command.perform]
  refine run_bind_of_error _ ?_ _
  rw [run_world, h]
  rfl

section Found

variable {whereabouts : Whereabouts} {strict dryRun : Bool}

theorem run_world_of_ok {settings : Settings}
    (h : (settings.sourceOn s q.workspace).1 = .ok source) :
    q.run (Command.world settings s)
      = (.ok source.world, q.log (settings.sourceOn s q.workspace).2) := by
  rw [run_world, h]
  rfl

/-- The check has nothing to report. -/
theorem run_check (h : ((Command.check whereabouts).sourceOn s q.workspace).1 = .ok source) :
    q.run ((Command.check whereabouts).perform s)
      = (.ok (), (q.log ((Command.check whereabouts).sourceOn s q.workspace).2).print
          [Summary.resolved (Style.isForced s.environment)]) := by
  have hnone := source.catalog.unresolved_world (Settings.of_sourceOn_eq_ok h).2.2
  rw [Command.sourceOn] at h ⊢
  rw [Command.perform, run_bind_of_ok _ (run_world_of_ok _ h)]
  simp only [hnone]
  exact run_print _ _

theorem run_stats (h : ((Command.stats whereabouts).sourceOn s q.workspace).1 = .ok source) :
    q.run ((Command.stats whereabouts).perform s)
      = (.ok (), (q.log ((Command.stats whereabouts).sourceOn s q.workspace).2).print
          (Summary.stats (Style.isForced s.environment) source.world)) := by
  rw [Command.sourceOn] at h ⊢
  rw [Command.perform, run_bind_of_ok _ (run_world_of_ok _ h)]
  have hprint := run_forM_print
    (q.log (((Command.stats whereabouts).settings s.environment).sourceOn s q.workspace).2) id
    (Summary.stats (Style.isForced s.environment) source.world)
  rwa [List.map_id] at hprint

/-- Strict or not, `generate` says what it compiled and goes on to the tables. -/
theorem run_generate
    (h : ((Command.generate whereabouts strict dryRun).sourceOn s q.workspace).1 = .ok source) :
    q.run ((Command.generate whereabouts strict dryRun).perform s)
      = ((q.log ((Command.generate whereabouts strict dryRun).sourceOn s q.workspace).2).print
          [Summary.compiled (Style.isForced s.environment) source.world]).run
        (let directory := (Command.generate whereabouts strict dryRun).directoryOn s q.workspace
        if dryRun then Command.print (Summary.dryRun (Style.isForced s.environment) directory)
        else do
          (← Command.write directory source.world).forM fun path =>
            Command.print (Summary.written (Style.isForced s.environment) path)) := by
  have hvalid : source.world.validate = .ok () :=
    World.validate_eq_ok_iff.mpr
      (source.catalog.unresolved_world (Settings.of_sourceOn_eq_ok h).2.2)
  rw [Command.sourceOn] at h ⊢
  rw [Command.perform, run_bind_of_ok _ (run_world_of_ok _ h)]
  simp only [hvalid]
  rw [ite_self, run_bind_of_ok _ (run_print _ _),
    run_bind_of_ok _ (run_ask_of_looks _ (Settings.looks_directory _ _))]
  rfl

end Found

end Session

end Worldsmith
