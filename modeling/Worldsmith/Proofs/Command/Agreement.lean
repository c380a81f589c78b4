/-
The commands agree with one another.

`check`, `stats` and a dry run of `generate` begin by the same steps, and what these find does
not depend on which command it is for (`Command.sourceOn_congr`).  None of the three can fail
after that: the world of a catalog has no reference that leads nowhere, and nothing is written.
So they end alike (`Agree`), and the figures of `stats` and `generate` are those of one world.

For the same reason it makes no difference whether `generate` is strict, be it by the option or
by the variable (`runOn_generate_congr`).  The variable may make one all the same, where the
environment file passes its value on to another variable (`exists_strict_matters`).
-/
import Worldsmith.Proofs.Command.Generating

namespace Worldsmith

/-! ### What settings depend on -/

section Settings

variable {settings settings' : Settings} {s s' : Surroundings}

theorem Settings.directoryOn_congr (hdirectory : settings'.directory? = settings.directory?)
    (hfallback : fallbackDirectory s' = fallbackDirectory s) (w : Workspace) :
    settings'.directoryOn s' w = settings.directoryOn s w := by
  rw [directoryOn, directoryOn, hdirectory, hfallback]

/-- What is found does not depend on whether references are checked. -/
theorem Settings.sourceOn_congr (hdirectory : settings'.directory? = settings.directory?)
    (hcatalog : settings'.catalog? = settings.catalog?)
    (hfallback : fallbackDirectory s' = fallbackDirectory s) (w : Workspace) :
    settings'.sourceOn s' w = settings.sourceOn s w := by
  rw [sourceOn, sourceOn, directoryOn_congr hdirectory hfallback, catalogOn?, catalogOn?, hcatalog]

end Settings

namespace Command

/-- What a command is told about where the catalog is. -/
def whereabouts : Command → Whereabouts
  | .generate whereabouts _ _ => whereabouts
  | .check whereabouts => whereabouts
  | .stats whereabouts => whereabouts

/-- Commands that never write. -/
def OnlyLooks : Command → Prop
  | .generate _ _ dryRun => dryRun = true
  | .check _ => True
  | .stats _ => True

theorem directory?_settings (c : Command) (env : Environment) :
    (c.settings env).directory?
      = c.whereabouts.directory?.or (Settings.ofEnvironment env).directory? := by
  cases c <;> rfl

theorem catalog?_settings (c : Command) (env : Environment) :
    (c.settings env).catalog?
      = c.whereabouts.catalog?.or (Settings.ofEnvironment env).catalog? := by
  cases c <;> rfl

/-- **Every command finds the same.** -/
theorem sourceOn_congr {c c' : Command} (h : c'.whereabouts = c.whereabouts) (s : Surroundings)
    (w : Workspace) : c'.sourceOn s w = c.sourceOn s w := by
  refine Settings.sourceOn_congr ?_ ?_ rfl w
  · rw [directory?_settings, directory?_settings, h]
  · rw [catalog?_settings, catalog?_settings, h]

end Command

/-! ### Ending alike -/

namespace Program

variable {s s' : Surroundings} {args args' : List String} {w : Workspace} {c : Command}

/-- **A command that only looks** succeeds when it finds a world.  Its log is that of looking. -/
theorem runOn_of_onlyLooks (hparse : Arguments.parse args = .ok (.perform c))
    (hlooks : c.OnlyLooks) :
    (runOn s args w).1.ending = (match (c.sourceOn (s.on w) w).1 with
      | .ok _ => .success
      | .error f => .failure f)
      ∧ (runOn s args w).1.log = (c.sourceOn (s.on w) w).2.filter
        (LogFilter.ofEnvironment (s.on w).environment).shows := by
  rw [runOn_perform hparse]
  cases hsource : (c.sourceOn (s.on w) w).1 with
  | error f =>
      have hsession := Session.run_perform_of_error { workspace := w } hsource
      rw [hsession]
      exact ⟨rfl, rfl⟩
  | ok source =>
      cases c with
      | check whereabouts =>
          have hsession := Session.run_check { workspace := w } hsource
          rw [hsession]
          exact ⟨rfl, rfl⟩
      | stats whereabouts =>
          have hsession := Session.run_stats { workspace := w } hsource
          rw [hsession]
          exact ⟨rfl, rfl⟩
      | generate whereabouts strict dryRun =>
          obtain rfl : dryRun = true := hlooks
          have hsession := Session.run_generate_of_ok { workspace := w } hsource
          rw [hsession]
          exact ⟨rfl, rfl⟩

/-- What a run finds, if it performs a command. -/
def selection (s : Surroundings) (args : List String) (w : Workspace) :
    Option (Except Failure Source) :=
  match Arguments.parse args with
  | .ok (.perform c) => some (c.sourceOn (s.on w) w).1
  | _ => none

/-- Two runs find the same catalog and the same world in it, or have the same failure to.  They
say the same of it in the log, and end with the same code. -/
structure Agree (s : Surroundings) (w : Workspace) (args args' : List String) : Prop where
  selection : selection s args w = selection s args' w
  log : (runOn s args w).1.log = (runOn s args' w).1.log
  code : (runOn s args w).1.ending.code = (runOn s args' w).1.ending.code

theorem Agree.symm (h : Agree s w args args') : Agree s w args' args :=
  ⟨h.selection.symm, h.log.symm, h.code.symm⟩

theorem Agree.trans {args'' : List String} (h : Agree s w args args')
    (h' : Agree s w args' args'') : Agree s w args args'' :=
  ⟨h.selection.trans h'.selection, h.log.trans h'.log, h.code.trans h'.code⟩

/-- Commands that only look, and have the same to look for, agree. -/
theorem agree_of_onlyLooks {c' : Command} (hparse : Arguments.parse args = .ok (.perform c))
    (hparse' : Arguments.parse args' = .ok (.perform c')) (hlooks : c.OnlyLooks)
    (hlooks' : c'.OnlyLooks) (hwhere : c'.whereabouts = c.whereabouts) : Agree s w args args' := by
  obtain ⟨hending, hlog⟩ := runOn_of_onlyLooks (s := s) (w := w) hparse hlooks
  obtain ⟨hending', hlog'⟩ := runOn_of_onlyLooks (s := s) (w := w) hparse' hlooks'
  have hsource := Command.sourceOn_congr hwhere (s.on w) w
  rw [hsource] at hending' hlog'
  refine ⟨?_, hlog.trans hlog'.symm, by rw [hending, hending']⟩
  rw [selection, selection, hparse, hparse']
  simp only [hsource]

/-- A run that performs no command finds nothing and logs nothing. -/
theorem quiet_of_not_perform (h : ∀ c, Arguments.parse args ≠ .ok (.perform c)) :
    selection s args w = none ∧ (runOn s args w).1.log = [] := by
  rw [runOn_of_not_perform h, selection]
  cases hparse : Arguments.parse args with
  | error e => exact ⟨rfl, rfl⟩
  | ok request =>
      cases request with
      | perform c => exact absurd hparse (h c)
      | showHelp => exact ⟨rfl, rfl⟩
      | showVersion => exact ⟨rfl, rfl⟩

theorem agree_of_not_perform (h : ∀ c, Arguments.parse args ≠ .ok (.perform c))
    (h' : ∀ c, Arguments.parse args' ≠ .ok (.perform c))
    (hcode : (runOn s args w).1.ending.code = (runOn s args' w).1.ending.code) :
    Agree s w args args' := by
  obtain ⟨hselection, hlog⟩ := quiet_of_not_perform (s := s) (w := w) h
  obtain ⟨hselection', hlog'⟩ := quiet_of_not_perform (s := s) (w := w) h'
  exact ⟨hselection.trans hselection'.symm, hlog.trans hlog'.symm, hcode⟩

/-- What is read alike agrees. -/
theorem agree_of_alike {name : Arguments.CommandName} (hname : name ≠ .generate)
    (h : Arguments.Alike name (Arguments.parse args) (Arguments.parse args')) :
    Agree s w args args' := by
  generalize hparse : Arguments.parse args = r, hparse' : Arguments.parse args' = r' at h
  cases h with
  | perform o =>
      refine agree_of_onlyLooks hparse hparse' ?_ rfl ?_
      · cases name <;> first | exact trivial | exact absurd rfl hname
      · cases name <;> rfl
  | help =>
      have hno : ∀ c, Arguments.parse args ≠ .ok (.perform c) := by simp [hparse]
      have hno' : ∀ c, Arguments.parse args' ≠ .ok (.perform c) := by simp [hparse']
      refine agree_of_not_perform hno hno' ?_
      rw [runOn_of_not_perform hno, runOn_of_not_perform hno', hparse, hparse']
  | wrong e e' =>
      have hno : ∀ c, Arguments.parse args ≠ .ok (.perform c) := by simp [hparse]
      have hno' : ∀ c, Arguments.parse args' ≠ .ok (.perform c) := by simp [hparse']
      refine agree_of_not_perform hno hno' ?_
      rw [runOn_of_not_perform hno, runOn_of_not_perform hno', hparse, hparse']
      rfl

/-- **`check`, `stats` and a dry run agree** on any options that are not only a dry run's. -/
theorem agree_of_options (s : Surroundings) (w : Workspace) {flags : List String}
    (hstrict : "--strict" ∉ flags) :
    Agree s w ("check" :: flags) ("stats" :: flags)
      ∧ Agree s w ("check" :: flags) ("generate" :: "--dry-run" :: flags) := by
  have hcheck : Agree s w ("check" :: flags) ("generate" :: "--dry-run" :: flags) := by
    have hname : Arguments.CommandName.check ≠ .generate := by decide
    refine agree_of_alike hname ?_
    rw [Arguments.parse_check, Arguments.parse_generate_dry]
    exact Arguments.options_dry hname {} hstrict
  have hstats : Agree s w ("stats" :: flags) ("generate" :: "--dry-run" :: flags) := by
    have hname : Arguments.CommandName.stats ≠ .generate := by decide
    refine agree_of_alike hname ?_
    rw [Arguments.parse_stats, Arguments.parse_generate_dry]
    exact Arguments.options_dry hname {} hstrict
  exact ⟨hcheck.trans hstats.symm, hcheck⟩

/-! ### Figures -/

theorem output_stats {whereabouts : Whereabouts} {source : Source}
    (hparse : Arguments.parse args = .ok (.perform (.stats whereabouts)))
    (hsource : ((Command.stats whereabouts).sourceOn (s.on w) w).1 = .ok source) :
    (runOn s args w).1.output
      = Summary.stats (Style.isForced (s.on w).environment) source.world := by
  have hsession := Session.run_stats { workspace := w } hsource
  rw [runOn_perform hparse, hsession]
  rfl

theorem head?_output_generate {whereabouts : Whereabouts} {strict dryRun : Bool} {source : Source}
    (hparse : Arguments.parse args = .ok (.perform (.generate whereabouts strict dryRun)))
    (hsource : ((Command.generate whereabouts strict dryRun).sourceOn (s.on w) w).1 = .ok source) :
    (runOn s args w).1.output.head?
      = some (Summary.compiled (Style.isForced (s.on w).environment) source.world) := by
  have hsession := Session.run_generate_of_ok { workspace := w } hsource
  rw [runOn_perform hparse, hsession]
  cases dryRun with
  | true => rfl
  | false =>
      simp only [Bool.false_eq_true, if_false, Session.tabulated]
      split <;> rfl

/-! ### Strictness -/

section Strict

variable (halike : EnvFile.AlikeBut "WORLD_STRICT" s.environment s'.environment)
include halike

theorem fallbackDirectory_congr (hhome : s'.home? = s.home?) :
    Settings.fallbackDirectory s' = Settings.fallbackDirectory s := by
  simp only [Settings.fallbackDirectory, Settings.home?, Settings.userDirectory, hhome,
    halike "HOME" (by decide), halike "XDG_DATA_HOME" (by decide)]

/-- What is found, and where the tables go, does not depend on the variable. -/
theorem sourceOn_of_alike {c' : Command} (hhome : s'.home? = s.home?)
    (hwhere : c'.whereabouts = c.whereabouts) (w : Workspace) :
    c'.sourceOn s' w = c.sourceOn s w ∧ c'.directoryOn s' w = c.directoryOn s w := by
  have hfallback := fallbackDirectory_congr halike hhome
  have hdirectory : (c'.settings s'.environment).directory?
      = (c.settings s.environment).directory? := by
    rw [Command.directory?_settings, Command.directory?_settings, hwhere, Settings.ofEnvironment,
      Settings.ofEnvironment, halike "WORLD_DATA_DIR" (by decide)]
  have hcatalog : (c'.settings s'.environment).catalog?
      = (c.settings s.environment).catalog? := by
    rw [Command.catalog?_settings, Command.catalog?_settings, hwhere, Settings.ofEnvironment,
      Settings.ofEnvironment, halike "WORLD_CONTENT_FILE" (by decide)]
  exact ⟨Settings.sourceOn_congr hdirectory hcatalog hfallback w,
    Settings.directoryOn_congr hdirectory hfallback w⟩

end Strict

/-- **Whether `generate` is strict** makes no difference, and neither does the variable, where
the environments that are left are alike but for it. -/
theorem runOn_generate_congr {whereabouts : Whereabouts} {strict strict' dryRun : Bool}
    (hparse : Arguments.parse args = .ok (.perform (.generate whereabouts strict dryRun)))
    (hparse' : Arguments.parse args' = .ok (.perform (.generate whereabouts strict' dryRun)))
    (halike : EnvFile.AlikeBut "WORLD_STRICT" (s.on w).environment (s'.on w).environment)
    (hhome : s'.home? = s.home?) : runOn s' args' w = runOn s args w := by
  have hforced : Style.isForced (s'.on w).environment = Style.isForced (s.on w).environment := by
    rw [Style.isForced, Style.isForced, halike "CLICOLOR_FORCE" (by decide)]
  have hfilter : LogFilter.ofEnvironment (s'.on w).environment
      = LogFilter.ofEnvironment (s.on w).environment := by
    rw [LogFilter.ofEnvironment, LogFilter.ofEnvironment, halike "RUST_LOG" (by decide)]
  have hwhere : (Command.generate whereabouts strict' dryRun).whereabouts
      = (Command.generate whereabouts strict dryRun).whereabouts := rfl
  have hhome : (s'.on w).home? = (s.on w).home? := by
    rw [Surroundings.home?_on, Surroundings.home?_on, hhome]
  obtain ⟨hsame, hdirectory⟩ := sourceOn_of_alike halike hhome hwhere w
  have hsession : Session.run { workspace := w }
        ((Command.generate whereabouts strict' dryRun).perform (s'.on w))
      = Session.run { workspace := w }
        ((Command.generate whereabouts strict dryRun).perform (s.on w)) := by
    cases hsource : ((Command.generate whereabouts strict dryRun).sourceOn (s.on w) w).1 with
    | error f =>
        have hsource' : ((Command.generate whereabouts strict' dryRun).sourceOn (s'.on w) w).1
            = .error f := by rw [hsame, hsource]
        have hsecond := Session.run_perform_of_error { workspace := w } hsource'
        rw [Session.run_perform_of_error { workspace := w } hsource, hsecond]
        exact congrArg (fun x => (Except.error f, Session.log _ x.2)) hsame
    | ok source =>
        have hsource' : ((Command.generate whereabouts strict' dryRun).sourceOn (s'.on w) w).1
            = .ok source := by rw [hsame, hsource]
        have hsecond := Session.run_generate_of_ok { workspace := w } hsource'
        simp only [hsame, hdirectory, hforced] at hsecond
        rw [Session.run_generate_of_ok { workspace := w } hsource, hsecond]
  rw [runOn_perform hparse, runOn_perform hparse', hsession, Session.outcome, Session.outcome,
    hfilter]

/-! ### All commands -/

/-- **The commands agree.**  On the same options `check`, `stats` and a dry run of `generate`
find the same and end with the same code.  Where they find a world, the figures that `generate`
prints are those of `stats`, its items being the pool.  And `generate` does the same, strict or
not, unless the environment file passes on the variable that says so. -/
theorem commands_agree (s : Surroundings) (w : Workspace) :
    (∀ flags, "--strict" ∉ flags →
      Agree s w ("check" :: flags) ("stats" :: flags)
        ∧ Agree s w ("check" :: flags) ("generate" :: "--dry-run" :: flags))
    ∧ (∀ args args' whereabouts strict dryRun source,
      Arguments.parse args = .ok (.perform (.stats whereabouts)) →
      Arguments.parse args' = .ok (.perform (.generate whereabouts strict dryRun)) →
      selection s args w = some (.ok source) →
      ∃ pool items locations categories options : Nat,
        let coloured := Style.isForced (s.on w).environment
        [Summary.size coloured "items" items, Summary.size coloured "locations" locations,
            Summary.size coloured "categories" categories, Summary.size coloured "options" options,
            Summary.size coloured "item pool" pool] <+: (runOn s args w).1.output.tail
          ∧ (runOn s args' w).1.output.head?
            = some (Style.paint coloured [.green, .bold] "Compiled" ++ " "
              ++ Text.decimal pool ++ " items, " ++ Text.decimal locations ++ " locations, "
              ++ Text.decimal categories ++ " categories, " ++ Text.decimal options
              ++ " options"))
    ∧ ∀ s' args args' whereabouts strict strict' dryRun, s'.home? = s.home? →
      EnvFile.AlikeBut "WORLD_STRICT" s.environment s'.environment →
      (∀ text, EnvFile.textOn? w = some text →
        ¬EnvFile.reference "WORLD_STRICT" <:+: text.toList) →
      Arguments.parse args = .ok (.perform (.generate whereabouts strict dryRun)) →
      Arguments.parse args' = .ok (.perform (.generate whereabouts strict' dryRun)) →
      runOn s' args' w = runOn s args w := by
  refine ⟨fun flags hstrict => agree_of_options s w hstrict, ?_, ?_⟩
  · intro args args' whereabouts strict dryRun source hparse hparse' hselection
    have hsource : ((Command.stats whereabouts).sourceOn (s.on w) w).1 = .ok source := by
      rw [selection, hparse] at hselection
      exact Option.some.inj hselection
    have hsource' : ((Command.generate whereabouts strict dryRun).sourceOn (s.on w) w).1
        = .ok source := by
      have hwhere : (Command.generate whereabouts strict dryRun).whereabouts
          = (Command.stats whereabouts).whereabouts := rfl
      rw [Command.sourceOn_congr hwhere, hsource]
    refine ⟨source.world.itemCount, source.world.items.size, source.world.locations.size,
      source.world.categories.size, source.world.options.size, ?_, ?_⟩
    · rw [output_stats hparse hsource]
      exact ⟨_, rfl⟩
    · rw [head?_output_generate hparse' hsource']
      rfl
  · intro s' args args' whereabouts strict strict' dryRun hhome halike hspared hparse hparse'
    have hname : ∃ c ∈ "WORLD_STRICT".toList, Text.isAlphanumeric c = false :=
      ⟨'_', by decide, by decide⟩
    have hon : EnvFile.AlikeBut "WORLD_STRICT" (s.on w).environment (s'.on w).environment := by
      rw [Surroundings.environment_on, Surroundings.environment_on]
      exact halike.environmentOn hname hspared
    exact runOn_generate_congr hparse hparse' hon hhome

/-- Environments with one variable each are alike but for it. -/
theorem alikeBut_ofList (name value value' : String) :
    EnvFile.AlikeBut name (Table.ofList [(name, value)]) (Table.ofList [(name, value')]) := by
  intro other hother
  show (Table.set ∅ name value).get? other = (Table.set ∅ name value').get? other
  rw [Table.get?_set, Table.get?_set, if_neg hother, if_neg hother]

/-- A catalog where the environment file says. -/
def quay : Workspace where
  disk := ⟨Table.ofList [
    ([".env"], .file "WORLD_DATA_DIR=data\nWORLD_STRICT=on\n"),
    (["data"], .directory),
    (["data", "content.json"], .file "\x7b\"campaigns\": \x7b\"Kai\": \x7b\x7d\x7d\x7d")]⟩

/-- The commands agree on it, and `generate` writes the same whether it is strict or not. -/
theorem commands_agree_on_quay :
    (Agree {} quay ["check"] ["stats"] ∧ Agree {} quay ["check"] ["generate", "--dry-run"])
      ∧ (∃ source, selection {} ["stats"] quay = some (.ok source)
        ∧ ∃ pool items locations categories options : Nat,
          [Summary.size false "items" items, Summary.size false "locations" locations,
              Summary.size false "categories" categories, Summary.size false "options" options,
              Summary.size false "item pool" pool] <+: (runOn {} ["stats"] quay).1.output.tail
            ∧ (runOn {} ["generate", "--strict"] quay).1.output.head?
              = some ("Compiled " ++ Text.decimal pool ++ " items, " ++ Text.decimal locations
                ++ " locations, " ++ Text.decimal categories ++ " categories, "
                ++ Text.decimal options ++ " options"))
      ∧ runOn { environment := Table.ofList [("WORLD_STRICT", "off")] } ["generate"] quay
        = runOn { environment := Table.ofList [("WORLD_STRICT", "maybe")] } ["generate", "--strict"]
          quay := by
  obtain ⟨hagree, hfigures, -⟩ := commands_agree {} quay
  obtain ⟨-, -, hstrict⟩ := commands_agree
    { environment := Table.ofList [("WORLD_STRICT", "maybe")] } quay
  have hstrictly : Arguments.parse ["generate", "--strict"]
      = .ok (.perform (.generate {} true false)) := rfl
  refine ⟨hagree [] (by decide), ?_, ?_⟩
  · have hfound : ((selection {} ["stats"] quay).bind Except.toOption).isSome = true := by
      decide +kernel
    have hcoloured : Style.isForced (Surroundings.on {} quay).environment = false := by
      decide +kernel
    cases hselection : selection {} ["stats"] quay with
    | none => simp [hselection] at hfound
    | some result =>
        cases result with
        | error f => simp [hselection, Except.toOption] at hfound
        | ok source =>
            have hstats : Arguments.parse ["stats"] = .ok (.perform (.stats {})) := rfl
            have hnumbers := hfigures _ _ _ _ _ _ hstats hstrictly hselection
            rw [hcoloured] at hnumbers
            exact ⟨source, rfl, hnumbers⟩
  · have hgenerate : Arguments.parse ["generate"] = .ok (.perform (.generate {} false false)) := rfl
    refine hstrict _ _ _ _ _ _ _ rfl (alikeBut_ofList _ _ _) ?_ hstrictly hgenerate
    have htext : EnvFile.textOn? quay = some "WORLD_DATA_DIR=data\nWORLD_STRICT=on\n" := by
      decide +kernel
    intro text hsome
    obtain rfl := Option.some.inj (htext.symm.trans hsome)
    decide +kernel

/-- The environment file makes the variable say where the tables are. -/
def passing : Workspace where
  disk := ⟨Table.ofList [
    ([".env"], .file "WORLD_DATA_DIR=$\x7bWORLD_STRICT\x7d\n"),
    (["on"], .directory),
    (["on", "content.json"], .file "\x7b\x7d")]⟩

/-- A run that succeeds while the variable says yes may fail when it says no. -/
theorem exists_strict_matters :
    ¬∀ (s s' : Surroundings) (flags : List String) (w : Workspace), s'.home? = s.home? →
      EnvFile.AlikeBut "WORLD_STRICT" s.environment s'.environment →
      (runOn s' ("generate" :: flags) w).1.ending.code
        = (runOn s ("generate" :: flags) w).1.ending.code := by
  intro h
  have hcode := h { environment := Table.ofList [("WORLD_STRICT", "on")] }
    { environment := Table.ofList [("WORLD_STRICT", "off")] } [] passing rfl
    (alikeBut_ofList _ _ _)
  exact absurd hcode (by decide +kernel)

end Program

end Worldsmith
