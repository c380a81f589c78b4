/-
Which files a run may change.

A command that only looks leaves everything as it was, however it ends.  `generate` that
succeeds leaves the four tables of the world that it found, each under its own name in the
directory of the settings, and no file anywhere else has changed (`run_confined`).  What it
found was read before anything was written, so this holds as well of a catalog that is itself
in the place of a table and is replaced by it.
-/
import Worldsmith.Proofs.Command.Agreement
import Worldsmith.Proofs.Command.Repetition

namespace Worldsmith

/-- The tables of a world stand in a directory, each just as its document is written, and no
file has come, gone or changed in any other place. -/
structure Workspace.Tabulates (w w' : Workspace) (directory : Path) (world : World) : Prop where
  tables : ∀ a ∈ world.artifacts,
    w'.disk.read? w.here (directory.join ⟨a.fileName⟩) = some a.text
  others : ∀ p,
    (∀ name ∈ World.fileNames, w'.disk.locate? w.here (directory.join ⟨name⟩) ≠ some p) →
    w'.disk.file? p = w.disk.file? p

/-- Writing all tables of a world does this. -/
theorem Workspace.Leaves.tabulates {w w' : Workspace} {directory : Path} {place : Place}
    {world : World}
    (h : w.Leaves w'.disk directory place (world.artifacts.map Copy.whole)) :
    w.Tabulates w' directory world where
  tables := by
    intro a ha
    have hwhole : Copy.whole a ∈ world.artifacts.map Copy.whole := List.mem_map_of_mem ha
    have htable := Program.read?_copy_of_leaves h hwhole ((distinct_artifacts world).names a ha)
    exact htable
  others := by
    intro p hp
    refine h.receives.kept p fun f hf heq => ?_
    obtain ⟨c, hc, rfl⟩ := List.mem_map.mp hf
    obtain ⟨a, ha, rfl⟩ := List.mem_map.mp hc
    have hname : a.fileName ∈ World.fileNames := by
      rw [← world.map_fileName_artifacts]
      exact List.mem_map_of_mem ha
    refine hp a.fileName hname ?_
    rw [Disk.locate?_join _ _ _ ((distinct_artifacts world).names a ha),
      h.place (List.ne_nil_of_mem hc), heq]
    rfl

namespace Program

variable {s : Surroundings} {args flags : List String} {w w' : Workspace} {outcome : Outcome}
  {c : Command}

/-! ### Runs that only look -/

/-- A command that only looks leaves everything as it was, however it ends. -/
theorem workspace_of_onlyLooks (hparse : Arguments.parse args = .ok (.perform c))
    (hlooks : c.OnlyLooks) : (runOn s args w).2 = w := by
  rw [runOn_perform hparse]
  cases hsource : (c.sourceOn (s.on w) w).1 with
  | error f =>
      have hsession := Session.run_perform_of_error { workspace := w } hsource
      rw [hsession]
      rfl
  | ok source =>
      cases c with
      | check whereabouts =>
          have hsession := Session.run_check { workspace := w } hsource
          rw [hsession]
          rfl
      | stats whereabouts =>
          have hsession := Session.run_stats { workspace := w } hsource
          rw [hsession]
          rfl
      | generate whereabouts strict dryRun =>
          obtain rfl : dryRun = true := hlooks
          have hsession := Session.run_generate_of_ok { workspace := w } hsource
          rw [hsession]
          rfl

/-- So does a run that performs no other command. -/
theorem workspace_of_forall_onlyLooks
    (h : ∀ c, Arguments.parse args = .ok (.perform c) → c.OnlyLooks) : (runOn s args w).2 = w := by
  by_cases hperform : ∃ c, Arguments.parse args = .ok (.perform c)
  · obtain ⟨c, hparse⟩ := hperform
    exact workspace_of_onlyLooks hparse (h c hparse)
  · rw [runOn_of_not_perform (not_exists.mp hperform)]

/-! ### Runs that write -/

theorem parse_of_success (hrun : runOn s ("generate" :: flags) w = (outcome, w'))
    (hcode : outcome.ending.code = 0) :
    Arguments.parse ("generate" :: flags) = .ok .showHelp
      ∨ ∃ c, Arguments.parse ("generate" :: flags) = .ok (.perform c) := by
  cases hparse : Arguments.parse ("generate" :: flags) with
  | error e =>
      rw [runOn_of_not_perform (by simp [hparse]), hparse] at hrun
      rw [← (Prod.mk.inj hrun).1] at hcode
      cases hcode
  | ok request =>
      cases request with
      | perform c => exact .inr ⟨c, rfl⟩
      | showHelp => exact .inl rfl
      | showVersion => exact absurd hparse (Arguments.options_ne_showVersion _ _ _)

/-- A `generate` that succeeds has found a world, and leaves its tables. -/
theorem tabulates_of_generate (hdry : "--dry-run" ∉ flags)
    (hparse : Arguments.parse ("generate" :: flags) = .ok (.perform c))
    (hrun : runOn s ("generate" :: flags) w = (outcome, w')) (hcode : outcome.ending.code = 0) :
    ∃ source, (c.sourceOn (s.on w) w).1 = .ok source
      ∧ w.Tabulates w' (c.directoryOn (s.on w) w) source.world := by
  cases hsource : (c.sourceOn (s.on w) w).1 with
  | error f =>
      have hsession := Session.run_perform_of_error { workspace := w } hsource
      rw [runOn_perform hparse, hsession] at hrun
      rw [← (Prod.mk.inj hrun).1] at hcode
      cases hcode
  | ok source =>
      obtain ⟨disk, place, copies, rfl, -, hleaves, hall⟩ :=
        exists_leaves_of_generate hparse hsource hrun
      obtain ⟨o, rfl, hflag⟩ := Arguments.dryRun_of_options hparse
      have hwet : o.dryRun = false := by simp [hflag, hdry]
      obtain rfl := hall _ _ (by rw [Arguments.Options.command, hwet]) hcode
      exact ⟨source, rfl, hleaves.tabulates⟩

/-! ### All runs -/

/-- **What a run may change.**  `check`, `stats` and a dry run change nothing, whatever comes of
them.  A `generate` that ends with code 0 was only asked for help, or it leaves the tables of
the catalog that was there before, and they are all that it changed. -/
theorem run_confined (s : Surroundings) (flags : List String) (w : Workspace) :
    (runOn s ("check" :: flags) w).2 = w
      ∧ (runOn s ("stats" :: flags) w).2 = w
      ∧ ("--dry-run" ∈ flags → (runOn s ("generate" :: flags) w).2 = w)
      ∧ ∀ outcome w', "--dry-run" ∉ flags → runOn s ("generate" :: flags) w = (outcome, w') →
        outcome.ending.code = 0 →
        (Arguments.parse ("generate" :: flags) = .ok .showHelp ∧ w' = w)
          ∨ ∃ (c : Command) (source : Source),
            Arguments.parse ("generate" :: flags) = .ok (.perform c)
            ∧ (c.sourceOn (s.on w) w).1 = .ok source
            ∧ Catalog.loadOn source.path w = .ok source.catalog
            ∧ source.catalog.compile.1 = .ok source.world
            ∧ w.Tabulates w' (c.directoryOn (s.on w) w) source.world := by
  refine ⟨?_, ?_, fun hdry => ?_, fun outcome w' hdry hrun hcode => ?_⟩
  · refine workspace_of_forall_onlyLooks fun c hparse => ?_
    obtain ⟨o, rfl, -⟩ := Arguments.dryRun_of_options hparse
    exact trivial
  · refine workspace_of_forall_onlyLooks fun c hparse => ?_
    obtain ⟨o, rfl, -⟩ := Arguments.dryRun_of_options hparse
    exact trivial
  · refine workspace_of_forall_onlyLooks fun c hparse => ?_
    obtain ⟨o, rfl, hflag⟩ := Arguments.dryRun_of_options hparse
    exact hflag.trans (by simp [hdry])
  · rcases parse_of_success hrun hcode with hhelp | ⟨c, hparse⟩
    · have hsame := congrArg Prod.snd hrun
      rw [runOn_of_not_perform (by simp [hhelp])] at hsame
      exact .inl ⟨hhelp, hsame.symm⟩
    · obtain ⟨source, hsource, htabulates⟩ := tabulates_of_generate hdry hparse hrun hcode
      obtain ⟨-, hload, hcompile⟩ := Settings.of_sourceOn_eq_ok hsource
      exact .inr ⟨c, source, hparse, hsource, hload, hcompile, htabulates⟩

/-- A catalog in the place of the items, a table of old, and a file that is neither. -/
def cellar : Workspace where
  disk := ⟨Table.ofList [
    (["data"], .directory),
    (["data", "items.json"], .file "\x7b\"cards\": \x7b\"Ace\": \x7b\"count\": 4\x7d\x7d\x7d"),
    (["data", "locations.json"], .file "[]"),
    (["data", "notes.txt"], .file "items.json is written by hand")]⟩

/-- The catalog is replaced by the items that it says there are, and the notes are kept. -/
theorem run_confined_to_cellar :
    let flags := ["--data-dir", "data", "--content=items.json"]
    let run := runOn {} ("generate" :: flags) cellar
    (runOn {} ("generate" :: "--dry-run" :: flags) cellar).2 = cellar
      ∧ "--dry-run" ∉ flags ∧ run.1.ending.code = 0
      ∧ ∃ (c : Command) (source : Source),
        Arguments.parse ("generate" :: flags) = .ok (.perform c)
        ∧ Catalog.loadOn source.path cellar = .ok source.catalog
        ∧ cellar.Tabulates run.2 (c.directoryOn (Surroundings.on {} cellar) cellar)
          source.world := by
  intro flags run
  have hdry : "--dry-run" ∉ flags := by decide
  have hcode : run.1.ending.code = 0 := by decide +kernel
  have hhelp : Arguments.parse ("generate" :: flags) ≠ .ok .showHelp := by decide +kernel
  obtain ⟨-, -, hlooks, -⟩ := run_confined {} ("--dry-run" :: flags) cellar
  obtain ⟨-, -, -, hwrites⟩ := run_confined {} flags cellar
  refine ⟨hlooks List.mem_cons_self, hdry, hcode, ?_⟩
  rcases hwrites run.1 run.2 hdry (Prod.eta run).symm hcode with ⟨hparse, -⟩ | ⟨c, source, hfound⟩
  · exact absurd hparse hhelp
  · obtain ⟨hparse, -, hload, -, htabulates⟩ := hfound
    exact ⟨c, source, hparse, hload, htabulates⟩

end Program

end Worldsmith
