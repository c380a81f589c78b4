/-
Running `generate` again.

The catalog and the tables may stand in one directory, and the tables have their names there.
A catalog of another name is not touched, and neither is the environment file, so a second run
finds what the first one found.  The one thing that a first run may change for it is that the
directory in the project comes into being; but a catalog that was found then is given by an
absolute path, and is found by it again (`sourceOn_again`).

Both runs are on one system, which stores the same when it is asked to store the same in the same
place.  What the second run writes is then what is there already, so nothing changes by it
(`generate_keeps_source`).  A catalog that bears the name of a table is another matter: it is
replaced by that table.
-/
import Worldsmith.Proofs.Command.Generating

namespace Worldsmith

/-! ### What a second run sees -/

section Changed

variable {s : Surroundings} {w w' : Workspace} {place : Place} {files : List (String × String)}

/-- The surroundings are those of before. -/
theorem Surroundings.on_of_receives (h : w.disk.Receives w'.disk place files)
    (hhere : w'.here = w.here) (hw : w.IsGrounded)
    (hnames : ∀ f ∈ files, f.1 ∈ World.fileNames) : s.on w' = s.on w := by
  have henv : ".env" ∉ World.fileNames := by decide
  have htext := EnvFile.textOn?_of_receives h hhere
    (fun f hf heq => henv (heq ▸ hnames f hf)) hw
  rw [on, on, EnvFile.environmentOn, EnvFile.environmentOn, htext]

theorem Catalog.loadOn_congr {path : Path} (hhere : w'.here = w.here)
    (h : w'.disk.read? w.here path = w.disk.read? w.here path) :
    loadOn path w' = loadOn path w := by
  rw [loadOn, loadOn, hhere, h]

/-- A catalog of a usual name is looked for with the same success. -/
theorem Settings.find?_again {directory : Path} (h : w.disk.Receives w'.disk place files)
    (hhere : w'.here = w.here) (hnames : ∀ f ∈ files, f.1 ∈ World.fileNames)
    (hat : ∃ place', w.disk.directoryAt? w.here directory = some place') :
    (Catalog.defaultFiles.map directory.join).find? (w'.disk.isFile w'.here)
      = (Catalog.defaultFiles.map directory.join).find? (w.disk.isFile w.here) := by
  obtain ⟨place', hat⟩ := hat
  have husual : ∀ p ∈ Catalog.defaultFiles, Path.IsName p.text ∧ p.text ∉ World.fileNames := by
    decide
  have hfile : ∀ p ∈ Catalog.defaultFiles.map directory.join,
      w'.disk.isFile w'.here p = w.disk.isFile w.here p := by
    intro p hp
    obtain ⟨name, hname, rfl⟩ := List.mem_map.mp hp
    obtain ⟨hpiece, hother⟩ := husual name hname
    have hread := h.read?_join_kept hpiece hat fun f hf heq => hother (heq ▸ hnames f hf)
    rw [hhere, Disk.isFile_eq, Disk.isFile_eq, hread]
  exact List.find?_congr hfile

theorem Catalog.exists_read_of_load {path : Path} {catalog : Catalog}
    (h : loadOn path w = .ok catalog) : ∃ q, w.disk.locate? w.here path = some q := by
  rw [loadOn] at h
  split at h
  · cases h
  · split at h
    · cases h
    · rename_i text hread
      rw [Disk.read?_eq] at hread
      obtain ⟨q, hlocate, -⟩ := Option.bind_eq_some_iff.mp hread
      exact ⟨q, hlocate⟩

/-- A catalog that is not given by an absolute path is in a directory that is there. -/
theorem Settings.exists_directoryAt {settings : Settings} {source : Source}
    (h : (settings.sourceOn s w).1 = .ok source)
    (hcatalog : ∀ p, settings.catalog? = some p → p.isAbsolute = false) :
    ∃ place, w.disk.directoryAt? w.here (settings.directoryOn s w) = some place := by
  obtain ⟨hpath, hload, -⟩ := of_sourceOn_eq_ok h
  obtain ⟨q, hlocate⟩ := Catalog.exists_read_of_load hload
  rw [catalogOn?] at hpath
  cases hgiven : settings.catalog? with
  | some p =>
      rw [hgiven] at hpath
      rw [← Option.some.inj hpath] at hlocate
      exact Disk.directoryAt?_of_locate?_join (hcatalog p hgiven) hlocate
  | none =>
      rw [hgiven] at hpath
      obtain ⟨name, hname, hjoin⟩ := List.mem_map.mp (List.mem_of_find?_eq_some hpath)
      have hrelative : ∀ p ∈ Catalog.defaultFiles, p.isAbsolute = false := by decide
      rw [← hjoin] at hlocate
      exact Disk.directoryAt?_of_locate?_join (hrelative name hname) hlocate

/-- **The source is found again** after files of the names of tables were written.  A directory
may come into being by it only where there was none for the tables. -/
theorem Settings.sourceOn_again {settings : Settings} {source : Source}
    (hsource : (settings.sourceOn s w).1 = .ok source)
    (h : w.disk.Receives w'.disk place files) (hhere : w'.here = w.here)
    (hnames : ∀ f ∈ files, f.1 ∈ World.fileNames)
    (hdirectories : ∀ place, w.disk.directoryAt? w.here (settings.directoryOn s w) = some place →
      ∀ p, w'.disk.isDirectory w.here p = w.disk.isDirectory w.here p)
    (hread : w'.disk.read? w.here source.path = w.disk.read? w.here source.path) :
    settings.sourceOn s w' = settings.sourceOn s w := by
  obtain ⟨hpath, hload, hcompile⟩ := of_sourceOn_eq_ok hsource
  have hload' : Catalog.loadOn source.path w' = .ok source.catalog := by
    rw [Catalog.loadOn_congr hhere hread, hload]
  have hpath' : settings.catalogOn? (settings.directoryOn s w') w' = some source.path := by
    by_cases habsolute : ∃ p, settings.catalog? = some p ∧ p.isAbsolute = true
    · obtain ⟨p, hgiven, hp⟩ := habsolute
      rw [catalogOn?, hgiven] at hpath ⊢
      simpa [Path.join, hp] using hpath
    · have hthere := exists_directoryAt hsource fun p hp =>
        Bool.eq_false_iff.mpr fun htrue => habsolute ⟨p, hp, htrue⟩
      obtain ⟨place', hat⟩ := hthere
      have hdirectory : settings.directoryOn s w' = settings.directoryOn s w := by
        rw [directoryOn, directoryOn, hhere, hdirectories place' hat]
      rw [hdirectory, ← hpath, catalogOn?, catalogOn?]
      cases settings.catalog? with
      | some p => rfl
      | none => exact find?_again h hhere hnames ⟨place', hat⟩
  rw [sourceOn_of_eq hpath' hload' hcompile, sourceOn_of_eq hpath hload hcompile]

end Changed

/-! ### Second runs -/

namespace Program

variable {s : Surroundings} {w w' w'' : Workspace} {outcome outcome' : Outcome} {c : Command}
  {flags : List String} {source : Source} {place : Place} {copies : List Copy}

theorem fileName_mem_of_artifacts (hcopies : ∀ c ∈ copies, c.document ∈ source.world.artifacts) :
    ∀ f ∈ copies.map Copy.file, f.1 ∈ World.fileNames := by
  intro f hf
  obtain ⟨c, hc, rfl⟩ := List.mem_map.mp hf
  rw [← source.world.map_fileName_artifacts]
  exact List.mem_map_of_mem (hcopies c hc)

/-- A catalog in another place than the tables reads as before. -/
theorem read?_of_leaves {directory path : Path}
    (hcopies : ∀ c ∈ copies, c.document ∈ source.world.artifacts)
    {disk : Disk} (hleaves : w.Leaves disk directory place copies) {q : Place}
    (hlocate : w.disk.locate? w.here path = some q)
    (hother : ∀ name ∈ World.fileNames,
      disk.locate? w.here path ≠ disk.locate? w.here (directory.join ⟨name⟩)) :
    disk.read? w.here path = w.disk.read? w.here path := by
  refine hleaves.receives.read?_kept hlocate fun f hf heq => ?_
  have hname := fileName_mem_of_artifacts hcopies f hf
  have hpiece : ∀ name ∈ World.fileNames, Path.IsName name := by decide
  have hat := hleaves.place fun hnil => by simp [hnil] at hf
  refine hother f.1 hname ?_
  rw [Disk.locate?_mono hleaves.receives.directories hlocate,
    Disk.locate?_join _ _ _ (hpiece _ hname), hat, heq]
  rfl

/-- A document that was written reads as the system stored it. -/
theorem read?_copy_of_leaves {disk : Disk} {directory : Path}
    (hleaves : w.Leaves disk directory place copies) {c : Copy} (hc : c ∈ copies)
    (hname : Path.IsName c.document.fileName) :
    disk.read? w.here (directory.join ⟨c.document.fileName⟩) = some c.text := by
  rw [Disk.read?_eq, Disk.locate?_join _ _ _ hname, hleaves.place (List.ne_nil_of_mem hc)]
  exact hleaves.receives.written _ (List.mem_map_of_mem hc)

/-- It still does after the same documents were written, wherever that was: in the same place the
system stores the same. -/
theorem read?_copy_again {disk disk' : Disk} {directory directory' : Path} {place' : Place}
    {copies' : List Copy} {as : List Artifact} (hdistinct : Workspace.Distinct as)
    (hleaves : w.Leaves disk directory place copies)
    (hcopies : ∀ c ∈ copies, c.document ∈ as)
    (hleaves' : { w with disk }.Leaves disk' directory' place' copies')
    (hcopies' : ∀ c ∈ copies', c.document ∈ as) {c : Copy} (hc : c ∈ copies) :
    disk'.read? w.here (directory.join ⟨c.document.fileName⟩) = some c.text := by
  have hat := hleaves.place (List.ne_nil_of_mem hc)
  have hat' := Disk.directoryAt?_mono hleaves'.receives.directories hat
  rw [Disk.read?_eq, Disk.locate?_join _ _ _ (hdistinct.names _ (hcopies c hc)), hat']
  show disk'.file? (place ++ [c.document.fileName]) = some c.text
  by_cases hagain : ∃ c' ∈ copies',
      place ++ [c.document.fileName] = place' ++ [c'.document.fileName]
  · obtain ⟨c', hc', heq⟩ := hagain
    obtain ⟨rfl, hname⟩ := List.append_inj' heq rfl
    have hdocument : c.document = c'.document :=
      List.inj_on_of_nodup_map hdistinct.distinct (hcopies c hc) (hcopies' c' hc')
        (List.singleton_inj.mp hname)
    have hstored := hleaves'.stored c' hc'
    rw [← hdocument] at hstored
    have htext : c.text = c'.text := Option.some.inj ((hleaves.stored c hc).symm.trans hstored)
    rw [heq, htext]
    exact hleaves'.receives.written _ (List.mem_map_of_mem hc')
  · rw [hleaves'.receives.kept _ fun f hf heq => ?_]
    · exact hleaves.receives.written _ (List.mem_map_of_mem hc)
    · obtain ⟨c', hc', rfl⟩ := List.mem_map.mp hf
      exact hagain ⟨c', hc', heq⟩

/-- Where the tables of a second run go to the same directory, it ends as the first did and
changes nothing. -/
theorem runOn_generate_again (hw : w.IsGrounded)
    (hparse : Arguments.parse ("generate" :: flags) = .ok (.perform c))
    (hsource : (c.sourceOn (s.on w) w).1 = .ok source)
    (hrun : runOn s ("generate" :: flags) w = (outcome, w')) (hon : s.on w' = s.on w)
    (hsame : c.sourceOn (s.on w) w' = c.sourceOn (s.on w) w)
    (hdirectory : c.directoryOn (s.on w) w' = c.directoryOn (s.on w) w) :
    runOn s ("generate" :: flags) w' = (outcome, w') := by
  obtain ⟨whereabouts, strict, dryRun, rfl⟩ := Arguments.generate_of_parse hparse
  have hworkspace := (runOn_generate_of_ok hparse hsource).1
  rw [hrun] at hworkspace
  cases dryRun with
  | true =>
      obtain rfl : w' = w := hworkspace
      exact hrun
  | false =>
      have hfirst := Session.run_generate_of_ok { workspace := w } hsource
      have hsecond := Session.run_generate_of_ok { workspace := w' } (s := s.on w)
        (hsame ▸ hsource)
      simp only [Bool.false_eq_true, if_false] at hworkspace hfirst hsecond
      have hpublish :
          w'.publish ((Command.generate whereabouts strict false).directoryOn (s.on w) w)
              source.world.artifacts
            = w.publish ((Command.generate whereabouts strict false).directoryOn (s.on w) w)
              source.world.artifacts := by
        rw [hworkspace]
        exact Workspace.publish_again (Workspace.distinct_artifacts _) hw.tree hw.here
      rw [hsame, hdirectory, hpublish] at hsecond
      rw [← hrun, runOn_perform hparse, runOn_perform hparse, hon, hfirst, hsecond, hworkspace]
      -- what is said of the tables does not depend on what the disk was
      rfl

/-- **`generate` keeps the catalog** that it compiled, where that is not in the place of one of
the tables, and so it can be run again.  The second run finds the same catalog and the same
world, and the tables of the first are there after it.  Nothing at all is changed by it when it
puts its tables into the same directory. -/
theorem generate_keeps_source (hw : w.IsGrounded)
    (hparse : Arguments.parse ("generate" :: flags) = .ok (.perform c))
    (hsource : (c.sourceOn (s.on w) w).1 = .ok source)
    (hrun : runOn s ("generate" :: flags) w = (outcome, w'))
    (hagain : runOn s ("generate" :: flags) w' = (outcome', w''))
    (hother : ∀ name ∈ World.fileNames, w'.disk.locate? w.here source.path
      ≠ w'.disk.locate? w.here ((c.directoryOn (s.on w) w).join ⟨name⟩)) :
    w'.disk.read? w.here source.path = w.disk.read? w.here source.path
      ∧ (c.sourceOn (s.on w') w').1 = .ok source
      ∧ (∀ whereabouts strict, c = .generate whereabouts strict false → outcome.ending.code = 0 →
        ∀ a ∈ source.world.artifacts,
          w'.disk.read? w.here ((c.directoryOn (s.on w) w).join ⟨a.fileName⟩) = some a.text
            ∧ w''.disk.read? w.here ((c.directoryOn (s.on w) w).join ⟨a.fileName⟩) = some a.text)
      ∧ (c.directoryOn (s.on w') w' = c.directoryOn (s.on w) w →
        outcome' = outcome ∧ w'' = w') := by
  obtain ⟨disk, place, copies, rfl, hcopies, hleaves, hall⟩ :=
    exists_leaves_of_generate hparse hsource hrun
  have hnames := fileName_mem_of_artifacts hcopies
  obtain ⟨q, hlocate⟩ := Catalog.exists_read_of_load (Settings.of_sourceOn_eq_ok hsource).2.1
  have hread := read?_of_leaves hcopies hleaves hlocate hother
  have hon : s.on { w with disk } = s.on w :=
    Surroundings.on_of_receives hleaves.receives rfl hw hnames
  have hsame : c.sourceOn (s.on w) { w with disk } = c.sourceOn (s.on w) w :=
    Settings.sourceOn_again hsource hleaves.receives rfl hnames hleaves.directories hread
  have hsource' : (c.sourceOn (s.on { w with disk }) { w with disk }).1 = .ok source := by
    rw [hon, hsame, hsource]
  refine ⟨hread, hsource', fun whereabouts strict hc hcode a ha => ?_, fun hdirectory => ?_⟩
  · have hdistinct := Workspace.distinct_artifacts source.world
    have hwhole : Copy.whole a ∈ copies := by
      rw [hall whereabouts strict hc hcode]
      exact List.mem_map_of_mem ha
    obtain ⟨disk', place', copies', rfl, hcopies', hleaves', -⟩ :=
      exists_leaves_of_generate hparse hsource' hagain
    have hfirst := read?_copy_of_leaves hleaves hwhole (hdistinct.names a ha)
    have hsecond := read?_copy_again hdistinct hleaves hcopies hleaves' hcopies' hwhole
    exact ⟨hfirst, hsecond⟩
  · rw [hon] at hdirectory
    have hsecond := runOn_generate_again hw hparse hsource hrun hon hsame hdirectory
    exact Prod.mk.inj (hagain.symm.trans hsecond)

/-- A catalog that bears the name of a table, in the directory above that of the tables. -/
def neighbours : Workspace where
  disk := ⟨Table.ofList [
    ([".env"], .file "WORLD_DATA_DIR=out\nWORLD_CONTENT_FILE=../items.json\n"),
    (["items.json"], .file "\x7b\"campaigns\": \x7b\"Kai\": \x7b\x7d\x7d\x7d"),
    (["out"], .directory)]⟩

/-- The catalog and the tables are told apart by where they are, and a second run changes
nothing. -/
theorem generate_keeps_neighbours :
    neighbours.IsGrounded
      ∧ ∃ source, ((Command.generate {} false false).sourceOn (Surroundings.on {} neighbours)
          neighbours).1 = .ok source
        ∧ source.path = ⟨"out/../items.json"⟩
        ∧ (runOn {} ["generate"] neighbours).2.disk.read? [] source.path
          = neighbours.disk.read? [] source.path
        ∧ (∀ a ∈ source.world.artifacts,
          (runOn {} ["generate"] (runOn {} ["generate"] neighbours).2).2.disk.read? []
            (Path.join ⟨"out"⟩ ⟨a.fileName⟩) = some a.text)
        ∧ runOn {} ["generate"] (runOn {} ["generate"] neighbours).2
          = runOn {} ["generate"] neighbours := by
  have hw : neighbours.IsGrounded := ⟨by decide +kernel, rfl, by decide⟩
  obtain ⟨source, hsource, hpath⟩ := Command.exists_source (c := .generate {} false false)
    (s := Surroundings.on {} neighbours) (w := neighbours) (p := ⟨"out/../items.json"⟩)
    (by decide +kernel)
  have hdirectory : (Command.generate {} false false).directoryOn
      (Surroundings.on {} neighbours) neighbours = ⟨"out"⟩ := by decide +kernel
  have hparse : Arguments.parse ["generate"] = .ok (.perform (.generate {} false false)) := rfl
  obtain ⟨hread, -, htables, hsame⟩ := generate_keeps_source hw hparse hsource
    (Prod.eta _).symm (Prod.eta _).symm (by rw [hpath]; decide +kernel)
  rw [hdirectory] at htables
  have hsame := hsame (by decide +kernel)
  refine ⟨hw, source, hsource, hpath, hread, fun a ha => ?_, Prod.ext hsame.1 hsame.2⟩
  exact (htables {} false rfl (by decide +kernel) a ha).2

/-- A catalog that bears the name of a table, among the tables. -/
def misnamed : Workspace where
  disk := ⟨Table.ofList [
    (["data"], .directory),
    (["data", "options.json"], .file "\x7b\"campaigns\": \x7b\"Kai\": \x7b\x7d\x7d\x7d")]⟩

/-- It is replaced by that table. -/
theorem exists_source_replaced :
    ¬∀ (s : Surroundings) (flags : List String) (w : Workspace) (c : Command) (source : Source),
      w.IsGrounded → Arguments.parse ("generate" :: flags) = .ok (.perform c) →
      (c.sourceOn (s.on w) w).1 = .ok source →
      (runOn s ("generate" :: flags) w).2.disk.read? w.here source.path
        = w.disk.read? w.here source.path := by
  intro hkept
  have hw : misnamed.IsGrounded := ⟨by decide +kernel, rfl, by decide⟩
  obtain ⟨source, hsource, hpath⟩ := Command.exists_source
    (c := .generate ⟨some ⟨"data"⟩, some ⟨"options.json"⟩⟩ false false)
    (s := Surroundings.on {} misnamed) (w := misnamed) (p := ⟨"data/options.json"⟩)
    (by decide +kernel)
  have hread := hkept {} ["--data-dir", "data", "--content", "options.json"] misnamed _ source
    hw rfl hsource
  rw [hpath] at hread
  exact absurd hread (by decide +kernel)

end Program

end Worldsmith
