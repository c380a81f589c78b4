/-
Looking at files, and writing one.

Most of what the program does with files changes nothing.  Such an action is a function of the
workspace, and `Looks` says of which one.  It is closed under doing one thing after the other,
so it is read off the text of an action.

A file that is written may end up with less than all of its text, or may not be opened at all.
Either way `fill?` says what comes of it, and `fill?_eq_some_iff` says it of a name in a
directory.
-/
import Worldsmith.Proofs.Shell.Disk

namespace Worldsmith

/-! ### Actions that look -/

/-- An action gives an answer that depends on the workspace, which stays as it is. -/
def Looks {α : Type} (x : StateM Workspace α) (answer : Workspace → α) : Prop :=
  ∀ w, x.run w = (answer w, w)

namespace Looks

variable {α β : Type}

/-- What follows goes on with the answer. -/
theorem run_bind {x : StateM Workspace α} {answer : Workspace → α} (h : Looks x answer)
    (f : α → StateM Workspace β) (w : Workspace) : (x >>= f).run w = (f (answer w)).run w := by
  rw [StateT.run_bind, h w]
  rfl

theorem currentDirectory :
    Looks (MonadFiles.currentDirectory : StateM Workspace Path) fun w => .ofPlace w.here :=
  fun _ => rfl

theorem isDirectory (p : Path) :
    Looks (MonadFiles.isDirectory p) fun w => w.disk.isDirectory w.here p :=
  fun _ => rfl

theorem isFile (p : Path) : Looks (MonadFiles.isFile p) fun w => w.disk.isFile w.here p :=
  fun _ => rfl

theorem read? (p : Path) : Looks (MonadFiles.read? p) fun w => w.disk.read? w.here p :=
  fun _ => rfl

/-- Looking for the first that passes a test. -/
theorem findM? {test : α → StateM Workspace Bool} {passes : α → Workspace → Bool}
    (h : ∀ a, Looks (test a) (passes a)) (as : List α) :
    Looks (as.findM? test) fun w => as.find? (passes · w) := by
  induction as with
  | nil => exact fun _ => rfl
  | cons a as ih =>
      intro w
      show StateT.run (test a >>= fun
        | true => pure (some a)
        | false => as.findM? test) w = ((a :: as).find? (passes · w), w)
      rw [(h a).run_bind, List.find?_cons]
      cases passes a w with
      | true => rfl
      | false => exact ih w

end Looks

/-! ### Writing a file -/

namespace Workspace

section Filling

variable {w : Workspace} {directory : Path} {name text left : String} {place : Place}
  {disk : Disk} (hname : Path.IsName name)
include hname

/-- No file is opened where there is no directory for it. -/
theorem fill?_eq_none (hat : w.disk.directoryAt? w.here directory = none) :
    w.fill? (directory.join ⟨name⟩) text = none := by
  rw [fill?, Disk.locate?_join _ _ _ hname, hat]
  rfl

/-- A file that is opened holds what the system stores. -/
theorem fill?_eq_some_iff (hat : w.disk.directoryAt? w.here directory = some place) :
    w.fill? (directory.join ⟨name⟩) text = some (left, disk) ↔
      w.stored? (place ++ [name]) text = some left
        ∧ w.disk.write? w.here (directory.join ⟨name⟩) left = some disk := by
  rw [fill?, Disk.locate?_join _ _ _ hname, hat]
  simp [Option.bind_eq_some_iff]

/-- It is not opened when a directory is in its place, or when the system does not let it be. -/
theorem fill?_eq_none_iff (hat : w.disk.directoryAt? w.here directory = some place) :
    w.fill? (directory.join ⟨name⟩) text = none ↔
      w.disk.node? (place ++ [name]) = some .directory
        ∨ w.stored? (place ++ [name]) text = none := by
  rw [fill?, Disk.locate?_join _ _ _ hname, hat]
  by_cases hnode : w.disk.node? (place ++ [name]) = some .directory
  · simp [Disk.write?_eq hname hat, hnode]
  · cases hstored : w.stored? (place ++ [name]) text <;>
      simp [Disk.write?_eq hname hat, hnode, hstored]

theorem exists_directoryAt?_of_fill?
    (h : w.fill? (directory.join ⟨name⟩) text = some (left, disk)) :
    ∃ place, w.disk.directoryAt? w.here directory = some place := by
  cases hat : w.disk.directoryAt? w.here directory with
  | some place => exact ⟨place, rfl⟩
  | none =>
      rw [fill?_eq_none hname hat] at h
      cases h

end Filling

end Workspace

/-! ### Where the program is -/

/-- A workspace as a system has it: everything is in a directory, and the program is in one
whose path consists of names. -/
structure Workspace.IsGrounded (w : Workspace) : Prop where
  tree : w.disk.IsTree
  here : w.disk.node? w.here = some .directory
  names : ∀ name ∈ w.here, Path.IsName name

/-- The directories above are there. -/
theorem Workspace.IsGrounded.isDirectory_above {w : Workspace} (h : w.IsGrounded) {p : Path}
    (hp : p ∈ (Path.ofPlace w.here).ancestors) : w.disk.isDirectory w.here p = true := by
  obtain ⟨above, below, hhere, rfl⟩ := Path.exists_of_mem_ancestors h.names hp
  have hnode := h.here
  have hnames := h.names
  rw [hhere] at hnode hnames
  exact h.tree.isDirectory_ofPlace _ (fun name hname => hnames name (List.mem_append_left _ hname))
    (h.tree.above_append hnode)

end Worldsmith
