import MutationTesting.Mutant.OnDisk
import MutationTesting.Proofs.FileSystem.Frame
import MutationTesting.Proofs.Sequence
/-! Source files while a mutant stands in the place of one of them, and while none does. Applying a
mutant leads from the second to the first, taking it off leads back. -/
namespace MutationTesting

open Sequence

/-- All source files are as they were. -/
structure Unchanged (sources : List Path) (before now : Workspace) : Prop where
  here : now.here = before.here
  file : ∀ file ∈ sources, now.find file = before.find file

/-- A mutant is in the place of its file, whose original is the backup. The other source files are as
they were. -/
structure Placed (sources : List Path) (before : Workspace) (mutant : Mutant) (now : Workspace) :
    Prop where
  here : now.here = before.here
  file : ∀ file ∈ sources, before.target file = before.target mutant.file →
    now.find file = .ok (.file mutant.mutated.toUTF8)
  backup : now.find (Backup.pathOf mutant.file) = .ok (.file mutant.source.toUTF8)
  others : ∀ file ∈ sources, before.target file ≠ before.target mutant.file →
    now.find file = before.find file

/-- All source files are as they were, and none has a backup. -/
structure Intact (sources : List Path) (before now : Workspace) : Prop where
  here : now.here = before.here
  file : ∀ file ∈ sources, now.find file = before.find file
  backup : ∀ file ∈ sources, now.has (Backup.pathOf file) = false

/-- A mutant stands in the place of its file, whose original is the backup. The other source files
are as they were and have no backups. A file may be among the sources by more than one path. -/
structure Standing (sources : List Path) (before : Workspace) (mutant : Mutant)
    (now : Workspace) : Prop where
  here : now.here = before.here
  original : before.find mutant.file = .ok (.file mutant.source.toUTF8)
  changed : mutant.mutated ≠ mutant.source
  file : ∀ file ∈ sources, before.target file = before.target mutant.file →
    now.find file = .ok (.file mutant.mutated.toUTF8)
  backup : now.find (Backup.pathOf mutant.file) = .ok (.file mutant.source.toUTF8)
  apart : ∀ file ∈ sources, before.target file ≠ before.target (Backup.pathOf mutant.file)
  others : ∀ file ∈ sources, before.target file ≠ before.target mutant.file →
    now.find file = before.find file ∧ now.has (Backup.pathOf file) = false

/-- The source files are there, and certain addresses are neither theirs nor those of their
backups. -/
structure Apart (sources : List Path) (before : Workspace) (own : List String → Prop) : Prop where
  there : ∀ file ∈ sources, ∃ content, before.find file = .ok (.file content)
  file : ∀ file ∈ sources, ¬ own (before.target file)
  backup : ∀ file ∈ sources, ¬ own (before.target (Backup.pathOf file))

variable {sources : List Path} {before now after : Workspace} {own : List String → Prop}
  {mutant : Mutant} {file other : Path}

theorem Intact.unchanged (intact : Intact sources before now) : Unchanged sources before now :=
  ⟨intact.here, intact.file⟩

theorem Standing.placed (standing : Standing sources before mutant now) :
    Placed sources before mutant now :=
  ⟨standing.here, standing.file, standing.backup,
    fun file isSource otherTarget => (standing.others file isSource otherTarget).1⟩

theorem Unchanged.sameBut (unchanged : Unchanged sources before now)
    (apart : Apart sources before own) (same : now.SameBut own after) :
    Unchanged sources before after where
  here := same.here.trans unchanged.here
  file file isSource := by
    obtain ⟨content, found⟩ := apart.there file isSource
    rw [found]
    refine same.find_file ?_ ((unchanged.file file isSource).trans found)
    simpa only [Workspace.target, unchanged.here] using apart.file file isSource

theorem Intact.sameBut (intact : Intact sources before now) (apart : Apart sources before own)
    (same : now.SameBut own after) : Intact sources before after where
  here := same.here.trans intact.here
  file := (intact.unchanged.sameBut apart same).file
  backup file isSource := by
    rw [same.has, intact.backup file isSource]
    simpa only [Workspace.target, intact.here] using apart.backup file isSource

theorem Placed.sameBut (placed : Placed sources before mutant now)
    (isSource : mutant.file ∈ sources) (apart : Apart sources before own)
    (same : now.SameBut own after) : Placed sources before mutant after where
  here := same.here.trans placed.here
  file file isFile sameTarget := by
    refine same.find_file ?_ (placed.file file isFile sameTarget)
    simpa only [Workspace.target, placed.here] using apart.file file isFile
  backup := by
    refine same.find_file ?_ placed.backup
    simpa only [Workspace.target, placed.here] using apart.backup mutant.file isSource
  others file isFile otherTarget := by
    obtain ⟨content, found⟩ := apart.there file isFile
    rw [found]
    refine same.find_file ?_ ((placed.others file isFile otherTarget).trans found)
    simpa only [Workspace.target, placed.here] using apart.file file isFile

theorem Standing.sameBut (standing : Standing sources before mutant now)
    (isSource : mutant.file ∈ sources) (apart : Apart sources before own)
    (same : now.SameBut own after) : Standing sources before mutant after where
  here := same.here.trans standing.here
  original := standing.original
  changed := standing.changed
  file := (standing.placed.sameBut isSource apart same).file
  backup := (standing.placed.sameBut isSource apart same).backup
  apart := standing.apart
  others file isFile otherTarget := by
    refine ⟨(standing.placed.sameBut isSource apart same).others file isFile otherTarget, ?_⟩
    rw [same.has, (standing.others file isFile otherTarget).2]
    simpa only [Workspace.target, standing.here] using apart.backup file isFile

namespace Backup

/-- The path of a file that is there and the path of its backup lead to two names in the same
directory. -/
theorem target_pathOf {workspace : Workspace} {content : ByteArray}
    (found : workspace.find file = .ok (.file content)) :
    ∃ above name, workspace.target file = above ++ [name] ∧
      workspace.target (pathOf file) = above ++ [name ++ ending] ∧
      Workspace.beforeDots? file = none ∧ Workspace.beforeDots? (pathOf file) = none := by
  obtain ⟨address, leads, there, plain⟩ := Workspace.find_file_iff.mp found
  obtain ⟨front, name, shape, -, -⟩ := Workspace.parent_of_address leads (by simp [there])
  obtain ⟨backupShape, noDots, noBackupDots⟩ := components_pathOf shape plain
  refine ⟨front.foldl Workspace.stepTo workspace.here, name, ?_, ?_, noDots, noBackupDots⟩
  · simp [Workspace.target, shape, Workspace.stepTo]
  · simp [Workspace.target, backupShape, Workspace.stepTo]

theorem target_pathOf_ne (workspace : Workspace) (file : Path) :
    workspace.target (pathOf file) ≠ workspace.target file := by
  obtain ⟨front, last, name, backup, shape, shorter⟩ := components_pathOf_last file
  rw [Workspace.target, Workspace.target, backup, shape, List.foldl_append, List.foldl_append]
  generalize front.foldl Workspace.stepTo workspace.here = above
  intro same
  have lengths := congrArg List.length same
  obtain - | (- | - | - | text) := last <;> simp [Workspace.stepTo] at same lengths
  · omega
  · exact absurd (shorter text rfl) (by simp [same])

/-- Two files have their backups at one address if they are at one address themselves. -/
theorem target_pathOf_inj {workspace : Workspace} {content otherContent : ByteArray}
    (found : workspace.find file = .ok (.file content))
    (otherFound : workspace.find other = .ok (.file otherContent)) :
    workspace.target (pathOf file) = workspace.target (pathOf other) ↔
      workspace.target file = workspace.target other := by
  obtain ⟨above, name, target, backupTarget, -⟩ := target_pathOf found
  obtain ⟨beyond, otherName, otherTarget, otherBackupTarget, -⟩ := target_pathOf otherFound
  rw [target, backupTarget, otherTarget, otherBackupTarget]
  simp [ending]

/-- A path of a compiled form of a file. -/
def IsCompiled (file path : Path) : Prop :=
  ∃ directory stem name, file.directory? = some directory ∧ file.stem? = some stem ∧
    isBytecodeOf stem name = true ∧ path = (directory.join bytecodeDirectory).join ⟨name⟩

theorem removeIfFile_sameBut (workspace : Workspace) (path : Path) :
    workspace.SameBut (· = workspace.target path) (removeIfFile workspace path) := by
  unfold removeIfFile
  split
  · rename_i removed
    exact Workspace.removeFile_spec removed
  · exact .refl _ _

theorem removeAll_sameBut (workspace : Workspace) (directory : Path) (names : List String) :
    workspace.SameBut (fun address => ∃ name ∈ names, address = workspace.target (directory.join ⟨name⟩))
      (names.foldl (fun workspace name => removeIfFile workspace (directory.join ⟨name⟩))
        workspace) := by
  induction names generalizing workspace with
  | nil => exact .refl _ _
  | cons name rest ih =>
    have first := removeIfFile_sameBut workspace (directory.join ⟨name⟩)
    have later := ih (removeIfFile workspace (directory.join ⟨name⟩))
    simp only [first.target] at later
    refine (first.mono ?_).trans (later.mono ?_)
    · rintro address rfl
      exact ⟨name, List.mem_cons_self, rfl⟩
    · rintro address ⟨other, member, rfl⟩
      exact ⟨other, List.mem_cons_of_mem _ member, rfl⟩

theorem clearBytecode_sameBut (workspace : Workspace) (file : Path) :
    workspace.SameBut (fun address => ∃ path, IsCompiled file path ∧ address = workspace.target path)
      (clearBytecode file workspace) := by
  unfold clearBytecode
  split
  · rename_i directory stem isDirectory isStem
    dsimp only
    split
    · refine (removeAll_sameBut _ _ _).mono ?_
      rintro address ⟨name, member, rfl⟩
      exact ⟨_, ⟨directory, stem, name, isDirectory, isStem, (List.mem_filter.mp member).2, rfl⟩, rfl⟩
    · exact .refl _ _
  · exact .refl _ _

theorem restore_of_find {workspace : Workspace} {content kept : ByteArray}
    (found : workspace.find file = .ok (.file content))
    (backup : workspace.find (pathOf file) = .ok (.file kept)) :
    ∃ renamed, workspace.rename (pathOf file) file = .ok renamed ∧
      restore file (pathOf file) workspace = (.ok (), clearBytecode file renamed) ∧
      workspace.SameBut (fun address => address = workspace.target (pathOf file) ∨
        address = workspace.target file) renamed ∧
      renamed.stand (workspace.target (pathOf file)) = .nothing ∧
      renamed.find file = .ok (.file kept) := by
  obtain ⟨above, name, -, -, noDots, noBackupDots⟩ := target_pathOf found
  obtain ⟨renamed, done, same, noBackup, moved⟩ :=
    Workspace.rename_of_find backup found noBackupDots noDots (target_pathOf_ne _ _)
  refine ⟨renamed, done, ?_, same, noBackup, moved⟩
  rw [restore, bind_apply, change_ok done]
  rfl

end Backup

namespace Mutant

theorem not_source_of_written (intact : Intact sources before now)
    (there : ∀ file ∈ sources, ∃ content, before.find file = .ok (.file content))
    (isSource : file ∈ sources) (otherSource : other ∈ sources) {content : ByteArray}
    (written : now.write (Backup.pathOf file) content = .ok after) :
    before.target other ≠ before.target (Backup.pathOf file) := by
  intro same
  obtain ⟨otherContent, found⟩ := there other otherSource
  rw [← intact.file other otherSource] at found
  have stands := Workspace.stand_of_find found
  obtain ⟨sameBut, foundBackup⟩ := Workspace.write_spec written
  have hasNot := sameBut.has_eq_false (intact.backup file isSource)
    (by simp only [Workspace.target, intact.here] at same stands ⊢; simp [← same, stands])
    (Backup.namesDirectory_pathOf file)
  rw [Workspace.has_of_find foundBackup] at hasNot
  contradiction

theorem placed_of_written (unchanged : Unchanged sources before now)
    (there : ∀ file ∈ sources, ∃ content, before.find file = .ok (.file content))
    (isSource : mutant.file ∈ sources)
    (noBackup : ∀ file ∈ sources, before.target file ≠ before.target (Backup.pathOf mutant.file))
    {between : Workspace}
    (backupWritten : now.writeText (Backup.pathOf mutant.file) mutant.source = .ok between)
    (written : between.writeText mutant.file mutant.mutated = .ok after) :
    Placed sources before mutant after := by
  have target (path : Path) : now.target path = before.target path := by
    simp only [Workspace.target, unchanged.here]
  obtain ⟨first, foundBackup⟩ := Workspace.write_spec backupWritten
  obtain ⟨second, found⟩ := Workspace.write_spec written
  rw [first.target, target] at second
  rw [target] at first
  have foundBetween (file : Path) (isFile : file ∈ sources) {content : ByteArray}
      (found : before.find file = .ok (.file content)) :
      between.find file = .ok (.file content) := by
    refine first.find_file ?_ ((unchanged.file file isFile).trans found)
    rw [target]
    exact noBackup file isFile
  refine ⟨second.here.trans (first.here.trans unchanged.here), ?_, ?_, ?_⟩
  · intro file isFile sameTarget
    obtain ⟨content, foundBefore⟩ := there file isFile
    refine second.find_file_of_stand (foundBetween file isFile foundBefore) ?_
    have stands := Workspace.stand_of_find found
    rw [second.target] at stands
    rw [first.target, target] at stands ⊢
    rw [sameTarget]
    exact stands
  · refine second.find_file ?_ foundBackup
    rw [first.target, target]
    exact (noBackup mutant.file isSource).symm
  · intro file isFile otherTarget
    obtain ⟨content, foundBefore⟩ := there file isFile
    rw [foundBefore]
    refine second.find_file ?_ (foundBetween file isFile foundBefore)
    simpa only [first.target, target] using otherTarget

/-- Once backup and changed source are written, the mutant stands in the place of its file if there was
no backup before. -/
theorem standing_of_written (intact : Intact sources before now)
    (there : ∀ file ∈ sources, ∃ content, before.find file = .ok (.file content))
    (isSource : mutant.file ∈ sources)
    (original : before.find mutant.file = .ok (.file mutant.source.toUTF8))
    (changed : mutant.mutated ≠ mutant.source) {between : Workspace}
    (backupWritten : now.writeText (Backup.pathOf mutant.file) mutant.source = .ok between)
    (written : between.writeText mutant.file mutant.mutated = .ok after) :
    Standing sources before mutant after := by
  have target (path : Path) : now.target path = before.target path := by
    simp only [Workspace.target, intact.here]
  have noBackup (file : Path) (isFile : file ∈ sources) :=
    not_source_of_written intact there isSource isFile backupWritten
  have placed := placed_of_written intact.unchanged there isSource noBackup backupWritten written
  obtain ⟨first, -⟩ := Workspace.write_spec backupWritten
  obtain ⟨second, -⟩ := Workspace.write_spec written
  rw [first.target, target] at second
  rw [target] at first
  refine ⟨placed.here, original, changed, placed.file, placed.backup, noBackup, ?_⟩
  intro file isFile otherTarget
  obtain ⟨content, foundBefore⟩ := there file isFile
  refine ⟨placed.others file isFile otherTarget, ?_⟩
  have hasNotBetween : between.has (Backup.pathOf file) = false := by
    rw [first.has, intact.backup file isFile]
    rw [target, Backup.target_pathOf_inj foundBefore original]
    exact otherTarget
  by_cases isFileTarget : before.target (Backup.pathOf file) = before.target mutant.file
  · refine second.has_eq_false hasNotBetween ?_ (Backup.namesDirectory_pathOf file)
    have foundBetween : between.find mutant.file = .ok (.file mutant.source.toUTF8) := by
      refine first.find_file ?_ ((intact.file mutant.file isSource).trans original)
      rw [target]
      exact noBackup mutant.file isSource
    have stands := Workspace.stand_of_find foundBetween
    rw [first.target, target] at stands ⊢
    simp [isFileTarget, stands]
  · rw [second.has, hasNotBetween]
    simpa only [first.target, target] using isFileTarget

/-- Applying a mutant writes backup and changed source and clears the compiled forms of the file, or the
backup cannot be written and nothing is changed. -/
theorem apply_cases (unchanged : Unchanged sources before now) (isSource : mutant.file ∈ sources)
    {content : ByteArray} (original : before.find mutant.file = .ok (.file content))
    (notApplied : mutant.applied = false) :
    (∃ fault, mutant.apply now = (.error (.fault fault), now) ∧
      now.writeText (Backup.pathOf mutant.file) mutant.source = .error fault) ∨
    ∃ between, now.writeText (Backup.pathOf mutant.file) mutant.source = .ok between ∧
      (before.target mutant.file ≠ before.target (Backup.pathOf mutant.file) →
        ∃ last, between.writeText mutant.file mutant.mutated = .ok last ∧
          mutant.apply now =
            (.ok { mutant with applied := true }, Backup.clearBytecode mutant.file last)) := by
  have start : mutant.apply now = (do
      OnDisk.change fun workspace => workspace.writeText (Backup.pathOf mutant.file) mutant.source
      OnDisk.change fun workspace => workspace.writeText mutant.file mutant.mutated
      OnDisk.adjust (Backup.clearBytecode mutant.file)
      return { mutant with applied := true } : OnDisk Mutant) now := by
    simp [apply, notApplied]
  cases first : now.writeText (Backup.pathOf mutant.file) mutant.source with
  | error fault =>
    refine .inl ⟨fault, ?_, rfl⟩
    rw [start, bind_apply, change_error first]
  | ok between =>
    refine .inr ⟨between, rfl, fun noBackup => ?_⟩
    have foundBetween : between.find mutant.file = .ok (.file content) := by
      refine (Workspace.write_spec first).1.find_file ?_
        ((unchanged.file mutant.file isSource).trans original)
      simpa only [Workspace.target, unchanged.here] using noBackup
    obtain ⟨last, second⟩ := Workspace.write_of_find foundBetween mutant.mutated.toUTF8
    refine ⟨last, second, ?_⟩
    rw [start, bind_apply, change_ok first]
    dsimp only
    rw [bind_apply, change_ok second]
    rfl

section Applying

variable (apart : Apart sources before own)
  (compiled : ∀ path, Backup.IsCompiled mutant.file path → own (before.target path))
  (isSource : mutant.file ∈ sources)
include apart compiled isSource

theorem apply_spec (original : before.find mutant.file = .ok (.file mutant.source.toUTF8))
    (changed : mutant.mutated ≠ mutant.source) (notApplied : mutant.applied = false) :
    Leads (Intact sources before) mutant.apply
      (fun applied after =>
        applied = { mutant with applied := true } ∧ Standing sources before mutant after)
      (Intact sources before) := by
  intro now intact
  obtain ⟨fault, failed, -⟩ | ⟨between, first, done⟩ :=
    apply_cases intact.unchanged isSource original notApplied
  · rw [failed]
    exact intact
  · obtain ⟨last, second, done⟩ :=
      done (not_source_of_written intact apart.there isSource isSource first)
    have standing := standing_of_written intact apart.there isSource original changed first second
    rw [done]
    refine ⟨rfl, standing.sameBut isSource apart
      ((Backup.clearBytecode_sameBut last mutant.file).mono ?_)⟩
    rintro address ⟨path, isCompiled, rfl⟩
    simpa only [Workspace.target, standing.here] using compiled path isCompiled

end Applying

/-- Once the backup of a mutant has been moved back, all source files are as they were. -/
theorem unchanged_of_renamed (placed : Placed sources before mutant now)
    (there : ∀ file ∈ sources, ∃ content, before.find file = .ok (.file content))
    (noBackup : ∀ file ∈ sources, before.target file ≠ before.target (Backup.pathOf mutant.file))
    (original : before.find mutant.file = .ok (.file mutant.source.toUTF8))
    (same : now.SameBut (fun address => address = before.target (Backup.pathOf mutant.file) ∨
      address = before.target mutant.file) after)
    (found : after.find mutant.file = .ok (.file mutant.source.toUTF8)) :
    Unchanged sources before after := by
  have target (path : Path) : now.target path = before.target path := by
    simp only [Workspace.target, placed.here]
  have stands := Workspace.stand_of_find found
  rw [same.target, target] at stands
  refine ⟨same.here.trans placed.here, fun file isFile => ?_⟩
  obtain ⟨content, foundBefore⟩ := there file isFile
  by_cases sameTarget : before.target file = before.target mutant.file
  · have sameContent : content = mutant.source.toUTF8 := by
      have first := Workspace.stand_of_find foundBefore
      rw [sameTarget, Workspace.stand_of_find original] at first
      exact (Stand.file.inj first).symm
    rw [foundBefore, sameContent]
    refine same.find_file_of_stand (placed.file file isFile sameTarget) ?_
    rwa [target, sameTarget]
  · rw [foundBefore]
    refine same.find_file ?_ ((placed.others file isFile sameTarget).trans foundBefore)
    rw [target]
    exact not_or_intro (noBackup file isFile) sameTarget

theorem intact_of_renamed (standing : Standing sources before mutant now)
    (there : ∀ file ∈ sources, ∃ content, before.find file = .ok (.file content))
    (isSource : mutant.file ∈ sources)
    (same : now.SameBut (fun address => address = before.target (Backup.pathOf mutant.file) ∨
      address = before.target mutant.file) after)
    (noBackup : after.stand (before.target (Backup.pathOf mutant.file)) = .nothing)
    (found : after.find mutant.file = .ok (.file mutant.source.toUTF8)) :
    Intact sources before after := by
  have target (path : Path) : now.target path = before.target path := by
    simp only [Workspace.target, standing.here]
  have unchanged :=
    unchanged_of_renamed standing.placed there standing.apart standing.original same found
  refine ⟨unchanged.here, unchanged.file, fun file isFile => ?_⟩
  obtain ⟨content, foundBefore⟩ := there file isFile
  by_cases sameTarget : before.target file = before.target mutant.file
  · refine Workspace.not_has_of_nothing ?_
    rwa [same.target, target,
      (Backup.target_pathOf_inj foundBefore standing.original).mpr sameTarget]
  · have hasNot := (standing.others file isFile sameTarget).2
    have otherBackup := mt (Backup.target_pathOf_inj foundBefore standing.original).mp sameTarget
    by_cases isFileTarget : before.target (Backup.pathOf file) = before.target mutant.file
    · refine same.has_eq_false hasNot ?_ (Backup.namesDirectory_pathOf file)
      have standsNow := Workspace.stand_of_find
        (standing.file mutant.file isSource rfl)
      rw [target] at standsNow ⊢
      simp [isFileTarget, standsNow]
    · rw [same.has, hasNot]
      rw [target]
      exact not_or_intro otherBackup isFileTarget

/-- Taking a mutant off succeeds: the backup is moved over the file, whose compiled forms are cleared. -/
theorem revert_eq (placed : Placed sources before mutant now) (isSource : mutant.file ∈ sources) :
    ∃ renamed, revert { mutant with applied := true } now =
        (.ok { mutant with applied := false }, Backup.clearBytecode mutant.file renamed) ∧
      now.SameBut (fun address => address = before.target (Backup.pathOf mutant.file) ∨
        address = before.target mutant.file) renamed ∧
      renamed.stand (before.target (Backup.pathOf mutant.file)) = .nothing ∧
      renamed.find mutant.file = .ok (.file mutant.source.toUTF8) := by
  have target (path : Path) : now.target path = before.target path := by
    simp only [Workspace.target, placed.here]
  obtain ⟨renamed, -, restored, same, noBackup, found⟩ :=
    Backup.restore_of_find (placed.file mutant.file isSource rfl) placed.backup
  simp only [target] at same noBackup
  have start : revert { mutant with applied := true } now = (do
      Backup.restore mutant.file (Backup.pathOf mutant.file)
      return { mutant with applied := false } : OnDisk Mutant) now := by
    simp [revert]
  refine ⟨renamed, ?_, same, noBackup, found⟩
  rw [start, bind_apply, restored]
  rfl

section Reverting

variable (apart : Apart sources before own)
  (compiled : ∀ path, Backup.IsCompiled mutant.file path → own (before.target path))
  (isSource : mutant.file ∈ sources)
include apart compiled isSource

/-- Taking a mutant off succeeds, and all source files are as they were. -/
theorem revert_spec :
    Leads (Standing sources before mutant) (revert { mutant with applied := true })
      (fun reverted after =>
        reverted = { mutant with applied := false } ∧ Intact sources before after)
      fun _ => False := by
  intro now standing
  obtain ⟨renamed, done, same, noBackup, found⟩ := revert_eq standing.placed isSource
  have intact := intact_of_renamed standing apart.there isSource same noBackup found
  rw [done]
  refine ⟨rfl, intact.sameBut apart
    ((Backup.clearBytecode_sameBut renamed mutant.file).mono ?_)⟩
  rintro address ⟨path, isCompiled, rfl⟩
  simpa only [Workspace.target, intact.here] using compiled path isCompiled

end Reverting

end Mutant

end MutationTesting

/-! Files with names of different sorts. Where two paths end in different characters they lead to
different addresses, and backups and compiled forms end otherwise than sources. -/
namespace MutationTesting

theorem Path.getLast?_join (path : Path) {below : Path} {c : Char}
    (ends : below.text.toList.getLast? = some c) :
    (path.join below).text.toList.getLast? = some c := by
  unfold join
  split
  · exact ends
  · split <;> simp [List.getLast?_append, List.getLast?_cons, ends]

theorem Text.getLast?_of_endsWith {tail s : String} {c : Char} (isEnd : endsWith tail s = true)
    (ends : tail.toList.getLast? = some c) : s.toList.getLast? = some c := by
  obtain ⟨rest, found⟩ := Option.isSome_iff_exists.mp isEnd
  have shape : s.toList = rest.reverse ++ tail.toList := by
    have reversed := congrArg List.reverse (eq_append_of_afterLead? found)
    simpa using reversed
  rw [shape, List.getLast?_append, ends, Option.some_or]

theorem Workspace.target_ne_of_ends {workspace : Workspace} {path other : Path} {c d : Char}
    (named : ∃ front name, path.components = front ++ [.name name] ∧ name.toList.getLast? = some c)
    (otherNamed :
      ∃ front name, other.components = front ++ [.name name] ∧ name.toList.getLast? = some d)
    (apart : c ≠ d) : workspace.target path ≠ workspace.target other := by
  obtain ⟨front, name, shape, ends⟩ := named
  obtain ⟨otherFront, otherName, otherShape, otherEnds⟩ := otherNamed
  simp only [target, shape, otherShape, List.foldl_append, List.foldl_cons, List.foldl_nil, stepTo]
  intro same
  obtain ⟨-, sameName⟩ := List.append_inj' same rfl
  obtain rfl := List.singleton_inj.mp sameName
  rw [ends] at otherEnds
  exact apart (Option.some.inj otherEnds)

variable {path other file : Path} {c d : Char}

/-- Paths whose texts end in different characters of names lead to different addresses. -/
theorem Workspace.target_ne_of_getLast? (ends : path.text.toList.getLast? = some c)
    (otherEnds : other.text.toList.getLast? = some d) (named : c ∉ ['/', '.'])
    (otherNamed : d ∉ ['/', '.']) (apart : c ≠ d) (workspace : Workspace) :
    workspace.target path ≠ workspace.target other := by
  simp only [List.mem_cons, List.not_mem_nil, or_false, not_or] at named otherNamed
  exact Workspace.target_ne_of_ends (Path.exists_name_of_getLast? ends named.1 named.2)
    (Path.exists_name_of_getLast? otherEnds otherNamed.1 otherNamed.2) apart

theorem Backup.getLast?_pathOf (file : Path) :
    (Backup.pathOf file).text.toList.getLast? = some 'k' := by
  simp [Backup.pathOf]

theorem Backup.IsCompiled.getLast? (isCompiled : IsCompiled file path) :
    path.text.toList.getLast? = some 'c' := by
  obtain ⟨above, stem, name, -, -, isBytecode, rfl⟩ := isCompiled
  simp only [isBytecodeOf, Bool.and_eq_true] at isBytecode
  exact Path.getLast?_join _ (Text.getLast?_of_endsWith isBytecode.2 (by decide))

end MutationTesting
