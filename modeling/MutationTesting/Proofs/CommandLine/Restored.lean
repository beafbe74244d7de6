import MutationTesting.Proofs.CommandLine.Findings
import MutationTesting.Proofs.Mutant.Interruption
import MutationTesting.Proofs.Suite.Restored
/-! Putting back a file that an interrupted run has left changed. What is put back is what the
backup holds: the original, unless the interruption came while the backup was being written. -/
namespace MutationTesting.CommandLine

open Sequence Work

section Restoring

variable {file : Path} {workspace : Workspace} {content kept : ByteArray}

/-- A file that has a backup is replaced by it if clearing its compiled forms leaves it alone. -/
theorem restoreFile_of_kept (found : workspace.find file = .ok (.file content))
    (backup : workspace.find (Backup.pathOf file) = .ok (.file kept))
    (keeps : ∀ renamed, workspace.rename (Backup.pathOf file) file = .ok renamed →
      (Backup.clearBytecode file renamed).find file = .ok (.file kept)) :
    let outcome := outcomeOf (restoreFile file) workspace
    outcome.code = 0 ∧ outcome.workspace.find file = .ok (.file kept) ∧
      outcome.workspace.has (Backup.pathOf file) = false := by
  obtain ⟨renamed, moves, restored, same, nothing, -⟩ := Backup.restore_of_find found backup
  have leftover : Backup.leftover? workspace file = some (Backup.pathOf file) := by
    simp [Backup.leftover?, Workspace.has_of_find backup]
  have ran : ∃ output, restoreFile file { workspace } =
      (.ok 0, { workspace := Backup.clearBytecode file renamed, output }) := by
    have got : (get : Work Terminal) { workspace } = (.ok { workspace }, { workspace }) := rfl
    unfold restoreFile
    rw [bind_apply, got]
    dsimp only
    rw [leftover]
    dsimp only
    rw [bind_apply, onDisk_apply, restored]
    exact ⟨_, rfl⟩
  obtain ⟨output, ran⟩ := ran
  unfold outcomeOf
  rw [ran]
  refine ⟨rfl, keeps renamed moves, ?_⟩
  change (Backup.clearBytecode file renamed).has (Backup.pathOf file) = false
  rw [(Backup.clearBytecode_sameBut renamed file).has
    (Mutant.not_compiled_of_backup file renamed)]
  apply Workspace.not_has_of_nothing
  rwa [same.target]

theorem restoreFile_of_find (found : workspace.find file = .ok (.file content))
    (backup : workspace.find (Backup.pathOf file) = .ok (.file kept))
    (apart : ∀ path, Backup.IsCompiled file path → workspace.target path ≠ workspace.target file) :
    let outcome := outcomeOf (restoreFile file) workspace
    outcome.code = 0 ∧ outcome.workspace.find file = .ok (.file kept) ∧
      outcome.workspace.has (Backup.pathOf file) = false := by
  refine restoreFile_of_kept found backup fun renamed moves => ?_
  obtain ⟨other, movesToo, -, same, -, moved⟩ := Backup.restore_of_find found backup
  obtain rfl := Except.ok.inj (moves.symm.trans movesToo)
  refine (Backup.clearBytecode_sameBut renamed file).find_file ?_ moved
  rintro ⟨path, isCompiled, sameTarget⟩
  apply apart path isCompiled
  rw [← same.target, ← same.target, sameTarget]

end Restoring

variable {mutant : Mutant} {before now : Workspace}

/-- Whenever the test of a mutant is interrupted, the file holds its source and has no backup, or
the source is put back, or the interruption came when the backup had been emptied and not yet
filled. In that case the file holds its source until it is put back, which empties it. -/
theorem restore_after_interruption
    (original : before.find mutant.file = .ok (.file mutant.source.toUTF8))
    (noBackup : before.has (Backup.pathOf mutant.file) = false)
    (apart : ∀ path, Backup.IsCompiled mutant.file path →
      before.target path ≠ before.target mutant.file)
    (interrupted : mutant.Interrupted before now) :
    let source : Workspace.Result Entry := .ok (.file mutant.source.toUTF8)
    let outcome := outcomeOf (restoreFile mutant.file) now
    (now.find mutant.file = source ∧ now.has (Backup.pathOf mutant.file) = false) ∨
      (outcome.code = 0 ∧ outcome.workspace.find mutant.file = source ∧
        outcome.workspace.has (Backup.pathOf mutant.file) = false) ∨
      (before.truncate (Backup.pathOf mutant.file) = .ok now ∧ now.find mutant.file = source ∧
        outcome.code = 0 ∧ outcome.workspace.find mutant.file = .ok (.file .empty)) := by
  intro source outcome
  have apartNow (here : now.here = before.here) (path : Path)
      (isCompiled : Backup.IsCompiled mutant.file path) :
      now.target path ≠ now.target mutant.file := by
    simpa only [Workspace.target, here] using apart path isCompiled
  obtain isOriginal | isBacked | emptied := interrupted.cases original apart noBackup
  · exact .inl ⟨isOriginal.file, isOriginal.backup⟩
  · obtain ⟨content, found⟩ := isBacked.file
    exact .inr (.inl (restoreFile_of_find found isBacked.backup (apartNow isBacked.here)))
  · obtain ⟨same, empty⟩ := Workspace.replace_spec
      (show before.replace (Backup.pathOf mutant.file) .empty = .ok now from emptied)
    have found := same.find_file (Backup.target_pathOf_ne _ _).symm original
    obtain ⟨code, restored, -⟩ := restoreFile_of_find found empty (apartNow same.here)
    exact .inr (.inr ⟨emptied, found, code, restored⟩)

/-- A mutant of a source that consists of one assignment. -/
def increased : Mutant where
  file := Campaign.plain
  id := Campaign.assignmentId
  source := Campaign.assignmentText
  mutated := "x = 2\n"

/-- The source, and no other file. -/
def sourceAlone : Workspace :=
  ⟨.directory [("a.py", .file Campaign.assignmentText.toUTF8)], [], []⟩

/-- The file and its backup with some texts. -/
def filled (file backup : String) : Workspace :=
  ⟨.directory [("a.py", .file file.toUTF8), ("a.py.bak", .file backup.toUTF8)], [], []⟩

theorem find_sourceAlone :
    sourceAlone.find increased.file = .ok (.file increased.source.toUTF8) :=
  Workspace.find_of_readText (ok_of_toOption (by decide))

theorem increased_apart (path : Path) (isCompiled : Backup.IsCompiled increased.file path) :
    sourceAlone.target path ≠ sourceAlone.target increased.file :=
  Workspace.target_ne_of_getLast? isCompiled.getLast? (by decide : _ = some 'y') (by decide)
    (by decide) (by decide) sourceAlone

/-- The file is empty when it has been emptied and not yet filled, and its source is put back. -/
theorem emptied_file_restored :
    sourceAlone.find increased.file = .ok (.file increased.source.toUTF8) ∧
      sourceAlone.has (Backup.pathOf increased.file) = false ∧
      increased.Interrupted sourceAlone (filled "" increased.source) ∧
      (outcomeOf (restoreFile increased.file) (filled "" increased.source)).workspace.find
        increased.file = .ok (.file increased.source.toUTF8) := by
  have noBackup : sourceAlone.has (Backup.pathOf increased.file) = false := by decide
  have filledFirst : sourceAlone.truncate (Backup.pathOf increased.file) =
        .ok (filled increased.source "") ∧
      (filled increased.source "").replace (Backup.pathOf increased.file)
        increased.source.toUTF8 = .ok (filled increased.source increased.source) := ⟨rfl, rfl⟩
  have emptied : (filled increased.source increased.source).truncate increased.file =
      .ok (filled "" increased.source) := rfl
  have interrupted : increased.Interrupted sourceAlone (filled "" increased.source) := by
    apply Mutant.Interrupted.applying
    apply Course.passes_write.mpr
    exact .inr (.inr ⟨_, _, filledFirst.1, filledFirst.2,
      Course.passes_write.mpr (.inr (.inl emptied))⟩)
  have isEmpty : (filled "" increased.source).find increased.file ≠
      .ok (.file increased.source.toUTF8) := by
    intro found
    have isText : ((filled "" increased.source).readText increased.file).toOption = some "" := by
      decide
    rw [Workspace.readText_of_find found] at isText
    contradiction
  refine ⟨find_sourceAlone, noBackup, interrupted, ?_⟩
  obtain ⟨found, -⟩ | ⟨-, restored, -⟩ | ⟨-, found, -⟩ :=
    restore_after_interruption find_sourceAlone noBackup increased_apart interrupted
  · exact absurd found isEmpty
  · exact restored
  · exact absurd found isEmpty

/-- When the backup has been emptied and not yet filled, the file holds its source and putting it
back empties it. -/
theorem empty_backup_restored :
    let now := filled increased.source ""
    let outcome := outcomeOf (restoreFile increased.file) now
    sourceAlone.find increased.file = .ok (.file increased.source.toUTF8) ∧
      sourceAlone.has (Backup.pathOf increased.file) = false ∧
      increased.Interrupted sourceAlone now ∧
      (now.readText increased.file).toOption = some increased.source ∧
      now.has (Backup.pathOf increased.file) = true ∧ outcome.code = 0 ∧
      (outcome.workspace.readText increased.file).toOption = some "" := by
  have emptied : sourceAlone.truncate (Backup.pathOf increased.file) =
      .ok (filled increased.source "") := rfl
  have interrupted : increased.Interrupted sourceAlone (filled increased.source "") :=
    .applying (Course.passes_write.mpr (.inr (.inl emptied)))
  exact ⟨find_sourceAlone, by decide, interrupted, by decide⟩

end MutationTesting.CommandLine
