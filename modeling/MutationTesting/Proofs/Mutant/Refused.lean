import MutationTesting.Proofs.Mutant.Interruption
/-! Mutants that cannot be applied. The backup is written before the file, so a file that cannot be
written leaves a backup behind, which no one has asked for and no one takes away. -/
namespace MutationTesting

open Sequence

namespace Backup

variable {workspace : Workspace} {file : Path} {address : List String}

theorem address_of_pathOf (leads : workspace.address (pathOf file) = .ok address) :
    workspace.address file =
      if file.text = "" then .error .notFound else .ok (workspace.target file) := by
  obtain ⟨front, last, name, backup, shape, shorter⟩ := components_pathOf_last file
  unfold Workspace.address at leads ⊢
  repeat' split at leads
  · contradiction
  · contradiction
  · contradiction
  rename_i written noZero short
  have noZeroInFile : ¬ file.text.toList.contains '\x00' := by
    simpa [pathOf] using noZero
  have shortFile : ¬ Workspace.longestPath < file.text.utf8ByteSize := by
    simp only [pathOf, String.utf8ByteSize_append] at short
    omega
  rw [if_neg noZeroInFile, if_neg shortFile]
  congr 1
  rw [backup, Workspace.follow_concat] at leads
  rw [Workspace.target, shape]
  cases above : Workspace.follow workspace.top workspace.here front with
  | error fault => simp [above, Except.bind] at leads
  | ok way =>
    have isWay := Workspace.follow_eq above
    cases last with
    | none => rw [Option.toList_none, List.append_nil, above, isWay]
    | some last =>
      simp only [above, Except.bind] at leads
      obtain ⟨entries, there⟩ := Workspace.get?_directory.mp (Workspace.follow_single leads).1
      have isShort : Workspace.isTooLong last = false := by
        cases last with
        | name text =>
          simp only [Workspace.follow, there] at leads
          split at leads
          · contradiction
          · rename_i shortName
            have := shorter text rfl
            simp only [Workspace.isTooLong, decide_eq_true_eq] at shortName ⊢
            simp
            omega
        | _ => rfl
      rw [Option.toList_some, Workspace.follow_concat, above, List.foldl_append, ← isWay]
      simp [Except.bind, Workspace.follow, there, isShort]

end Backup

namespace Backup

/-- Writing the backup of a file leaves the file alone, whatever it is. -/
theorem read_of_backed {before after : Workspace} {file : Path} {content : ByteArray}
    (backed : before.write (pathOf file) content = .ok after) : after.read file = before.read file := by
  obtain ⟨same, found⟩ := Workspace.write_spec backed
  obtain ⟨address, leads, -⟩ := Workspace.find_file_iff.mp found
  rw [Workspace.read_eq, Workspace.read_eq, address_of_pathOf leads,
    address_of_pathOf (same.symm.address_eq leads), same.target]
  split
  · rfl
  · dsimp only [Except.bind]
    rw [same.stand _ (target_pathOf_ne before file).symm]

end Backup

namespace Mutant

variable {mutant : Mutant} {before after : Workspace} {error : Error}

theorem apply_eq (mutant : Mutant) (before : Workspace) :
    mutant.apply before =
      if mutant.applied then (.error (.alreadyApplied mutant.file), before)
      else
        match before.writeText (Backup.pathOf mutant.file) mutant.source with
        | .error fault => (.error (.fault fault), before)
        | .ok backed =>
          match backed.writeText mutant.file mutant.mutated with
          | .error fault => (.error (.fault fault), backed)
          | .ok written =>
            (.ok { mutant with applied := true }, Backup.clearBytecode mutant.file written) := by
  cases isApplied : mutant.applied with
  | true =>
    rw [apply, isApplied]
    rfl
  | false =>
    rw [apply_eq_run isApplied, applying, Course.run_write, if_neg (by decide), Workspace.writeText]
    cases before.write (Backup.pathOf mutant.file) mutant.source.toUTF8 with
    | error fault => rfl
    | ok backed =>
      dsimp only
      rw [Course.run_write, Workspace.writeText]
      cases backed.write mutant.file mutant.mutated.toUTF8 with
      | error fault => rfl
      | ok written =>
        dsimp only
        rw [Backup.run_clearing]

theorem apply_error (refused : mutant.apply before = (.error error, after)) :
    (mutant.applied = true ∧ after = before) ∨
      mutant.applied = false ∧
        ((∃ fault, before.writeText (Backup.pathOf mutant.file) mutant.source = .error fault ∧
          after = before) ∨
        before.writeText (Backup.pathOf mutant.file) mutant.source = .ok after) := by
  rw [apply_eq] at refused
  repeat' split at refused
  · rename_i isApplied
    exact .inl ⟨isApplied, (Prod.mk.inj refused).2.symm⟩
  · rename_i notApplied _ fault notBacked
    exact .inr ⟨by simpa using notApplied, .inl ⟨fault, notBacked, (Prod.mk.inj refused).2.symm⟩⟩
  · rename_i notApplied _ between backed _ fault _
    exact .inr ⟨by simpa using notApplied, .inr ((Prod.mk.inj refused).2 ▸ backed)⟩
  · exact nomatch (Prod.mk.inj refused).1

/-- What has been written by the time that a mutant is refused is at most its backup. -/
theorem sameBut_of_refused (refused : mutant.apply before = (.error error, after)) :
    before.SameBut (· = before.target (Backup.pathOf mutant.file)) after := by
  obtain ⟨-, rfl⟩ | ⟨-, ⟨fault, -, rfl⟩ | backed⟩ := apply_error refused
  · exact .refl _ _
  · exact .refl _ _
  · exact (Workspace.write_spec backed).1

/-- If a mutant cannot be applied, its file is as it was. The backup is as it was if nothing has been
written, as the mutant has been applied before or the backup cannot be written, or if it held the source
anyway. Otherwise it now holds the source, and nothing else has changed. -/
theorem apply_refused (refused : mutant.apply before = (.error error, after)) :
    let backup := Backup.pathOf mutant.file
    after.read mutant.file = before.read mutant.file ∧
      before.SameBut (· = before.target backup) after ∧
      (after.read backup = before.read backup ↔
        mutant.applied = true ∨ (∃ fault, before.writeText backup mutant.source = .error fault) ∨
          before.read backup = .ok mutant.source.toUTF8) ∧
      (after.read backup = before.read backup ∨ after.read backup = .ok mutant.source.toUTF8) := by
  intro backup
  obtain ⟨isApplied, rfl⟩ | ⟨notApplied, ⟨fault, notBacked, rfl⟩ | backed⟩ := apply_error refused
  · exact ⟨rfl, .refl _ _, iff_of_true rfl (.inl isApplied), .inl rfl⟩
  · exact ⟨rfl, .refl _ _, iff_of_true rfl (.inr (.inl ⟨fault, notBacked⟩)), .inl rfl⟩
  · obtain ⟨same, found⟩ := Workspace.write_spec backed
    have isRead : after.read backup = .ok mutant.source.toUTF8 := Workspace.read_eq_ok.mpr found
    refine ⟨Backup.read_of_backed backed, same, ?_, .inr isRead⟩
    rw [isRead]
    constructor
    · exact fun isSame => .inr (.inr isSame.symm)
    · rintro (isApplied | ⟨fault, notBacked⟩ | held)
      · exact absurd isApplied (by simp [notApplied])
      · exact absurd (backed.symm.trans notBacked) nofun
      · exact held.symm

/-- A mutant of a source that consists of one assignment. -/
def doubled : Mutant where
  file := ⟨"a.py"⟩
  id := ⟨"x = 1", 0, 0⟩
  source := "x = 1\n"
  mutated := "x = 2\n"

/-- A directory where the file of the mutant should be, and what else there is. -/
def noFile (others : List (String × Entry)) : Workspace :=
  ⟨.directory (("a.py", .directory []) :: others), [], []⟩

/-- A backup that holds the source is as it was, though it has been written. -/
theorem doubled_keeps_backup :
    let before := noFile [("a.py.bak", .file doubled.source.toUTF8)]
    ∃ error after, doubled.apply before = (.error error, after) ∧
      after.read doubled.file = before.read doubled.file ∧
      after.read (Backup.pathOf doubled.file) = before.read (Backup.pathOf doubled.file) := by
  intro before
  have refused : doubled.apply before = (.error (.fault .isDirectory), before) := rfl
  have held : before.read (Backup.pathOf doubled.file) = .ok doubled.source.toUTF8 := rfl
  obtain ⟨file, -, backup, -⟩ := apply_refused refused
  exact ⟨_, _, refused, file, backup.mpr (.inr (.inr held))⟩

/-- Where there is no backup, one is left behind: the mutant cannot be taken off, as it is not applied,
and no mutant of the file is tested any more. -/
theorem doubled_leaves_backup :
    let before := noFile []
    let backup := Backup.pathOf doubled.file
    ∃ error after, doubled.apply before = (.error error, after) ∧ before.has backup = false ∧
      after.read backup = .ok doubled.source.toUTF8 ∧
      doubled.revert after = (.error (.notApplied doubled.file), after) ∧
      Backup.ensureNone [doubled.file] after = (.error (.orphanedBackup doubled.file backup), after) :=
  ⟨.fault .isDirectory, noFile [("a.py.bak", .file doubled.source.toUTF8)], rfl, rfl, rfl, rfl, rfl⟩

end Mutant

end MutationTesting
