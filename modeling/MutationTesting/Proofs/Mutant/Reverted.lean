import MutationTesting.Proofs.FileSystem.Named
import MutationTesting.Proofs.Mutant.Refused
/-! Mutants that are taken off again. What the backup holds is put back, and that is the source of the
mutant, whatever the file held when the mutant was applied. The compiled forms of the file, which are
cleared each time, stand one directory further down than the file and its backup. -/
namespace MutationTesting

namespace Backup

variable {file path : Path} {workspace : Workspace} {content : ByteArray}

theorem components_compiled (found : workspace.find file = .ok (.file content))
    (named : workspace.Named) (member : path ∈ compiledForms workspace file) :
    ∃ front name compiled, file.components = front ++ [.name name] ∧
      path.components = front ++ [.name bytecodeDirectory.text, .name compiled] := by
  obtain ⟨front, name, shape⟩ := Workspace.exists_name_of_find found
  have isDirectory : file.directory? = some (.ofComponents front) := by
    rw [Path.directory?, shape, List.getLast?_concat, List.dropLast_concat]
  unfold compiledForms at member
  rw [isDirectory] at member
  cases stem : file.stem? with
  | none => simp [stem] at member
  | some stem' =>
    rw [stem] at member
    dsimp only at member
    split at member
    · rename_i entries listed
      obtain ⟨compiled, isCompiled, rfl⟩ := List.mem_map.mp member
      have isName := named.of_list listed (List.mem_filter.mp isCompiled).1
      have isBelow : Path.IsName bytecodeDirectory.text := ⟨by decide, by decide⟩
      refine ⟨front, name, compiled, shape, ?_⟩
      rw [Path.components_join _ isName]
      have above := Path.components_join (.ofComponents front) isBelow
      rw [Path.components_ofComponents shape] at above
      rw [show (⟨bytecodeDirectory.text⟩ : Path) = bytecodeDirectory from rfl] at above
      rw [above, List.append_assoc]
      rfl
    · contradiction

theorem target_compiled_ne (found : workspace.find file = .ok (.file content))
    (named : workspace.Named) (member : path ∈ compiledForms workspace file) :
    workspace.target path ≠ workspace.target file := by
  obtain ⟨front, name, compiled, shape, further⟩ := components_compiled found named member
  rw [Workspace.target, Workspace.target, shape, further]
  intro same
  have lengths := congrArg List.length same
  simp [Workspace.stepTo] at lengths

theorem clearing_sameBut (file : Path) (workspace : Workspace) :
    workspace.SameBut
      (fun address => ∃ path ∈ compiledForms workspace file, address = workspace.target path)
      (clearBytecode file workspace) :=
  Course.sameBut_of_passes (Course.passes_of_run (run_clearing file workspace))

theorem find_cleared (found : workspace.find file = .ok (.file content)) (named : workspace.Named) :
    (clearBytecode file workspace).find file = .ok (.file content) := by
  refine (clearing_sameBut file workspace).find_file ?_ found
  rintro ⟨path, member, same⟩
  exact target_compiled_ne found named member same.symm

theorem notCleared_backup (file : Path) (workspace : Workspace) :
    ¬ ∃ path ∈ compiledForms workspace file,
      workspace.target (pathOf file) = workspace.target path := by
  rintro ⟨path, member, same⟩
  exact Mutant.not_compiled_of_backup file workspace ⟨path, isCompiled_of_mem member, same⟩

theorem named_cleared (found : workspace.find file = .ok (.file content)) (named : workspace.Named) :
    (clearBytecode file workspace).Named := by
  refine named.sameBut (clearing_sameBut file workspace) ?_
  rintro address ⟨path, member, rfl⟩
  obtain ⟨front, name, compiled, -, shape⟩ := components_compiled found named member
  refine ⟨path, front ++ [.name bytecodeDirectory.text], compiled, rfl, ?_⟩
  rw [shape, List.append_assoc]
  rfl

end Backup

namespace Mutant

variable {mutant applied reverted : Mutant} {before between now after : Workspace}

theorem revert_eq_rename (mutant : Mutant) (now : Workspace) :
    mutant.revert now =
      if mutant.applied then
        match now.rename (Backup.pathOf mutant.file) mutant.file with
        | .error fault => (.error (.fault fault), now)
        | .ok renamed =>
          (.ok { mutant with applied := false }, Backup.clearBytecode mutant.file renamed)
      else (.error (.notApplied mutant.file), now) := by
  cases isApplied : mutant.applied with
  | false =>
    rw [revert, isApplied]
    rfl
  | true =>
    rw [revert_eq_run isApplied, reverting, Course.run, if_pos rfl]
    cases now.rename (Backup.pathOf mutant.file) mutant.file with
    | error fault => rfl
    | ok renamed =>
      dsimp only
      rw [Backup.run_clearing]

theorem apply_ok (isApplied : mutant.apply before = (.ok applied, between)) :
    mutant.applied = false ∧ applied = { mutant with applied := true } ∧
      between.find (Backup.pathOf mutant.file) = .ok (.file mutant.source.toUTF8) ∧
      (before.Named → between.Named ∧
        between.find mutant.file = .ok (.file mutant.mutated.toUTF8)) := by
  rw [apply_eq] at isApplied
  repeat' split at isApplied
  · exact nomatch (Prod.mk.inj isApplied).1
  · exact nomatch (Prod.mk.inj isApplied).1
  · exact nomatch (Prod.mk.inj isApplied).1
  rename_i notApplied _ backed isBacked _ written isWritten
  obtain ⟨same, rfl⟩ := Prod.mk.inj isApplied
  obtain ⟨sameFirst, foundBackup⟩ := Workspace.write_spec isBacked
  obtain ⟨sameSecond, found⟩ := Workspace.write_spec isWritten
  refine ⟨by simpa using notApplied, (Except.ok.inj same).symm, ?_, fun named => ?_⟩
  · refine (Backup.clearing_sameBut mutant.file written).find_file
      (Backup.notCleared_backup _ written) (sameSecond.find_file ?_ foundBackup)
    exact Backup.target_pathOf_ne backed mutant.file
  · have namedLast := (named.written sameFirst foundBackup).written sameSecond found
    exact ⟨Backup.named_cleared found namedLast, Backup.find_cleared found namedLast⟩

theorem revert_ok {content : ByteArray} (named : now.Named)
    (isReverted : mutant.revert now = (.ok reverted, after))
    (backup : now.find (Backup.pathOf mutant.file) = .ok (.file content)) :
    reverted = { mutant with applied := false } ∧ after.find mutant.file = .ok (.file content) ∧
      after.has (Backup.pathOf mutant.file) = false := by
  rw [revert_eq_rename] at isReverted
  repeat' split at isReverted
  · exact nomatch (Prod.mk.inj isReverted).1
  · rename_i _ renamed isRenamed
    obtain ⟨same, rfl⟩ := Prod.mk.inj isReverted
    obtain ⟨sameBut, nothing, moved⟩ :=
      Workspace.find_of_rename isRenamed backup (Backup.target_pathOf_ne now mutant.file)
    have noBackup : renamed.has (Backup.pathOf mutant.file) = false :=
      Workspace.not_has_of_nothing (sameBut.target _ ▸ nothing)
    refine ⟨(Except.ok.inj same).symm,
      Backup.find_cleared moved (named.renamed sameBut backup moved), ?_⟩
    rw [(Backup.clearing_sameBut mutant.file renamed).has (Backup.notCleared_backup _ renamed),
      noBackup]
  · exact nomatch (Prod.mk.inj isReverted).1

/-- A mutant that has been applied can be taken off at once. Whenever it is taken off, as long as the
backup is left alone, the file holds the source of the mutant and has no backup. So it is as it was before
exactly if that is what it held. -/
theorem apply_revert (named : before.Named) (isApplied : mutant.apply before = (.ok applied, between)) :
    (∃ after, applied.revert between = (.ok mutant, after)) ∧
      ∀ now reverted after, now.Named →
        now.find (Backup.pathOf mutant.file) = between.find (Backup.pathOf mutant.file) →
        applied.revert now = (.ok reverted, after) →
        reverted = mutant ∧ after.has (Backup.pathOf mutant.file) = false ∧
          after.find mutant.file = .ok (.file mutant.source.toUTF8) ∧
          (after.find mutant.file = before.find mutant.file ↔
            before.find mutant.file = .ok (.file mutant.source.toUTF8)) := by
  obtain ⟨notApplied, rfl, backup, further⟩ := apply_ok isApplied
  obtain ⟨-, found⟩ := further named
  have back : { { mutant with applied := true } with applied := false } = mutant := by
    rw [← notApplied]
  constructor
  · obtain ⟨renamed, isRenamed, -⟩ := Backup.restore_of_find found backup
    refine ⟨Backup.clearBytecode mutant.file renamed, ?_⟩
    rw [revert_eq_rename, if_pos rfl, isRenamed]
    exact congrArg (fun mutant => (Except.ok mutant, _)) back
  · intro now reverted after namedNow kept isReverted
    obtain ⟨rfl, isSource, noBackup⟩ := revert_ok namedNow isReverted (kept.trans backup)
    exact ⟨back, noBackup, isSource, by rw [isSource, eq_comm]⟩

/-- The file of the mutant alone. -/
def alone (text : String) : Workspace :=
  ⟨.directory [("a.py", .file text.toUTF8)], [], []⟩

/-- The file of the mutant and a backup that holds the source. -/
def backedUp (text : String) : Workspace :=
  ⟨.directory [("a.py", .file text.toUTF8), ("a.py.bak", .file doubled.source.toUTF8)], [], []⟩

/-- The file is as it was, whatever the tests have written into it. -/
theorem doubled_reverted :
    let before := alone doubled.source
    let applied : Mutant := { doubled with applied := true }
    before.Named ∧ doubled.apply before = (.ok applied, backedUp doubled.mutated) ∧
      applied.revert (backedUp "x = 3\n") = (.ok doubled, before) ∧
      before.find doubled.file = .ok (.file doubled.source.toUTF8) := by
  have named : (alone doubled.source).Named := Workspace.named_of_files (by decide)
  have isApplied : doubled.apply (alone doubled.source) =
    (.ok { doubled with applied := true }, backedUp doubled.mutated) := rfl
  have isReverted : ({ doubled with applied := true } : Mutant).revert (backedUp "x = 3\n") =
    (.ok doubled, alone doubled.source) := rfl
  obtain ⟨-, reverts⟩ := apply_revert named isApplied
  obtain ⟨-, -, isSource, -⟩ :=
    reverts _ _ _ (Workspace.named_of_files (by decide)) rfl isReverted
  exact ⟨named, isApplied, isReverted, isSource⟩

/-- A file that has been changed since it was read is not as it was. -/
theorem doubled_loses_change :
    ∃ applied between after, doubled.apply (alone "x = 9\n") = (.ok applied, between) ∧
      applied.revert between = (.ok doubled, after) ∧
      (alone "x = 9\n").readText doubled.file = .ok "x = 9\n" ∧
      after.readText doubled.file = .ok "x = 1\n" :=
  ⟨{ doubled with applied := true }, backedUp doubled.mutated, alone doubled.source, rfl, rfl,
    Workspace.readText_of_find rfl, Workspace.readText_of_find rfl⟩

end Mutant

end MutationTesting
