import MutationTesting.Proofs.Cache.Reached
import MutationTesting.Proofs.CommandLine.Backups
import MutationTesting.Proofs.CommandLine.Restored
import MutationTesting.Proofs.Mutant.Reverted
import MutationTesting.Proofs.Suite.Generations
/-! Mutants that are written for good with a backup. From then on no mutant of the file is written, so
the backup stays what the file was, until it is put back. -/
namespace MutationTesting

open OnBench Sequence

namespace OnBench

theorem look_apply {α : Type} (question : Workspace → Workspace.Result α) (bench : Bench) :
    files (OnDisk.look question) bench =
      ((question bench.workspace).mapError Error.fault, bench) := by
  unfold files OnDisk.look
  cases question bench.workspace <;> rfl

theorem save_apply (bench : Bench) :
    save bench =
      match bench.workspace.replace bench.cache.path bench.cache.data.encode.toUTF8 with
      | .error fault => (.error (.fault fault), bench)
      | .ok workspace => (.ok (), { bench with workspace }) := by
  unfold save Cache.save
  cases replaced : bench.workspace.replace bench.cache.path bench.cache.data.encode.toUTF8 with
  | error fault => rw [change_error replaced]
  | ok workspace => rw [change_ok replaced]

end OnBench

namespace Mutant

variable {mutant : Mutant} {before after : Workspace} {content : ByteArray}

/-- Writing a mutant for good with a backup: the source is in the backup and the mutant in the file. -/
theorem writePermanently_spec (named : before.Named)
    (written : mutant.writePermanently true before = (.ok (), after)) :
    after.Named ∧ after.find mutant.file = .ok (.file mutant.mutated.toUTF8) ∧
      after.find (Backup.pathOf mutant.file) = .ok (.file mutant.source.toUTF8) := by
  unfold writePermanently at written
  simp only [if_true] at written
  obtain ⟨⟨⟩, between, first, written⟩ := ok_of_bind written
  obtain ⟨⟨⟩, last, second, adjusted⟩ := ok_of_bind written
  obtain ⟨-, rfl⟩ := Prod.mk.inj adjusted
  obtain ⟨sameFirst, foundBackup⟩ := Workspace.write_spec (of_change first)
  obtain ⟨sameSecond, found⟩ := Workspace.write_spec (of_change second)
  have namedLast : last.Named := (named.written sameFirst foundBackup).written sameSecond found
  have keptBackup : last.find (Backup.pathOf mutant.file) = .ok (.file mutant.source.toUTF8) := by
    refine sameSecond.find_file ?_ foundBackup
    have apart := Backup.target_pathOf_ne last mutant.file
    rwa [sameSecond.target, sameSecond.target] at apart
  exact ⟨Backup.named_cleared found namedLast, Backup.find_cleared found namedLast,
    (Backup.clearing_sameBut mutant.file last).find_file (Backup.notCleared_backup _ last) keptBackup⟩

end Mutant

namespace Mutator

variable {mutator : Mutator} {number : Nat} {before after : Bench} {mutant : Mutant}

/-- The mutant of a text that has a number in data. -/
def remade (mutator : Mutator) (number : Nat) (file : Path) (source : String) (data : CacheData) :
    Except Error Mutant := do
  let (_, id) ← data.lookup number
  match ← mutator.find? file source id with
  | some mutant => return mutant
  | none => throw (.mutantNotFound file id)

/-- A mutant is made once its file has been read and the cache has been brought in line with the
file and stored. -/
theorem mutantOf_eq (mutator : Mutator) (number : Nat) (bench : Bench) :
    mutator.mutantOf number bench =
      match bench.cache.data.lookup number with
      | .error error => (.error error, bench)
      | .ok (file, _) =>
        match bench.workspace.readText file with
        | .error fault => (.error (.fault fault), bench)
        | .ok source =>
          let data := bench.cache.data.updateLines file source
          match bench.workspace.replace bench.cache.path data.encode.toUTF8 with
          | .error fault => (.error (.fault fault), bench.withData data)
          | .ok workspace =>
            (mutator.remade number file source data, { bench.withData data with workspace }) := by
  unfold mutantOf
  simp only [bind_apply, OnBench.cached, lift_apply, OnBench.look_apply, OnBench.recache]
  cases bench.cache.data.lookup number with
  | error error => rfl
  | ok found =>
    obtain ⟨file, id⟩ := found
    dsimp only
    cases bench.workspace.readText file with
    | error fault => rfl
    | ok source =>
      dsimp only [Except.mapError]
      rw [OnBench.save_apply]
      dsimp only [Bench.withData]
      cases bench.workspace.replace bench.cache.path
        (bench.cache.data.updateLines file source).encode.toUTF8 with
      | error fault => rfl
      | ok workspace =>
        dsimp only [remade]
        cases (bench.cache.data.updateLines file source).lookup number with
        | error error => rfl
        | ok found =>
          dsimp only [bind, Except.bind]
          obtain error | (- | mutant) := mutator.find? file source found.2 <;> rfl

/-- A mutant is written for good once it has been made, unless its file has a backup. -/
theorem applyNumber_eq (mutator : Mutator) (number : Nat) (backup : Bool) (bench : Bench) :
    mutator.applyNumber number backup bench =
      match bench.cache.data.lookup number with
      | .error error => (.error error, bench)
      | .ok (file, _) =>
        if bench.workspace.has (Backup.pathOf file) then
          (.error (.orphanedBackup file (Backup.pathOf file)), bench)
        else
          match mutator.mutantOf number bench with
          | (.error error, between) => (.error error, between)
          | (.ok mutant, between) =>
            let (written, workspace) := mutant.writePermanently backup between.workspace
            (written.map fun () => mutant, { between with workspace }) := by
  unfold applyNumber
  simp only [bind_apply, OnBench.cached, lift_apply, OnBench.files, CommandLine.ensureNone_apply]
  cases bench.cache.data.lookup number with
  | error error => rfl
  | ok found =>
    obtain ⟨file, id⟩ := found
    dsimp only
    cases backed : bench.workspace.has (Backup.pathOf file) with
    | true =>
      have orphan : Backup.firstLeftover? bench.workspace [file] =
          some (file, Backup.pathOf file) := by
        simp [Backup.firstLeftover?, Backup.leftover?, backed]
      rw [orphan]
      rfl
    | false =>
      have none : Backup.firstLeftover? bench.workspace [file] = none := by
        simp [Backup.firstLeftover?, Backup.leftover?, backed]
      rw [none]
      dsimp only
      obtain ⟨error | mutant, between⟩ := mutator.mutantOf number bench
      · rfl
      · dsimp only
        obtain ⟨error | _, workspace⟩ := mutant.writePermanently backup between.workspace <;> rfl

theorem remade_ok {file : Path} {source : String} {data : CacheData}
    (made : mutator.remade number file source data = .ok mutant) :
    ∃ other, data.lookup number = .ok (other, mutant.id) ∧
      mutator.find? file source mutant.id = .ok (some mutant) ∧ mutant.file = file ∧
      mutant.source = source := by
  unfold remade at made
  cases looked : data.lookup number with
  | error cause => simp [looked, bind, Except.bind] at made
  | ok found =>
    obtain ⟨other, id⟩ := found
    cases isFound : mutator.find? file source id with
    | error cause => simp [looked, isFound, bind, Except.bind] at made
    | ok found? =>
      simp only [looked, isFound, bind, Except.bind] at made
      cases found? with
      | none => contradiction
      | some one =>
        obtain rfl := Except.ok.inj made
        obtain ⟨rfl, sameFile, sameSource, -, -⟩ := find?_spec isFound
        exact ⟨other, rfl, isFound, sameFile, sameSource⟩

/-- A mutant that a number leads to is one of its file as the file is, and the cache has been brought
in line with the file and stored. -/
theorem mutantOf_ok (made : mutator.mutantOf number before = (.ok mutant, after)) :
    ∃ id workspace, before.cache.data.lookup number = .ok (mutant.file, id) ∧
      before.workspace.readText mutant.file = .ok mutant.source ∧
      mutator.find? mutant.file mutant.source mutant.id = .ok (some mutant) ∧
      before.workspace.replace before.cache.path
        (before.cache.data.updateLines mutant.file mutant.source).encode.toUTF8 = .ok workspace ∧
      after = { before.withData (before.cache.data.updateLines mutant.file mutant.source) with
        workspace } := by
  rw [mutantOf_eq] at made
  cases looked : before.cache.data.lookup number with
  | error cause =>
    rw [looked] at made
    exact absurd (Prod.mk.inj made).1 (by simp)
  | ok found =>
    obtain ⟨file, id⟩ := found
    rw [looked] at made
    dsimp only at made
    cases isText : before.workspace.readText file with
    | error fault =>
      rw [isText] at made
      exact absurd (Prod.mk.inj made).1 (by simp)
    | ok source =>
      rw [isText] at made
      dsimp only at made
      cases replaced : before.workspace.replace before.cache.path
        (before.cache.data.updateLines file source).encode.toUTF8 with
      | error fault =>
        rw [replaced] at made
        exact absurd (Prod.mk.inj made).1 (by simp)
      | ok workspace =>
        rw [replaced] at made
        obtain ⟨isMade, rfl⟩ := Prod.mk.inj made
        obtain ⟨-, -, isFound, rfl, rfl⟩ := remade_ok isMade
        exact ⟨id, workspace, rfl, isText, isFound, replaced, rfl⟩

theorem applyNumber_spec (named : before.workspace.Named)
    (applied : mutator.applyNumber number true before = (.ok mutant, after)) :
    (∃ id, before.cache.data.lookup number = .ok (mutant.file, id)) ∧
      before.workspace.find mutant.file = .ok (.file mutant.source.toUTF8) ∧
      before.workspace.has (Backup.pathOf mutant.file) = false ∧
      mutator.find? mutant.file mutant.source mutant.id = .ok (some mutant) ∧
      after.workspace.Named ∧
      after.workspace.find mutant.file = .ok (.file mutant.mutated.toUTF8) ∧
      after.workspace.find (Backup.pathOf mutant.file) = .ok (.file mutant.source.toUTF8) := by
  rw [applyNumber_eq] at applied
  cases looked : before.cache.data.lookup number with
  | error cause =>
    rw [looked] at applied
    exact absurd (Prod.mk.inj applied).1 (by simp)
  | ok found =>
    obtain ⟨file, id⟩ := found
    rw [looked] at applied
    dsimp only at applied
    split at applied
    · exact absurd (Prod.mk.inj applied).1 (by simp)
    · rename_i noBackup
      split at applied
      · exact absurd (Prod.mk.inj applied).1 (by simp)
      · rename_i other between made
        obtain ⟨id', workspace, looked', isText, isFound, replaced, rfl⟩ := mutantOf_ok made
        generalize written : other.writePermanently true _ = outcome at applied
        obtain ⟨error | ⟨⟩, last⟩ := outcome
        · exact absurd (Prod.mk.inj applied).1 (by simp [Except.map])
        · obtain ⟨same, rfl⟩ := Prod.mk.inj applied
          obtain rfl := Except.ok.inj same
          obtain ⟨rfl, -⟩ := Prod.mk.inj (Except.ok.inj (looked.symm.trans looked'))
          obtain ⟨sameBut, stored⟩ := Workspace.replace_spec replaced
          -- The file is read before the cache is stored, so its text is that of before even if the
          -- cache is stored in its place.
          exact ⟨⟨id, rfl⟩, Workspace.find_of_readText isText, by simpa using noBackup, isFound,
            Mutant.writePermanently_spec (named.written sameBut stored) written⟩

/-- As long as the file has a backup, no mutant of it is written, and the cache stays as it is. -/
theorem applyNumber_refused {file : Path} {id : MutantId} {bench : Bench}
    (looked : bench.cache.data.lookup number = .ok (file, id))
    (backed : bench.workspace.has (Backup.pathOf file) = true) (backup : Bool) :
    mutator.applyNumber number backup bench =
      (.error (.orphanedBackup file (Backup.pathOf file)), bench) := by
  rw [applyNumber_eq, looked]
  exact if_pos backed

end Mutator

/-- A try to write a mutant for good, which may fail. -/
structure Try where
  mutator : Mutator
  number : Nat
  backup : Bool

namespace Try

variable {file : Path} {bench : Bench}

/-- What a try yields. -/
def outcome (one : Try) : OnBench (Except Error Mutant) :=
  attempt (one.mutator.applyNumber one.number one.backup)

/-- The number is that of a mutant of a file. -/
def IsFor (file : Path) (data : CacheData) (one : Try) : Prop :=
  ∃ id, data.lookup one.number = .ok (file, id)

theorem outcome_refused {one : Try} (isFor : one.IsFor file bench.cache.data)
    (backed : bench.workspace.has (Backup.pathOf file) = true) :
    one.outcome bench = (.ok (.error (.orphanedBackup file (Backup.pathOf file))), bench) := by
  obtain ⟨id, looked⟩ := isFor
  unfold outcome attempt
  rw [Mutator.applyNumber_refused looked backed]

theorem mapM_outcome_refused {tries : List Try}
    (backed : bench.workspace.has (Backup.pathOf file) = true)
    (areFor : ∀ one ∈ tries, one.IsFor file bench.cache.data) :
    tries.mapM outcome bench =
      (.ok (tries.map fun _ => .error (.orphanedBackup file (Backup.pathOf file))), bench) := by
  induction tries with
  | nil => rfl
  | cons one rest ih =>
    rw [List.mapM_cons, bind_apply, outcome_refused (areFor one List.mem_cons_self) backed]
    dsimp only
    rw [bind_apply, ih fun other member => areFor other (List.mem_cons_of_mem _ member)]
    rfl

end Try

namespace CommandLine

theorem restoreFile_of_named {file : Path} {workspace : Workspace} {content kept : ByteArray}
    (named : workspace.Named) (found : workspace.find file = .ok (.file content))
    (backup : workspace.find (Backup.pathOf file) = .ok (.file kept)) :
    let outcome := outcomeOf (restoreFile file) workspace
    outcome.code = 0 ∧ outcome.workspace.find file = .ok (.file kept) ∧
      outcome.workspace.has (Backup.pathOf file) = false := by
  refine restoreFile_of_kept found backup fun renamed moves => ?_
  obtain ⟨other, movesToo, -, same, -, moved⟩ := Backup.restore_of_find found backup
  obtain rfl := Except.ok.inj (moves.symm.trans movesToo)
  exact Backup.find_cleared moved (named.renamed same backup moved)

/-- A mutant that is written for good with a backup is in the place of its file, which had no backup,
and what the file was is in the backup. All further tries to write a mutant of this file are refused
and change nothing, so what the file was can be put back. -/
theorem applied_stays_until_restored {mutator : Mutator} {number : Nat} {before after : Bench}
    {mutant : Mutant} (named : before.workspace.Named)
    (applied : mutator.applyNumber number true before = (.ok mutant, after)) :
    let source : Workspace.Result Entry := .ok (.file mutant.source.toUTF8)
    let backup := Backup.pathOf mutant.file
    let restored := outcomeOf (restoreFile mutant.file) after.workspace
    (∃ id, before.cache.data.lookup number = .ok (mutant.file, id)) ∧
      mutator.find? mutant.file mutant.source mutant.id = .ok (some mutant) ∧
      before.workspace.find mutant.file = source ∧ before.workspace.has backup = false ∧
      after.workspace.find mutant.file = .ok (.file mutant.mutated.toUTF8) ∧
      after.workspace.find backup = source ∧
      (∀ tries : List Try, (∀ one ∈ tries, one.IsFor mutant.file after.cache.data) →
        tries.mapM Try.outcome after =
          (.ok (tries.map fun _ => .error (.orphanedBackup mutant.file backup)), after)) ∧
      restored.code = 0 ∧ restored.workspace.find mutant.file = source ∧
      restored.workspace.has backup = false := by
  intro source backup restored
  obtain ⟨looked, found, noBackup, isMutant, namedAfter, mutated, kept⟩ :=
    Mutator.applyNumber_spec named applied
  refine ⟨looked, isMutant, found, noBackup, mutated, kept, fun tries areFor => ?_, ?_⟩
  · exact Try.mapM_outcome_refused (Workspace.has_of_find kept) areFor
  · exact restoreFile_of_named namedAfter mutated kept

/-- The source alone, with a number for its mutant. -/
def numbered : Bench where
  workspace := sourceAlone
  cache :=
    let line : CachedLine := ⟨Campaign.assignmentId.line, 0, [⟨1, 0, .untested, none⟩]⟩
    ⟨Cache.storedPath, ⟨none, 2, [(Campaign.plain, ⟨[line]⟩)]⟩⟩
  turn := 0
  log := []

theorem named_sourceAlone : sourceAlone.Named :=
  Workspace.named_of_files (List.forall_mem_singleton.mpr ⟨⟨by decide, by decide⟩, rfl⟩)

/-- Neither with a backup nor without one is the mutant written again, and its source is put back. -/
theorem numbered_stays_until_restored :
    let mutator := mutatorFor idleTools []
    let after := (mutator.applyNumber 1 true numbered).2
    let refused : Except Error Mutant :=
      .error (.orphanedBackup increased.file (Backup.pathOf increased.file))
    sourceAlone.Named ∧ mutator.applyNumber 1 true numbered = (.ok increased, after) ∧
      [⟨mutator, 1, true⟩, ⟨mutator, 1, false⟩].mapM Try.outcome after =
        (.ok [refused, refused], after) ∧
      (outcomeOf (restoreFile increased.file) after.workspace).workspace.find increased.file =
        .ok (.file increased.source.toUTF8) := by
  intro mutator after refused
  have isMutant : (mutator.applyNumber 1 true numbered).1.toOption = some increased := by
    decide +kernel
  have applied : mutator.applyNumber 1 true numbered = (.ok increased, after) :=
    Prod.ext (ok_of_toOption isMutant) rfl
  obtain ⟨-, -, -, -, -, -, refuses, -, restored, -⟩ :=
    applied_stays_until_restored named_sourceAlone applied
  refine ⟨named_sourceAlone, applied, refuses _ ?_, restored⟩
  have isFor : (after.cache.data.lookup 1).toOption = some (increased.file, increased.id) := by
    decide +kernel
  simpa [Try.IsFor] using ⟨increased.id, ok_of_toOption isFor⟩

end CommandLine

end MutationTesting
