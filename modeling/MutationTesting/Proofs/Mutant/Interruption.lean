import MutationTesting.Proofs.Mutant.Standing
/-! Putting a mutant in the place of its file and taking it off again, one operation on the files
after the other. An interruption may come before, between and after the operations. Whenever it
comes, the original is in the file, or in the backup of the file, but for one case: while the backup
is being written it is there and empty. -/
namespace MutationTesting

open Sequence

/-- Operations on the files, each of which is done as a whole or not at all. What comes after an
operation may depend on the files that it leaves. -/
inductive Course where
  | ended
  | step (operation : Workspace → Workspace.Result Workspace) (next : Workspace → Course)

namespace Course

/-- What a course comes to. An operation that fails ends it. -/
def run : Course → Workspace → Except Error Unit × Workspace
  | ended, workspace => (.ok (), workspace)
  | step operation next, workspace =>
    match operation workspace with
    | .ok after => (next after).run after
    | .error fault => (.error (.fault fault), workspace)

/-- A state of the files in which a course can be interrupted: before, between and after its
operations. -/
def Passes : Course → Workspace → Workspace → Prop
  | ended, workspace, now => now = workspace
  | step operation next, workspace, now =>
    now = workspace ∨ ∃ after, operation workspace = .ok after ∧ (next after).Passes after now

/-- Writes a file: it is emptied and then filled. -/
def write (path : Path) (content : ByteArray) (next : Workspace → Course) : Course :=
  step (·.truncate path) fun _ => step (·.replace path content) next

/-- Removes files, those that can be removed. -/
def remove : List Path → Course
  | [] => ended
  | path :: rest =>
    step (fun workspace => .ok (Backup.removeIfFile workspace path)) fun _ => remove rest

variable {path : Path} {content : ByteArray} {next : Workspace → Course}
  {workspace now : Workspace}

theorem passes_of_run {course : Course} (ended : course.run workspace = (.ok (), now)) :
    course.Passes workspace now := by
  induction course generalizing workspace with
  | ended => exact (Prod.mk.inj ended).2.symm
  | step operation next ih =>
    unfold run at ended
    cases done : operation workspace with
    | error fault => simp [done] at ended
    | ok after =>
      rw [done] at ended
      exact .inr ⟨after, done, ih after ended⟩

theorem run_write :
    (write path content next).run workspace =
      match workspace.write path content with
      | .ok after => (next after).run after
      | .error fault => (.error (.fault fault), workspace) := by
  unfold write Workspace.write
  simp only [run]
  cases emptied : workspace.truncate path with
  | error fault => rfl
  | ok between =>
    -- What has been emptied can be filled, so no failure leaves an empty file behind.
    have there := (Workspace.replace_spec
      (show workspace.replace path .empty = .ok between from emptied)).2
    obtain ⟨after, filled⟩ := Workspace.replace_of_find there content
    simp only [bind, Except.bind, filled]

theorem passes_write :
    (write path content next).Passes workspace now ↔
      now = workspace ∨ workspace.truncate path = .ok now ∨
        ∃ between after, workspace.truncate path = .ok between ∧
          between.replace path content = .ok after ∧ (next after).Passes after now := by
  unfold write
  simp only [Passes]
  constructor
  · rintro (rfl | ⟨between, emptied, rfl | ⟨after, filled, passes⟩⟩)
    · exact .inl rfl
    · exact .inr (.inl emptied)
    · exact .inr (.inr ⟨between, after, emptied, filled, passes⟩)
  · rintro (rfl | emptied | ⟨between, after, emptied, filled, passes⟩)
    · exact .inl rfl
    · exact .inr ⟨now, emptied, .inl rfl⟩
    · exact .inr ⟨between, emptied, .inr ⟨after, filled, passes⟩⟩

theorem run_remove (paths : List Path) (workspace : Workspace) :
    (remove paths).run workspace = (.ok (), paths.foldl Backup.removeIfFile workspace) := by
  induction paths generalizing workspace with
  | nil => rfl
  | cons path rest ih => exact ih (Backup.removeIfFile workspace path)

theorem sameBut_of_passes {paths : List Path} (passes : (remove paths).Passes workspace now) :
    workspace.SameBut (fun address => ∃ path ∈ paths, address = workspace.target path) now := by
  induction paths generalizing workspace with
  | nil =>
    rw [show now = workspace from passes]
    exact .refl _ _
  | cons path rest ih =>
    obtain rfl | ⟨after, removed, passes⟩ := passes
    · exact .refl _ _
    obtain rfl := Except.ok.inj removed
    have first := Backup.removeIfFile_sameBut workspace path
    have later := ih passes
    simp only [first.target] at later
    refine (first.mono ?_).trans (later.mono ?_)
    · rintro address rfl
      exact ⟨path, List.mem_cons_self, rfl⟩
    · rintro address ⟨other, member, rfl⟩
      exact ⟨other, List.mem_cons_of_mem _ member, rfl⟩

end Course

namespace Backup

/-- The compiled forms of a file. -/
def compiledForms (workspace : Workspace) (file : Path) : List Path :=
  match file.directory?, file.stem? with
  | some directory, some stem =>
    let compiled := directory.join bytecodeDirectory
    match workspace.list compiled with
    | .ok entries =>
      ((entries.map Prod.fst).filter (isBytecodeOf stem)).map fun name => compiled.join ⟨name⟩
    | .error _ => []
  | _, _ => []

/-- Removes the compiled forms of a file. -/
def clearing (file : Path) (workspace : Workspace) : Course :=
  .remove (compiledForms workspace file)

theorem isCompiled_of_mem {workspace : Workspace} {file path : Path}
    (member : path ∈ compiledForms workspace file) : IsCompiled file path := by
  unfold compiledForms at member
  split at member
  · rename_i directory stem isDirectory isStem
    dsimp only at member
    split at member
    · obtain ⟨name, isName, rfl⟩ := List.mem_map.mp member
      exact ⟨directory, stem, name, isDirectory, isStem, (List.mem_filter.mp isName).2, rfl⟩
    · contradiction
  · contradiction

theorem clearBytecode_eq (file : Path) (workspace : Workspace) :
    clearBytecode file workspace = (compiledForms workspace file).foldl removeIfFile workspace := by
  unfold clearBytecode compiledForms
  cases file.directory? with
  | none => rfl
  | some directory =>
    cases file.stem? with
    | none => rfl
    | some stem =>
      dsimp only
      cases workspace.list (directory.join bytecodeDirectory) with
      | error fault => rfl
      | ok entries => rw [List.foldl_map]

theorem run_clearing (file : Path) (workspace : Workspace) :
    (clearing file workspace).run workspace = (.ok (), clearBytecode file workspace) := by
  rw [clearing, Course.run_remove, clearBytecode_eq]

end Backup

namespace Mutant

variable {mutant : Mutant} {before workspace now after : Workspace}

/-- Puts a mutant in the place of its file. -/
def applying (mutant : Mutant) : Course :=
  .write (Backup.pathOf mutant.file) mutant.source.toUTF8 fun _ =>
    .write mutant.file mutant.mutated.toUTF8 (Backup.clearing mutant.file)

/-- Takes a mutant off. -/
def reverting (mutant : Mutant) : Course :=
  .step (·.rename (Backup.pathOf mutant.file) mutant.file) (Backup.clearing mutant.file)

/-- A course that is not interrupted does what applying a mutant does. -/
theorem apply_eq_run (notApplied : mutant.applied = false) (workspace : Workspace) :
    mutant.apply workspace =
      match mutant.applying.run workspace with
      | (.ok (), after) => (.ok { mutant with applied := true }, after)
      | (.error error, after) => (.error error, after) := by
  have start : mutant.apply workspace = (do
      OnDisk.change fun workspace => workspace.writeText (Backup.pathOf mutant.file) mutant.source
      OnDisk.change fun workspace => workspace.writeText mutant.file mutant.mutated
      OnDisk.adjust (Backup.clearBytecode mutant.file)
      return { mutant with applied := true } : OnDisk Mutant) workspace := by
    simp [apply, notApplied]
  rw [start, bind_apply, applying, Course.run_write]
  cases first : workspace.write (Backup.pathOf mutant.file) mutant.source.toUTF8 with
  | error fault => rw [change_error first]
  | ok between =>
    rw [change_ok first]
    dsimp only
    rw [bind_apply, Course.run_write]
    cases second : between.write mutant.file mutant.mutated.toUTF8 with
    | error fault => rw [change_error second]
    | ok after =>
      rw [change_ok second]
      dsimp only
      rw [Backup.run_clearing]
      rfl

theorem revert_eq_run (applied : mutant.applied = true) (workspace : Workspace) :
    mutant.revert workspace =
      match mutant.reverting.run workspace with
      | (.ok (), after) => (.ok { mutant with applied := false }, after)
      | (.error error, after) => (.error error, after) := by
  have start : mutant.revert workspace = (do
      Backup.restore mutant.file (Backup.pathOf mutant.file)
      return { mutant with applied := false } : OnDisk Mutant) workspace := by
    simp [revert, applied]
  rw [start, Backup.restore, bind_apply, bind_apply, reverting]
  cases renamed : workspace.rename (Backup.pathOf mutant.file) mutant.file with
  | error fault =>
    rw [change_error renamed]
    simp only [Course.run, renamed]
  | ok after =>
    rw [change_ok renamed]
    simp only [Course.run, renamed, Backup.run_clearing]
    rfl

/-- The original of a mutant is in its file, which has no backup. -/
structure IsOriginal (mutant : Mutant) (before now : Workspace) : Prop where
  here : now.here = before.here
  file : now.find mutant.file = .ok (.file mutant.source.toUTF8)
  backup : now.has (Backup.pathOf mutant.file) = false

/-- The original of a mutant is in the backup of its file, whatever the file holds. -/
structure IsBacked (mutant : Mutant) (before now : Workspace) : Prop where
  here : now.here = before.here
  file : ∃ content, now.find mutant.file = .ok (.file content)
  backup : now.find (Backup.pathOf mutant.file) = .ok (.file mutant.source.toUTF8)

/-- The file of a mutant and its backup are as they were. -/
structure LeftAlone (mutant : Mutant) (before now : Workspace) : Prop where
  here : now.here = before.here
  file : now.find mutant.file = before.find mutant.file
  backup : now.find (Backup.pathOf mutant.file) = before.find (Backup.pathOf mutant.file)

/-- The files when the test of a mutant is interrupted: while it is put in the place of its file,
while the tests are run, which leave the file and its backup alone, or while it is taken off. -/
inductive Interrupted (mutant : Mutant) (before : Workspace) : Workspace → Prop where
  | applying {now : Workspace} : mutant.applying.Passes before now → Interrupted mutant before now
  | testing {applied now : Workspace} : mutant.applying.run before = (.ok (), applied) →
      mutant.LeftAlone applied now → Interrupted mutant before now
  | reverting {applied tested now : Workspace} : mutant.applying.run before = (.ok (), applied) →
      mutant.LeftAlone applied tested → mutant.reverting.Passes tested now →
      Interrupted mutant before now

section Clearing

variable {file path : Path} {changed : List String → Prop}

theorem sameBut_of_clearing (passes : (Backup.clearing file workspace).Passes workspace now) :
    workspace.SameBut
      (fun address => ∃ path, Backup.IsCompiled file path ∧ address = workspace.target path)
      now := by
  apply (Course.sameBut_of_passes passes).mono
  rintro address ⟨path, member, rfl⟩
  exact ⟨path, Backup.isCompiled_of_mem member, rfl⟩

theorem not_compiled_of_backup (file : Path) (workspace : Workspace) :
    ¬ ∃ path, Backup.IsCompiled file path ∧
      workspace.target (Backup.pathOf file) = workspace.target path := by
  rintro ⟨path, isCompiled, same⟩
  exact Workspace.target_ne_of_getLast? (Backup.getLast?_pathOf file) isCompiled.getLast? (by decide)
    (by decide) (by decide) workspace same

variable (apart : ∀ path, Backup.IsCompiled mutant.file path →
  before.target path ≠ before.target mutant.file)
include apart

theorem not_compiled_of_file (here : workspace.here = before.here) :
    ¬ ∃ path, Backup.IsCompiled mutant.file path ∧
      workspace.target mutant.file = workspace.target path := by
  rintro ⟨path, isCompiled, same⟩
  apply apart path isCompiled
  simpa only [Workspace.target, here] using same.symm

theorem IsOriginal.cleared (original : mutant.IsOriginal before workspace)
    (passes : (Backup.clearing mutant.file workspace).Passes workspace now) :
    mutant.IsOriginal before now := by
  have same := sameBut_of_clearing passes
  constructor
  case here => exact same.here.trans original.here
  case file => exact same.find_file (not_compiled_of_file apart original.here) original.file
  case backup => rw [same.has (not_compiled_of_backup _ _), original.backup]

theorem IsBacked.cleared (backed : mutant.IsBacked before workspace)
    (passes : (Backup.clearing mutant.file workspace).Passes workspace now) :
    mutant.IsBacked before now := by
  have same := sameBut_of_clearing passes
  obtain ⟨content, found⟩ := backed.file
  constructor
  case here => exact same.here.trans backed.here
  case file => exact ⟨content, same.find_file (not_compiled_of_file apart backed.here) found⟩
  case backup => exact same.find_file (not_compiled_of_backup _ _) backed.backup

end Clearing

theorem IsBacked.replace (backed : mutant.IsBacked before workspace) {content : ByteArray}
    (replaced : workspace.replace mutant.file content = .ok after) :
    mutant.IsBacked before after := by
  obtain ⟨same, found⟩ := Workspace.replace_spec replaced
  obtain ⟨old, foundBefore⟩ := backed.file
  constructor
  case here => exact same.here.trans backed.here
  case file => exact ⟨content, found⟩
  case backup => exact same.find_file (Backup.target_pathOf_ne _ _) backed.backup

theorem IsBacked.placed (backed : mutant.IsBacked before workspace)
    (apart : ∀ path, Backup.IsCompiled mutant.file path →
      before.target path ≠ before.target mutant.file)
    (passes : (Course.write mutant.file mutant.mutated.toUTF8
      (Backup.clearing mutant.file)).Passes workspace now) : mutant.IsBacked before now := by
  obtain rfl | emptied | ⟨between, after, emptied, filled, passes⟩ := Course.passes_write.mp passes
  · exact backed
  · exact backed.replace emptied
  · exact ((backed.replace emptied).replace filled).cleared apart passes

theorem isBacked_of_written (original : before.find mutant.file = .ok (.file mutant.source.toUTF8))
    (written : before.write (Backup.pathOf mutant.file) mutant.source.toUTF8 = .ok after) :
    mutant.IsBacked before after := by
  obtain ⟨same, found⟩ := Workspace.write_spec written
  constructor
  case here => exact same.here
  case file => exact ⟨_, same.find_file (Backup.target_pathOf_ne _ _).symm original⟩
  case backup => exact found

theorem IsBacked.leftAlone (backed : mutant.IsBacked before workspace)
    (alone : mutant.LeftAlone workspace now) : mutant.IsBacked before now where
  here := alone.here.trans backed.here
  file := by
    obtain ⟨content, found⟩ := backed.file
    exact ⟨content, alone.file.trans found⟩
  backup := alone.backup.trans backed.backup

/-- While a mutant is taken off, the original is in the backup until it is moved over the file. -/
theorem IsBacked.reverted (backed : mutant.IsBacked before workspace)
    (apart : ∀ path, Backup.IsCompiled mutant.file path →
      before.target path ≠ before.target mutant.file)
    (passes : mutant.reverting.Passes workspace now) :
    mutant.IsOriginal before now ∨ mutant.IsBacked before now := by
  obtain rfl | ⟨after, done, passes⟩ := passes
  · exact .inr backed
  obtain ⟨content, found⟩ := backed.file
  obtain ⟨renamed, isRenamed, -, same, nothing, moved⟩ :=
    Backup.restore_of_find found backed.backup
  obtain rfl : renamed = after := Except.ok.inj (isRenamed.symm.trans done)
  have original : mutant.IsOriginal before renamed := by
    constructor
    case here => exact same.here.trans backed.here
    case file => exact moved
    case backup =>
      apply Workspace.not_has_of_nothing
      rwa [same.target]
  exact .inl (original.cleared apart passes)

section Interruptions

variable (original : before.find mutant.file = .ok (.file mutant.source.toUTF8))
  (apart : ∀ path, Backup.IsCompiled mutant.file path →
    before.target path ≠ before.target mutant.file)
include original apart

/-- When a mutant has been put in the place of its file, the original is in the backup. -/
theorem isBacked_of_applied {applied : Workspace}
    (ended : mutant.applying.run before = (.ok (), applied)) : mutant.IsBacked before applied := by
  unfold applying at ended
  rw [Course.run_write] at ended
  cases written : before.write (Backup.pathOf mutant.file) mutant.source.toUTF8 with
  | error fault =>
    rw [written] at ended
    exact absurd (Prod.mk.inj ended).1 (by simp)
  | ok filled =>
    rw [written] at ended
    exact (isBacked_of_written original written).placed apart (Course.passes_of_run ended)

/-- Whenever the test of a mutant is interrupted, the original is in its file, or in the backup, or
the interruption came when the backup had been emptied and not yet filled. -/
theorem Interrupted.cases (noBackup : before.has (Backup.pathOf mutant.file) = false)
    (interrupted : mutant.Interrupted before now) :
    mutant.IsOriginal before now ∨ mutant.IsBacked before now ∨
      before.truncate (Backup.pathOf mutant.file) = .ok now := by
  cases interrupted with
  | applying passes =>
    obtain rfl | emptied | ⟨between, filled, emptied, fills, passes⟩ :=
      Course.passes_write.mp passes
    · exact .inl ⟨rfl, original, noBackup⟩
    · exact .inr (.inr emptied)
    · have written : before.write (Backup.pathOf mutant.file) mutant.source.toUTF8 = .ok filled := by
        simp only [Workspace.write, emptied, bind, Except.bind, fills]
      exact .inr (.inl ((isBacked_of_written original written).placed apart passes))
  | testing ended alone =>
    exact .inr (.inl ((isBacked_of_applied original apart ended).leftAlone alone))
  | reverting ended alone passes =>
    have backed := (isBacked_of_applied original apart ended).leftAlone alone
    obtain original | backed := backed.reverted apart passes
    · exact .inl original
    · exact .inr (.inl backed)

end Interruptions

end Mutant

end MutationTesting
