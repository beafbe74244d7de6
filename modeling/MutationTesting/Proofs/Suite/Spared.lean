import MutationTesting.Proofs.FileSystem.Frame
import MutationTesting.Proofs.Mutator
import MutationTesting.Proofs.Suite.Rules
/-! A file that is left alone while mutants are tested. Where it is neither a file that is mutated
nor what is written or removed beside one, only the commands could change it, and a campaign where
it writes its own files. The stored cache is such a file: a campaign that a failure ends leaves it
as it was last stored. -/
namespace MutationTesting

open OnBench Sequence

/-- The commands that an executor runs keep a property of the files. -/
def Executor.Keeps (executor : Executor) (holds : Workspace → Prop) : Prop :=
  ∀ turn workspace command limit?, holds workspace →
    holds (executor.run turn workspace command limit?).2

/-- The commands that an executor runs leave the working directory and a file alone. -/
structure Executor.Spares (executor : Executor) (path : Path) : Prop where
  here : ∀ turn workspace command limit?,
    (executor.run turn workspace command limit?).2.here = workspace.here
  file : ∀ turn workspace command limit?,
    (executor.run turn workspace command limit?).2.find path = workspace.find path

/-- The working directory and the content of a file are as they were. -/
structure Spared (here : List String) (path : Path) (content : ByteArray) (workspace : Workspace) :
    Prop where
  here : workspace.here = here
  found : workspace.find path = .ok (.file content)

/-- The path of a file leads neither through another file nor through its backup, nor to one of
them. -/
def Passes (path file : Path) (workspace : Workspace) : Prop :=
  ∀ way ∈ workspace.ways path,
    ¬ workspace.target file <+: way ∧ ¬ workspace.target (Backup.pathOf file) <+: way

/-- Seen from a directory, a path leads neither to a file nor to where its backup can be written,
nor to one of its compiled forms. -/
structure Clear (here : List String) (path file : Path) : Prop where
  target : ∀ workspace : Workspace, workspace.here = here →
    workspace.target file ≠ workspace.target path
  backup : ∀ (workspace : Workspace) (address : List String), workspace.here = here →
    workspace.address (Backup.pathOf file) = .ok address → address ≠ workspace.target path
  compiled : ∀ (workspace : Workspace) (compiled : Path), workspace.here = here →
    Backup.IsCompiled file compiled → workspace.target compiled ≠ workspace.target path

variable {here : List String} {directory path file other : Path} {content : ByteArray} {c d : Char}
  {workspace after : Workspace} {executor : Executor}

/-- A path that ends otherwise than backups and compiled forms is clear of a file to which it does
not lead. -/
theorem Clear.of_getLast? (ends : path.text.toList.getLast? = some c)
    (isOther : c ∉ ['k', 'c', '/', '.'])
    (apart : ∀ workspace : Workspace, workspace.here = here →
      workspace.target file ≠ workspace.target path) : Clear here path file := by
  simp only [List.mem_cons, List.not_mem_nil, or_false, not_or] at isOther
  obtain ⟨noBackup, notCompiled, noSlash, noDot⟩ := isOther
  have named : c ∉ ['/', '.'] := by simp [noSlash, noDot]
  refine ⟨apart, fun workspace address _ leads => ?_, fun workspace compiled _ isCompiled => ?_⟩
  · rw [Workspace.address_eq leads]
    exact Workspace.target_ne_of_getLast? (Backup.getLast?_pathOf file) ends (by decide) named
      (Ne.symm noBackup) workspace
  · exact Workspace.target_ne_of_getLast? isCompiled.getLast? ends (by decide) named
      (Ne.symm notCompiled) workspace

theorem Executor.Spares.keeps (spares : executor.Spares path) :
    executor.Keeps (Spared here path content) :=
  fun _ _ _ _ spared => ⟨(spares.here ..).trans spared.here, (spares.file ..).trans spared.found⟩

namespace Spared

theorem sameBut {changed : List String → Prop} (spared : Spared here path content workspace)
    (same : workspace.SameBut changed after) (apart : ¬ changed (workspace.target path)) :
    Spared here path content after :=
  ⟨same.here.trans spared.here, same.find_file apart spared.found⟩

theorem clearBytecode (spared : Spared here path content workspace) (clear : Clear here path file) :
    Spared here path content (Backup.clearBytecode file workspace) := by
  refine spared.sameBut (Backup.clearBytecode_sameBut workspace file) ?_
  rintro ⟨compiled, isCompiled, same⟩
  exact clear.compiled workspace compiled spared.here isCompiled same.symm

theorem target_pathOf_ne (spared : Spared here path content workspace) (clear : Clear here path file)
    {text : String} (written : workspace.writeText (Backup.pathOf file) text = .ok after) :
    workspace.target (Backup.pathOf file) ≠ workspace.target path := by
  obtain ⟨between, emptied, -⟩ := Workspace.ok_of_bind written
  obtain ⟨address, way, -⟩ := Workspace.ok_of_bind emptied
  have leads := (Workspace.fileAddress_spec way).1
  rw [← Workspace.address_eq leads]
  exact clear.backup workspace address spared.here leads

end Spared

theorem Passes.of_here (passes : Passes path file workspace) (same : after.here = workspace.here) :
    Passes path file after := by
  simpa only [Passes, Workspace.ways, Workspace.target, same] using passes

namespace Mutant

variable {mutant : Mutant}

theorem apply_spared (clear : Clear here path mutant.file) :
    Leads (Spared here path content) mutant.apply
      (fun applied after => applied.file = mutant.file ∧ Spared here path content after ∧
        Passes path mutant.file after)
      (Spared here path content) := by
  have backed : Leads (Spared here path content)
      (OnDisk.change fun workspace => workspace.writeText (Backup.pathOf mutant.file) mutant.source)
      (fun _ after => Spared here path content after ∧
        after.target (Backup.pathOf mutant.file) ≠ after.target path ∧
        ∃ old, after.stand (after.target (Backup.pathOf mutant.file)) = .file old)
      (Spared here path content) := by
    refine .change (fun _ spared => spared) fun workspace after spared written => ?_
    obtain ⟨same, found⟩ := Workspace.write_spec written
    have apart := spared.target_pathOf_ne clear written
    refine ⟨spared.sameBut same apart.symm, ?_, _, Workspace.stand_of_find found⟩
    rwa [same.target, same.target]
  have written : Leads
      (fun workspace => Spared here path content workspace ∧
        workspace.target (Backup.pathOf mutant.file) ≠ workspace.target path ∧
        ∃ old, workspace.stand (workspace.target (Backup.pathOf mutant.file)) = .file old)
      (OnDisk.change fun workspace => workspace.writeText mutant.file mutant.mutated)
      (fun _ after => Spared here path content after ∧ Passes path mutant.file after)
      (Spared here path content) := by
    refine .change (fun _ held => held.1) ?_
    rintro workspace after ⟨spared, apart, old, backup⟩ written
    obtain ⟨same, found⟩ := Workspace.write_spec written
    have spared := spared.sameBut same (clear.target workspace spared.here).symm
    have isFile := Workspace.stand_of_find found
    have isBackup : ∃ old, after.stand (after.target (Backup.pathOf mutant.file)) = .file old := by
      rw [same.target]
      by_cases sameTarget :
          workspace.target (Backup.pathOf mutant.file) = workspace.target mutant.file
      · rw [sameTarget, ← same.target]
        exact ⟨_, isFile⟩
      · exact ⟨old, (same.stand _ sameTarget).trans backup⟩
    obtain ⟨_, isBackup⟩ := isBackup
    refine ⟨spared, fun way member => ⟨?_, ?_⟩⟩
    · exact Workspace.not_prefix_of_mem_ways spared.found isFile (clear.target after spared.here) way
        member
    · refine Workspace.not_prefix_of_mem_ways spared.found isBackup ?_ way member
      rwa [same.target, same.target]
  have cleared : Leads
      (fun workspace => Spared here path content workspace ∧ Passes path mutant.file workspace)
      (do OnDisk.adjust (Backup.clearBytecode mutant.file)
          return { mutant with applied := true } : OnDisk Mutant)
      (fun applied after => applied.file = mutant.file ∧ Spared here path content after ∧
        Passes path mutant.file after)
      (Spared here path content) :=
    fun workspace held => ⟨rfl, held.1.clearBytecode clear,
      held.2.of_here (Backup.clearBytecode_sameBut workspace mutant.file).here⟩
  have all := backed.bind fun _ => written.bind fun _ => cleared
  unfold apply
  dsimp only
  exact .optional (fun _ => .throw fun _ held => held) all

theorem revert_spared (clear : Clear here path mutant.file) :
    Leads (fun workspace => Spared here path content workspace ∧ Passes path mutant.file workspace)
      mutant.revert (fun _ => Spared here path content) (Spared here path content) := by
  have renamed : Leads
      (fun workspace => Spared here path content workspace ∧ Passes path mutant.file workspace)
      (OnDisk.change fun workspace => workspace.rename (Backup.pathOf mutant.file) mutant.file)
      (fun _ => Spared here path content) (Spared here path content) := by
    refine .change (fun _ held => held.1) ?_
    rintro workspace after ⟨spared, passes⟩ renamed
    obtain ⟨sameHere, same⟩ := Workspace.rename_spec renamed
    exact ⟨sameHere.trans spared.here, Workspace.find_of_ways spared.found sameHere
      fun way member => same way (passes way member).2 (passes way member).1⟩
  have cleared : Preserves (Spared here path content)
      (OnDisk.adjust (Backup.clearBytecode mutant.file)) :=
    fun _ spared => spared.clearBytecode clear
  unfold revert
  dsimp only
  exact .optional (fun _ => .throw fun _ held => held.1) <|
    .bind (.bind renamed fun _ => cleared) fun _ => .pure fun _ spared => spared

end Mutant

namespace Campaign

variable {campaign : Campaign} {start : Bench} {right : Event → Prop} {holds : Workspace → Prop}
  {later : Bench → Prop} {baseline : Duration}

/-- While a mutant is tested a file is left alone that is clear of its own, up to where its status
is stored, if the tests leave it alone. -/
theorem runTests_spares {mutant : Mutant} (clear : Clear here path mutant.file)
    (hooks : ∀ command?,
      Preserves (Holds right start (Spared here path content)) (campaign.hook command?))
    (tests : ∀ limit?, Preserves (Holds right start (Spared here path content))
      (campaign.settings.runner.runMutant campaign.executor limit? (some mutant)))
    (stores : ∀ status, Leads (Holds right start (Spared here path content))
      (setStatus mutant.file mutant.id status campaign.settings.testsDigest) (fun _ => later)
      (Holds right start (Spared here path content))) :
    Leads (Holds right start (Spared here path content)) (campaign.runTests baseline mutant)
      (fun _ => later) (Holds right start (Spared here path content)) := by
  have applied : Leads (Holds right start (Spared here path content)) (files mutant.apply)
      (fun applied bench => applied.file = mutant.file ∧
        Holds right start (Spared here path content) bench ∧ Passes path mutant.file bench.workspace)
      (Holds right start (Spared here path content)) :=
    (leads_files (Mutant.apply_spared clear)).mono (fun _ held => held)
      (fun _ _ held => ⟨held.2.1, ⟨held.1, held.2.2.1⟩, held.2.2.2⟩) fun _ held => held
  unfold runTests
  refine .bind (hooks _) fun _ => .bind applied fun mutated => ?_
  rintro bench ⟨sameFile, applied, passes⟩
  suffices rest : Leads (Holds right start (Spared here path content)) _ _ _ from rest bench applied
  have reverted : Preserves (Holds right start (Spared here path content)) (files mutated.revert) := by
    refine (leads_files (Mutant.revert_spared (sameFile ▸ clear))).mono (fun later held => ?_)
      (fun _ _ held => held) fun _ held => held
    exact ⟨held.1, held.2, sameFile ▸ passes.of_here (held.2.here.trans applied.2.here.symm)⟩
  refine .bind (preserved_attempt (tests _)) fun outcome =>
    .bind (preserved_attempt reverted) fun reverted =>
    .bind (hooks _) fun _ =>
    .bind (.lift reverted (fun _ _ _ held => held) fun _ held => held) fun _ =>
    .bind (stores _) fun _ => .pure fun _ held => held

/-- A trial does to a property of the files what running the tests does to it. -/
theorem test_spares {source? : Option String} {id : MutantId}
    (stays : ∀ bench, Holds right start holds bench → later bench)
    (runs : ∀ mutant : Mutant, mutant.file = file →
      Leads (Holds right start holds) (campaign.runTests baseline mutant) (fun _ => later)
        (Holds right start holds)) :
    Leads (Holds right start holds) (campaign.test baseline file source? id) (fun _ => later)
      (Holds right start holds) := by
  unfold test
  refine .bind leads_cached fun data => ?_
  dsimp only
  split
  · exact .pure stays
  · have read : Preserves (Holds right start holds) (sourceOf file source?) := by
      unfold sourceOf
      split
      · exact .pure fun _ held => held
      · refine leads_files fun workspace held => ?_
        dsimp only [OnDisk.look]
        cases workspace.readText file <;> exact held
    refine .bind read fun source => .bind (.lift _ (fun found? isFound bench held =>
      (⟨held, isFound⟩ : _ ∧ _)) fun _ held => held) fun found? => ?_
    cases found? with
    | none => exact .throw fun bench held => held.1
    | some mutant =>
      rintro bench ⟨held, isFound⟩
      refine Leads.bind (runs mutant (Mutator.find?_spec isFound).2.1) (fun status => ?_) bench held
      exact .pure fun _ held => held

/-! What the commands keep, and what is written where a file is not. -/

section Commands

variable (keeps : campaign.executor.Keeps holds)

include keeps in
theorem leads_execute_kept (purpose : Purpose) (command : String) (limit? : Option Duration)
    (starts : ∀ workspace, holds workspace → right (.started purpose command workspace)) :
    Preserves (Holds right start holds) (execute campaign.executor purpose command limit?) :=
  leads_execute (fun turn workspace held => keeps turn workspace command limit? held) starts

include keeps in
theorem leads_hook_kept (command? : Option String)
    (starts : ∀ command workspace, holds workspace → right (.started .hook command workspace))
    (outputs : ∀ line, right (.output line)) :
    Preserves (Holds right start holds) (campaign.hook command?) :=
  hook_rule (fun command => leads_execute_kept keeps .hook command none (starts command)) fun line =>
    leads_note (outputs line)

end Commands

/-- Copying data by which the tests are chosen leaves a file alone that is elsewhere. -/
theorem leads_snapshot_kept {old new : Path} {operation : OnDisk Unit}
    (apart : ∀ workspace : Workspace, workspace.here = here →
      workspace.target path ≠ workspace.target new)
    (copies : operation = do
      if ← OnDisk.ask fun workspace => workspace.has old then
        OnDisk.change fun workspace => workspace.copy old new) :
    Preserves (Holds right start (Spared here path content)) (files operation) :=
  leads_files (copy_rule copies fun now _ spared same =>
    spared.sameBut same (apart now spared.here))

end Campaign

/-! The stored cache. -/

theorem target_ne_stored (ends : other.text.toList.getLast? = some c)
    (isOther : c ∈ ['k', 'a', 'l', 'c']) (workspace : Workspace) :
    workspace.target other ≠ workspace.target (directory.join Cache.fileName) :=
  Workspace.target_ne_of_getLast? ends
    (Path.getLast?_join directory (by decide : Cache.fileName.text.toList.getLast? = some 'n'))
    (by rintro member; simp at member isOther; grind) (by decide) (by rintro rfl; simp at isOther)
    workspace

namespace Campaign

/-- A bench of a campaign while the stored cache is as it was. -/
abbrev Sparing (start : Bench) (here : List String) (path : Path) (content : ByteArray) :
    Bench → Prop :=
  Holds (fun _ => True) start (Spared here path content)

variable {campaign : Campaign} {start : Bench}

/-- A campaign whose commands leave the stored cache alone. -/
abbrev SparesCache (campaign : Campaign) (directory : Path) : Prop :=
  campaign.executor.Spares (directory.join Cache.fileName)

/-- A bench of a campaign in the working directory that it started in. -/
abbrev Staying (start : Bench) (here : List String) : Bench → Prop :=
  Holds (fun _ => True) start fun workspace => workspace.here = here

theorem leads_save_spared {path : Path} :
    Leads (Sparing start here path content) save (fun _ => Staying start here)
      (Sparing start here path content) := by
  intro bench held
  unfold save Cache.save
  cases replaced : bench.workspace.replace bench.cache.path bench.cache.data.encode.toUTF8 with
  | error fault =>
    rw [change_error replaced]
    exact ⟨⟨held.1.path, held.1.log⟩, held.2⟩
  | ok after =>
    rw [change_ok replaced]
    exact ⟨⟨held.1.path, held.1.log⟩, (Workspace.replace_spec replaced).1.here.trans held.2.here⟩

theorem leads_runMutant_spared (spares : campaign.SparesCache directory) (limit? : Option Duration)
    (mutant : Mutant) :
    Preserves (Sparing start here (directory.join Cache.fileName) content)
      (campaign.settings.runner.runMutant campaign.executor limit? (some mutant)) :=
  runMutant_rule (fun _ => leads_begin fun _ _ => trivial)
    (fun _ => leads_snapshot_kept (fun workspace _ =>
      (target_ne_stored (Path.getLast?_join _ (by decide : _ = some 'a')) (by simp) workspace).symm)
      rfl)
    (leads_execute_kept spares.keeps _ _ limit? fun _ _ => trivial) fun _ => leads_note trivial

/-- A trial leaves the stored cache alone if it fails. -/
theorem leads_test_spared (spares : campaign.SparesCache directory) (baseline : Duration)
    (source? : Option String) (id : MutantId)
    (apart : ∀ workspace : Workspace, workspace.here = here →
      workspace.target file ≠ workspace.target (directory.join Cache.fileName)) :
    Leads (Sparing start here (directory.join Cache.fileName) content)
      (campaign.test baseline file source? id) (fun _ => Staying start here)
      (Sparing start here (directory.join Cache.fileName) content) := by
  have clear : Clear here (directory.join Cache.fileName) file :=
    .of_getLast? (Path.getLast?_join directory (by decide : _ = some 'n')) (by decide) apart
  refine test_spares (fun _ held => ⟨held.1, held.2.here⟩) fun mutant sameFile =>
    runTests_spares (sameFile ▸ clear)
      (leads_hook_kept spares.keeps · (fun _ _ _ => trivial) fun _ => trivial)
      (leads_runMutant_spared spares · mutant) fun status => ?_
  exact setStatus_rule leads_save_spared mutant.file mutant.id status _

theorem leads_baseline_spared (spares : campaign.SparesCache directory) :
    Leads (Sparing start here (directory.join Cache.fileName) content) campaign.baseline
      (fun _ => Staying start here)
      (Sparing start here (directory.join Cache.fileName) content) := by
  refine baseline_rule (fun _ held _ => ⟨held.1, held.2.here⟩) (fun _ held => held)
    (leads_execute_kept spares.keeps _ _ none fun _ _ => trivial) (fun _ => leads_note trivial)
    (fun _ => leads_note trivial) (fun _ => leads_snapshot_kept (fun workspace _ => ?_) rfl)
    fun _ => setBaseline_rule leads_save_spared _
  exact (target_ne_stored (Path.getLast?_join _ (by decide : _ = some 'l')) (by simp) workspace).symm

end Campaign

end MutationTesting
