import MutationTesting.Proofs.Mutator
import MutationTesting.Proofs.Suite.Rules
import MutationTesting.Python.Source
import MutationTesting.Rule.Catalogue
/-! What a campaign does to source files. A mutant stands in the place of its file while it is tested
and at no other time, whatever the tests and the commands around them come to. -/
namespace MutationTesting

/-- The commands that an executor runs leave the source files and the places of their backups
alone. -/
structure Executor.LeavesAlone (executor : Executor) (sources : List Path) : Prop where
  here : ∀ turn workspace command limit?,
    (executor.run turn workspace command limit?).2.here = workspace.here
  file : ∀ turn workspace command limit?, ∀ file ∈ sources,
    (executor.run turn workspace command limit?).2.find file = workspace.find file
  backup : ∀ turn workspace command limit?, ∀ file ∈ sources,
    (executor.run turn workspace command limit?).2.find (Backup.pathOf file) =
      workspace.find (Backup.pathOf file)

namespace Campaign

/-- What is right of an event: the tests of a mutant start while that mutant, which is one of those
to be tested, stands in the place of its file, and other commands while none does. -/
def Right (campaign : Campaign) (mutants : List FileMutants) (sources : List Path)
    (before : Workspace) : Event → Prop
  | .started (.selection (some mutant)) _ workspace | .started (.test (some mutant)) _ workspace =>
    (∃ listed ∈ mutants, mutant.file = listed.file ∧ mutant.id ∈ listed.ids) ∧
      campaign.mutator.find? mutant.file mutant.source mutant.id = .ok (some mutant) ∧
      Standing sources before mutant workspace
  | .started _ _ workspace => Intact sources before workspace
  | _ => True

/-- What a campaign is run on: source files that are there and have no backups, the mutated ones
among them, which neither the commands nor the campaign's own files touch. -/
structure Ready (campaign : Campaign) (mutants : List FileMutants) (sources : List Path)
    (bench : Bench) : Prop where
  alone : campaign.executor.LeavesAlone sources
  listed : ∀ listed ∈ mutants, listed.file ∈ sources
  there : ∀ file ∈ sources, bench.workspace.hasFile file = true
  noBackup : ∀ file ∈ sources, bench.workspace.has (Backup.pathOf file) = false
  apart : ∀ path, Keeps campaign.settings bench.cache.path (mutants.map FileMutants.file) path →
    ∀ file ∈ sources, bench.workspace.target path ≠ bench.workspace.target file ∧
      bench.workspace.target path ≠ bench.workspace.target (Backup.pathOf file)

variable {campaign : Campaign} {mutants : List FileMutants} {sources : List Path} {start : Bench}

/-- The addresses of a campaign's own files. -/
def Own (campaign : Campaign) (mutants : List FileMutants) (start : Bench) (address : List String) :
    Prop :=
  ∃ path, Keeps campaign.settings start.cache.path (mutants.map FileMutants.file) path ∧
    address = start.workspace.target path

theorem Ready.ownApart (ready : Ready campaign mutants sources start) :
    Apart sources start.workspace (Own campaign mutants start) where
  there file isSource := by
    have isFile := ready.there file isSource
    unfold Workspace.hasFile at isFile
    split at isFile
    · rename_i entry found
      cases entry with
      | file content => exact ⟨content, found⟩
      | directory entries => contradiction
    · contradiction
  file file isSource := by
    rintro ⟨path, keeps, same⟩
    exact (ready.apart path keeps file isSource).1 same.symm
  backup file isSource := by
    rintro ⟨path, keeps, same⟩
    exact (ready.apart path keeps file isSource).2 same.symm

/-- What a campaign is ready for does not depend on which mutants of the files are tested. -/
theorem Ready.relist (ready : Ready campaign mutants sources start) {others : List FileMutants}
    (listed : ∀ other ∈ others, ∃ listed ∈ mutants, listed.file = other.file) :
    Ready campaign others sources start where
  alone := ready.alone
  listed other isOther := by
    obtain ⟨first, member, same⟩ := listed other isOther
    exact same ▸ ready.listed first member
  there := ready.there
  noBackup := ready.noBackup
  apart path keeps := by
    refine ready.apart path (keeps.mono fun file member => ?_)
    obtain ⟨other, isOther, rfl⟩ := List.mem_map.mp member
    obtain ⟨first, member, same⟩ := listed other isOther
    exact List.mem_map.mpr ⟨first, member, same⟩

theorem Ready.intact (ready : Ready campaign mutants sources start) :
    Intact sources start.workspace start.workspace :=
  ⟨rfl, fun _ _ => rfl, ready.noBackup⟩

end Campaign

variable {sources : List Path} {before now : Workspace} {executor : Executor}

theorem Unchanged.execute (unchanged : Unchanged sources before now)
    (alone : executor.LeavesAlone sources) (turn : Nat) (command : String)
    (limit? : Option Duration) :
    Unchanged sources before (executor.run turn now command limit?).2 where
  here := (alone.here ..).trans unchanged.here
  file file isSource := (alone.file _ _ _ _ file isSource).trans (unchanged.file file isSource)

theorem Executor.LeavesAlone.has_backup (alone : executor.LeavesAlone sources) {file : Path}
    (isSource : file ∈ sources) (noBackup : now.has (Backup.pathOf file) = false) (turn : Nat)
    (command : String) (limit? : Option Duration) :
    (executor.run turn now command limit?).2.has (Backup.pathOf file) = false := by
  have same := alone.backup turn now command limit? file isSource
  unfold Workspace.has at noBackup ⊢
  rwa [same]

theorem Intact.execute (intact : Intact sources before now) (alone : executor.LeavesAlone sources)
    (turn : Nat) (command : String) (limit? : Option Duration) :
    Intact sources before (executor.run turn now command limit?).2 :=
  have unchanged := intact.unchanged.execute alone turn command limit?
  ⟨unchanged.here, unchanged.file, fun file isSource =>
    alone.has_backup isSource (intact.backup file isSource) turn command limit?⟩

theorem Placed.execute {mutant : Mutant} (placed : Placed sources before mutant now)
    (isSource : mutant.file ∈ sources) (alone : executor.LeavesAlone sources)
    (turn : Nat) (command : String) (limit? : Option Duration) :
    Placed sources before mutant (executor.run turn now command limit?).2 where
  here := (alone.here ..).trans placed.here
  file file isFile sameTarget :=
    (alone.file _ _ _ _ file isFile).trans (placed.file file isFile sameTarget)
  backup := (alone.backup _ _ _ _ mutant.file isSource).trans placed.backup
  others file isFile otherTarget :=
    (alone.file _ _ _ _ file isFile).trans (placed.others file isFile otherTarget)

theorem Standing.execute {mutant : Mutant} (standing : Standing sources before mutant now)
    (isSource : mutant.file ∈ sources) (alone : executor.LeavesAlone sources)
    (turn : Nat) (command : String) (limit? : Option Duration) :
    Standing sources before mutant (executor.run turn now command limit?).2 :=
  have placed := standing.placed.execute isSource alone turn command limit?
  { standing with
    here := placed.here
    file := placed.file
    backup := placed.backup
    others := fun file isFile otherTarget =>
      ⟨placed.others file isFile otherTarget, alone.has_backup isFile
        (standing.others file isFile otherTarget).2 turn command limit?⟩ }

namespace Campaign

open OnBench Sequence

variable {campaign : Campaign} {mutants : List FileMutants} {start : Bench}
  {failed : Bench → Prop} {holds : Workspace → Prop}

/-- A bench of a campaign whose log is right and whose files have a property. -/
abbrev During (campaign : Campaign) (mutants : List FileMutants) (sources : List Path)
    (start : Bench) : (Workspace → Prop) → Bench → Prop :=
  Holds (Right campaign mutants sources start.workspace) start

/-- The bench while no mutant stands in the place of a file. -/
abbrev Clean (campaign : Campaign) (mutants : List FileMutants) (sources : List Path)
    (start : Bench) : Bench → Prop :=
  During campaign mutants sources start (Intact sources start.workspace)

/-- The bench while a mutant stands in the place of its file. -/
abbrev Tested (campaign : Campaign) (mutants : List FileMutants) (sources : List Path)
    (start : Bench) (mutant : Mutant) : Bench → Prop :=
  During campaign mutants sources start (Standing sources start.workspace mutant)

theorem leads_hook (ready : Ready campaign mutants sources start) (command? : Option String) :
    Preserves (Clean campaign mutants sources start) (campaign.hook command?) :=
  hook_rule
    (fun command => leads_execute
      (fun turn _ intact => intact.execute ready.alone turn command none)
      fun _ intact => intact)
    fun _ => leads_note trivial

/-- A property of the files that a campaign's writing of its own files does not touch. -/
def Stable (campaign : Campaign) (mutants : List FileMutants) (start : Bench)
    (holds : Workspace → Prop) : Prop :=
  ∀ path, Keeps campaign.settings start.cache.path (mutants.map FileMutants.file) path →
    ∀ now after : Workspace, holds now → now.SameBut (· = now.target path) after → holds after

theorem stable_of_sameBut
    (here : ∀ now, holds now → now.here = start.workspace.here)
    (kept : ∀ now after, holds now → now.SameBut (Own campaign mutants start) after → holds after) :
    Stable campaign mutants start holds := by
  intro path keeps now after held same
  refine kept now after held (same.mono ?_)
  rintro address rfl
  exact ⟨path, keeps, by simp only [Workspace.target, here now held]⟩

theorem Ready.stable_intact (ready : Ready campaign mutants sources start) :
    Stable campaign mutants start (Intact sources start.workspace) :=
  stable_of_sameBut (fun _ intact => intact.here) fun _ _ intact same =>
    intact.sameBut ready.ownApart same

theorem Ready.stable_standing (ready : Ready campaign mutants sources start) {mutant : Mutant}
    (isSource : mutant.file ∈ sources) :
    Stable campaign mutants start (Standing sources start.workspace mutant) :=
  stable_of_sameBut (fun _ standing => standing.here) fun _ _ standing same =>
    standing.sameBut isSource ready.ownApart same

theorem leads_saved (stable : Stable campaign mutants start holds) :
    Preserves (During campaign mutants sources start holds) save :=
  leads_save fun _ workspace after held replaced =>
    stable _ .cache workspace after held (Workspace.replace_spec replaced).1

theorem leads_snapshot (stable : Stable campaign mutants start holds) {old new : Path}
    (keeps : Keeps campaign.settings start.cache.path (mutants.map FileMutants.file) new)
    {operation : OnDisk Unit}
    (copies : operation = do
      if ← OnDisk.ask fun workspace => workspace.has old then
        OnDisk.change fun workspace => workspace.copy old new) :
    Preserves (During campaign mutants sources start holds) (files operation) :=
  leads_files (copy_rule copies (stable new keeps))

theorem leads_baseline (ready : Ready campaign mutants sources start) :
    Preserves (Clean campaign mutants sources start) campaign.baseline :=
  baseline_rule (fun _ held _ => held) (fun _ held => held)
    (leads_execute (fun turn _ intact => intact.execute ready.alone turn _ none)
      fun _ intact => intact)
    (fun _ => leads_note trivial) (fun _ => leads_note trivial)
    (fun incremental => leads_snapshot ready.stable_intact (.snapshot incremental) rfl)
    fun _ => setBaseline_rule (leads_saved ready.stable_intact) _

theorem leads_runMutant (ready : Ready campaign mutants sources start) (limit? : Option Duration)
    {mutant : Mutant}
    (isListed : ∃ listed ∈ mutants, mutant.file = listed.file ∧ mutant.id ∈ listed.ids)
    (found : campaign.mutator.find? mutant.file mutant.source mutant.id = .ok (some mutant)) :
    Preserves (Tested campaign mutants sources start mutant)
      (campaign.settings.runner.runMutant campaign.executor limit? (some mutant)) := by
  have isSource : mutant.file ∈ sources := by
    obtain ⟨listed, isMember, sameFile, -⟩ := isListed
    exact sameFile ▸ ready.listed listed isMember
  exact runMutant_rule
    (fun _ => leads_begin fun _ standing => ⟨isListed, found, standing⟩)
    (fun incremental => leads_snapshot (ready.stable_standing isSource) (.selection incremental) rfl)
    (leads_execute (fun turn _ standing => standing.execute isSource ready.alone turn _ limit?)
      fun _ standing => ⟨isListed, found, standing⟩)
    fun _ => leads_note trivial

theorem leads_runTests (ready : Ready campaign mutants sources start) (baseline : Duration)
    {mutant : Mutant}
    (isListed : ∃ listed ∈ mutants, mutant.file = listed.file ∧ mutant.id ∈ listed.ids)
    (found : campaign.mutator.find? mutant.file mutant.source mutant.id = .ok (some mutant))
    (original : start.workspace.find mutant.file = .ok (.file mutant.source.toUTF8)) :
    Preserves (Clean campaign mutants sources start) (campaign.runTests baseline mutant) := by
  obtain ⟨listed, isMember, sameFile, -⟩ := id isListed
  have isSource : mutant.file ∈ sources := sameFile ▸ ready.listed listed isMember
  have compiled (path : Path) (isCompiled : Backup.IsCompiled mutant.file path) :
      Own campaign mutants start (start.workspace.target path) :=
    ⟨path, .compiled (List.mem_map.mpr ⟨listed, isMember, sameFile.symm⟩) isCompiled, rfl⟩
  obtain ⟨-, -, -, changed, notApplied⟩ := Mutator.find?_spec found
  have applied : Leads (Clean campaign mutants sources start) (files mutant.apply)
      (fun applied bench => applied = { mutant with applied := true } ∧
        Tested campaign mutants sources start mutant bench)
      (Clean campaign mutants sources start) :=
    (leads_files (Mutant.apply_spec ready.ownApart compiled isSource original changed
      notApplied)).mono (fun _ held => held) (fun _ _ held => ⟨held.2.1, held.1, held.2.2⟩)
      fun _ held => held
  have reverted : Leads (Tested campaign mutants sources start mutant)
      (files (Mutant.revert { mutant with applied := true }))
      (fun _ => Clean campaign mutants sources start) fun _ => False :=
    (leads_files (Mutant.revert_spec ready.ownApart compiled isSource)).mono (fun _ held => held)
      (fun _ _ held => ⟨held.1, held.2.2⟩) fun _ held => held.2
  exact runTests_rule (fun _ => leads_hook ready _) applied
    (fun limit? => leads_runMutant ready limit? isListed found) reverted
    fun _ => setStatus_rule (leads_saved ready.stable_intact) _ _ _ _

/-- Whatever becomes of a mutant, no mutant stands in the place of a file afterwards. -/
theorem leads_test (ready : Ready campaign mutants sources start) (baseline : Duration)
    {listed : FileMutants} (isListed : listed ∈ mutants) {source? : Option String}
    (isRead : IsRead (start.workspace.readText listed.file) source?) {id : MutantId}
    (isNamed : id ∈ listed.ids) :
    Leads (Clean campaign mutants sources start) (campaign.test baseline listed.file source? id)
      (fun found bench => Clean campaign mutants sources start bench ∧
        IsRead (start.workspace.readText listed.file) found.2)
      (Clean campaign mutants sources start) := by
  refine (test_rule isRead (fun bench held => ?_) (fun _ _ held _ => held) ?_).leads
  · exact Workspace.readText_congr (held.2.file listed.file (ready.listed listed isListed))
  · intro source mutant isText isFound
    obtain ⟨rfl, sameFile, rfl, -, -⟩ := Mutator.find?_spec isFound
    rw [← sameFile] at isFound isText
    exact leads_runTests ready baseline ⟨listed, isListed, sameFile, isNamed⟩ isFound
      (Workspace.find_of_readText isText)

theorem leads_testFiles (ready : Ready campaign mutants sources start) (baseline : Duration)
    (tally : Tally) :
    Preserves (Clean campaign mutants sources start)
      (campaign.testFiles baseline tally mutants) := by
  refine (testFiles_rule (fun _ => leads_note trivial) (fun _ _ _ => leads_note trivial)
    (fun listed isListed id isNamed source? isRead =>
      leads_test ready baseline isListed isRead isNamed) tally _).mono (fun _ held => held) ?_
    fun _ held => held
  rintro ⟨tally, error?⟩ bench held
  cases error? with
  | none => exact held.1 rfl
  | some error => exact held.2 error rfl

/-- Whatever a campaign comes to, no mutant stands in the place of a file afterwards. -/
theorem leads_campaign (ready : Ready campaign mutants sources start) :
    Preserves (Clean campaign mutants sources start) (campaign.run mutants) :=
  campaign_rule (leads_baseline ready) (fun _ => leads_note trivial) (fun _ _ held => held)
    fun baseline tally => leads_testFiles ready baseline tally

/-- The parse tree of a source that consists of one assignment. -/
def assignment : Python.ParseTree :=
  let node (kind : String) (named : Bool) (start stop : Nat) (children : List Python.ParseTree) :=
    ⟨kind, named, false, false, false, start, stop, children⟩
  node "module" true 0 6 [node "expression_statement" true 0 5 [node "assignment" true 0 5 [
    node "identifier" true 0 1 [], node "=" false 2 3 [], node "integer" true 4 5 []]]]

/-- The text of that source. -/
def assignmentText : String := "x = 1\n"

/-- The name of its first mutant. -/
def assignmentId : MutantId := ⟨"x = 1", 0, 0⟩

/-- A campaign over such sources, none of whose tests comes to an end. -/
def endless : Campaign where
  settings := {}
  mutator := ⟨Python.frontend fun _ => some assignment, .python [], .everyLine⟩
  executor := ⟨fun _ workspace _ _ => (⟨[], .timedOut, .zero⟩, workspace)⟩

/-- A source. -/
def plain : Path := ⟨"a.py"⟩

theorem endless_leavesAlone (sources : List Path) : endless.executor.LeavesAlone sources :=
  ⟨fun _ _ _ _ => rfl, fun _ _ _ _ _ _ => rfl, fun _ _ _ _ _ _ => rfl⟩

end Campaign

end MutationTesting
