import MutationTesting.Proofs.Cache.Outline
import MutationTesting.Proofs.Suite.Restored
import MutationTesting.Proofs.Suite.Trials
import MutationTesting.Proofs.Suite.Walked
/-! A campaign over the mutants that walks have yielded. Where nothing else touches the files, tests are
started on the mutants as they were yielded, and all that can go wrong is that a file cannot be
written. -/
namespace MutationTesting

open OnBench Sequence
open CacheData (SameRows)

variable {sources : List Path} {before now : Workspace} {executor : Executor}

namespace Campaign

/-- What a campaign over the mutants of walks is run on: files that are there and apart from each
other's backups and from the campaign's own files, which the commands leave alone, and a cache that
has all the mutants. -/
structure Sheltered (campaign : Campaign) (walks : List FileWalk) (sources : List Path)
    (bench : Bench) : Prop where
  alone : campaign.executor.LeavesAlone sources
  areOf : ∀ walk ∈ walks, walk.file ∈ sources ∧ walk.IsOf campaign.mutator bench.workspace
  apart : Apart sources bench.workspace (Own campaign (walks.map FileWalk.listed) bench)
  backups : ∀ file ∈ sources, ∀ other ∈ sources,
    bench.workspace.target file ≠ bench.workspace.target (Backup.pathOf other)
  sorted : CacheData.Sorted bench.cache.data.files
  rows : ∀ walk ∈ walks, ∀ mutant ∈ walk.mutants,
    bench.cache.data.lacks walk.file mutant.id = false

/-- What is right of an event: tests are started on mutants that walks have yielded, which are in the
places of their files. -/
def Mutated (walks : List FileWalk) : Event → Prop
  | .started (.test mutant?) _ workspace =>
    ∃ walk ∈ walks, ∃ mutant ∈ walk.mutants, mutant? = some mutant ∧
      workspace.readText walk.file = .ok mutant.mutated
  | _ => True

/-- An error that comes of a file that cannot be written: the backup of a source or the stored
cache. -/
def Unwritable (walks : List FileWalk) (error : Error) (bench : Bench) : Prop :=
  ∃ fault, error = .fault fault ∧
    ((∃ walk ∈ walks,
        bench.workspace.writeText (Backup.pathOf walk.file) walk.source = .error fault) ∨
      bench.workspace.replace bench.cache.path bench.cache.data.encode.toUTF8 = .error fault)

/-- A bench of a campaign whose log is right, whose files have a property and whose cache has the rows
that it had. -/
structure Steady (walks : List FileWalk) (start : Bench) (holds : Workspace → Prop)
    (bench : Bench) : Prop where
  held : Holds (Mutated walks) start holds bench
  rows : SameRows start.cache.data bench.cache.data

/-- A bench of a campaign while all source files are as they were. -/
abbrev AtRest (walks : List FileWalk) (sources : List Path) (start : Bench) : Bench → Prop :=
  Steady walks start (Unchanged sources start.workspace)

/-- A bench of a campaign while a mutant is in the place of its file. -/
abbrev UnderTest (walks : List FileWalk) (sources : List Path) (start : Bench) (mutant : Mutant) :
    Bench → Prop :=
  Steady walks start (Placed sources start.workspace mutant)

/-- A bench on which a file could not be written. -/
def Broken (walks : List FileWalk) (start : Bench) (error : Error) (bench : Bench) : Prop :=
  Continues (Mutated walks) start bench ∧ Unwritable walks error bench

variable {campaign : Campaign} {walks : List FileWalk} {start : Bench} {failed : Bench → Prop}
  {holds : Workspace → Prop} {mutant : Mutant} {walk : FileWalk}

namespace Steady

theorem note {event : Event} (isRight : Mutated walks event) :
    Leads (Steady walks start holds) (OnBench.note event) (fun _ => Steady walks start holds)
      failed :=
  fun _ steady => ⟨⟨steady.held.1.add isRight, steady.held.2⟩, steady.rows⟩

theorem execute {purpose : Purpose} {command : String} {limit? : Option Duration}
    (kept : ∀ turn workspace, holds workspace → holds (executor.run turn workspace command limit?).2)
    (isRight : ∀ workspace, holds workspace → Mutated walks (.started purpose command workspace)) :
    Leads (Steady walks start holds) (OnBench.execute executor purpose command limit?)
      (fun _ => Steady walks start holds) failed := by
  intro bench steady
  obtain ⟨path, log⟩ := steady.held.1.add (isRight bench.workspace steady.held.2)
  exact ⟨⟨⟨path, log⟩, kept bench.turn bench.workspace steady.held.2⟩, steady.rows⟩

theorem files {α : Type} {operation : OnDisk α} {after : α → Workspace → Prop}
    {ended : Error → Workspace → Prop} (ends : Ends holds operation after ended) :
    Ends (Steady walks start holds) (OnBench.files operation)
      (fun value => Steady walks start (after value))
      fun error => Steady walks start (ended error) := by
  intro bench steady
  have outcome := ends bench.workspace steady.held.2
  unfold OnBench.files
  generalize operation bench.workspace = result at outcome
  obtain ⟨error | value, behind⟩ := result <;>
    exact ⟨⟨⟨steady.held.1.path, steady.held.1.log⟩, outcome⟩, steady.rows⟩

theorem start_of {purpose : Purpose} {command : String}
    (isRight : ∀ workspace, Mutated walks (.started purpose command workspace)) :
    Leads (Steady walks start holds) (OnBench.begin purpose command)
      (fun _ => Steady walks start holds) failed :=
  fun bench steady => ⟨⟨steady.held.1.add (isRight bench.workspace), steady.held.2⟩, steady.rows⟩

theorem store (stable : Stable campaign (walks.map FileWalk.listed) start holds) {data : CacheData}
    (rows : SameRows start.cache.data data) :
    Ends (Steady walks start holds) (do recache data; save)
      (fun _ => Steady walks start holds) (Broken walks start) := by
  intro bench steady
  have path := steady.held.1.path
  rw [bind_apply]
  dsimp only [recache, save, Cache.save]
  cases replaced : bench.workspace.replace bench.cache.path data.encode.toUTF8 with
  | error fault =>
    rw [change_error replaced]
    exact ⟨⟨path, steady.held.1.log⟩, fault, rfl, .inr replaced⟩
  | ok after =>
    rw [change_ok replaced]
    refine ⟨⟨⟨path, steady.held.1.log⟩, ?_⟩, rows⟩
    exact stable _ .cache _ _ steady.held.2 (path ▸ (Workspace.replace_spec replaced).1)

end Steady

namespace Sheltered

variable (sheltered : campaign.Sheltered walks sources start)
include sheltered

theorem stable_unchanged :
    Stable campaign (walks.map FileWalk.listed) start (Unchanged sources start.workspace) :=
  stable_of_sameBut (fun _ unchanged => unchanged.here) fun _ _ unchanged same =>
    unchanged.sameBut sheltered.apart same

theorem stable_placed (isSource : mutant.file ∈ sources) :
    Stable campaign (walks.map FileWalk.listed) start
      (Placed sources start.workspace mutant) :=
  stable_of_sameBut (fun _ placed => placed.here) fun _ _ placed same =>
    placed.sameBut isSource sheltered.apart same

theorem spec (isWalk : walk ∈ walks) (member : mutant ∈ walk.mutants) :
    mutant.file = walk.file ∧ mutant.source = walk.source ∧ mutant.file ∈ sources ∧
      mutant.applied = false := by
  obtain ⟨isSource, isOf⟩ := sheltered.areOf walk isWalk
  obtain ⟨sameFile, sameSource, -, notApplied⟩ := Mutator.mutants_spec isOf.made member
  exact ⟨sameFile, sameSource, sameFile ▸ isSource, notApplied⟩

theorem leads_hook (command? : Option String) :
    Leads (AtRest walks sources start) (campaign.hook command?)
      (fun _ => AtRest walks sources start) failed :=
  hook_rule (fun command => Steady.execute
    (fun turn _ unchanged => unchanged.execute sheltered.alone turn command none)
    fun _ _ => trivial) fun _ => Steady.note trivial

theorem leads_runMutant (isWalk : walk ∈ walks) (member : mutant ∈ walk.mutants)
    (limit? : Option Duration) :
    Preserves (UnderTest walks sources start mutant)
      (campaign.settings.runner.runMutant campaign.executor limit? (some mutant)) := by
  obtain ⟨sameFile, -, isSource, -⟩ := sheltered.spec isWalk member
  have restores (incremental : campaign.settings.runner.incremental = true) :
      Preserves (UnderTest walks sources start mutant)
        (files (Runner.restoreSnapshot campaign.settings.runner.directory)) :=
    (Steady.files (copy_rule rfl
      (sheltered.stable_placed isSource _ (.selection incremental))).ends).leads
  refine runMutant_rule (fun _ => Steady.start_of fun _ => trivial) restores
    (Steady.execute
      (fun turn _ placed => placed.execute isSource sheltered.alone turn _ limit?) ?_)
    fun _ => Steady.note trivial
  intro workspace placed
  refine ⟨walk, isWalk, mutant, member, rfl, Workspace.readText_of_find ?_⟩
  exact sameFile ▸ placed.file mutant.file isSource rfl

/-- The clean run leaves the files and the rows of the cache as they are. -/
theorem leads_baseline :
    Leads (AtRest walks sources start) campaign.baseline
      (fun _ => AtRest walks sources start) fun _ => True := by
  refine baseline_rule (fun _ steady _ => steady) (fun _ _ => trivial)
    (Steady.execute (fun turn _ unchanged => unchanged.execute sheltered.alone turn _ none)
      fun _ _ => trivial)
    (fun _ => Steady.note trivial) (fun _ => Steady.note trivial)
    (fun incremental => (Steady.files (copy_rule rfl
      (sheltered.stable_unchanged _ (.snapshot incremental))).ends).leads) fun seconds => ?_
  rintro bench steady
  have stored := Steady.store sheltered.stable_unchanged
    (steady.rows.trans (CacheData.sameRows_withBaseline bench.cache.data (some seconds)))
  exact (stored.mono (fun _ steady => steady) (fun _ _ steady => steady)
    fun _ _ _ => trivial).leads bench steady

end Sheltered

end Campaign

end MutationTesting
