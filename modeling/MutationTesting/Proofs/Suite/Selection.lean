import MutationTesting.Proofs.Suite.Restored
import MutationTesting.Proofs.Suite.Spared
import MutationTesting.Proofs.Suite.Trials
/-! The data by which the tests are chosen that a change concerns. The tests of each mutant start
from the copy of these data that has been taken after the clean run, whatever the tests before them
have made of the data themselves. Where there is no copy nothing is put back, and the tests of a
mutant start from what those of the mutant before it have left. -/
namespace MutationTesting

open OnBench Sequence

/-- The content of the data by which the tests are chosen, if there are any, when the tests of a
mutant are started. -/
def Event.selectedFrom? (data : Path) : Event → Option (Option ByteArray)
  | .started (.test mutant?) _ workspace => mutant?.map fun _ => (workspace.read data).toOption
  | _ => none

/-- The tests of a mutant are started with data that have a content. -/
def Event.SelectsFrom (data : Path) (content : ByteArray) (event : Event) : Prop :=
  ∀ state, event.selectedFrom? data = some state → state = some content

namespace Campaign

/-- The path of the data by which the tests are chosen. -/
def selectionData (campaign : Campaign) : Path :=
  campaign.settings.directory.join Runner.selectionData

/-- The path of the copy of these data. -/
def selectionSnapshot (campaign : Campaign) : Path :=
  campaign.settings.directory.join Runner.selectionSnapshot

/-- The content of the data that the tests are to start from: the clean run leaves the data so, or,
where its time is known already, the copy is so. -/
def Selected (campaign : Campaign) (start : Bench) (content : ByteArray) : Prop :=
  match start.cache.data.baseline? with
  | none =>
    Spared start.workspace.here campaign.selectionData content
      (campaign.executor.run start.turn start.workspace campaign.settings.testCommand none).2
  | some _ => start.workspace.find campaign.selectionSnapshot = .ok (.file content)

variable {campaign : Campaign} {start : Bench} {content : ByteArray} {here : List String}
  {workspace : Workspace} {failed : Bench → Prop}

theorem getLast?_selectionSnapshot (campaign : Campaign) :
    campaign.selectionSnapshot.text.toList.getLast? = some 'l' :=
  Path.getLast?_join _ (by decide)

theorem target_data_ne (campaign : Campaign) (workspace : Workspace) :
    workspace.target campaign.selectionData ≠ workspace.target campaign.selectionSnapshot :=
  Workspace.target_ne_of_getLast? (Path.getLast?_join _ (by decide : _ = some 'a'))
    campaign.getLast?_selectionSnapshot (by decide) (by decide) (by decide) workspace

/-- A bench of a campaign whose tests all start from one content of the data. -/
abbrev Selecting (campaign : Campaign) (start : Bench) (content : ByteArray) :
    (Workspace → Prop) → Bench → Prop :=
  Holds (Event.SelectsFrom campaign.selectionData content) start

/-- A bench of such a campaign when the copy has been taken. -/
abbrev Snapped (campaign : Campaign) (start : Bench) (content : ByteArray) : Bench → Prop :=
  Selecting campaign start content
    (Spared start.workspace.here campaign.selectionSnapshot content)

theorem selectsFrom_of_none {event : Event} {data : Path}
    (noTest : event.selectedFrom? data = none) : event.SelectsFrom data content := by
  intro state isState
  rw [noTest] at isState
  contradiction

theorem takeSnapshot_spared :
    Leads (Spared here campaign.selectionData content)
      (Runner.takeSnapshot campaign.settings.runner.directory)
      (fun _ => Spared here campaign.selectionSnapshot content) fun _ => True := by
  intro workspace spared
  obtain ⟨after, copied, same, found⟩ | ⟨error, failed⟩ :=
    copy_cases (Runner.takeSnapshot campaign.settings.runner.directory) rfl spared.found
  · rw [copied]
    exact ⟨same.here.trans spared.here, found⟩
  · rw [failed]
    trivial

/-- Putting the data back gives them the content of the copy, which stays. -/
theorem restoreSnapshot_spared :
    Leads (Spared here campaign.selectionSnapshot content)
      (Runner.restoreSnapshot campaign.settings.runner.directory)
      (fun _ after => Spared here campaign.selectionSnapshot content after ∧
        after.find campaign.selectionData = .ok (.file content))
      (Spared here campaign.selectionSnapshot content) := by
  intro workspace spared
  obtain ⟨after, copied, same, found⟩ | ⟨error, failed⟩ :=
    copy_cases (Runner.restoreSnapshot campaign.settings.runner.directory) rfl spared.found
  · rw [copied]
    exact ⟨spared.sameBut same (campaign.target_data_ne workspace).symm, found⟩
  · rw [failed]
    exact spared

section Course

variable (incremental : campaign.settings.isIncremental = true)
  (keeps : campaign.executor.Keeps
    (Spared start.workspace.here campaign.selectionSnapshot content))
  (stored : start.workspace.target start.cache.path ≠
    start.workspace.target campaign.selectionSnapshot)

include stored in
theorem leads_save_snapped : Preserves (Snapped campaign start content) save :=
  leads_save fun _ workspace _ spared replaced => by
    apply spared.sameBut (Workspace.replace_spec replaced).1
    simpa only [Workspace.target, spared.here] using stored.symm

include incremental stored in
theorem leads_baseline_snapped (selected : campaign.Selected start content) :
    Leads (· = start) campaign.baseline (fun _ => Snapped campaign start content)
      (Selecting campaign start content fun _ => True) := by
  have cached : Leads (· = start) cached
      (fun data bench => bench = start ∧ data = start.cache.data)
      (Selecting campaign start content fun _ => True) := by
    rintro bench rfl
    exact ⟨rfl, rfl⟩
  unfold baseline
  refine .bind cached fun data => ?_
  rintro bench ⟨rfl, rfl⟩
  unfold Selected at selected
  suffices rest : Leads (· = bench) _ _ _ from rest bench rfl
  cases known : bench.cache.data.baseline? with
  | some seconds =>
    rw [known] at selected
    apply Leads.pure
    rintro _ rfl
    exact ⟨.refl _ _, rfl, selected⟩
  | none =>
    rw [known] at selected
    have executes : Leads (· = bench)
        (execute campaign.executor .baseline campaign.settings.runner.command none)
        (fun _ => Selecting campaign bench content
          (Spared bench.workspace.here campaign.selectionData content))
        (Selecting campaign bench content
          (Spared bench.workspace.here campaign.selectionData content)) := by
      rintro bench rfl
      have starts : Event.SelectsFrom campaign.selectionData content
          (.started .baseline campaign.settings.runner.command bench.workspace) :=
        selectsFrom_of_none rfl
      obtain ⟨path, log⟩ := (Continues.refl _ bench).add starts
      exact ⟨⟨path, log⟩, selected⟩
    have stores (seconds : Float) (elapsed : Duration) :
        Leads (Snapped campaign bench content) (do
            setBaseline (some seconds)
            return elapsed)
          (fun _ => Snapped campaign bench content)
          (Selecting campaign bench content fun _ => True) := by
      have saves : Preserves (Snapped campaign bench content) (setBaseline (some seconds)) :=
        setBaseline_rule (leads_save_snapped stored) _
      exact .bind (saves.mono (fun _ held => held) (fun _ _ held => held)
        fun _ held => ⟨held.1, trivial⟩) fun _ => .pure fun _ held => held
    refine .bind ((run_rule executes (fun _ => leads_note (selectsFrom_of_none rfl)) ?_).mono
      (fun _ held => held) (fun _ _ held => held) fun _ held => ⟨held.1, trivial⟩) fun outcome => ?_
    · intro line event member
      exact List.mem_singleton.mp member ▸ leads_note (selectsFrom_of_none rfl)
    dsimp only
    refine .optional (fun _ => .throw fun _ held => ⟨held.1, trivial⟩) ?_
    rw [if_pos (show campaign.settings.runner.incremental = true from incremental)]
    exact .bind (leads_files takeSnapshot_spared) fun _ => stores _ _

include incremental keeps in
theorem leads_runMutant_snapped (limit? : Option Duration) (mutant : Mutant) :
    Preserves (Snapped campaign start content)
      (campaign.settings.runner.runMutant campaign.executor limit? (some mutant)) := by
  have runs : Leads (Selecting campaign start content fun now =>
        Spared start.workspace.here campaign.selectionSnapshot content now ∧
          now.find campaign.selectionData = .ok (.file content))
      (execute campaign.executor (.test (some mutant)) campaign.settings.runner.command limit?)
      (fun _ => Snapped campaign start content) (Snapped campaign start content) := by
    apply leads_execute
    · exact fun turn workspace held => keeps turn workspace _ limit? held.1
    · rintro workspace ⟨-, found⟩ state ⟨rfl⟩
      rw [Workspace.read, found]
      rfl
  refine runMutant_selecting incremental (leads_begin fun _ _ => selectsFrom_of_none rfl)
    ((leads_files restoreSnapshot_spared).mono (fun _ held => held) (fun _ _ held => held)
      fun _ held => held) runs fun _ => leads_note (selectsFrom_of_none rfl)

include incremental keeps stored in
theorem leads_test_snapped {file : Path} (baseline : Duration) (source? : Option String)
    (id : MutantId)
    (apart : start.workspace.target file ≠ start.workspace.target campaign.selectionSnapshot) :
    Preserves (Snapped campaign start content) (campaign.test baseline file source? id) := by
  have clear : Clear start.workspace.here campaign.selectionSnapshot file := by
    apply Clear.of_getLast? campaign.getLast?_selectionSnapshot (by decide)
    intro workspace isHere
    simpa only [Workspace.target, isHere] using apart
  refine test_spares (fun _ held => held) fun mutant sameFile =>
    runTests_spares (sameFile ▸ clear)
      (leads_hook_kept keeps · (fun _ _ _ => selectsFrom_of_none rfl)
        fun _ => selectsFrom_of_none rfl)
      (leads_runMutant_snapped incremental keeps · mutant) fun status => ?_
  exact setStatus_rule (leads_save_snapped stored) mutant.file mutant.id status _

theorem leads_test_stored {right : Event → Prop} {holds : Workspace → Prop} {file : Path}
    {source? : Option String} {id : MutantId} (cacheOnly : campaign.settings.cacheOnly = true)
    (baseline : Duration) :
    Preserves (Holds right start holds) (campaign.test baseline file source? id) := by
  unfold test
  refine .bind leads_cached fun data => ?_
  dsimp only
  rw [if_pos (.inr cacheOnly)]
  exact .pure fun _ held => held

end Course

/-- Where the clean run leaves data by which the tests are chosen, or its time is known and there is
a copy of such data, the tests of all mutants start from one content of the data, that of the copy,
whatever the tests and the other commands do to the data, if they leave the copy alone. -/
theorem tests_start_from_snapshot (campaign : Campaign) (mutants : List FileMutants) (start : Bench)
    (content : ByteArray) (incremental : campaign.settings.isIncremental = true)
    (selected : campaign.Selected start content)
    (keeps : campaign.executor.Keeps
      (Spared start.workspace.here campaign.selectionSnapshot content))
    (stored : start.workspace.target start.cache.path ≠
      start.workspace.target campaign.selectionSnapshot)
    (apart : ∀ listed ∈ mutants, start.workspace.target listed.file ≠
      start.workspace.target campaign.selectionSnapshot) :
    ∃ later, (campaign.run mutants start).2.log = start.log ++ later ∧
      ∀ event ∈ later, event.SelectsFrom campaign.selectionData content := by
  suffices continued : Continues (Event.SelectsFrom campaign.selectionData content) start
      (campaign.run mutants start).2 from continued.log
  have fresh : Continues (Event.SelectsFrom campaign.selectionData content) start start := .refl _ _
  have clean := leads_baseline_snapped incremental stored selected start rfl
  obtain ⟨baseline, between, timed⟩ | ⟨tests, error, after, red⟩ :=
    campaign.timed_or_red start
  · rw [run_of_timed timed]
    have noted : Event.SelectsFrom campaign.selectionData content
        (.progress { total := count mutants }) := selectsFrom_of_none rfl
    cases timed with
    | skipped cacheOnly =>
      have tests : Preserves (Selecting campaign start content fun _ => True)
          (campaign.testFiles .zero { total := count mutants } mutants) :=
        testFiles_keeps (fun _ => leads_note (selectsFrom_of_none rfl))
          (fun _ _ _ => leads_note (selectsFrom_of_none rfl))
          (fun _ _ _ _ _ => leads_test_stored cacheOnly _) _
      exact (tests.behind ⟨fresh.add noted, trivial⟩).1
    | clean isTested passed =>
      rw [passed] at clean
      have tests : Preserves (Snapped campaign start content)
          (campaign.testFiles baseline { total := count mutants } mutants) :=
        testFiles_keeps (fun _ => leads_note (selectsFrom_of_none rfl))
          (fun _ _ _ => leads_note (selectsFrom_of_none rfl))
          (fun listed member id _ source? =>
            leads_test_snapped incremental keeps stored baseline source? id (apart listed member)) _
      exact (tests.behind ⟨clean.1.add noted, clean.2⟩).1
  · rw [run_of_red tests red]
    rw [red] at clean
    exact clean.1

/-- A campaign over sources that consist of one assignment, whose commands succeed and leave data by
which the tests are chosen, other ones each time. -/
def gathering : Campaign where
  settings := { testCommand := "python -m pytest --testmon" }
  mutator := endless.mutator
  executor := ⟨fun turn workspace _ _ =>
    let left := workspace.replace ⟨".testmondata"⟩ (toString turn).toUTF8
    (⟨[], .exited 0, .zero⟩, left.toOption.getD workspace)⟩

/-- The mutants of a source. -/
def bothMutants : List FileMutants :=
  [⟨plain, [assignmentId, { assignmentId with index := 1 }]⟩]

/-- A bench with the source and no data by which tests are chosen, where the time of the clean run
is known or not. -/
def oneSource (baseline? : Option Float) : Bench where
  workspace := ⟨.directory [("a.py", .file assignmentText.toUTF8)], [], []⟩
  cache := ⟨Path.join ⟨"."⟩ Cache.fileName,
    { CacheData.empty with baseline? }.updateLines plain assignmentText⟩
  turn := 0
  log := []

/-- The data as they are at the starts of the tests of mutants. -/
def selections (campaign : Campaign) (mutants : List FileMutants) (start : Bench) :
    List (Option ByteArray) :=
  (campaign.run mutants start).2.log.filterMap (Event.selectedFrom? campaign.selectionData)

theorem gathering_keeps (content : ByteArray) (here : List String) :
    gathering.executor.Keeps (Spared here gathering.selectionSnapshot content) := by
  intro turn workspace command limit? spared
  unfold gathering
  dsimp only
  cases replaced : workspace.replace ⟨".testmondata"⟩ (toString turn).toUTF8 with
  | error fault => exact spared
  | ok after =>
    apply spared.sameBut (Workspace.replace_spec replaced).1
    exact Workspace.target_ne_of_getLast? gathering.getLast?_selectionSnapshot
      (by decide : _ = some 'a') (by decide) (by decide) (by decide) workspace

/-- After a clean run the tests of both mutants start from what it has left. -/
theorem gathering_starts_from_clean :
    gathering.settings.isIncremental = true ∧
      gathering.Selected (oneSource none) "0".toUTF8 ∧
      ∀ event ∈ (gathering.run bothMutants (oneSource none)).2.log,
        event.SelectsFrom gathering.selectionData "0".toUTF8 := by
  have selected : gathering.Selected (oneSource none) "0".toUTF8 := by
    have found : (gathering.executor.run 0 (oneSource none).workspace
        gathering.settings.testCommand none).2.find gathering.selectionData =
          .ok (.file "0".toUTF8) :=
      Workspace.find_of_readText (ok_of_toOption (by decide))
    exact ⟨by decide, found⟩
  obtain ⟨later, shape, starts⟩ := tests_start_from_snapshot gathering bothMutants (oneSource none)
    "0".toUTF8 (by decide) selected (gathering_keeps _ _) (by decide) (by decide)
  refine ⟨by decide, selected, fun event member => starts event ?_⟩
  rwa [shape] at member

/-- Where the time of the clean run is known and there is no copy, the tests of the second mutant
start from what those of the first have left. -/
theorem tests_start_from_last :
    gathering.settings.isIncremental = true ∧
      gathering.selections bothMutants (oneSource (some 1.0)) = [none, some "0".toUTF8] :=
  ⟨by decide, by decide +kernel⟩

end Campaign

end MutationTesting
