import MutationTesting.Proofs.Suite.Reports
import MutationTesting.Python.Source
import MutationTesting.Rule.Catalogue
/-! What a run gives account of: the mutants that it reports, its counts and its exit code. -/
namespace MutationTesting

open Sequence

namespace Tally

/-- How many mutants with a status have been counted. -/
def countOf (tally : Tally) : Status → Nat
  | .killed => tally.killed
  | .timedOut => tally.timedOut
  | .suspicious => tally.suspicious
  | .survived => tally.survived
  | .untested => tally.skipped

theorem countOf_record (tally : Tally) (status other : Status) :
    (tally.record status).countOf other =
      tally.countOf other + if status = other then 1 else 0 := by
  cases status <;> cases other <;> rfl

theorem total_record (tally : Tally) (status : Status) :
    (tally.record status).total = tally.total := by
  cases status <;> rfl

/-- The bits of the exit code that stand for mutants. -/
def exitBits : List (Status × Nat) :=
  [(.survived, 1), (.timedOut, 2), (.suspicious, 3)]

theorem testBit_flags : ∀ failed survived timedOut suspicious : Bool,
    let code := (if failed then 1 else 0) + (if survived then 2 else 0) +
      (if timedOut then 4 else 0) + (if suspicious then 8 else 0)
    code.testBit 0 = failed ∧ code.testBit 1 = survived ∧ code.testBit 2 = timedOut ∧
      code.testBit 3 = suspicious ∧ code < 16 := by
  decide

/-- A bit of the exit code is set for a failure, and for each sort of mutants that the tests did not
kill if there is one. -/
theorem testBit_exitCode (tally : Tally) (failed : Bool) :
    (tally.exitCode failed).testBit 0 = failed ∧
      (∀ sort ∈ exitBits, (tally.exitCode failed).testBit sort.2 = true ↔ 0 < tally.countOf sort.1) ∧
      tally.exitCode failed < 16 := by
  have flags := testBit_flags failed (decide (0 < tally.survived)) (decide (0 < tally.timedOut))
    (decide (0 < tally.suspicious))
  simp only [decide_eq_true_eq] at flags
  obtain ⟨failure, survivors, late, slow, below⟩ := flags
  refine ⟨failure, fun sort isSort => ?_, below⟩
  simp only [exitBits, List.mem_cons, List.not_mem_nil, or_false] at isSort
  obtain rfl | rfl | rfl := isSort
  · exact (Bool.eq_iff_iff.mp survivors).trans decide_eq_true_iff
  · exact (Bool.eq_iff_iff.mp late).trans decide_eq_true_iff
  · exact (Bool.eq_iff_iff.mp slow).trans decide_eq_true_iff

end Tally

namespace Campaign

open FileMutants (keys)

variable {campaign : Campaign} {baseline : Duration} {tally : Tally} {before between after : Bench}
  {result : CampaignResult} {mutants : List FileMutants} {named : List (Path × MutantId)}

section Counts

theorem countOf_recordAll (tally : Tally) (reports : List (Path × MutantId × Status))
    (status : Status) : (recordAll tally reports).countOf status =
      tally.countOf status + reports.countP fun report => report.2.2 = status := by
  induction reports generalizing tally with
  | nil => rfl
  | cons report rest ih =>
    have further := ih (tally.record report.2.2)
    rw [Tally.countOf_record] at further
    rw [List.countP_cons]
    simp only [decide_eq_true_eq]
    exact further.trans (by omega)

theorem progress_recordAll (tally : Tally) (reports : List (Path × MutantId × Status)) :
    (recordAll tally reports).progress = tally.progress + reports.length ∧
      (recordAll tally reports).recorded = tally.recorded + reports.length ∧
      (recordAll tally reports).total = tally.total := by
  induction reports generalizing tally with
  | nil => exact ⟨rfl, rfl, rfl⟩
  | cons report rest ih =>
    obtain ⟨progress, recorded, total⟩ := ih (tally.record report.2.2)
    rw [Tally.progress_record] at progress
    rw [Tally.recorded_record] at recorded
    rw [Tally.total_record] at total
    rw [List.length_cons]
    exact ⟨progress.trans (by omega), recorded.trans (by omega), total⟩

theorem length_keys (mutants : List FileMutants) : (keys mutants).length = count mutants := by
  simp [keys, count]

end Counts

/-- The baseline phase of a campaign fails. -/
structure Red (campaign : Campaign) (before : Bench) (error : Error) (after : Bench) : Prop where
  tests : campaign.settings.cacheOnly = false
  failed : campaign.baseline before = (.error error, after)

/-- The mutants with the status that the cache has for them. -/
def storedReports (campaign : Campaign) (data : CacheData) (named : List (Path × MutantId)) :
    List (Path × MutantId × Status) :=
  named.map fun key =>
    (key.1, key.2, data.trustedStatus key.1 key.2 campaign.settings.testsDigest)

/-- Where only stored results are reported, nothing else is done for any mutant. -/
theorem Trials.storedOnly (cacheOnly : campaign.settings.cacheOnly = true)
    (trials : Trials campaign baseline tally named before result after) :
    result.error? = none ∧
      after = before.noting (notesOf tally (campaign.storedReports before.cache.data named)) := by
  induction trials with
  | done tally bench => exact ⟨rfl, by simp [storedReports, notesOf, Bench.noting]⟩
  | next tested further ih =>
    cases trial_of_test tested with
    | known =>
      obtain ⟨noError, same⟩ := ih
      refine ⟨noError, same.trans ?_⟩
      rw [Bench.noting_noting]
      rfl
    | tested left => exact absurd left.tests (by simp [cacheOnly])
  | stop tally rest failed => exact absurd (left_of_test failed).tests (by simp [cacheOnly])

/-- The counts of a run and its exit code are those of the mutants that it reports. -/
structure Counted (result : CampaignResult) (reports : List (Path × MutantId × Status)) : Prop where
  counts : ∀ status, result.tally.countOf status =
    reports.countP fun report => report.2.2 = status
  progress : result.tally.progress = reports.length
  recorded : result.tally.progress = result.tally.recorded
  failed : result.exitCode.testBit 0 = result.error?.isSome
  sorts : ∀ sort ∈ Tally.exitBits, result.exitCode.testBit sort.2 = true ↔
    ∃ report ∈ reports, report.2.2 = sort.1
  noOther : result.exitCode < 16

theorem counted_of_recordAll {reports : List (Path × MutantId × Status)} {total : Nat}
    (tallied : result.tally = recordAll { total } reports) : Counted result reports := by
  have counts (status : Status) :
      result.tally.countOf status = reports.countP fun report => report.2.2 = status := by
    have empty : ({ total } : Tally).countOf status = 0 := by
      cases status <;> rfl
    rw [tallied, countOf_recordAll, empty, Nat.zero_add]
  obtain ⟨progress, recorded, -⟩ := progress_recordAll { total } reports
  have length : result.tally.progress = reports.length := by
    rw [tallied, progress, Nat.zero_add]
  obtain ⟨failed, sorts, noOther⟩ := result.tally.testBit_exitCode result.error?.isSome
  refine ⟨counts, length, ?_, failed, fun sort isSort => ?_, noOther⟩
  · rw [length, tallied, recorded]
    exact (Nat.zero_add _).symm
  · refine (sorts sort isSort).trans ?_
    rw [counts, List.countP_pos_iff]
    simp only [decide_eq_true_eq]

/-- What a run gives account of. -/
structure Accounts (campaign : Campaign) (mutants : List FileMutants) (before : Bench)
    (result : CampaignResult) (after : Bench) (reports : List (Path × MutantId × Status)) : Prop
    extends Counted result reports where
  /-- These mutants are reported, in this order. -/
  log : finished after.log = finished before.log ++ reports
  inOrder : reported reports <+: keys mutants
  /-- All are reported just if no failure ends the run, but for a run that has none to report and
  fails before it comes to them. -/
  whole : reported reports = keys mutants ↔
    result.error? = none ∨ keys mutants = [] ∧ ∃ error, campaign.Red before error after
  progress_le : result.tally.progress ≤ result.tally.total
  total : (∀ error left, ¬ campaign.Red before error left) →
    result.tally.total = (keys mutants).length
  /-- If the baseline phase fails, nothing comes after it, and no mutant has come to its tests. -/
  red : ∀ error left, campaign.Red before error left →
    result = ⟨{}, some error⟩ ∧ after = left ∧
      ∃ events, left.log = before.log ++ events ∧ handled events = []
  /-- Where only stored results are reported, no command is started and no file written. -/
  stored : campaign.settings.cacheOnly = true →
    reports = campaign.storedReports before.cache.data (keys mutants) ∧
      ∃ events, after = before.noting events ∧
        ∀ event ∈ events, ∀ purpose command workspace, event ≠ .started purpose command workspace

theorem Timed.finished_eq (timed : campaign.Timed before baseline between) :
    finished between.log = finished before.log := by
  cases timed with
  | skipped => rfl
  | clean tests passed =>
    cases clocked_of_baseline passed with
    | known => rfl
    | timed recached =>
      obtain ⟨events, shape, concern⟩ := recached.log
      rw [shape, finished_append, concern.finished, List.append_nil]

theorem Red.events {error : Error} (red : campaign.Red before error after) :
    ∃ events, after.log = before.log ++ events ∧ handled events = [] ∧ finished events = [] := by
  obtain ⟨baseline?, recached⟩ := unclocked_of_baseline red.failed
  obtain ⟨events, shape, concern⟩ := recached.log
  exact ⟨events, shape, List.eq_nil_iff_forall_not_mem.mpr concern.handled, concern.finished⟩

theorem Timed.not_red (timed : campaign.Timed before baseline between) (error : Error)
    (left : Bench) : ¬ campaign.Red before error left := by
  rintro ⟨tests, failed⟩
  cases timed with
  | skipped cacheOnly => simp [cacheOnly] at tests
  | clean _ passed =>
    have same := (Prod.mk.inj (passed.symm.trans failed)).1
    contradiction

theorem accounts_of_red {error : Error} (red : campaign.Red before error after)
    (mutants : List FileMutants) :
    campaign.Accounts mutants before ⟨{}, some error⟩ after [] := by
  obtain ⟨events, shape, noMutant, silent⟩ := red.events
  refine { counted_of_recordAll rfl with
    log := ?_
    inOrder := List.nil_prefix
    whole := ?_
    progress_le := Nat.le_refl 0
    total := fun green => absurd red (green error after)
    red := ?_
    stored := fun cacheOnly => absurd red.tests (by simp [cacheOnly]) }
  · rw [shape, finished_append, silent]
  · constructor
    · exact fun same => .inr ⟨same.symm, error, red⟩
    · rintro (noError | ⟨none, -⟩)
      · contradiction
      · exact none.symm
  · intro other left redToo
    obtain ⟨same, rfl⟩ := Prod.mk.inj (red.failed.symm.trans redToo.failed)
    obtain rfl := Except.error.inj same
    exact ⟨rfl, rfl, events, shape, noMutant⟩

/-- Where only stored results are reported, the bench stays as it is but for the log. -/
theorem storedOnly_of_trials (cacheOnly : campaign.settings.cacheOnly = true)
    (timed : campaign.Timed before baseline between)
    (trials : Trials campaign baseline tally named (between.noting [.progress tally]) result after) :
    ∃ events, after = before.noting events ∧
      finished events = campaign.storedReports before.cache.data named ∧
      ∀ event ∈ events, ∀ purpose command workspace, event ≠ .started purpose command workspace := by
  cases timed with
  | skipped =>
    have same := (trials.storedOnly cacheOnly).2
    rw [Bench.noting_noting] at same
    refine ⟨_, same, ?_, List.forall_mem_append.mpr ⟨by simp, notStarted_notesOf _ _⟩⟩
    rw [finished_append, finished_notesOf]
    rfl
  | clean tests => simp [cacheOnly] at tests

theorem accounts_of_trials (timed : campaign.Timed before baseline between)
    (trials : Trials campaign baseline { total := count mutants } (keys mutants)
      (between.noting [.progress { total := count mutants }]) result after) :
    ∃ reports, campaign.Accounts mutants before result after reports := by
  obtain ⟨reports, rest, shape, log, tallied, all⟩ := trials.reports
  have counted : Counted result reports := counted_of_recordAll tallied
  have log : finished after.log = finished before.log ++ reports := by
    rw [log, Bench.noting, finished_append, timed.finished_eq]
    exact congrArg (· ++ reports) (List.append_nil _)
  have total : result.tally.total = (keys mutants).length := by
    rw [tallied, (progress_recordAll _ reports).2.2, length_keys]
  have length : (keys mutants).length = reports.length + rest.length := by
    rw [shape, List.length_append, reported, List.length_map]
  refine ⟨reports, { counted with
    log := log
    inOrder := ⟨rest, shape.symm⟩
    whole := ?_
    progress_le := ?_
    total := fun _ => total
    red := fun error left red => absurd red (timed.not_red error left)
    stored := ?_ }⟩
  · rw [all]
    constructor
    · intro same
      have none : reported reports ++ rest = reported reports ++ [] := by
        rw [← shape, same, List.append_nil]
      exact .inl (List.append_cancel_left none)
    · rintro (rfl | ⟨-, error, red⟩)
      · rw [shape, List.append_nil]
      · exact absurd red (timed.not_red error after)
  · rw [counted.progress, total, length]
    exact Nat.le_add_right _ _
  · intro cacheOnly
    obtain ⟨events, rfl, isStored, nothing⟩ := storedOnly_of_trials cacheOnly timed trials
    rw [Bench.noting, finished_append, isStored] at log
    exact ⟨(List.append_cancel_left log).symm, events, rfl, nothing⟩

/-- What a run gives account of. It has an outcome in any case. -/
theorem run_accounts (campaign : Campaign) (mutants : List FileMutants) (before : Bench) :
    ∃ result after reports, campaign.run mutants before = (.ok result, after) ∧
      campaign.Accounts mutants before result after reports := by
  obtain ⟨result, after, ran, ⟨baseline, between, timed, trials⟩ | ⟨tests, error, rfl, failed⟩⟩ :=
    campaign.run_trials mutants before
  · obtain ⟨reports, accounts⟩ := accounts_of_trials timed trials
    exact ⟨result, after, reports, ran, accounts⟩
  · exact ⟨_, after, [], ran, accounts_of_red ⟨tests, failed⟩ mutants⟩

/-- A campaign whose tests fail. -/
def alwaysRed : Campaign where
  settings := { testCommand := "false" }
  mutator := ⟨Python.frontend fun _ => none, .python [], .everyLine⟩
  executor := ⟨fun _ workspace _ _ => (⟨[], .exited 1, .zero⟩, workspace)⟩

/-- A bench without files. -/
def bareBench : Bench :=
  ⟨⟨.directory [], [], []⟩, ⟨⟨".mutator-cache.json"⟩, .empty⟩, 0, []⟩

/-- Of no mutants at all, all have been reported though the run fails. -/
theorem none_reported_though_failed :
    ∃ result after, alwaysRed.run [] bareBench = (.ok result, after) ∧
      ¬ (reported (finished after.log) = keys [] ↔ result.error? = none) := by
  have fails : (alwaysRed.run [] bareBench).1.toOption.map (fun result => result.error?.isSome) =
      some true := by
    decide
  have nothing : finished (alwaysRed.run [] bareBench).2.log = [] := by
    decide
  obtain ⟨result, isResult, failed⟩ := Option.map_eq_some_iff.mp fails
  refine ⟨result, _, Prod.ext (ok_of_toOption isResult) rfl, fun whole => ?_⟩
  rw [whole.mp (by rw [nothing]; rfl)] at failed
  contradiction

end Campaign

end MutationTesting
