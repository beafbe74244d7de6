import MutationTesting.Proofs.Sequence
import MutationTesting.Suite.Campaign
/-! A campaign as a sequence of trials. Once the clean run is over, its mutants are tested one after the
other, up to the last one or to the first test that fails, and each one is reported. -/
namespace MutationTesting

open Sequence

/-- A bench with more events in its log. -/
def Bench.noting (bench : Bench) (events : List Event) : Bench :=
  { bench with log := bench.log ++ events }

theorem Bench.noting_noting (bench : Bench) (events further : List Event) :
    (bench.noting events).noting further = bench.noting (events ++ further) := by
  simp [noting]

/-- The mutants of files, one after the other. -/
def FileMutants.keys (mutants : List FileMutants) : List (Path × MutantId) :=
  mutants.flatMap fun listed => listed.ids.map fun id => (listed.file, id)

namespace Campaign

open FileMutants (keys)

/-- What is noted when a mutant is done. -/
def reportOf (file : Path) (id : MutantId) (status : Status) (tally : Tally) : List Event :=
  [.finished file id status, .progress tally]

/-- Mutants are tested one after the other. A test that fails ends this. -/
inductive Trials (campaign : Campaign) (baseline : Duration) :
    Tally → List (Path × MutantId) → Bench → CampaignResult → Bench → Prop where
  | done (tally : Tally) (bench : Bench) :
      Trials campaign baseline tally [] bench ⟨tally, none⟩ bench
  | next {tally : Tally} {file : Path} {id : MutantId} {rest : List (Path × MutantId)}
      {before between after : Bench} {result : CampaignResult} {status : Status}
      {source? read? : Option String}
      (tested : campaign.test baseline file source? id before = (.ok (status, read?), between))
      (further : Trials campaign baseline (tally.record status) rest
        (between.noting (reportOf file id status (tally.record status))) result after) :
      Trials campaign baseline tally ((file, id) :: rest) before result after
  | stop {file : Path} {id : MutantId} {before after : Bench} {error : Error}
      {source? : Option String} (tally : Tally) (rest : List (Path × MutantId))
      (failed : campaign.test baseline file source? id before = (.error error, after)) :
      Trials campaign baseline tally ((file, id) :: rest) before ⟨tally, some error⟩ after

variable {campaign : Campaign} {baseline : Duration} {tally : Tally} {before between after : Bench}
  {result : CampaignResult} {first later : List (Path × MutantId)}

theorem Trials.append {tallied : Tally}
    (trials : Trials campaign baseline tally first before ⟨tallied, none⟩ between)
    (further : Trials campaign baseline tallied later between result after) :
    Trials campaign baseline tally (first ++ later) before result after := by
  generalize isDone : (⟨tallied, none⟩ : CampaignResult) = done at trials
  induction trials with
  | done tally bench =>
    obtain rfl := (CampaignResult.mk.inj isDone).1
    exact further
  | next tested _ ih => exact .next tested (ih further isDone)
  | stop => exact absurd (CampaignResult.mk.inj isDone).2 (by simp)

theorem Trials.append_of_error {error : Error} (later : List (Path × MutantId))
    (trials : Trials campaign baseline tally first before result after)
    (failed : result.error? = some error) :
    Trials campaign baseline tally (first ++ later) before result after := by
  induction trials with
  | done => simp at failed
  | next tested _ ih => exact .next tested (ih failed)
  | stop tally rest stopped => exact .stop tally (rest ++ later) stopped

theorem testIds_trials (campaign : Campaign) (baseline : Duration) (file : Path)
    (source? : Option String) (tally : Tally) (ids : List MutantId) (before : Bench) :
    ∃ result after, campaign.testIds baseline file source? tally ids before = (.ok result, after) ∧
      Trials campaign baseline tally (ids.map fun id => (file, id)) before result after := by
  induction ids generalizing source? tally before with
  | nil => exact ⟨_, _, rfl, .done tally before⟩
  | cons id rest ih =>
    unfold testIds
    rw [bind_apply]
    unfold OnBench.attempt
    cases tested : campaign.test baseline file source? id before with
    | mk outcome between =>
      cases outcome with
      | error error => exact ⟨_, _, rfl, .stop tally _ tested⟩
      | ok found =>
        obtain ⟨status, read?⟩ := found
        obtain ⟨result, after, same, trials⟩ := ih read? (tally.record status)
          (between.noting (reportOf file id status (tally.record status)))
        refine ⟨result, after, ?_, .next tested trials⟩
        rw [← same]
        dsimp only
        rw [bind_apply]
        dsimp only [OnBench.note]
        rw [bind_apply]
        simp [Bench.noting, reportOf, OnBench.note]

theorem testFiles_trials (campaign : Campaign) (baseline : Duration) (tally : Tally)
    (mutants : List FileMutants) (before : Bench) :
    ∃ result after, campaign.testFiles baseline tally mutants before = (.ok result, after) ∧
      Trials campaign baseline tally (keys mutants) before result after := by
  induction mutants generalizing tally before with
  | nil => exact ⟨_, _, rfl, .done tally before⟩
  | cons listed rest ih =>
    obtain ⟨result, between, same, trials⟩ :=
      testIds_trials campaign baseline listed.file none tally listed.ids before
    unfold testFiles
    rw [bind_apply, same]
    obtain ⟨tallied, error?⟩ := result
    cases error? with
    | some error => exact ⟨_, _, rfl, trials.append_of_error _ rfl⟩
    | none =>
      obtain ⟨result, after, same, further⟩ := ih tallied between
      exact ⟨result, after, same, trials.append further⟩

/-- The clean run is over, or is not needed since only stored results are reported. -/
inductive Timed (campaign : Campaign) (before : Bench) : Duration → Bench → Prop where
  | skipped (cacheOnly : campaign.settings.cacheOnly = true) : Timed campaign before .zero before
  | clean {baseline : Duration} {between : Bench} (tests : campaign.settings.cacheOnly = false)
      (passed : campaign.baseline before = (.ok baseline, between)) :
      Timed campaign before baseline between

theorem timed_or_red (campaign : Campaign) (before : Bench) :
    (∃ baseline between, campaign.Timed before baseline between) ∨
      campaign.settings.cacheOnly = false ∧
        ∃ error after, campaign.baseline before = (.error error, after) := by
  cases cacheOnly : campaign.settings.cacheOnly with
  | true => exact .inl ⟨_, _, .skipped cacheOnly⟩
  | false =>
    cases clean : campaign.baseline before with
    | mk outcome between =>
      cases outcome with
      | error error => exact .inr ⟨rfl, error, between, rfl⟩
      | ok baseline => exact .inl ⟨baseline, between, .clean cacheOnly clean⟩

theorem run_of_red {error : Error} (tests : campaign.settings.cacheOnly = false)
    (red : campaign.baseline before = (.error error, after)) (mutants : List FileMutants) :
    campaign.run mutants before = (.ok ⟨{}, some error⟩, after) := by
  unfold run
  simp only [tests, Bool.false_eq_true, if_false]
  rw [bind_apply]
  simp only [OnBench.attempt, red]
  rfl

theorem run_of_timed (timed : campaign.Timed before baseline between)
    (mutants : List FileMutants) :
    campaign.run mutants before =
      campaign.testFiles baseline { total := count mutants } mutants
        (between.noting [.progress { total := count mutants }]) := by
  have noted (bench : Bench) : (do
      OnBench.note (.progress { total := count mutants })
      campaign.testFiles baseline { total := count mutants } mutants) bench =
      campaign.testFiles baseline { total := count mutants } mutants
        (bench.noting [.progress { total := count mutants }]) := by
    rw [bind_apply]
    rfl
  unfold run
  cases timed with
  | skipped cacheOnly =>
    simp only [cacheOnly, if_true]
    rw [bind_apply]
    exact noted before
  | clean tests passed =>
    simp only [tests, Bool.false_eq_true, if_false]
    rw [bind_apply]
    simp only [OnBench.attempt, passed]
    exact noted between

/-- What becomes of a campaign, which does not fail itself. -/
theorem run_trials (campaign : Campaign) (mutants : List FileMutants) (before : Bench) :
    ∃ result after, campaign.run mutants before = (.ok result, after) ∧
      ((∃ baseline between, campaign.Timed before baseline between ∧
          Trials campaign baseline { total := count mutants } (keys mutants)
            (between.noting [.progress { total := count mutants }]) result after) ∨
        campaign.settings.cacheOnly = false ∧ ∃ error, result = ⟨{}, some error⟩ ∧
          campaign.baseline before = (.error error, after)) := by
  obtain ⟨baseline, between, timed⟩ | ⟨tests, error, after, red⟩ := timed_or_red campaign before
  · obtain ⟨result, after, same, trials⟩ :=
      testFiles_trials campaign baseline { total := count mutants } mutants
        (between.noting [.progress { total := count mutants }])
    exact ⟨result, after, (run_of_timed timed mutants).trans same,
      .inl ⟨baseline, between, timed, trials⟩⟩
  · exact ⟨_, after, run_of_red tests red mutants, .inr ⟨tests, error, rfl, red⟩⟩

theorem trials_of_run {mutants : List FileMutants}
    (ran : campaign.run mutants before = (.ok result, after)) :
    (∃ baseline between, campaign.Timed before baseline between ∧
        Trials campaign baseline { total := count mutants } (keys mutants)
          (between.noting [.progress { total := count mutants }]) result after) ∨
      campaign.settings.cacheOnly = false ∧ ∃ error, result = ⟨{}, some error⟩ ∧
        campaign.baseline before = (.error error, after) := by
  obtain ⟨found, ended, same, run⟩ := campaign.run_trials mutants before
  rw [ran, Prod.mk.injEq, Except.ok.injEq] at same
  obtain ⟨rfl, rfl⟩ := same
  exact run

end Campaign

end MutationTesting
