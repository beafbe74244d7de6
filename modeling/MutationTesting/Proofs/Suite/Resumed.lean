import MutationTesting.Proofs.Suite.Restored
import MutationTesting.Proofs.Suite.Session
/-! Sessions that take up where earlier ones have stopped. What an earlier session has reported is
reported again from the cache, before anything else is done and without anything being started for it.
Behind a session that has come to its end nothing is started at all. -/
namespace MutationTesting

open CacheData (SameRows)
open FileMutants (keys)
open Campaign (Trials recordAll reported notesOf)

/-- The numbers of a cache are those that a machine can store. -/
structure CacheData.Storable (data : CacheData) : Prop extends Fits data where
  finite : ∀ seconds, data.baseline? = some seconds → Decimal.isFinite seconds = true

namespace Session

/-- A session lists the mutants of the same files, which have not been changed, to test them with the
same tests. Commands, limits and what else is set may differ. -/
structure Resumes (later first : Session) : Prop extends Follows later first where
  mutator : later.campaign.mutator = first.campaign.mutator
  files : later.files = first.files
  keepGoing : later.campaign.settings.keepGoing = first.campaign.settings.keepGoing
  digest : later.campaign.settings.testsDigest = first.campaign.settings.testsDigest
  texts : ∀ file ∈ first.files, later.workspace.readText file = first.workspace.readText file

variable {first later : Session} {mutants : List FileMutants} {listed ended : Bench}
  {result : CampaignResult} {left : CacheData}

theorem Resumes.generation (resumes : later.Resumes first) (lists : first.Lists mutants listed)
    (rows : SameRows listed.cache.data later.cache.data) {old : ByteArray}
    (found : later.workspace.find later.place = .ok (.file old)) :
    ∃ bench, later.generation = (.ok mutants, bench) ∧ bench.cache = later.cache := by
  have same : later.campaign.mutator.listFiles later.campaign.settings.keepGoing later.workspace
      later.files later.cache.data = (.ok mutants, later.cache.data) := by
    rw [resumes.mutator, resumes.keepGoing, resumes.files, Mutator.listFiles_congr resumes.texts]
    exact Mutator.listFiles_again first.sorted_cache lists.listed fun file _ outcome isListed =>
      Mutator.Lists.sameRows isListed lists.sorted rows
  obtain ⟨bench, generated⟩ := generation_of_found same found
  have again := lists_of_generation generated
  have data : later.cache.data = bench.cache.data :=
    (Prod.mk.inj (same.symm.trans again.listed)).2
  refine ⟨bench, generated, ?_⟩
  rw [show bench.cache = ⟨bench.cache.path, bench.cache.data⟩ from rfl, again.path,
    ← later.path_cache, ← data]

/-- How a session goes on behind one that has listed the same mutants, ended with a result and left a
bench. -/
structure Resumption (later : Session) (mutants : List FileMutants) (result : CampaignResult)
    (ended listed : Bench) (again : CampaignResult) (after : Bench) : Prop where
  outcome : later.outcome = (.ok (mutants, again), after)
  /-- The same mutants are listed, which changes nothing in the cache and no file but the stored
  cache. -/
  generation : later.generation = (.ok mutants, listed)
  cache : listed.cache = later.cache
  files : later.workspace.SameBut (· = later.workspace.target later.place) listed.workspace
  /-- What has been reported is noted, and nothing else is done before the other mutants come to
  their trials. -/
  begins : finished ended.log ≠ [] ∨ result.error? = none →
    ∃ baseline rest, keys mutants = reported (finished ended.log) ++ rest ∧
      Trials later.campaign baseline
        (recordAll { total := Campaign.count mutants } (finished ended.log)) rest
        (listed.noting (.progress { total := Campaign.count mutants } ::
          notesOf { total := Campaign.count mutants } (finished ended.log)))
        again after
  reports : finished ended.log <+: finished after.log
  /-- Nothing is started for a mutant that has been reported, be it listed once more. -/
  knows : ∀ file id status, (file, id, status) ∈ finished ended.log →
    ∀ event ∈ after.log, event.Knows file id status
  /-- Behind a session that has come to its end nothing is started at all. -/
  silent : result.error? = none →
    ∀ event ∈ after.log, ∀ purpose command workspace, event ≠ .started purpose command workspace
  repeats : result.error? = none → again = result ∧ again.exitCode = result.exitCode
  rows : result.error? = none → after.cache.data.files = ended.cache.data.files ∧
    after.cache.data.nextNumber = ended.cache.data.nextNumber ∧ after.Stored

/-- The trials of a session that has the time of the clean run, or does not need it. -/
theorem trials_of_timed {after : Bench} {again : CampaignResult}
    (ran : later.campaign.run mutants listed = (.ok again, after))
    (timed : later.campaign.settings.cacheOnly = false →
      listed.cache.data.baseline?.isSome = true) :
    ∃ baseline, Trials later.campaign baseline { total := Campaign.count mutants } (keys mutants)
      (counted mutants listed) again after := by
  obtain ⟨baseline, clocked, isTimed, trials⟩ | ⟨tests, error, -, failed⟩ :=
    Campaign.trials_of_run ran
  · cases isTimed with
    | skipped => exact ⟨_, trials⟩
    | clean tests passed =>
      obtain ⟨known, same⟩ := Campaign.baseline_of_known later.campaign (timed tests)
      rw [passed, Prod.mk.injEq] at same
      obtain ⟨-, rfl⟩ := same
      exact ⟨_, trials⟩
  · obtain ⟨known, same⟩ := Campaign.baseline_of_known later.campaign (timed tests)
    rw [failed] at same
    exact absurd (Prod.mk.inj same).1 (by simp)

/-- A session that resumes another one reports what that one has reported, in the same order, with the
same statuses and without testing it again. If that one has come to its end, this one does so without
starting anything, and the cache stays as it was. -/
theorem resumes_where_it_stopped (resumes : later.Resumes first)
    (tests : first.campaign.settings.cacheOnly = false)
    (outcome : first.outcome = (.ok (mutants, result), ended))
    (storable : ended.cache.data.Storable)
    (spares : result.error?.isSome = true → first.SparesCache) :
    ∃ listed again after, later.Resumption mutants result ended listed again after := by
  obtain ⟨firstListed, -, lists, ran⟩ := listed_of_outcome outcome
  obtain ⟨left, leaves⟩ := lists.leaves ran
  obtain ⟨baseline?, opened, isRead⟩ := resumes.opened outcome lists leaves spares storable.toFits
  have found : later.workspace.find later.place = .ok (.file left.encode.toUTF8) := by
    rw [resumes.place, resumes.stored, outcome]
    exact leaves.stored spares
  have rows : SameRows firstListed.cache.data later.cache.data :=
    opened ▸ leaves.rows.trans (CacheData.sameRows_withBaseline left baseline?)
  obtain ⟨listed, generated, cache⟩ := resumes.generation lists rows found
  have listsAgain := lists_of_generation generated
  obtain ⟨again, after, ranAgain, -⟩ := later.campaign.run_trials mutants listed
  have data : listed.cache.data = { left with baseline? } := by rw [cache, opened]
  -- What has been reported is known at the start of the trials.
  have known (file : Path) (id : MutantId) (status : Status)
      (isReport : (file, id, status) ∈ finished ended.log) : status ≠ .untested ∧
      (counted mutants listed).cache.data.trustedStatus file id
        later.campaign.settings.testsDigest = status := by
    obtain ⟨isKnown, isTested⟩ := leaves.faithful file id status isReport
    rw [resumes.digest, show (counted mutants listed).cache.data = _ from data]
    exact ⟨isTested tests, isKnown⟩
  have begins (some : finished ended.log ≠ [] ∨ result.error? = none) :
      ∃ baseline, Trials later.campaign baseline { total := Campaign.count mutants } (keys mutants)
        (counted mutants listed) again after := by
    obtain ⟨isTimed, same⟩ := leaves.timed some tests
    obtain ⟨seconds, isSeconds⟩ := Option.isSome_iff_exists.mp isTimed
    have finite := storable.finite seconds (same.trans isSeconds)
    exact trials_of_timed ranAgain fun _ => data ▸ isRead seconds isSeconds finite
  obtain ⟨rest, shape, completed⟩ := lists.reports ran
  have skipped (some : finished ended.log ≠ [] ∨ result.error? = none) :
      ∃ baseline, Trials later.campaign baseline
        (recordAll { total := Campaign.count mutants } (finished ended.log)) rest
        (listed.noting (.progress { total := Campaign.count mutants } ::
          notesOf { total := Campaign.count mutants } (finished ended.log))) again after := by
    obtain ⟨baseline, trials⟩ := begins some
    rw [shape] at trials
    have further := trials.skipAll known
    rw [counted, Bench.noting_noting] at further
    exact ⟨baseline, further⟩
  have ends (noError : result.error? = none) : again = result ∧
      after = listed.noting (.progress { total := Campaign.count mutants } ::
        notesOf { total := Campaign.count mutants } (finished ended.log)) := by
    obtain ⟨baseline, trials⟩ := skipped (.inr noError)
    obtain ⟨rfl, tallied⟩ := completed noError
    obtain ⟨tally, error?⟩ := result
    obtain rfl : error? = none := noError
    cases trials with
    | done => exact ⟨by rw [← tallied], rfl⟩
  have started (some : finished ended.log ≠ []) :
      finished ended.log <+: finished after.log := by
    obtain ⟨baseline, trials⟩ := skipped (.inl some)
    obtain ⟨more, -, -, log, -⟩ := trials.reports
    refine ⟨more, ?_⟩
    have noted (events : List Event) : finished
        (.progress { total := Campaign.count mutants } :: events) = finished events := rfl
    rw [log, Bench.noting, finished_append, listsAgain.log, noted, Campaign.finished_notesOf]
    rfl
  refine ⟨listed, again, after, ?_⟩
  exact {
    outcome := outcome_of_listed generated ranAgain
    generation := generated
    cache := cache
    files := listsAgain.files
    begins := fun some => by
      obtain ⟨baseline, trials⟩ := skipped some
      exact ⟨baseline, rest, shape, trials⟩
    reports := by
      cases reports : finished ended.log with
      | nil => exact List.nil_prefix
      | cons => exact reports ▸ started (by simp [reports])
    knows := by
      intro file id status isReport
      obtain ⟨isTested, isKnown⟩ := known file id status isReport
      obtain ⟨baseline, trials⟩ := begins (.inl (List.ne_nil_of_mem isReport))
      obtain ⟨events, log, knows⟩ := trials.knows isKnown isTested
      rw [log, counted, Bench.noting, listsAgain.log]
      exact List.forall_mem_cons.mpr ⟨.of_none rfl rfl file id status, knows⟩
    silent := by
      intro noError event member
      rw [(ends noError).2, Bench.noting, listsAgain.log, List.nil_append] at member
      obtain rfl | member := List.mem_cons.mp member
      · simp
      · exact Campaign.notStarted_notesOf _ _ event member
    repeats := fun noError => ⟨(ends noError).1, by rw [(ends noError).1]⟩
    rows := by
      intro noError
      have same : after.cache.data = { left with baseline? } := by
        rw [(ends noError).2]
        exact data
      rw [same, leaves.completed noError]
      refine ⟨rfl, rfl, ?_⟩
      rw [(ends noError).2]
      exact listsAgain.stored }

theorem opens_plain :
    Cache.openIn ⟨.directory [("a.py", .file Campaign.assignmentText.toUTF8)], [], []⟩ ⟨"."⟩ =
      .ok ⟨Path.join ⟨"."⟩ Cache.fileName, .empty⟩ := rfl

/-- A session in which the clean run passes, while no other test comes to an end. -/
def onceClean : Session where
  campaign := { Campaign.endless with
    executor := ⟨fun turn workspace _ _ =>
      (⟨[], if turn = 0 then .exited 0 else .timedOut, .ofSeconds 1⟩, workspace)⟩ }
  files := [Campaign.plain]
  directory := ⟨"."⟩
  workspace := ⟨.directory [("a.py", .file Campaign.assignmentText.toUTF8)], [], []⟩
  cache := ⟨Path.join ⟨"."⟩ Cache.fileName, .empty⟩
  opens := opens_plain

theorem onceClean_storable : onceClean.outcome.2.cache.data.Storable := by
  have fits : onceClean.outcome.2.cache.data.Fits ∧
      onceClean.outcome.2.cache.data.baseline?.all Decimal.isFinite = true := by
    decide +kernel
  exact ⟨fits.1, fun seconds isSeconds => by simpa [isSeconds] using fits.2⟩

theorem onceClean_completed : onceClean.Completed := by
  unfold Completed
  decide +kernel

/-- A session behind that one, with another command that fails now. -/
def failing : Session where
  campaign := { onceClean.campaign with
    settings := { testCommand := "false" }
    executor := ⟨fun _ workspace _ _ => (⟨[], .exited 1, .zero⟩, workspace)⟩ }
  files := [Campaign.plain]
  directory := ⟨"."⟩
  workspace := onceClean.outcome.2.workspace
  cache := ⟨onceClean.place, .decode onceClean.outcome.2.cache.data.encode⟩
  opens := Cache.openIn_of_find onceClean_completed.stored

/-- It comes to the same end, on a cache that knows both mutants. -/
theorem failing_resumes :
    (finished onceClean.outcome.2.log).length = 2 ∧
    ∃ mutants result listed again after,
      onceClean.outcome = (.ok (mutants, result), onceClean.outcome.2) ∧ result.error? = none ∧
        failing.Resumption mutants result onceClean.outcome.2 listed again after := by
  obtain ⟨mutants, result, outcome, noError⟩ := onceClean_completed.exists_result
  have two : (finished onceClean.outcome.2.log).length = 2 := by decide +kernel
  have text : (failing.workspace.readText Campaign.plain).toOption =
      (onceClean.workspace.readText Campaign.plain).toOption ∧
      (onceClean.workspace.readText Campaign.plain).toOption.isSome = true := by
    decide +kernel
  have texts : failing.workspace.readText Campaign.plain =
      onceClean.workspace.readText Campaign.plain := by
    obtain ⟨same, isSome⟩ := text
    obtain ⟨source, isText⟩ := Option.isSome_iff_exists.mp isSome
    rw [ok_of_toOption (same.trans isText), ok_of_toOption isText]
  have resumes : failing.Resumes onceClean := {
    directory := rfl
    stored := rfl
    mutator := rfl
    files := rfl
    keepGoing := rfl
    digest := rfl
    texts := fun file isFile => List.mem_singleton.mp isFile ▸ texts }
  obtain ⟨listed, again, after, resumption⟩ :=
    resumes_where_it_stopped resumes rfl outcome onceClean_storable (by simp [noError])
  exact ⟨two, mutants, result, listed, again, after, outcome, noError, resumption⟩

end Session

end MutationTesting
