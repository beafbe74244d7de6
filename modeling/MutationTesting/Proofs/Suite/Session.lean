import MutationTesting.Proofs.Cache.Reached
import MutationTesting.Proofs.Suite.Generations
import MutationTesting.Proofs.Suite.Reports
import MutationTesting.Proofs.Suite.Spared
/-! A session: a cache is opened, mutants of files are listed and then tested. What a session leaves
behind is the cache as it was last stored, whatever ends it. -/
namespace MutationTesting

open CacheData (SameRows Slain)
open FileMutants (keys)

/-- A session: how mutants are tested, the files that are mutated, and the files and the cache of a
directory at the start. -/
structure Session where
  campaign : Campaign
  files : List Path
  directory : Path
  workspace : Workspace
  cache : Cache
  opens : Cache.openIn workspace directory = .ok cache

namespace Session

/-- The path of the stored cache. -/
def place (session : Session) : Path :=
  session.directory.join Cache.fileName

/-- The bench at the start of a session. -/
def start (session : Session) : Bench :=
  ⟨session.workspace, session.cache, 0, []⟩

/-- The mutants that are listed, and the bench before they are tested. -/
def generation (session : Session) : Except Error (List FileMutants) × Bench :=
  session.campaign.mutator.generate session.files session.campaign.settings.keepGoing session.start

/-- Lists the mutants of the files and tests them. -/
def pass (session : Session) : OnBench (List FileMutants × CampaignResult) := do
  let mutants ←
    session.campaign.mutator.generate session.files session.campaign.settings.keepGoing
  let result ← session.campaign.run mutants
  return (mutants, result)

/-- What a session comes to, and the bench it leaves. -/
def outcome (session : Session) : Except Error (List FileMutants × CampaignResult) × Bench :=
  session.pass session.start

/-- The commands of a session leave the stored cache alone, and no file that is mutated is where it is
stored. -/
structure SparesCache (session : Session) : Prop where
  commands : session.campaign.SparesCache session.directory
  files : ∀ file ∈ session.files,
    session.workspace.target file ≠ session.workspace.target session.place

/-- A bench on which mutants have just been listed. -/
structure Lists (session : Session) (mutants : List FileMutants) (bench : Bench) : Prop where
  listed : session.campaign.mutator.listFiles session.campaign.settings.keepGoing session.workspace
    session.files session.cache.data = (.ok mutants, bench.cache.data)
  path : bench.cache.path = session.place
  stored : bench.Stored
  log : bench.log = []
  files : session.workspace.SameBut (· = session.workspace.target session.place) bench.workspace

variable {session : Session} {mutants : List FileMutants} {listed ended : Bench}
  {result : CampaignResult}

theorem path_cache (session : Session) : session.cache.path = session.place :=
  Cache.path_of_openIn session.opens

theorem sorted_cache (session : Session) : CacheData.Sorted session.cache.data.files :=
  Cache.sorted_openIn session.opens

theorem generation_of_listFiles {data : CacheData}
    (listed : session.campaign.mutator.listFiles session.campaign.settings.keepGoing
      session.workspace session.files session.cache.data = (.ok mutants, data)) :
    (∃ fault, session.generation = (.error (.fault fault), session.start.withData data) ∧
        session.workspace.replace session.place data.encode.toUTF8 = .error fault) ∨
      ∃ bench, session.generation = (.ok mutants, bench) ∧ session.Lists mutants bench := by
  obtain ⟨fault, failed, refused⟩ | ⟨workspace, generated, replaced⟩ :=
    Mutator.generate_of_listFiles session.start listed
  · exact .inl ⟨fault, failed, session.path_cache ▸ refused⟩
  · obtain ⟨same, found⟩ := Workspace.replace_spec replaced
    exact .inr ⟨_, generated, listed, session.path_cache, found, rfl, session.path_cache ▸ same⟩

/-- Mutants are listed and stored, or nothing has been done to the files. -/
theorem generation_cases (session : Session) :
    (∃ mutants listed, session.generation = (.ok mutants, listed) ∧ session.Lists mutants listed) ∨
      ∃ error ended, session.generation = (.error error, ended) ∧
        ended.workspace = session.workspace ∧ ended.log = [] := by
  generalize lists : session.campaign.mutator.listFiles session.campaign.settings.keepGoing
    session.workspace session.files session.cache.data = listing
  obtain ⟨error | mutants, data⟩ := listing
  · refine .inr ⟨error, session.start.withData data, ?_, rfl, rfl⟩
    unfold generation
    rw [Mutator.generate_eq, show session.campaign.mutator.listFiles
      session.campaign.settings.keepGoing session.start.workspace session.files
      session.start.cache.data = (.error error, data) from lists]
  · obtain ⟨fault, failed, -⟩ | ⟨bench, generated, isListed⟩ := generation_of_listFiles lists
    · exact .inr ⟨_, _, failed, rfl, rfl⟩
    · exact .inl ⟨_, _, generated, isListed⟩

theorem generation_of_found {data : CacheData} {old : ByteArray}
    (listed : session.campaign.mutator.listFiles session.campaign.settings.keepGoing
      session.workspace session.files session.cache.data = (.ok mutants, data))
    (found : session.workspace.find session.place = .ok (.file old)) :
    ∃ bench, session.generation = (.ok mutants, bench) := by
  obtain ⟨fault, -, failed⟩ | ⟨bench, generated, -⟩ := generation_of_listFiles listed
  · obtain ⟨workspace, replaced⟩ := Workspace.replace_of_find found data.encode.toUTF8
    rw [failed] at replaced
    contradiction
  · exact ⟨bench, generated⟩

theorem lists_of_generation (generated : session.generation = (.ok mutants, listed)) :
    session.Lists mutants listed := by
  obtain ⟨others, bench, same, lists⟩ | ⟨error, bench, failed, -⟩ := session.generation_cases
  · rw [generated, Prod.mk.injEq, Except.ok.injEq] at same
    obtain ⟨rfl, rfl⟩ := same
    exact lists
  · rw [generated] at failed
    simp at failed

theorem outcome_of_listed (generated : session.generation = (.ok mutants, listed))
    (ran : session.campaign.run mutants listed = (.ok result, ended)) :
    session.outcome = (.ok (mutants, result), ended) := by
  unfold outcome pass
  rw [Sequence.bind_apply]
  unfold generation at generated
  rw [generated]
  dsimp only
  rw [Sequence.bind_apply, ran]
  rfl

/-- Mutants are listed and then tested, or nothing has been done to the files. -/
theorem outcome_cases (session : Session) :
    (∃ mutants listed result ended, session.generation = (.ok mutants, listed) ∧
        session.Lists mutants listed ∧ session.campaign.run mutants listed = (.ok result, ended) ∧
        session.outcome = (.ok (mutants, result), ended)) ∨
      ∃ error ended, session.outcome = (.error error, ended) ∧
        ended.workspace = session.workspace ∧ ended.log = [] := by
  obtain ⟨mutants, listed, generated, lists⟩ | ⟨error, ended, failed, unchanged, silent⟩ :=
    session.generation_cases
  · obtain ⟨result, ended, ran, -⟩ := session.campaign.run_trials mutants listed
    exact .inl ⟨mutants, listed, result, ended, generated, lists, ran,
      outcome_of_listed generated ran⟩
  · refine .inr ⟨error, ended, ?_, unchanged, silent⟩
    unfold outcome pass
    rw [Sequence.bind_apply]
    unfold generation at failed
    rw [failed]

theorem listed_of_outcome (outcome : session.outcome = (.ok (mutants, result), ended)) :
    ∃ listed, session.generation = (.ok mutants, listed) ∧ session.Lists mutants listed ∧
      session.campaign.run mutants listed = (.ok result, ended) := by
  obtain ⟨others, listed, otherResult, otherEnded, generated, lists, ran, same⟩ |
    ⟨error, otherEnded, failed, -⟩ := session.outcome_cases
  · rw [outcome] at same
    simp only [Prod.mk.injEq, Except.ok.injEq] at same
    obtain ⟨⟨rfl, rfl⟩, rfl⟩ := same
    exact ⟨listed, generated, lists, ran⟩
  · rw [outcome] at failed
    simp at failed

namespace Lists

theorem sorted (lists : session.Lists mutants listed) :
    CacheData.Sorted listed.cache.data.files := by
  have sorted := Mutator.sorted_listFiles session.sorted_cache session.campaign.mutator
    session.campaign.settings.keepGoing session.workspace session.files
  rwa [lists.listed] at sorted

/-- Each mutant that is listed is one of a file of the session, and is in the cache. -/
theorem mem_keys (lists : session.Lists mutants listed) :
    ∀ key ∈ keys mutants, key.1 ∈ session.files ∧
      listed.cache.data.lacks key.1 key.2 = false := by
  intro key member
  obtain ⟨first, isFirst, member⟩ := List.mem_flatMap.mp member
  obtain ⟨id, isNamed, rfl⟩ := List.mem_map.mp member
  obtain ⟨file, isFile, isListed⟩ :=
    Mutator.lists_of_listFiles session.sorted_cache lists.listed first isFirst
  obtain ⟨rfl, there⟩ := Mutator.Lists.spec isListed
  exact ⟨isFile, there id isNamed⟩

theorem prepared (lists : session.Lists mutants listed) :
    Campaign.Prepared (keys mutants) listed where
  sorted := lists.sorted
  there key member := (lists.mem_keys key member).2
  stored := lists.stored
  silent := by simp [lists.log, finished]

end Lists

section Sparing

variable {before after : Bench} {baseline : Duration} {file : Path} {source? : Option String}
  {id : MutantId}

/-- Where a bench of a session is on the way. -/
structure Keeps (session : Session) (bench : Bench) : Prop where
  path : bench.cache.path = session.place
  stored : bench.Stored
  here : bench.workspace.here = session.workspace.here

theorem Keeps.spared (keeps : session.Keeps before) :
    Campaign.Sparing before session.workspace.here session.place before.cache.data.encode.toUTF8
      before :=
  ⟨.refl _ before, keeps.here, keeps.path ▸ keeps.stored⟩

theorem SparesCache.apart (spares : session.SparesCache) (isFile : file ∈ session.files)
    (workspace : Workspace) (here : workspace.here = session.workspace.here) :
    workspace.target file ≠ workspace.target session.place := by
  simpa only [Workspace.target, here] using spares.files file isFile

theorem SparesCache.here_of_test (spares : session.SparesCache) (isFile : file ∈ session.files)
    (keeps : session.Keeps before) {found : Status × Option String}
    (tested : session.campaign.test baseline file source? id before = (.ok found, after)) :
    after.workspace.here = session.workspace.here := by
  have led := Campaign.leads_test_spared spares.commands baseline source? id (spares.apart isFile)
    before keeps.spared
  rw [tested] at led
  exact led.2

theorem SparesCache.find_of_test (spares : session.SparesCache) (isFile : file ∈ session.files)
    (keeps : session.Keeps before) {error : Error}
    (failed : session.campaign.test baseline file source? id before = (.error error, after)) :
    after.workspace.find session.place = .ok (.file before.cache.data.encode.toUTF8) := by
  have led := Campaign.leads_test_spared spares.commands baseline source? id (spares.apart isFile)
    before keeps.spared
  rw [failed] at led
  exact led.2.found

theorem SparesCache.here_of_baseline (spares : session.SparesCache) (keeps : session.Keeps before)
    (done : session.campaign.baseline before = (.ok baseline, after)) :
    after.workspace.here = session.workspace.here := by
  have led := Campaign.leads_baseline_spared spares.commands before keeps.spared
  rw [done] at led
  exact led.2

theorem SparesCache.find_of_baseline (spares : session.SparesCache) (keeps : session.Keeps before)
    {error : Error} (failed : session.campaign.baseline before = (.error error, after)) :
    after.workspace.find session.place = .ok (.file before.cache.data.encode.toUTF8) := by
  have led := Campaign.leads_baseline_spared spares.commands before keeps.spared
  rw [failed] at led
  exact led.2.found

end Sparing

/-- What a session leaves behind: the cache as it was last stored. It has the rows that were there once
the mutants had been listed, and whatever is known of a mutant at some time is known from then on. -/
structure Leaves (session : Session) (listed : Bench) (result : CampaignResult) (ended : Bench)
    (left : CacheData) : Prop where
  stored : (result.error?.isSome = true → session.SparesCache) →
    ended.workspace.find session.place = .ok (.file left.encode.toUTF8)
  rows : SameRows listed.cache.data left
  further : SameRows left ended.cache.data
  completed : result.error? = none → ended.cache.data = left
  timed : finished ended.log ≠ [] ∨ result.error? = none →
    session.campaign.settings.cacheOnly = false →
    left.baseline?.isSome = true ∧ ended.cache.data.baseline? = left.baseline?
  known : ∀ file id status, status ≠ .untested →
    listed.cache.data.trustedStatus file id session.campaign.settings.testsDigest = status →
    left.trustedStatus file id session.campaign.settings.testsDigest = status ∧
      ∀ event ∈ ended.log, event.Knows file id status
  sound : listed.cache.data.Sound → left.Sound
  slain : ∀ number, Slain number listed.cache.data →
    Slain number left ∧ Slain number ended.cache.data
  faithful : ∀ file id status, (file, id, status) ∈ finished ended.log →
    left.trustedStatus file id session.campaign.settings.testsDigest = status ∧
      (session.campaign.settings.cacheOnly = false → status ≠ .untested)
  settled : ended.log.Pairwise Event.Settles

theorem Lists.leaves_of_red (lists : session.Lists mutants listed) {error : Error}
    (failed : session.campaign.baseline listed = (.error error, ended)) :
    session.Leaves listed ⟨{}, some error⟩ ended listed.cache.data := by
  obtain ⟨baseline?, recached⟩ := Campaign.unclocked_of_baseline failed
  obtain ⟨events, shape, concern⟩ := recached.log
  rw [lists.log, List.nil_append] at shape
  have silent : finished ended.log = [] := shape ▸ concern.finished
  exact {
    stored := fun spares =>
      (spares rfl).find_of_baseline ⟨lists.path, lists.stored, lists.files.here⟩ failed
    rows := .refl _
    further := recached.data ▸ CacheData.sameRows_withBaseline _ _
    completed := fun noError => nomatch noError
    timed := fun reported => absurd reported (by simp [silent])
    known := fun file id status _ isKnown => ⟨isKnown, shape ▸ .of_concern concern file id status⟩
    sound := fun isSound => isSound
    slain := fun number isSlain =>
      ⟨isSlain, recached.data ▸ ⟨isSlain.given, isSlain.killed⟩⟩
    faithful := by simp [silent]
    settled := List.pairwise_of_forall_mem_list fun _ member later _ =>
      Campaign.settles_of_silent silent member later }

section Timed

open Campaign (Trials)

variable {baseline : Duration} {clocked : Bench}

/-- The bench at which the trials of a session begin. -/
def counted (mutants : List FileMutants) (clocked : Bench) : Bench :=
  clocked.noting [.progress { total := Campaign.count mutants }]

theorem Lists.prepared_counted (lists : session.Lists mutants listed)
    (timed : session.campaign.Timed listed baseline clocked) :
    Campaign.Prepared (keys mutants) (counted mutants clocked) := by
  obtain ⟨baseline?, recached, stored, -⟩ := timed.recached lists.stored
  obtain ⟨events, shape, concern⟩ := recached.log
  have rows : SameRows listed.cache.data (counted mutants clocked).cache.data :=
    recached.data ▸ CacheData.sameRows_withBaseline _ _
  refine ⟨rows.sorted lists.sorted, fun key member => ?_, stored, ?_⟩
  · exact (rows.lacks ..).trans (lists.mem_keys key member).2
  · rw [counted, Bench.noting, finished_append, shape, lists.log, List.nil_append,
      concern.finished]
    rfl

theorem Lists.leaves_of_timed (lists : session.Lists mutants listed)
    (timed : session.campaign.Timed listed baseline clocked)
    (trials : Trials session.campaign baseline { total := Campaign.count mutants } (keys mutants)
      (counted mutants clocked) result ended) :
    ∃ left, session.Leaves listed result ended left := by
  have prepared := lists.prepared_counted timed
  obtain ⟨baseline?, recached, stored, isTimed⟩ := timed.recached lists.stored
  have path : (counted mutants clocked).cache.path = session.place := recached.path.trans lists.path
  have here (spares : session.SparesCache) :
      (counted mutants clocked).workspace.here = session.workspace.here := by
    change clocked.workspace.here = session.workspace.here
    cases timed with
    | skipped => exact lists.files.here
    | clean _ passed => exact spares.here_of_baseline ⟨lists.path, lists.stored, lists.files.here⟩ passed
  have step : ∀ key ∈ keys mutants, ∀ bench source? status read? next tally,
      (session.campaign.Idle (counted mutants clocked) bench ∧
        (session.SparesCache → bench.workspace.here = session.workspace.here)) →
      session.campaign.test baseline key.1 source? key.2 bench = (.ok (status, read?), next) →
      session.campaign.Idle (counted mutants clocked)
          (next.noting (Campaign.reportOf key.1 key.2 status tally)) ∧
        (session.SparesCache → next.workspace.here = session.workspace.here) := by
    rintro key member bench source? status read? next tally ⟨idle, isHere⟩ tested
    refine ⟨idle.trial prepared member (Campaign.trial_of_test tested) tally, fun spares => ?_⟩
    exact spares.here_of_test (lists.mem_keys key member).1
      ⟨idle.kept.path.trans path, idle.kept.stored, isHere spares⟩ tested
  obtain ⟨idle, ⟨isIdle, isHere⟩, isEnd⟩ := trials.idle (fun bench =>
    session.campaign.Idle (counted mutants clocked) bench ∧
      (session.SparesCache → bench.workspace.here = session.workspace.here))
    ⟨prepared.idle, here⟩ step
  have rows : SameRows listed.cache.data idle.cache.data :=
    (recached.data ▸ CacheData.sameRows_withBaseline _ _ : SameRows _ clocked.cache.data).trans
      isIdle.kept.rows
  have idlePath : idle.cache.path = session.place := isIdle.kept.path.trans path
  have known : ∀ file id status, status ≠ .untested →
      listed.cache.data.trustedStatus file id session.campaign.settings.testsDigest = status →
      idle.cache.data.trustedStatus file id session.campaign.settings.testsDigest = status ∧
        ∀ event ∈ ended.log, event.Knows file id status := by
    intro file id status isTested isKnown
    have isKnownThen : (counted mutants clocked).cache.data.trustedStatus file id
        session.campaign.settings.testsDigest = status := by
      rw [show (counted mutants clocked).cache.data = _ from recached.data]
      exact isKnown
    refine ⟨isIdle.known file id status isTested isKnownThen, ?_⟩
    obtain ⟨clean, shape, concern⟩ := recached.log
    obtain ⟨events, further, knows⟩ := trials.knows isKnownThen isTested
    rw [further, counted, Bench.noting, shape, lists.log, List.nil_append]
    refine List.forall_mem_append.mpr ⟨List.forall_mem_append.mpr ⟨?_, ?_⟩, knows⟩
    · exact .of_concern concern file id status
    · exact List.forall_mem_singleton.mpr (.of_none rfl rfl file id status)
  have isTimedThen (tests : session.campaign.settings.cacheOnly = false) :
      idle.cache.data.baseline?.isSome = true := by
    rw [isIdle.kept.baseline, show (counted mutants clocked).cache.data = _ from recached.data]
    exact isTimed tests
  have slain (number : Nat) (isSlain : Slain number listed.cache.data) :
      Slain number idle.cache.data :=
    isIdle.slain number (recached.data ▸ ⟨isSlain.given, isSlain.killed⟩)
  have sound (isSound : listed.cache.data.Sound) : idle.cache.data.Sound :=
    isIdle.sound (recached.data ▸ (isSound.withBaseline baseline?).1)
  refine ⟨idle.cache.data, ?_⟩
  obtain ⟨noError, rfl⟩ | ⟨error, isError, key, member, source?, failed⟩ := isEnd
  · exact {
      stored := fun _ => idlePath ▸ isIdle.kept.stored
      rows := rows
      further := .refl _
      completed := fun _ => rfl
      timed := fun _ tests => ⟨isTimedThen tests, rfl⟩
      known := known
      sound := sound
      slain := fun number isSlain => ⟨slain number isSlain, slain number isSlain⟩
      faithful := isIdle.faithful
      settled := isIdle.settled }
  · have left := Campaign.left_of_test failed
    obtain ⟨isFile, there⟩ := lists.mem_keys key member
    have further : SameRows idle.cache.data ended.cache.data ∧
        ended.cache.data.baseline? = idle.cache.data.baseline? := by
      obtain same | ⟨status, isSet⟩ := left.data
      · rw [same]
        exact ⟨.refl _, rfl⟩
      · exact CacheData.sameRows_setStatus (rows.sorted lists.sorted) ((rows.lacks ..).trans there)
          isSet
    exact {
      stored := fun spares => by
        have spares := spares (by simp [isError])
        exact spares.find_of_test isFile ⟨idlePath, isIdle.kept.stored, isHere spares⟩ failed
      rows := rows
      further := further.1
      completed := fun noError => by simp [isError] at noError
      timed := fun _ tests => ⟨isTimedThen tests, further.2⟩
      known := known
      sound := sound
      slain := fun number isSlain => ⟨slain number isSlain, left.slain (slain number isSlain)⟩
      faithful := left.finished_eq ▸ isIdle.faithful
      settled := left.settled isIdle.faithful isIdle.settled }

end Timed

theorem Lists.leaves (lists : session.Lists mutants listed)
    (ran : session.campaign.run mutants listed = (.ok result, ended)) :
    ∃ left, session.Leaves listed result ended left := by
  obtain ⟨baseline, clocked, timed, trials⟩ | ⟨-, error, rfl, failed⟩ :=
    Campaign.trials_of_run ran
  · exact lists.leaves_of_timed timed trials
  · exact ⟨_, lists.leaves_of_red failed⟩

theorem Lists.reports (lists : session.Lists mutants listed)
    (ran : session.campaign.run mutants listed = (.ok result, ended)) :
    ∃ rest, keys mutants = Campaign.reported (finished ended.log) ++ rest ∧
      (result.error? = none → rest = [] ∧
        result.tally =
          Campaign.recordAll { total := Campaign.count mutants } (finished ended.log)) := by
  obtain ⟨baseline, clocked, timed, trials⟩ | ⟨-, error, rfl, failed⟩ :=
    Campaign.trials_of_run ran
  · obtain ⟨reports, rest, shape, log, tallied, all⟩ := trials.reports
    have silent : finished (counted mutants clocked).log = [] :=
      (lists.prepared_counted timed).silent
    rw [show finished ended.log = reports from log.trans (by rw [← counted, silent, List.nil_append])]
    exact ⟨rest, shape, fun noError => ⟨all.mp noError, tallied⟩⟩
  · obtain ⟨baseline?, recached⟩ := Campaign.unclocked_of_baseline failed
    obtain ⟨events, shape, concern⟩ := recached.log
    rw [shape, lists.log, List.nil_append, concern.finished]
    exact ⟨keys mutants, rfl, fun noError => nomatch noError⟩

/-- A session that comes to its end without a failure. -/
def Completed (session : Session) : Prop :=
  session.outcome.1.toOption.map (fun outcome => outcome.2.error?) = some none

theorem Completed.exists_result (completed : session.Completed) :
    ∃ mutants result, session.outcome = (.ok (mutants, result), session.outcome.2) ∧
      result.error? = none := by
  obtain ⟨⟨mutants, result⟩, isOutcome, noError⟩ := Option.map_eq_some_iff.mp completed
  exact ⟨mutants, result, Prod.ext (ok_of_toOption isOutcome) rfl, noError⟩

theorem Completed.stored (completed : session.Completed) :
    session.outcome.2.workspace.find session.place =
      .ok (.file session.outcome.2.cache.data.encode.toUTF8) := by
  obtain ⟨mutants, result, outcome, noError⟩ := completed.exists_result
  obtain ⟨listed, -, lists, ran⟩ := listed_of_outcome outcome
  obtain ⟨left, leaves⟩ := lists.leaves ran
  exact leaves.completed noError ▸ leaves.stored (by simp [noError])

section Following

variable {first later : Session} {left : CacheData}

/-- A session opens the cache that an earlier one has left. -/
structure Follows (later first : Session) : Prop where
  directory : later.directory = first.directory
  stored : later.workspace.find first.place = first.outcome.2.workspace.find first.place

theorem Follows.place (follows : later.Follows first) : later.place = first.place := by
  unfold Session.place
  rw [follows.directory]

/-- What is left behind is opened, but for the last place of the time of the clean run. -/
theorem Follows.opened (follows : later.Follows first)
    (outcome : first.outcome = (.ok (mutants, result), ended))
    (lists : first.Lists mutants listed) (leaves : first.Leaves listed result ended left)
    (spares : result.error?.isSome = true → first.SparesCache) (fits : ended.cache.data.Fits) :
    ∃ baseline?, later.cache.data = { left with baseline? } ∧
      ∀ seconds, left.baseline? = some seconds → Decimal.isFinite seconds = true →
        baseline?.isSome := by
  obtain ⟨baseline?, decoded, isRead⟩ :=
    (leaves.further.symm.fits fits).decode_encode (leaves.rows.sorted lists.sorted)
  refine ⟨baseline?, ?_, isRead⟩
  have found := follows.stored
  rw [outcome, leaves.stored spares, ← follows.place] at found
  have opens := later.opens
  rw [Cache.openIn_of_find found, Except.ok.injEq] at opens
  rw [← opens, decoded]

end Following

end Session

end MutationTesting
