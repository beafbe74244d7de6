import MutationTesting.Proofs.Cache.Killed
import MutationTesting.Proofs.Cache.Outline
import MutationTesting.Proofs.Suite.Course
/-! What a run of trials reports and stores. A mutant that has been reported is not tested again, and
what is reported of it is what the cache tells from then on. -/
namespace MutationTesting

open CacheData (Names SameRows)

/-- An event that starts nothing for a mutant whose status is known, and does not report it with
another one. -/
structure Event.Knows (file : Path) (id : MutantId) (status : Status) (event : Event) : Prop where
  handled : ∀ mutant, event.handled? = some mutant → ¬ Names file id mutant.file mutant.id
  finished : ∀ other name found, event.finished? = some (other, name, found) →
    Names file id other name → found = status

/-- Once a mutant has been reported to have been tested, it is known. -/
def Event.Settles (event later : Event) : Prop :=
  ∀ file id status, event.finished? = some (file, id, status) → status ≠ .untested →
    later.Knows file id status

namespace Event.Knows

theorem of_none {event : Event} (noMutant : event.handled? = none)
    (notFinished : event.finished? = none) (file : Path) (id : MutantId) (status : Status) :
    event.Knows file id status :=
  ⟨by simp [noMutant], by simp [notFinished]⟩

theorem of_concern {events : List Event} (concern : Concern (fun _ => False) 0 events)
    (file : Path) (id : MutantId) (status : Status) :
    ∀ event ∈ events, event.Knows file id status := by
  intro event member
  refine .of_none ?_ ?_ file id status
  · rw [Option.eq_none_iff_forall_not_mem]
    exact fun mutant isFor => concern.handled mutant (List.mem_filterMap.mpr ⟨event, member, isFor⟩)
  · rw [Option.eq_none_iff_forall_not_mem]
    intro report isReport
    have isFinished : report ∈ MutationTesting.finished events :=
      List.mem_filterMap.mpr ⟨event, member, isReport⟩
    simp [concern.finished] at isFinished

end Event.Knows

namespace Campaign

variable {campaign : Campaign} {baseline : Duration} {tally : Tally} {before between after : Bench}
  {result : CampaignResult} {keys : List (Path × MutantId)} {file : Path} {id : MutantId}
  {status : Status}

/-- What holds at the start and after each trial holds after the last one that does not fail. -/
theorem Trials.idle (trials : Trials campaign baseline tally keys before result after)
    (holds : Bench → Prop) (start : holds before)
    (steps : ∀ key ∈ keys, ∀ bench source? status read? next tally, holds bench →
      campaign.test baseline key.1 source? key.2 bench = (.ok (status, read?), next) →
      holds (next.noting (reportOf key.1 key.2 status tally))) :
    ∃ idle, holds idle ∧
      (result.error? = none ∧ after = idle ∨ ∃ error, result.error? = some error ∧
        ∃ key ∈ keys, ∃ source?,
          campaign.test baseline key.1 source? key.2 idle = (.error error, after)) := by
  induction trials with
  | done tally bench => exact ⟨bench, start, .inl ⟨rfl, rfl⟩⟩
  | next tested _ ih =>
    obtain ⟨idle, held, ended⟩ := ih (steps _ List.mem_cons_self _ _ _ _ _ _ start tested)
      fun key member => steps key (List.mem_cons_of_mem _ member)
    refine ⟨idle, held, ended.imp_right ?_⟩
    rintro ⟨error, isError, key, member, failed⟩
    exact ⟨error, isError, key, List.mem_cons_of_mem _ member, failed⟩
  | stop tally rest failed =>
    exact ⟨_, start, .inr ⟨_, rfl, _, List.mem_cons_self, _, failed⟩⟩

/-- The counts after mutants have been reported. -/
def recordAll (tally : Tally) (reports : List (Path × MutantId × Status)) : Tally :=
  reports.foldl (fun tally report => tally.record report.2.2) tally

/-- The mutants that are reported. -/
def reported (reports : List (Path × MutantId × Status)) : List (Path × MutantId) :=
  reports.map fun report => (report.1, report.2.1)

theorem finished_noting (bench : Bench) (file : Path) (id : MutantId) (status : Status)
    (tally : Tally) : finished (bench.noting (reportOf file id status tally)).log =
      finished bench.log ++ [(file, id, status)] := by
  rw [Bench.noting, finished_append]
  rfl

theorem Left.finished_eq (left : campaign.Left file id before after) :
    finished after.log = finished before.log := by
  obtain ⟨events, shape, concern⟩ := left.log
  rw [shape, finished_append, concern.finished, List.append_nil]

theorem Trial.finished_eq (trial : Trial campaign file id before status after) :
    finished after.log = finished before.log := by
  cases trial with
  | known => rfl
  | tested left => exact left.finished_eq

theorem Trial.log (trial : Trial campaign file id before status after) :
    ∃ events, after.log = before.log ++ events := by
  cases trial with
  | known => exact ⟨[], (List.append_nil _).symm⟩
  | tested left =>
    obtain ⟨events, shape, -⟩ := left.log
    exact ⟨events, shape⟩

/-- The mutants are reported in turn, all of them unless a failure ends this. -/
theorem Trials.reports (trials : Trials campaign baseline tally keys before result after) :
    ∃ reports rest, keys = reported reports ++ rest ∧
      finished after.log = finished before.log ++ reports ∧
      result.tally = recordAll tally reports ∧ (result.error? = none ↔ rest = []) := by
  induction trials with
  | done tally bench => exact ⟨[], [], rfl, by simp, rfl, by simp⟩
  | @next tally file id rest before between after result status _ _ tested _ ih =>
    obtain ⟨reports, remaining, rfl, log, tallied, all⟩ := ih
    refine ⟨(file, id, status) :: reports, remaining, rfl, ?_, tallied, all⟩
    rw [log, finished_noting, (trial_of_test tested).finished_eq, List.append_assoc]
    rfl
  | stop tally rest failed =>
    refine ⟨[], _, rfl, ?_, rfl, by simp⟩
    rw [(left_of_test failed).finished_eq, List.append_nil]

section Knowing

variable {other : Path} {name : MutantId} {known : Status}

/-- Events for a mutant that is not known leave those that are alone. -/
theorem Left.knows (left : campaign.Left file id before after)
    (isKnown : before.cache.data.trustedStatus other name campaign.settings.testsDigest = known)
    (isTested : known ≠ .untested) :
    ∃ events, after.log = before.log ++ events ∧ ∀ event ∈ events, event.Knows other name known := by
  obtain ⟨events, shape, concern⟩ := left.log
  refine ⟨events, shape, fun event member => ⟨fun mutant isFor named => ?_, ?_⟩⟩
  · obtain ⟨sameFile, sameId⟩ := concern.handled mutant (List.mem_filterMap.mpr ⟨event, member, isFor⟩)
    rw [sameFile, sameId] at named
    rw [← named.2, ← CacheData.trustedStatus_congr named.1, left.unknown] at isKnown
    exact isTested isKnown.symm
  · intro path mutant found isReport
    have none : (path, mutant, found) ∈ finished events :=
      List.mem_filterMap.mpr ⟨event, member, isReport⟩
    simp [concern.finished] at none

theorem Trial.trustedStatus (trial : Trial campaign file id before status after)
    (isKnown : before.cache.data.trustedStatus other name campaign.settings.testsDigest = known)
    (isTested : known ≠ .untested) :
    after.cache.data.trustedStatus other name campaign.settings.testsDigest = known := by
  cases trial with
  | known => exact isKnown
  | tested left _ isSet =>
    rw [(CacheData.trustedStatus_setStatus isSet).2 other name _, isKnown]
    rintro ⟨samePath, rfl⟩
    rw [CacheData.trustedStatus_congr samePath, left.unknown] at isKnown
    exact isTested isKnown.symm

theorem Trial.isTrusted (trial : Trial campaign file id before status after) :
    after.cache.data.trustedStatus file id campaign.settings.testsDigest = status ∧
      (campaign.settings.cacheOnly = false → status ≠ .untested) := by
  cases trial with
  | known isKnown =>
    refine ⟨rfl, fun tests => ?_⟩
    obtain isTested | cacheOnly := isKnown
    · exact isTested
    · simp [tests] at cacheOnly
  | tested _ isTested isSet =>
    exact ⟨(CacheData.trustedStatus_setStatus isSet).1 file id ⟨Path.same_iff.mpr rfl, rfl⟩,
      fun _ => isTested⟩

theorem Trial.knows (trial : Trial campaign file id before status after) (tally : Tally)
    (isKnown : before.cache.data.trustedStatus other name campaign.settings.testsDigest = known)
    (isTested : known ≠ .untested) :
    ∃ events, (after.noting (reportOf file id status tally)).log = before.log ++ events ∧
      ∀ event ∈ events, event.Knows other name known := by
  have behind := trial.trustedStatus isKnown isTested
  have reports : ∀ event ∈ reportOf file id status tally, event.Knows other name known := by
    have report : (Event.finished file id status).Knows other name known := by
      refine ⟨fun _ none => by simp [Event.handled?] at none, fun path mutant found same named => ?_⟩
      obtain ⟨rfl, rfl, rfl⟩ : file = path ∧ id = mutant ∧ status = found := by
        simpa [Event.finished?] using same
      rw [← named.2, ← CacheData.trustedStatus_congr named.1, trial.isTrusted.1] at behind
      exact behind
    have counts : (Event.progress tally).Knows other name known := .of_none rfl rfl ..
    exact List.forall_mem_cons.mpr ⟨report, List.forall_mem_cons.mpr ⟨counts, by simp⟩⟩
  cases trial with
  | known => exact ⟨_, rfl, reports⟩
  | tested left =>
    obtain ⟨events, shape, knows⟩ := left.knows isKnown isTested
    refine ⟨events ++ reportOf file id status tally, ?_, fun event member => ?_⟩
    · rw [Bench.noting, shape, List.append_assoc]
    · exact (List.mem_append.mp member).elim (knows event) (reports event)

end Knowing

/-- What has been reported can be relied on. -/
def Faithful (campaign : Campaign) (bench : Bench) : Prop :=
  ∀ file id status, (file, id, status) ∈ finished bench.log →
    bench.cache.data.trustedStatus file id campaign.settings.testsDigest = status ∧
      (campaign.settings.cacheOnly = false → status ≠ .untested)

theorem Faithful.trial (faithful : campaign.Faithful before)
    (trial : campaign.Trial file id before status after) (tally : Tally) :
    campaign.Faithful (after.noting (reportOf file id status tally)) := by
  intro other name found isReport
  rw [finished_noting, trial.finished_eq, List.mem_append, List.mem_singleton] at isReport
  obtain earlier | same := isReport
  · obtain ⟨isKnown, isTested⟩ := faithful other name found earlier
    refine ⟨?_, isTested⟩
    cases trial with
    | known => exact isKnown
    | tested left isNew isSet stored =>
      exact (Trial.tested left isNew isSet stored).trustedStatus isKnown (isTested left.tests)
  · obtain ⟨rfl, rfl, rfl⟩ : other = file ∧ name = id ∧ found = status := by simpa using same
    exact trial.isTrusted

theorem settles_of_silent {events : List Event} (silent : finished events = []) {event : Event}
    (member : event ∈ events) (later : Event) : event.Settles later := by
  intro file id status isReport
  have isFinished : (file, id, status) ∈ finished events :=
    List.mem_filterMap.mpr ⟨event, member, isReport⟩
  simp [silent] at isFinished

theorem settled_append {log events : List Event} (settled : log.Pairwise Event.Settles)
    (silent : finished events = [])
    (cross : ∀ event ∈ log, ∀ later ∈ events, event.Settles later) :
    (log ++ events).Pairwise Event.Settles :=
  List.pairwise_append.mpr ⟨settled, List.pairwise_of_forall_mem_list fun _ member later _ =>
    settles_of_silent silent member later, cross⟩

theorem Left.settled (left : campaign.Left file id before after) (faithful : campaign.Faithful before)
    (settled : before.log.Pairwise Event.Settles) : after.log.Pairwise Event.Settles := by
  obtain ⟨events, shape, concern⟩ := left.log
  rw [shape]
  refine settled_append settled concern.finished ?_
  intro event member later isLater other name found isReport isTested
  obtain ⟨isKnown, -⟩ :=
    faithful other name found (List.mem_filterMap.mpr ⟨event, member, isReport⟩)
  obtain ⟨added, same, knows⟩ := left.knows isKnown isTested
  rw [shape] at same
  exact knows later (List.append_cancel_left same ▸ isLater)

theorem Trial.settled (trial : campaign.Trial file id before status after)
    (faithful : campaign.Faithful before) (settled : before.log.Pairwise Event.Settles)
    (tally : Tally) :
    (after.noting (reportOf file id status tally)).log.Pairwise Event.Settles := by
  have behind : after.log.Pairwise Event.Settles := by
    cases trial with
    | known => exact settled
    | tested left => exact left.settled faithful settled
  have reports : (reportOf file id status tally).Pairwise Event.Settles := by
    exact List.pairwise_pair.mpr fun other name found _ _ => .of_none rfl rfl ..
  refine List.pairwise_append.mpr ⟨behind, reports, ?_⟩
  intro event member later isLater other name found isReport isTested
  have isFinished : (other, name, found) ∈ finished after.log :=
    List.mem_filterMap.mpr ⟨event, member, isReport⟩
  rw [trial.finished_eq] at isFinished
  obtain ⟨isKnown, -⟩ := faithful other name found isFinished
  obtain ⟨events, same, knows⟩ := trial.knows tally isKnown isTested
  obtain ⟨busy, shape⟩ := trial.log
  rw [Bench.noting, shape, List.append_assoc] at same
  exact knows later (List.append_cancel_left same ▸ List.mem_append_right busy isLater)

/-- A bench whose cache has the rows that it had, and the time of the clean run, and is stored. -/
structure Kept (start bench : Bench) : Prop where
  path : bench.cache.path = start.cache.path
  rows : SameRows start.cache.data bench.cache.data
  baseline : bench.cache.data.baseline? = start.cache.data.baseline?
  stored : bench.Stored

theorem Kept.setStatus {start : Bench} (kept : Kept start before)
    (sorted : CacheData.Sorted start.cache.data.files)
    (there : start.cache.data.lacks file id = false) {digest : String} {data : CacheData}
    (isSet : before.cache.data.setStatus file id status digest = .ok data) :
    SameRows start.cache.data data ∧ data.baseline? = start.cache.data.baseline? := by
  obtain ⟨same, baseline⟩ := CacheData.sameRows_setStatus (kept.rows.sorted sorted)
    ((kept.rows.lacks file id).trans there) isSet
  exact ⟨kept.rows.trans same, baseline.trans kept.baseline⟩

theorem Kept.trial {start : Bench} (kept : Kept start before)
    (sorted : CacheData.Sorted start.cache.data.files)
    (there : start.cache.data.lacks file id = false)
    (trial : campaign.Trial file id before status after) (tally : Tally) :
    Kept start (after.noting (reportOf file id status tally)) := by
  cases trial with
  | known => exact ⟨kept.path, kept.rows, kept.baseline, kept.stored⟩
  | tested left _ isSet stored =>
    obtain ⟨rows, baseline⟩ := kept.setStatus sorted there isSet
    exact ⟨left.path.trans kept.path, rows, baseline, stored⟩

/-- What trials of mutants start from: each mutant is in the cache, which is stored, and none has been
reported. -/
structure Prepared (keys : List (Path × MutantId)) (bench : Bench) : Prop where
  sorted : CacheData.Sorted bench.cache.data.files
  there : ∀ key ∈ keys, bench.cache.data.lacks key.1 key.2 = false
  stored : bench.Stored
  silent : finished bench.log = []

/-- A bench between two trials. -/
structure Idle (campaign : Campaign) (start idle : Bench) : Prop where
  kept : Kept start idle
  known : ∀ file id status, status ≠ .untested →
    start.cache.data.trustedStatus file id campaign.settings.testsDigest = status →
    idle.cache.data.trustedStatus file id campaign.settings.testsDigest = status
  sound : start.cache.data.Sound → idle.cache.data.Sound
  slain : ∀ number, CacheData.Slain number start.cache.data → CacheData.Slain number idle.cache.data
  faithful : campaign.Faithful idle
  settled : idle.log.Pairwise Event.Settles

/-- What is done for a mutant that is not known leaves those that have been killed as they are. -/
theorem Left.slain (left : campaign.Left file id before after) {number : Nat}
    (slain : CacheData.Slain number before.cache.data) :
    CacheData.Slain number after.cache.data := by
  obtain same | ⟨status, isSet⟩ := left.data
  · exact same ▸ slain
  · exact slain.setStatus left.unknown isSet

theorem Left.sound (left : campaign.Left file id before after)
    (sound : before.cache.data.Sound) : after.cache.data.Sound := by
  obtain same | ⟨status, isSet⟩ := left.data
  · exact same ▸ sound
  · exact (sound.setStatus isSet).1

theorem Prepared.idle (prepared : Prepared keys before) : campaign.Idle before before where
  kept := ⟨rfl, .refl _, rfl, prepared.stored⟩
  known _ _ _ _ isKnown := isKnown
  sound isSound := isSound
  slain _ isSlain := isSlain
  faithful := by simp [Faithful, prepared.silent]
  settled := List.pairwise_of_forall_mem_list fun _ member later _ =>
    settles_of_silent prepared.silent member later

theorem Idle.trial {idle : Bench} (isIdle : campaign.Idle before idle)
    (prepared : Prepared keys before) (member : (file, id) ∈ keys)
    (trial : campaign.Trial file id idle status after) (tally : Tally) :
    campaign.Idle before (after.noting (reportOf file id status tally)) where
  kept := isIdle.kept.trial prepared.sorted (prepared.there _ member) trial tally
  known other name found isTested isKnown :=
    trial.trustedStatus (isIdle.known other name found isTested isKnown) isTested
  sound isSound := by
    cases trial with
    | known => exact isIdle.sound isSound
    | tested left => exact left.sound (isIdle.sound isSound)
  slain number isSlain := by
    cases trial with
    | known => exact isIdle.slain number isSlain
    | tested left => exact left.slain (isIdle.slain number isSlain)
  faithful := isIdle.faithful.trial trial tally
  settled := trial.settled isIdle.faithful isIdle.settled tally

section Knowing

variable {other : Path} {name : MutantId} {known : Status}

/-- Nothing is started for a mutant that is known at the start, and it is reported as such. -/
theorem Trials.knows (trials : Trials campaign baseline tally keys before result after)
    (isKnown : before.cache.data.trustedStatus other name campaign.settings.testsDigest = known)
    (isTested : known ≠ .untested) :
    ∃ events, after.log = before.log ++ events ∧ ∀ event ∈ events, event.Knows other name known := by
  obtain ⟨idle, ⟨stillKnown, events, shape, knows⟩, ended⟩ := trials.idle
    (fun bench =>
      bench.cache.data.trustedStatus other name campaign.settings.testsDigest = known ∧
        ∃ events, bench.log = before.log ++ events ∧ ∀ event ∈ events, event.Knows other name known)
    ⟨isKnown, [], (List.append_nil _).symm, by simp⟩ (by
      rintro key - bench source? status read? next tally ⟨stillKnown, events, shape, knows⟩ tested
      have trial := trial_of_test tested
      obtain ⟨added, further, knowsToo⟩ := trial.knows tally stillKnown isTested
      refine ⟨trial.trustedStatus stillKnown isTested, events ++ added, ?_, fun event member => ?_⟩
      · rw [further, shape, List.append_assoc]
      · exact (List.mem_append.mp member).elim (knows event) (knowsToo event))
  obtain ⟨-, rfl⟩ | ⟨error, -, key, -, source?, failed⟩ := ended
  · exact ⟨events, shape, knows⟩
  · obtain ⟨added, further, knowsToo⟩ := (left_of_test failed).knows stillKnown isTested
    refine ⟨events ++ added, ?_, fun event member => ?_⟩
    · rw [further, shape, List.append_assoc]
    · exact (List.mem_append.mp member).elim (knows event) (knowsToo event)

end Knowing

/-- Tests have been started once at the most for each mutant, and for those alone that are known
now. -/
structure Once (campaign : Campaign) (bench : Bench) : Prop where
  distinct : (tested bench.log).Pairwise fun first later =>
    ¬ Names first.file first.id later.file later.id
  known : ∀ mutant ∈ tested bench.log, bench.cache.data.trustedStatus mutant.file mutant.id
    campaign.settings.testsDigest ≠ .untested

theorem Left.distinct (left : campaign.Left file id before after) (once : campaign.Once before) :
    (tested after.log).Pairwise fun first later =>
      ¬ Names first.file first.id later.file later.id := by
  obtain ⟨events, shape, concern⟩ := left.log
  rw [shape, tested_append]
  refine List.pairwise_append.mpr ⟨once.distinct, ?_, ?_⟩
  · refine List.pairwise_iff_getElem.mpr fun i j _ inside less => ?_
    have atMost := concern.tested
    omega
  · intro first isFirst later isLater named
    obtain ⟨rfl, rfl⟩ := concern.handled later (tested_subset_handled events isLater)
    refine once.known first isFirst ?_
    rw [← named.2, ← CacheData.trustedStatus_congr named.1]
    exact left.unknown

theorem Once.trial (once : campaign.Once before)
    (trial : campaign.Trial file id before status after) (tally : Tally) :
    campaign.Once (after.noting (reportOf file id status tally)) := by
  have silent : tested (after.noting (reportOf file id status tally)).log = tested after.log := by
    rw [Bench.noting, tested_append]
    exact List.append_nil _
  cases trial with
  | known => exact ⟨silent ▸ once.distinct, silent ▸ once.known⟩
  | tested left isTested isSet stored =>
    refine ⟨silent ▸ left.distinct once, fun mutant member => ?_⟩
    obtain ⟨events, shape, concern⟩ := left.log
    rw [silent, shape, tested_append] at member
    have trial : campaign.Trial file id before status after := .tested left isTested isSet stored
    obtain earlier | isNew := List.mem_append.mp member
    · exact fun untested => once.known mutant earlier
        ((trial.trustedStatus rfl (once.known mutant earlier)).symm.trans untested)
    · obtain ⟨rfl, rfl⟩ := concern.handled mutant (tested_subset_handled events isNew)
      exact fun untested => isTested (trial.isTrusted.1.symm.trans untested)

/-- A mutant that is known is reported, and nothing else happens. -/
theorem Trials.skip
    (trials : Trials campaign baseline tally ((file, id) :: keys) before result after)
    (isKnown : before.cache.data.trustedStatus file id campaign.settings.testsDigest = status)
    (isTested : status ≠ .untested) :
    Trials campaign baseline (tally.record status) keys
      (before.noting (reportOf file id status (tally.record status))) result after := by
  cases trials with
  | next tested further =>
    cases trial_of_test tested with
    | known => rwa [isKnown] at further
    | tested left => exact absurd (isKnown.symm.trans left.unknown) isTested
  | stop tally rest failed =>
    exact absurd (isKnown.symm.trans (left_of_test failed).unknown) isTested

/-- What is noted when mutants are reported. -/
def notesOf (tally : Tally) : List (Path × MutantId × Status) → List Event
  | [] => []
  | (file, id, status) :: rest =>
    reportOf file id status (tally.record status) ++ notesOf (tally.record status) rest

theorem finished_notesOf (tally : Tally) (reports : List (Path × MutantId × Status)) :
    finished (notesOf tally reports) = reports := by
  induction reports generalizing tally with
  | nil => rfl
  | cons report rest ih => exact congrArg (report :: ·) (ih _)

theorem notStarted_notesOf (tally : Tally) (reports : List (Path × MutantId × Status)) :
    ∀ event ∈ notesOf tally reports, ∀ purpose command workspace,
      event ≠ .started purpose command workspace := by
  induction reports generalizing tally with
  | nil => simp [notesOf]
  | cons report rest ih =>
    refine List.forall_mem_append.mpr ⟨?_, ih _⟩
    simp [reportOf]

theorem Trials.skipAll {reports : List (Path × MutantId × Status)}
    (trials : Trials campaign baseline tally (reported reports ++ keys) before result after)
    (known : ∀ file id status, (file, id, status) ∈ reports → status ≠ .untested ∧
      before.cache.data.trustedStatus file id campaign.settings.testsDigest = status) :
    Trials campaign baseline (recordAll tally reports) keys (before.noting (notesOf tally reports))
      result after := by
  induction reports generalizing tally before with
  | nil => simpa [notesOf, Bench.noting, recordAll, reported] using trials
  | cons report rest ih =>
    obtain ⟨file, id, status⟩ := report
    obtain ⟨isTested, isKnown⟩ := known file id status List.mem_cons_self
    have further := ih (trials.skip isKnown isTested) fun other name found member =>
      known other name found (List.mem_cons_of_mem _ member)
    rwa [Bench.noting_noting] at further

end Campaign

end MutationTesting
