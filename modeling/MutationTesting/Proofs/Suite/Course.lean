import MutationTesting.Proofs.Cache.Found
import MutationTesting.Proofs.FileSystem.Frame
import MutationTesting.Proofs.Suite.Traced
import MutationTesting.Proofs.Suite.Trials
/-! What one trial does to the cache and to the log. A status that can be relied on is reported and
nothing else happens. Otherwise all that happens is for this mutant alone, and its status is stored
before it is reported. -/
namespace MutationTesting

open OnBench Sequence

/-- The stored form of the cache is that of its data. -/
def Bench.Stored (bench : Bench) : Prop :=
  bench.workspace.find bench.cache.path = .ok (.file bench.cache.data.encode.toUTF8)

/-- A mutant has the name of a mutant of a file. -/
def Mutant.IsNamed (file : Path) (id : MutantId) (mutant : Mutant) : Prop :=
  mutant.file = file ∧ mutant.id = id

theorem Event.handled?_of_tested? {event : Event} {mutant : Mutant}
    (isTested : event.tested? = some mutant) : event.handled? = some mutant := by
  unfold tested? at isTested
  split at isTested
  · exact isTested
  · contradiction

theorem Event.tested?_eq_none {event : Event} (noMutant : event.handled? = none) :
    event.tested? = none := by
  rw [Option.eq_none_iff_forall_not_mem]
  intro mutant isTested
  have isHandled := Event.handled?_of_tested? isTested
  simp [noMutant] at isHandled

theorem tested_subset_handled (log : List Event) : tested log ⊆ handled log := by
  intro mutant member
  obtain ⟨event, isEvent, isTested⟩ := List.mem_filterMap.mp member
  exact List.mem_filterMap.mpr ⟨event, isEvent, Event.handled?_of_tested? isTested⟩

/-- Events for some mutants alone: nothing is started for another one, tests are started so many times
at the most, and no mutant is reported. -/
structure Concern (isFor : Mutant → Prop) (most : Nat) (events : List Event) : Prop where
  handled : ∀ mutant ∈ handled events, isFor mutant
  tested : (tested events).length ≤ most
  finished : finished events = []

namespace Concern

variable {isFor : Mutant → Prop} {most more : Nat} {events later : List Event}

theorem nil (isFor : Mutant → Prop) : Concern isFor 0 [] :=
  ⟨by simp [MutationTesting.handled], Nat.le_refl 0, rfl⟩

theorem append (concern : Concern isFor most events) (further : Concern isFor more later) :
    Concern isFor (most + more) (events ++ later) where
  handled mutant member := by
    rw [handled_append] at member
    exact (List.mem_append.mp member).elim (concern.handled mutant) (further.handled mutant)
  tested := by
    rw [tested_append, List.length_append]
    exact Nat.add_le_add concern.tested further.tested
  finished := by rw [finished_append, concern.finished, further.finished, List.append_nil]

theorem mono (concern : Concern isFor most events) (atMost : most ≤ more) :
    Concern isFor more events :=
  ⟨concern.handled, Nat.le_trans concern.tested atMost, concern.finished⟩

theorem of_none (isFor : Mutant → Prop) {event : Event} (noMutant : event.handled? = none)
    (notFinished : event.finished? = none) : Concern isFor 0 [event] where
  handled := by simp [MutationTesting.handled, noMutant]
  tested := by simp [MutationTesting.tested, Event.tested?_eq_none noMutant]
  finished := by simp [MutationTesting.finished, notFinished]

theorem of_started (purpose : Purpose)
    (isHandled : ∀ mutant, purpose.mutant? = some mutant → isFor mutant) (command : String)
    (workspace : Workspace) :
    Concern isFor 1 [.started purpose command workspace] where
  handled mutant member := isHandled mutant (by
    simpa [MutationTesting.handled, Event.handled?] using member)
  tested := List.length_filterMap_le _ [Event.started purpose command workspace]
  finished := rfl

end Concern

/-- A bench on which there have been events for some mutants alone, while the cache has stayed as it
was. -/
structure Busy (isFor : Mutant → Prop) (most : Nat) (before bench : Bench) : Prop where
  cache : bench.cache = before.cache
  log : ∃ events, bench.log = before.log ++ events ∧ Concern isFor most events

namespace Busy

variable {isFor : Mutant → Prop} {most more : Nat} {before bench : Bench} {failed : Bench → Prop}

theorem refl (isFor : Mutant → Prop) (bench : Bench) : Busy isFor 0 bench bench :=
  ⟨rfl, [], (List.append_nil _).symm, .nil isFor⟩

theorem mono (busy : Busy isFor most before bench) (atMost : most ≤ more) :
    Busy isFor more before bench := by
  obtain ⟨cache, events, shape, concern⟩ := busy
  exact ⟨cache, events, shape, concern.mono atMost⟩

theorem add (busy : Busy isFor most before bench) {event : Event}
    (concern : Concern isFor more [event]) :
    Busy isFor (most + more) before { bench with log := bench.log ++ [event] } := by
  obtain ⟨cache, events, shape, earlier⟩ := busy
  exact ⟨cache, events ++ [event], by simp [shape], earlier.append concern⟩

theorem leads_note {event : Event} (noMutant : event.handled? = none)
    (notFinished : event.finished? = none) :
    Leads (Busy isFor most before) (note event) (fun _ => Busy isFor most before) failed :=
  fun _ busy => busy.add (.of_none isFor noMutant notFinished)

theorem leads_files {α : Type} (operation : OnDisk α) :
    Preserves (Busy isFor most before) (files operation) := by
  intro bench busy
  unfold files
  generalize operation bench.workspace = result
  obtain ⟨error | value, workspace⟩ := result <;> exact ⟨busy.cache, busy.log⟩

theorem leads_execute {executor : Executor} {purpose : Purpose} {command : String}
    {limit? : Option Duration}
    (concern : ∀ workspace, Concern isFor more [.started purpose command workspace]) :
    Leads (Busy isFor most before) (execute executor purpose command limit?)
      (fun _ => Busy isFor (most + more) before) failed := by
  intro bench busy
  obtain ⟨cache, log⟩ := busy.add (concern bench.workspace)
  exact ⟨cache, log⟩

theorem leads_hook (campaign : Campaign) (command? : Option String) :
    Preserves (Busy isFor most before) (campaign.hook command?) :=
  hook_rule (fun _ => leads_execute fun _ => .of_none isFor rfl rfl) fun _ => leads_note rfl rfl

/-- The tests of a mutant are started once at the most. -/
theorem leads_runMutant (campaign : Campaign) {mutant : Mutant} (named : isFor mutant)
    (limit? : Option Duration) :
    Leads (Busy isFor 0 before)
      (campaign.settings.runner.runMutant campaign.executor limit? (some mutant))
      (fun _ => Busy isFor 1 before) (Busy isFor 1 before) := by
  have isHandled (other : Mutant) (same : some mutant = some other) : isFor other :=
    Option.some.inj same ▸ named
  have selects (workspace : Workspace) : Concern isFor 0
      [.started (.selection (some mutant)) campaign.settings.runner.command workspace] :=
    ⟨(Concern.of_started (.selection (some mutant)) isHandled _ workspace).handled, Nat.le_refl 0,
      rfl⟩
  exact runMutant_rule (fun _ bench busy => busy.add (selects bench.workspace))
    (fun _ => (leads_files _).mono (fun _ busy => busy) (fun _ _ busy => busy) fun _ busy =>
      busy.mono (Nat.zero_le 1))
    (leads_execute (.of_started (.test (some mutant)) isHandled _)) fun _ => leads_note rfl rfl

theorem leads_cached :
    Leads (Busy isFor most before) cached
      (fun data bench => Busy isFor most before bench ∧ data = before.cache.data) failed :=
  fun _ busy => ⟨busy, congrArg Cache.data busy.cache⟩

end Busy

/-- A bench on which there have been events for some mutants alone, with other data in its cache. -/
structure Recached (isFor : Mutant → Prop) (most : Nat) (before : Bench) (data : CacheData)
    (bench : Bench) : Prop where
  path : bench.cache.path = before.cache.path
  data : bench.cache.data = data
  log : ∃ events, bench.log = before.log ++ events ∧ Concern isFor most events

/-- Data are stored as soon as the cache has them, unless this fails. -/
theorem leads_store (isFor : Mutant → Prop) (most : Nat) (before : Bench) (data : CacheData) :
    Leads (Busy isFor most before) (do recache data; save)
      (fun _ bench => Recached isFor most before data bench ∧ bench.Stored)
      (Recached isFor most before data) := by
  intro bench busy
  have recached : Recached isFor most before data { bench with cache := { bench.cache with data } } :=
    ⟨show bench.cache.path = before.cache.path from congrArg Cache.path busy.cache, rfl, busy.log⟩
  rw [bind_apply]
  dsimp only [recache, save, Cache.save]
  cases replaced : bench.workspace.replace bench.cache.path data.encode.toUTF8 with
  | error fault =>
    rw [change_error replaced]
    exact ⟨recached.path, recached.data, recached.log⟩
  | ok after =>
    rw [change_ok replaced]
    exact ⟨⟨recached.path, recached.data, recached.log⟩, (Workspace.replace_spec replaced).2⟩

namespace Campaign

/-- A bench on which there have been events for a mutant alone, which was not known. Its status may
have been set. -/
structure Left (campaign : Campaign) (file : Path) (id : MutantId) (before after : Bench) : Prop where
  unknown : before.cache.data.trustedStatus file id campaign.settings.testsDigest = .untested
  tests : campaign.settings.cacheOnly = false
  path : after.cache.path = before.cache.path
  data : after.cache.data = before.cache.data ∨
    ∃ status, before.cache.data.setStatus file id status campaign.settings.testsDigest =
      .ok after.cache.data
  log : ∃ events, after.log = before.log ++ events ∧ Concern (Mutant.IsNamed file id) 1 events

/-- What a trial of a mutant comes to, unless it fails. -/
inductive Trial (campaign : Campaign) (file : Path) (id : MutantId) (before : Bench) :
    Status → Bench → Prop where
  /-- Nothing is done, since the status is known or only what is stored is reported. -/
  | known (isKnown : before.cache.data.trustedStatus file id campaign.settings.testsDigest ≠
        .untested ∨ campaign.settings.cacheOnly = true) :
      Trial campaign file id before
        (before.cache.data.trustedStatus file id campaign.settings.testsDigest) before
  /-- The mutant is tested and its status is stored. -/
  | tested {status : Status} {after : Bench} (left : campaign.Left file id before after)
      (isTested : status ≠ .untested)
      (isSet : before.cache.data.setStatus file id status campaign.settings.testsDigest =
        .ok after.cache.data)
      (stored : after.Stored) : Trial campaign file id before status after

variable {campaign : Campaign} {file : Path} {id : MutantId} {before after : Bench}
  {baseline : Duration} {source? : Option String}

theorem left_of_busy {bench : Bench}
    (unknown : before.cache.data.trustedStatus file id campaign.settings.testsDigest = .untested)
    (tests : campaign.settings.cacheOnly = false)
    (busy : Busy (Mutant.IsNamed file id) 1 before bench) : campaign.Left file id before bench where
  unknown := unknown
  tests := tests
  path := congrArg Cache.path busy.cache
  data := .inl (congrArg Cache.data busy.cache)
  log := busy.log

theorem leads_setStatus_trial
    (unknown : before.cache.data.trustedStatus file id campaign.settings.testsDigest = .untested)
    (tests : campaign.settings.cacheOnly = false) {status : Status} (isTested : status ≠ .untested) :
    Leads (Busy (Mutant.IsNamed file id) 1 before)
      (setStatus file id status campaign.settings.testsDigest)
      (fun _ => Trial campaign file id before status) (campaign.Left file id before) := by
  unfold OnBench.setStatus
  refine .bind Busy.leads_cached fun data => .bind (.lift _ (fun changed isSet bench held =>
    (⟨held, isSet⟩ : _ ∧ _)) fun _ held => left_of_busy unknown tests held.1) fun changed => ?_
  rintro bench ⟨⟨busy, rfl⟩, isSet⟩
  have isLeft (after : Bench)
      (recached : Recached (Mutant.IsNamed file id) 1 before changed after) :
      campaign.Left file id before after :=
    ⟨unknown, tests, recached.path, .inr ⟨status, recached.data ▸ isSet⟩, recached.log⟩
  refine (leads_store (Mutant.IsNamed file id) 1 before changed).mono (fun _ busy => busy) ?_ isLeft
    bench busy
  exact fun _ after ⟨recached, stored⟩ =>
    .tested (isLeft after recached) isTested (recached.data ▸ isSet) stored

theorem leads_runTests_trial (baseline : Duration) {mutant : Mutant}
    (named : mutant.IsNamed file id)
    (unknown : before.cache.data.trustedStatus file id campaign.settings.testsDigest = .untested)
    (tests : campaign.settings.cacheOnly = false) :
    Leads (Busy (Mutant.IsNamed file id) 0 before) (campaign.runTests baseline mutant)
      (fun status => Trial campaign file id before status) (campaign.Left file id before) := by
  have failing {α : Type} {operation : OnBench α} {most : Nat} {after : α → Bench → Prop}
      {holds : Bench → Prop} (atMost : most ≤ 1) (leads : Leads holds operation after
        (Busy (Mutant.IsNamed file id) most before)) :
      Leads holds operation after (campaign.Left file id before) :=
    leads.mono (fun _ held => held) (fun _ _ held => held) fun _ busy =>
      left_of_busy unknown tests (busy.mono atMost)
  unfold runTests
  dsimp only
  refine .bind (failing (Nat.zero_le 1) (Busy.leads_hook campaign _)) fun _ =>
    .bind (failing (Nat.zero_le 1) (Busy.leads_files _)) fun applied =>
    .bind (preserved_attempt ((Busy.leads_runMutant campaign named _).mono (fun _ held => held)
      (fun _ _ held => held) fun _ held => held)) fun outcome =>
    .bind (preserved_attempt (Busy.leads_files _)) fun reverted =>
    .bind (failing (Nat.le_refl 1) (Busy.leads_hook campaign _)) fun _ =>
    .bind (.lift reverted (fun _ _ _ held => held) fun _ busy => left_of_busy unknown tests busy)
      fun _ => ?_
  rw [named.1, named.2]
  exact .bind (leads_setStatus_trial unknown tests
    (campaign.statusOf_ne_untested baseline outcome)) fun _ => .pure fun _ trial => trial

theorem leads_trial (campaign : Campaign) (baseline : Duration) (file : Path)
    (source? : Option String) (id : MutantId) (before : Bench) :
    Leads (· = before) (campaign.test baseline file source? id)
      (fun found => Trial campaign file id before found.1) (campaign.Left file id before) := by
  have looked : Leads (· = before) cached
      (fun data bench => data = before.cache.data ∧ bench = before)
      (campaign.Left file id before) := by
    rintro bench rfl
    exact ⟨rfl, rfl⟩
  unfold test
  refine .bind looked fun data => ?_
  dsimp only
  split
  · rename_i isKnown
    rintro bench ⟨rfl, rfl⟩
    exact .known isKnown
  · rename_i notKnown
    rintro bench ⟨rfl, rfl⟩
    have unknown : bench.cache.data.trustedStatus file id campaign.settings.testsDigest =
        .untested := by
      by_contra known
      exact notKnown (.inl known)
    have tests : campaign.settings.cacheOnly = false := by
      simpa using (not_or.mp notKnown).2
    suffices rest : Leads (Busy (Mutant.IsNamed file id) 0 bench) _ _ _ from
      rest bench (.refl _ bench)
    have failing (after : Bench) (busy : Busy (Mutant.IsNamed file id) 0 bench after) :
        campaign.Left file id bench after :=
      left_of_busy unknown tests (busy.mono (Nat.zero_le 1))
    have read : Leads (Busy (Mutant.IsNamed file id) 0 bench) (sourceOf file source?)
        (fun _ => Busy (Mutant.IsNamed file id) 0 bench) (campaign.Left file id bench) := by
      unfold sourceOf
      split
      · exact .pure fun _ busy => busy
      · exact (Busy.leads_files _).mono (fun _ busy => busy) (fun _ _ busy => busy) failing
    refine .bind read fun source => .bind (.lift _ (fun found? isFound after busy =>
      (⟨busy, isFound⟩ : _ ∧ _)) failing) fun found? => ?_
    cases found? with
    | none => exact .throw fun after held => failing after held.1
    | some mutant =>
      rintro between ⟨busy, isFound⟩
      obtain ⟨rfl, isOf, -, -, -⟩ := Mutator.find?_spec isFound
      refine Leads.bind (leads_runTests_trial baseline ⟨isOf, rfl⟩ unknown tests) (fun status => ?_)
        between busy
      exact .pure fun _ trial => trial

theorem trial_of_test {status : Status} {read? : Option String}
    (done : campaign.test baseline file source? id before = (.ok (status, read?), after)) :
    Trial campaign file id before status after := by
  have outcome := leads_trial campaign baseline file source? id before before rfl
  rwa [done] at outcome

theorem left_of_test {error : Error}
    (failed : campaign.test baseline file source? id before = (.error error, after)) :
    campaign.Left file id before after := by
  have outcome := leads_trial campaign baseline file source? id before before rfl
  rwa [failed] at outcome

/-- A bench after the clean run, which has passed if it was needed at all. -/
inductive Clocked (before : Bench) : Bench → Prop where
  | known (isKnown : before.cache.data.baseline?.isSome = true) : Clocked before before
  | timed {seconds : Float} {after : Bench}
      (recached : Recached (fun _ => False) 0 before
        { before.cache.data with baseline? := some seconds } after)
      (stored : after.Stored) : Clocked before after

/-- A bench after a clean run that has failed. -/
def Unclocked (before after : Bench) : Prop :=
  ∃ baseline?, Recached (fun _ => False) 0 before { before.cache.data with baseline? } after

theorem unclocked_of_busy {bench : Bench} (busy : Busy (fun _ => False) 0 before bench) :
    Unclocked before bench :=
  ⟨before.cache.data.baseline?, congrArg Cache.path busy.cache, congrArg Cache.data busy.cache,
    busy.log⟩

/-- A time that is known is not taken again. -/
theorem baseline_of_known (campaign : Campaign) (isKnown : before.cache.data.baseline?.isSome = true) :
    ∃ baseline, campaign.baseline before = (.ok baseline, before) := by
  obtain ⟨seconds, known⟩ := Option.isSome_iff_exists.mp isKnown
  unfold Campaign.baseline
  rw [bind_apply]
  dsimp only [OnBench.cached]
  rw [known]
  exact ⟨_, rfl⟩

/-- The clean run changes nothing in the cache but its time, and reports no mutant. -/
theorem leads_clocked (campaign : Campaign) (before : Bench) :
    Leads (· = before) campaign.baseline (fun _ => Clocked before) (Unclocked before) := by
  have stored (seconds : Float) : Leads (Busy (fun _ => False) 0 before)
      (setBaseline (some seconds)) (fun _ => Clocked before) (Unclocked before) := by
    unfold setBaseline
    refine .bind Busy.leads_cached fun data => ?_
    rintro bench ⟨busy, rfl⟩
    exact (leads_store (fun _ => False) 0 before _).mono (fun _ busy => busy)
      (fun _ _ held => .timed held.1 held.2) (fun _ recached => ⟨some seconds, recached⟩) bench busy
  rintro bench rfl
  cases isKnown : bench.cache.data.baseline?.isSome with
  | true =>
    obtain ⟨baseline, same⟩ := baseline_of_known campaign isKnown
    rw [same]
    exact .known isKnown
  | false =>
    refine baseline_rule (fun other busy isKnownThen => ?_) (fun _ => unclocked_of_busy)
      (Busy.leads_execute fun _ => .of_none _ rfl rfl) (fun _ => Busy.leads_note rfl rfl)
      (fun _ => Busy.leads_note rfl rfl) (fun _ => Busy.leads_files _) stored bench (.refl _ bench)
    rw [busy.cache, isKnown] at isKnownThen
    contradiction

theorem clocked_of_baseline (done : campaign.baseline before = (.ok baseline, after)) :
    Clocked before after := by
  have outcome := leads_clocked campaign before before rfl
  rwa [done] at outcome

/-- A campaign comes to its mutants with the time of the clean run in a cache that is stored, or only
reports what is stored. -/
theorem Timed.recached (timed : campaign.Timed before baseline after) (stored : before.Stored) :
    ∃ baseline?, Recached (fun _ => False) 0 before { before.cache.data with baseline? } after ∧
      after.Stored ∧ (campaign.settings.cacheOnly = false → baseline?.isSome = true) := by
  have same : Recached (fun _ => False) 0 before
      { before.cache.data with baseline? := before.cache.data.baseline? } before :=
    ⟨rfl, rfl, (Busy.refl _ before).log⟩
  cases timed with
  | skipped cacheOnly => exact ⟨_, same, stored, by simp [cacheOnly]⟩
  | clean tests passed =>
    cases clocked_of_baseline passed with
    | known isKnown => exact ⟨_, same, stored, fun _ => isKnown⟩
    | @timed seconds _ recached stored => exact ⟨some seconds, recached, stored, fun _ => rfl⟩

theorem unclocked_of_baseline {error : Error}
    (failed : campaign.baseline before = (.error error, after)) : Unclocked before after := by
  have outcome := leads_clocked campaign before before rfl
  rwa [failed] at outcome

end Campaign

end MutationTesting
