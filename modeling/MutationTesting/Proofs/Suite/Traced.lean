import MutationTesting.Proofs.Cache.Known
import MutationTesting.Proofs.Mutator
import MutationTesting.Proofs.Suite.Rules
/-! What the log of a campaign tells of the mutants of a file. Each status that is reported or
stored is that of a mutant that has come to its tests, unless the cache held it from the start. -/
namespace MutationTesting

/-- The mutant for which something is started. -/
def Purpose.mutant? : Purpose → Option Mutant
  | .selection mutant? | .test mutant? => mutant?
  | .baseline | .hook => none

namespace Event

/-- The mutant that has come to its tests: they are started, or prepared at least. -/
def handled? : Event → Option Mutant
  | .started purpose _ _ => purpose.mutant?
  | _ => none

/-- The mutant whose tests are started. -/
def tested? : Event → Option Mutant
  | .started (.test mutant?) _ _ => mutant?
  | _ => none

/-- The mutant that is done, and its status. -/
def finished? : Event → Option (Path × MutantId × Status)
  | .finished file id status => some (file, id, status)
  | _ => none

end Event

/-- The mutants that have come to their tests. -/
def handled (log : List Event) : List Mutant :=
  log.filterMap Event.handled?

/-- The mutants whose tests are started. -/
def tested (log : List Event) : List Mutant :=
  log.filterMap Event.tested?

/-- The mutants that are done, and their status. -/
def finished (log : List Event) : List (Path × MutantId × Status) :=
  log.filterMap Event.finished?

theorem handled_append (log later : List Event) :
    handled (log ++ later) = handled log ++ handled later := List.filterMap_append

theorem tested_append (log later : List Event) :
    tested (log ++ later) = tested log ++ tested later := List.filterMap_append

theorem finished_append (log later : List Event) :
    finished (log ++ later) = finished log ++ finished later := List.filterMap_append

/-- A mutant of a file is reported to have been tested. -/
def Reported (log : List Event) (file : Path) (id : MutantId) : Prop :=
  ∃ status, (file, id, status) ∈ finished log ∧ status ≠ .untested

theorem Reported.append {log : List Event} {file : Path} {id : MutantId}
    (reported : Reported log file id) (later : List Event) : Reported (log ++ later) file id := by
  obtain ⟨status, member, tested⟩ := reported
  exact ⟨status, finished_append log later ▸ List.mem_append_left _ member, tested⟩

/-- A name is told of from the start, or a mutant with that name has come to its tests. -/
def Named (told : MutantId → Prop) (log : List Event) (id : MutantId) : Prop :=
  told id ∨ ∃ mutant ∈ handled log, mutant.id = id

theorem Named.append {told : MutantId → Prop} {log : List Event} {id : MutantId}
    (named : Named told log id) (later : List Event) : Named told (log ++ later) id := by
  obtain isTold | ⟨mutant, isHandled, same⟩ := named
  · exact .inl isTold
  · exact .inr ⟨mutant, handled_append log later ▸ List.mem_append_left _ isHandled, same⟩

namespace Campaign

theorem statusOf_ne_untested (campaign : Campaign) (baseline : Duration)
    (outcome : Except Error Runner.Outcome) : campaign.statusOf baseline outcome ≠ .untested := by
  unfold statusOf Status.ofRun
  cases outcome with
  | error error => simp
  | ok outcome =>
    dsimp only
    split
    · simp
    · split <;> simp

/-- A mutant of a file that a campaign may test. -/
structure Tests (campaign : Campaign) (file : Path) (mutant : Mutant) : Prop where
  tests : campaign.settings.cacheOnly = false
  isOf : mutant.file = file
  found : campaign.mutator.find? file mutant.source mutant.id = .ok (some mutant)

/-- The bench of a campaign that tests mutants of a file with the names `ids`. What the cache holds
of them is told of, and so is what the log reports. Where all tests are run, they are started
whenever a mutant comes to them. -/
structure Traced (campaign : Campaign) (file : Path) (ids : List MutantId) (told : MutantId → Prop)
    (bench : Bench) : Prop where
  known : bench.cache.data.Known (Named told bench.log) file
  handled : ∀ mutant ∈ handled bench.log, campaign.Tests file mutant
  prompt : campaign.settings.isIncremental = false →
    MutationTesting.handled bench.log = tested bench.log
  finished : ∀ id status, (file, id, status) ∈ finished bench.log →
    id ∈ ids ∧ (status ≠ .untested → Named told bench.log id)

namespace Traced

open OnBench Sequence

variable {campaign : Campaign} {file : Path} {ids : List MutantId} {told : MutantId → Prop}
  {bench : Bench}

/-- A bench stays as it should be when an event is added that is as it should be. -/
theorem add (traced : campaign.Traced file ids told bench) {event : Event}
    (isHandled : ∀ mutant, event.handled? = some mutant → campaign.Tests file mutant)
    (isPrompt : campaign.settings.isIncremental = false → event.handled? = event.tested?)
    (isFinished : ∀ id status, event.finished? = some (file, id, status) →
      id ∈ ids ∧ (status ≠ .untested → Named told bench.log id)) :
    campaign.Traced file ids told { bench with log := bench.log ++ [event] } where
  known := traced.known.mono fun id named => named.append [event]
  handled := by
    intro mutant member
    rw [handled_append, List.mem_append] at member
    obtain member | member := member
    · exact traced.handled mutant member
    · exact isHandled mutant (by simpa [MutationTesting.handled] using member)
  prompt := by
    intro whole
    rw [handled_append, tested_append, traced.prompt whole]
    simp [MutationTesting.handled, tested, List.filterMap_cons, isPrompt whole]
  finished := by
    intro id status member
    rw [finished_append, List.mem_append] at member
    obtain ⟨isNamed, named⟩ : id ∈ ids ∧ (status ≠ .untested → Named told bench.log id) := by
      obtain member | member := member
      · exact traced.finished id status member
      · exact isFinished id status (by simpa [MutationTesting.finished] using member)
    exact ⟨isNamed, fun tested => (named tested).append [event]⟩

/-- A property of logs that stays while they grow. -/
def Grows (extra : List Event → Prop) : Prop :=
  ∀ log event, extra log → extra (log ++ [event])

/-- Such a bench with a property of its log. -/
def With (campaign : Campaign) (file : Path) (ids : List MutantId) (told : MutantId → Prop)
    (extra : List Event → Prop) (bench : Bench) : Prop :=
  campaign.Traced file ids told bench ∧ extra bench.log

variable {extra further : List Event → Prop} {failed : Bench → Prop}

theorem leads_note (grows : Grows extra) {event : Event} (noMutant : event.handled? = none)
    (notTested : event.tested? = none) (notFinished : event.finished? = none) :
    Leads (With campaign file ids told extra) (note event)
      (fun _ => With campaign file ids told extra) failed :=
  fun _ held =>
    ⟨held.1.add (by simp [noMutant]) (fun _ => noMutant.trans notTested.symm)
      (by simp [notFinished]), grows _ _ held.2⟩

theorem leads_files {α : Type} (operation : OnDisk α) :
    Preserves (With campaign file ids told extra) (files operation) := by
  intro bench held
  unfold files
  generalize operation bench.workspace = result
  obtain ⟨error | value, workspace⟩ := result <;>
    exact ⟨⟨held.1.known, held.1.handled, held.1.prompt, held.1.finished⟩, held.2⟩

theorem leads_save : Preserves (With campaign file ids told extra) save := by
  intro bench held
  unfold save
  generalize bench.cache.save bench.workspace = result
  obtain ⟨error | value, workspace⟩ := result <;>
    exact ⟨⟨held.1.known, held.1.handled, held.1.prompt, held.1.finished⟩, held.2⟩

theorem leads_begin {purpose : Purpose} {command : String}
    (isHandled : ∀ mutant, purpose.mutant? = some mutant → campaign.Tests file mutant)
    (incremental : campaign.settings.isIncremental = true)
    (starts : ∀ log workspace, extra log → further (log ++ [.started purpose command workspace])) :
    Leads (With campaign file ids told extra) (begin purpose command)
      (fun _ => With campaign file ids told further) failed :=
  fun _ held =>
    ⟨held.1.add isHandled (by simp [incremental]) (by simp [Event.finished?]), starts _ _ held.2⟩

theorem leads_execute {executor : Executor} {purpose : Purpose} {command : String}
    {limit? : Option Duration}
    (isHandled : ∀ mutant, purpose.mutant? = some mutant → campaign.Tests file mutant)
    (isPrompt : ∀ workspace, (Event.started purpose command workspace).tested? = purpose.mutant?)
    (starts : ∀ log workspace, extra log → further (log ++ [.started purpose command workspace])) :
    Leads (With campaign file ids told extra) (execute executor purpose command limit?)
      (fun _ => With campaign file ids told further) failed := by
  intro bench held
  have added : campaign.Traced file ids told
      { bench with log := bench.log ++ [.started purpose command bench.workspace] } :=
    held.1.add isHandled (fun _ => (isPrompt bench.workspace).symm) (by simp [Event.finished?])
  exact ⟨⟨added.known, added.handled, added.prompt, added.finished⟩, starts _ _ held.2⟩

theorem leads_cached :
    Leads (With campaign file ids told extra) cached
      (fun data bench => With campaign file ids told extra bench ∧ bench.cache.data = data) failed :=
  fun _ held => ⟨held, rfl⟩

theorem leads_recache (data : CacheData) :
    Leads (fun bench => With campaign file ids told extra bench ∧
        data.Known (Named told bench.log) file) (recache data)
      (fun _ => With campaign file ids told extra) failed :=
  fun _ held => ⟨⟨held.2, held.1.1.handled, held.1.1.prompt, held.1.1.finished⟩, held.1.2⟩

theorem leads_setBaseline (seconds? : Option Float) :
    Preserves (With campaign file ids told extra) (setBaseline seconds?) := by
  refine .bind leads_cached fun data => .bind ((leads_recache _).mono ?_ (fun _ _ held => held)
    fun _ held => held) fun _ => leads_save
  rintro bench ⟨held, rfl⟩
  exact ⟨held, held.1.known⟩

/-- A status is stored of a mutant that has come to its tests. -/
theorem leads_setStatus {id : MutantId} (named : ∀ log, extra log → Named told log id)
    (status : Status) (digest : String) :
    Preserves (With campaign file ids told extra) (setStatus file id status digest) := by
  refine .bind leads_cached fun data => .bind (.lift (data.setStatus file id status digest) ?_
    fun _ held => held.1) fun changed => .bind (leads_recache changed) fun _ => leads_save
  rintro changed isChanged bench ⟨held, rfl⟩
  exact ⟨held, held.1.known.setStatus (named _ held.2) isChanged⟩

theorem leads_hook (grows : Grows extra) (command? : Option String) :
    Preserves (With campaign file ids told extra) (campaign.hook command?) :=
  hook_rule
    (fun _ => leads_execute (by simp [Purpose.mutant?]) (fun _ => rfl) fun log _ held =>
      grows log _ held)
    fun _ => leads_note grows rfl rfl rfl

theorem leads_baseline (grows : Grows extra) :
    Preserves (With campaign file ids told extra) campaign.baseline :=
  baseline_rule (fun _ held _ => held) (fun _ held => held)
    (leads_execute (by simp [Purpose.mutant?]) (fun _ => rfl) fun log _ held => grows log _ held)
    (fun _ => leads_note grows rfl rfl rfl) (fun _ => leads_note grows rfl rfl rfl)
    (fun _ => leads_files _) fun _ => leads_setBaseline _

/-- With the property that a mutant has come to its tests. -/
def Handling (extra : List Event → Prop) (mutant : Mutant) (log : List Event) : Prop :=
  extra log ∧ mutant ∈ MutationTesting.handled log

theorem Handling.grows (grows : Grows extra) (mutant : Mutant) : Grows (Handling extra mutant) :=
  fun log event held =>
    ⟨grows log event held.1, handled_append log [event] ▸ List.mem_append_left _ held.2⟩

theorem Handling.starts (grows : Grows extra) {purpose : Purpose} {mutant : Mutant}
    (isFor : purpose.mutant? = some mutant) (command : String) (log : List Event)
    (workspace : Workspace) (held : extra log) :
    Handling extra mutant (log ++ [.started purpose command workspace]) := by
  refine ⟨grows log _ held, ?_⟩
  rw [handled_append]
  exact List.mem_append_right _ (by simp [MutationTesting.handled, Event.handled?, isFor])

/-- The tests of a mutant are started, or prepared at least, whatever comes of them. -/
theorem leads_runMutant (grows : Grows extra) {mutant : Mutant}
    (tests : campaign.Tests file mutant) (limit? : Option Duration) :
    Leads (With campaign file ids told extra)
      (campaign.settings.runner.runMutant campaign.executor limit? (some mutant))
      (fun _ => With campaign file ids told (Handling extra mutant))
      (With campaign file ids told (Handling extra mutant)) := by
  have isHandled (other : Mutant) (same : some mutant = some other) : campaign.Tests file other :=
    Option.some.inj same ▸ tests
  exact runMutant_rule
    (fun incremental => leads_begin isHandled incremental (Handling.starts grows rfl _))
    (fun _ => (leads_files _).mono (fun _ held => held) (fun _ _ held => ⟨held.1, held.2.1⟩)
      fun _ held => held)
    (leads_execute isHandled (fun _ => rfl) (Handling.starts grows rfl _))
    fun _ => leads_note (Handling.grows grows mutant) rfl rfl rfl

/-- What is stored and yielded of a mutant is of one that has come to its tests. -/
theorem leads_runTests (grows : Grows extra) (baseline : Duration) {mutant : Mutant}
    (tests : campaign.Tests file mutant) :
    Leads (With campaign file ids told extra) (campaign.runTests baseline mutant)
      (fun status bench => status ≠ .untested ∧
        With campaign file ids told (Handling extra mutant) bench)
      (fun bench => campaign.Traced file ids told bench) := by
  have growing := Handling.grows grows mutant
  have named (log : List Event) (held : Handling extra mutant log) : Named told log mutant.id :=
    .inr ⟨mutant, held.2, rfl⟩
  have failing {extra : List Event → Prop} {α : Type} {operation : OnBench α}
      {after : α → Bench → Prop} {before : Bench → Prop}
      (leads : Leads before operation after (With campaign file ids told extra)) :
      Leads before operation after (campaign.Traced file ids told) :=
    leads.mono (fun _ held => held) (fun _ _ held => held) fun _ held => held.1
  unfold runTests
  dsimp only
  refine .bind (failing (leads_hook grows _)) fun _ =>
    .bind (failing (leads_files _)) fun applied =>
    .bind (preserved_attempt (leads_runMutant grows tests _)) fun outcome =>
    .bind (preserved_attempt (leads_files _)) fun reverted =>
    .bind (failing (leads_hook growing _)) fun _ =>
    .bind (.lift reverted (fun _ _ _ held => held) fun _ held => held.1) fun _ => ?_
  rw [tests.isOf]
  exact .bind (failing (leads_setStatus named _ _)) fun _ =>
    .pure fun _ held => ⟨campaign.statusOf_ne_untested baseline outcome, held⟩

/-- A status other than that of an untested mutant is one that the cache held, or that of a mutant
that has come to its tests. Unless only stored results are reported there is such a status. -/
theorem leads_test (grows : Grows extra) (baseline : Duration) (source? : Option String)
    (id : MutantId) :
    Leads (With campaign file ids told extra) (campaign.test baseline file source? id)
      (fun result bench => With campaign file ids told extra bench ∧
        (result.1 ≠ .untested → Named told bench.log id) ∧
        (campaign.settings.cacheOnly = false → result.1 ≠ .untested))
      (fun bench => campaign.Traced file ids told bench) := by
  unfold test
  refine .bind leads_cached fun data => ?_
  dsimp only
  split
  · rename_i isKnown
    refine .pure fun bench held => ⟨held.1, ?_, ?_⟩
    · obtain ⟨⟨traced, -⟩, rfl⟩ := held
      exact traced.known.of_trustedStatus
    · intro tests
      obtain known | cacheOnly := isKnown
      · exact known
      · simp [tests] at cacheOnly
  · rename_i notKnown
    have tests : campaign.settings.cacheOnly = false := by
      simpa using (not_or.mp notKnown).2
    suffices rest : Leads (With campaign file ids told extra) _ _ _ from
      rest.mono (fun _ held => held.1) (fun _ _ held => held) fun _ held => held
    have read : Leads (With campaign file ids told extra) (sourceOf file source?)
        (fun _ => With campaign file ids told extra) (campaign.Traced file ids told) := by
      unfold sourceOf
      split
      · exact .pure fun _ held => held
      · exact (leads_files _).mono (fun _ held => held) (fun _ _ held => held) fun _ held => held.1
    refine .bind read fun source => .bind (.lift _ (fun found? isFound bench held =>
      (⟨held, isFound⟩ : _ ∧ _)) fun _ held => held.1) fun found? => ?_
    cases found? with
    | none => exact .throw fun _ held => held.1.1
    | some mutant =>
      rintro bench ⟨held, isFound⟩
      obtain ⟨rfl, isOf, rfl, -, -⟩ := Mutator.find?_spec isFound
      refine Leads.bind (leads_runTests grows baseline ⟨tests, isOf, isFound⟩)
        (fun status => .pure fun bench held => ?_) bench held
      exact ⟨⟨held.2.1, held.2.2.1⟩, fun _ => .inr ⟨mutant, held.2.2.2, rfl⟩, fun _ => held.1⟩

/-- Unless only stored results are reported, some mutants of a file are reported to have been
tested. -/
def Done (campaign : Campaign) (file : Path) (done : List MutantId) (log : List Event) : Prop :=
  campaign.settings.cacheOnly = false → ∀ id ∈ done, Reported log file id

theorem Done.grows (campaign : Campaign) (file : Path) (done : List MutantId) :
    Grows (Done campaign file done) :=
  fun _ event held tests id member => (held tests id member).append [event]

theorem leads_finished {done : List MutantId} {id : MutantId} (isNamed : id ∈ ids)
    {status : Status} :
    Leads
      (fun bench => With campaign file ids told (Done campaign file done) bench ∧
        (status ≠ .untested → Named told bench.log id) ∧
        (campaign.settings.cacheOnly = false → status ≠ .untested))
      (note (.finished file id status))
      (fun _ => With campaign file ids told (Done campaign file (done ++ [id]))) failed := by
  rintro bench ⟨⟨traced, isDone⟩, named, tested⟩
  refine ⟨traced.add (by simp [Event.handled?]) (fun _ => rfl) ?_, fun tests other member => ?_⟩
  · intro other status same
    simp only [Event.finished?, Option.some.injEq, Prod.mk.injEq, true_and] at same
    obtain ⟨rfl, rfl⟩ := same
    exact ⟨isNamed, named⟩
  · obtain member | member := List.mem_append.mp member
    · exact (isDone tests other member).append _
    · obtain rfl := List.mem_singleton.mp member
      refine ⟨status, ?_, tested tests⟩
      rw [finished_append]
      exact List.mem_append_right _ (by simp [MutationTesting.finished, Event.finished?])

theorem leads_testIds (baseline : Duration) (source? : Option String) (tally : Tally)
    (done : List MutantId) {rest : List MutantId} (named : ∀ id ∈ rest, id ∈ ids) :
    Leads (With campaign file ids told (Done campaign file done))
      (campaign.testIds baseline file source? tally rest)
      (fun result bench => campaign.Traced file ids told bench ∧
        (result.error? = none → Done campaign file (done ++ rest) bench.log))
      failed := by
  induction rest generalizing source? tally done with
  | nil => exact .pure fun _ held => ⟨held.1, fun _ => by simpa using held.2⟩
  | cons id rest ih =>
    unfold testIds
    refine .bind (leads_attempt (leads_test (Done.grows campaign file done) baseline source? id))
      fun outcome => ?_
    cases outcome with
    | error error => exact .pure fun _ held => ⟨held, by simp⟩
    | ok result =>
      have later := ih result.2 (tally.record result.1) (done ++ [id])
        fun other member => named other (List.mem_cons_of_mem _ member)
      rw [List.append_assoc, List.singleton_append] at later
      exact .bind (leads_finished (named id List.mem_cons_self)) fun _ =>
        .bind (leads_note (Done.grows campaign file _) rfl rfl rfl) fun _ => later

theorem leads_testFiles (baseline : Duration) (tally : Tally) (done : List MutantId)
    {mutants : List FileMutants}
    (listed : ∀ listed ∈ mutants, listed.file = file ∧ ∀ id ∈ listed.ids, id ∈ ids) :
    Leads (With campaign file ids told (Done campaign file done))
      (campaign.testFiles baseline tally mutants)
      (fun result bench => campaign.Traced file ids told bench ∧
        (result.error? = none →
          Done campaign file (done ++ mutants.flatMap FileMutants.ids) bench.log))
      failed := by
  induction mutants generalizing tally done with
  | nil => exact .pure fun _ held => ⟨held.1, fun _ => by simpa using held.2⟩
  | cons first rest ih =>
    unfold testFiles
    obtain ⟨rfl, named⟩ := listed first List.mem_cons_self
    refine .bind (leads_testIds baseline none tally done named) fun result => ?_
    split
    · rename_i error failure
      refine .pure fun _ held => ⟨held.1, fun noError => ?_⟩
      simp [noError] at failure
    · rename_i noError
      rintro bench ⟨traced, isDone⟩
      have later := ih result.tally (done ++ first.ids)
        fun other member => listed other (List.mem_cons_of_mem _ member)
      rw [List.append_assoc] at later
      exact later bench ⟨traced, isDone noError⟩

/-- What a campaign stores and reports of a file is told of, and it reports all mutants if it comes
to its end. -/
theorem leads_campaign {mutants : List FileMutants}
    (listed : ∀ listed ∈ mutants, listed.file = file ∧ ∀ id ∈ listed.ids, id ∈ ids) :
    Leads (campaign.Traced file ids told) (campaign.run mutants)
      (fun result bench => campaign.Traced file ids told bench ∧
        (result.error? = none →
          Done campaign file (mutants.flatMap FileMutants.ids) bench.log))
      failed := by
  have nothing : Grows (Done campaign file []) := Done.grows campaign file []
  refine (campaign_rule (leads_baseline nothing) (fun _ => leads_note nothing rfl rfl rfl)
    (fun error bench held => ⟨held.1, fun noError => nomatch noError⟩)
    fun baseline tally => leads_testFiles baseline tally [] listed).mono ?_ (fun _ _ held => held)
      fun _ held => held
  exact fun _ traced => ⟨traced, by simp [Done]⟩

end Traced

end Campaign

end MutationTesting
