import Mathlib.Logic.Relation
import MutationTesting.Proofs.Suite.Restored
import MutationTesting.Proofs.Suite.Session
/-! Mutants that have been killed, over any number of sessions. Whatever becomes of the sources, the
tests and the commands, a mutant that has been killed once counts as killed, is reported as such and is
not tested again. -/
namespace MutationTesting

open CacheData (Slain)
open FileMutants (keys)
open Relation (ReflTransGen TransGen)

/-- An event that treats whatever mutant has a number in a cache as killed: nothing is started for it,
and it is reported as killed. -/
structure Event.Buries (data : CacheData) (number : Nat) (event : Event) : Prop where
  handled : ∀ mutant, event.handled? = some mutant →
    data.number? mutant.file mutant.id ≠ some number
  finished : ∀ file id status, event.finished? = some (file, id, status) →
    data.number? file id = some number → status = .killed

namespace Session

/-- A session that treats whatever mutant has a number as killed, from the cache that it opens up to
the cache at its end. -/
structure Buries (session : Session) (number : Nat) : Prop where
  opened : Slain number session.cache.data
  listed : ∀ mutants listed, session.generation = (.ok mutants, listed) →
    Slain number listed.cache.data ∧
      ∀ event ∈ session.outcome.2.log, event.Buries listed.cache.data number
  reported : ∀ mutants listed result ended, session.generation = (.ok mutants, listed) →
    session.outcome = (.ok (mutants, result), ended) → result.error? = none →
      ∀ key ∈ keys mutants, listed.cache.data.number? key.1 key.2 = some number →
        (key.1, key.2, .killed) ∈ finished ended.log
  ended : ∀ mutants result ended, session.outcome = (.ok (mutants, result), ended) →
    Slain number ended.cache.data

/-- A session whose cache can be stored. If a failure ends the tests, the stored cache is as the
session itself has left it. -/
structure Proper (session : Session) : Prop where
  fits : session.outcome.2.cache.data.Fits
  spares : ∀ mutants result ended, session.outcome = (.ok (mutants, result), ended) →
    result.error?.isSome = true → session.SparesCache

/-- A session comes before another one, which opens the cache that it has left. -/
def Before (first later : Session) : Prop :=
  first.Proper ∧ later.Follows first

variable {session first later : Session} {mutants : List FileMutants} {listed ended : Bench}
  {result : CampaignResult} {left : CacheData} {number : Nat} {file : Path} {id : MutantId}

theorem Lists.sound (lists : session.Lists mutants listed) (sound : session.cache.data.Sound) :
    listed.cache.data.Sound := by
  have kept := Mutator.listFiles_rule (fun data => data.Sound) sound
    (fun _ path source sound => (sound.updateLines path source).1)
    (fun _ path ids sound => (sound.register path ids).1) session.campaign.mutator
    session.campaign.settings.keepGoing session.workspace session.files
  rwa [lists.listed] at kept

theorem Lists.slain (lists : session.Lists mutants listed)
    (slain : Slain number session.cache.data) : Slain number listed.cache.data := by
  have kept := Mutator.listFiles_rule (Slain number) slain
    (fun _ path source slain => slain.updateLines path source)
    (fun _ path ids slain => slain.register path ids) session.campaign.mutator
    session.campaign.settings.keepGoing session.workspace session.files
  rwa [lists.listed] at kept

theorem Lists.buries (lists : session.Lists mutants listed)
    (ran : session.campaign.run mutants listed = (.ok result, ended))
    (slain : Slain number listed.cache.data) :
    ∀ event ∈ ended.log, event.Buries listed.cache.data number := by
  intro event member
  obtain ⟨left, leaves⟩ := lists.leaves ran
  have knows (file : Path) (id : MutantId)
      (isNumber : listed.cache.data.number? file id = some number) : event.Knows file id .killed :=
    (leaves.known file id .killed (by decide) (slain.trustedStatus isNumber _)).2 event member
  refine ⟨fun mutant isHandled isNumber => ?_, fun file id status isReport isNumber => ?_⟩
  · exact (knows _ _ isNumber).handled mutant isHandled ⟨Path.same_iff.mpr rfl, rfl⟩
  · exact (knows _ _ isNumber).finished file id status isReport ⟨Path.same_iff.mpr rfl, rfl⟩

/-- A mutant that is killed in the cache at the start counts as killed. -/
theorem buries_of_slain (slain : Slain number session.cache.data) : session.Buries number where
  opened := slain
  listed mutants listed generated := by
    have lists := lists_of_generation generated
    obtain ⟨result, ended, ran, -⟩ := session.campaign.run_trials mutants listed
    rw [outcome_of_listed generated ran]
    exact ⟨lists.slain slain, lists.buries ran (lists.slain slain)⟩
  reported mutants listed result ended generated outcome noError key isKey isNumber := by
    obtain ⟨sameListed, sameGenerated, lists, ran⟩ := listed_of_outcome outcome
    obtain ⟨-, rfl⟩ := Prod.mk.inj (generated.symm.trans sameGenerated)
    obtain ⟨rest, shape, completed⟩ := lists.reports ran
    obtain ⟨rfl, -⟩ := completed noError
    rw [shape, List.append_nil] at isKey
    obtain ⟨⟨file, id, status⟩, isReport, rfl⟩ := List.mem_map.mp isKey
    obtain ⟨event, member, isFinished⟩ := List.mem_filterMap.mp isReport
    have buries := lists.buries ran (lists.slain slain) event member
    obtain rfl := buries.finished file id status isFinished isNumber
    exact isReport
  ended mutants result ended outcome := by
    obtain ⟨listed, -, lists, ran⟩ := listed_of_outcome outcome
    obtain ⟨left, leaves⟩ := lists.leaves ran
    exact (leaves.slain number (lists.slain slain)).2

/-- The next session opens what has been left, but for the last place of the time of the clean run. -/
theorem Before.opened (before : first.Before later) (lists : first.Lists mutants listed)
    (outcome : first.outcome = (.ok (mutants, result), ended))
    (leaves : first.Leaves listed result ended left) :
    ∃ baseline?, later.cache.data = { left with baseline? } := by
  obtain ⟨proper, follows⟩ := before
  have fits := proper.fits
  rw [outcome] at fits
  obtain ⟨baseline?, opened, -⟩ := follows.opened outcome lists leaves
    (proper.spares mutants result ended outcome) fits
  exact ⟨baseline?, opened⟩

/-- Where no mutants have been listed, the next session opens the same cache. -/
theorem Before.opened_of_unchanged (before : first.Before later)
    (unchanged : first.outcome.2.workspace = first.workspace) : later.cache = first.cache := by
  have opens := later.opens
  have stored := before.2.stored
  unfold place at stored
  rw [unchanged] at stored
  rw [before.2.directory, Cache.openIn_congr stored, first.opens] at opens
  exact (Except.ok.inj opens).symm

/-- One session hands a cache in order on to the next one, with all that is killed in it. -/
theorem Before.step (before : first.Before later) (sound : first.cache.data.Sound) :
    later.cache.data.Sound ∧
      ∀ number, Slain number first.cache.data → Slain number later.cache.data := by
  obtain ⟨mutants, listed, result, ended, generated, lists, ran, outcome⟩ |
    ⟨error, ended, failed, unchanged, -⟩ := first.outcome_cases
  · obtain ⟨left, leaves⟩ := lists.leaves ran
    obtain ⟨baseline?, opened⟩ := before.opened lists outcome leaves
    rw [opened]
    refine ⟨((leaves.sound (lists.sound sound)).withBaseline baseline?).1, fun number slain => ?_⟩
    obtain ⟨given, killed⟩ := (leaves.slain number (lists.slain slain)).1
    exact ⟨given, killed⟩
  · rw [before.opened_of_unchanged (by rw [failed]; exact unchanged)]
    exact ⟨sound, fun number slain => slain⟩

theorem slain_of_reached (reached : ReflTransGen Before first later)
    (sound : first.cache.data.Sound) :
    later.cache.data.Sound ∧
      ∀ number, Slain number first.cache.data → Slain number later.cache.data := by
  induction reached with
  | refl => exact ⟨sound, fun _ slain => slain⟩
  | tail _ before ih =>
    obtain ⟨soundThere, slainThere⟩ := ih
    obtain ⟨soundThen, slainThen⟩ := before.step soundThere
    exact ⟨soundThen, fun number slain => slainThen number (slainThere number slain)⟩

/-- A mutant that is reported as killed is killed in the cache that the next session opens. -/
theorem Before.slain_of_report (before : first.Before later) (sound : first.cache.data.Sound)
    (generated : first.generation = (.ok mutants, listed))
    (isNumber : listed.cache.data.number? file id = some number)
    (isReport : (file, id, .killed) ∈ finished first.outcome.2.log) :
    Slain number later.cache.data := by
  have lists := lists_of_generation generated
  obtain ⟨result, ended, ran, -⟩ := first.campaign.run_trials mutants listed
  have outcome := outcome_of_listed generated ran
  obtain ⟨left, leaves⟩ := lists.leaves ran
  obtain ⟨baseline?, opened⟩ := before.opened lists outcome leaves
  rw [outcome] at isReport
  obtain ⟨isKilled, -⟩ := leaves.faithful file id .killed isReport
  obtain ⟨given, killed⟩ := (leaves.sound (lists.sound sound)).slain_of_trusted
    ((leaves.rows.number? file id).trans isNumber) isKilled
  exact opened ▸ ⟨given, killed⟩

/-- Once a mutant has been reported as killed, what follows in the session treats it as killed. -/
theorem buries_after_report (sound : session.cache.data.Sound)
    (generated : session.generation = (.ok mutants, listed))
    (isNumber : listed.cache.data.number? file id = some number) :
    session.outcome.2.log.Pairwise fun event later =>
      event.finished? = some (file, id, .killed) → later.Buries listed.cache.data number := by
  have lists := lists_of_generation generated
  obtain ⟨result, ended, ran, -⟩ := session.campaign.run_trials mutants listed
  obtain ⟨left, leaves⟩ := lists.leaves ran
  have same (other : Path) (name : MutantId)
      (isOther : listed.cache.data.number? other name = some number) :
      CacheData.Names file id other name :=
    (lists.sound sound).names_of_number? isNumber isOther
  rw [outcome_of_listed generated ran]
  refine leaves.settled.imp fun settles isReport => ?_
  have knows := settles file id .killed isReport (by decide)
  exact ⟨fun mutant isHandled isOther => knows.handled mutant isHandled (same _ _ isOther),
    fun other name status isFinished isOther =>
      knows.finished other name status isFinished (same _ _ isOther)⟩

/-- Once a mutant has been killed it stays so, over any number of sessions with whatever sources, tests
and commands. If it is killed in the cache that a session opens, or is reported as killed by an earlier
session, the session treats it as killed from the start to the end; and a session that reports it as
killed does so from there on. -/
theorem killed_for_good {origin : Session} (sound : origin.cache.data.Sound)
    (reached : ReflTransGen Before origin first) :
    (∀ found ∈ first.cache.data.mutants, found.2.2.status = .killed →
      ∀ later, ReflTransGen Before first later → later.Buries found.2.2.number) ∧
    ∀ mutants listed, first.generation = (.ok mutants, listed) →
      ∀ file id number, listed.cache.data.number? file id = some number →
        (first.outcome.2.log.Pairwise fun event later =>
          event.finished? = some (file, id, .killed) → later.Buries listed.cache.data number) ∧
        ((file, id, .killed) ∈ finished first.outcome.2.log →
          ∀ later, TransGen Before first later → later.Buries number) := by
  have soundHere := (slain_of_reached reached sound).1
  refine ⟨fun found isFound killed later further => ?_,
    fun mutants listed generated file id number isNumber => ⟨?_, fun isReport later further => ?_⟩⟩
  · have slain := soundHere.slain isFound killed
    exact buries_of_slain ((slain_of_reached further soundHere).2 _ slain)
  · exact buries_after_report soundHere generated isNumber
  · obtain ⟨next, before, further⟩ := TransGen.head'_iff.mp further
    have slain := before.slain_of_report soundHere generated isNumber isReport
    exact buries_of_slain ((slain_of_reached further (before.step soundHere).1).2 _ slain)

theorem Completed.proper (completed : session.Completed)
    (fits : session.outcome.2.cache.data.Fits) : session.Proper where
  fits := fits
  spares mutants result ended outcome failed := by
    obtain ⟨others, completedResult, same, noError⟩ := completed.exists_result
    rw [outcome] at same
    simp only [Prod.mk.injEq, Except.ok.injEq] at same
    rw [same.1.2, noError] at failed
    contradiction

/-- A session in which the clean run passes and the tests fail for every mutant. -/
def killing : Session where
  campaign := { Campaign.endless with
    executor := ⟨fun turn workspace _ _ =>
      (⟨[], .exited (if turn = 0 then 0 else 1), .ofSeconds 1⟩, workspace)⟩ }
  files := [Campaign.plain]
  directory := ⟨"."⟩
  workspace := ⟨.directory [("a.py", .file Campaign.assignmentText.toUTF8)], [], []⟩
  cache := ⟨Path.join ⟨"."⟩ Cache.fileName, .empty⟩
  opens := by rfl

theorem killing_completed : killing.Completed := by
  unfold Completed
  decide +kernel

theorem killing_proper : killing.Proper :=
  killing_completed.proper (by decide +kernel)

/-- A session behind that one, with other tests, which pass. -/
def passing : Session where
  campaign := { killing.campaign with
    settings := { testsDigest := "other" }
    executor := ⟨fun _ workspace _ _ => (⟨[], .exited 0, .ofSeconds 1⟩, workspace)⟩ }
  files := [Campaign.plain]
  directory := ⟨"."⟩
  workspace := killing.outcome.2.workspace
  cache := ⟨killing.place, .decode killing.outcome.2.cache.data.encode⟩
  opens := Cache.openIn_of_find killing_completed.stored

theorem killing_before_passing : killing.Before passing :=
  ⟨killing_proper, rfl, rfl⟩

/-- A mutant that the first session reports as killed stays so in the second one. -/
theorem passing_buries :
    killing.cache.data.Sound ∧ killing.Before passing ∧
    (Campaign.plain, Campaign.assignmentId, .killed) ∈ finished killing.outcome.2.log ∧
    killing.generation.2.cache.data.number? Campaign.plain Campaign.assignmentId = some 1 ∧
    passing.Buries 1 := by
  have sound : killing.cache.data.Sound := CacheData.sound_empty
  have isReport : (Campaign.plain, Campaign.assignmentId, .killed) ∈
      finished killing.outcome.2.log := by decide +kernel
  have isNumber : killing.generation.2.cache.data.number? Campaign.plain Campaign.assignmentId =
      some 1 := by decide +kernel
  obtain ⟨mutants, result, outcome, -⟩ := killing_completed.exists_result
  obtain ⟨listed, generated, -⟩ := listed_of_outcome outcome
  have isNumberListed : listed.cache.data.number? Campaign.plain Campaign.assignmentId = some 1 := by
    rwa [generated] at isNumber
  have buried := (killed_for_good sound .refl).2 mutants listed generated Campaign.plain
    Campaign.assignmentId 1 isNumberListed
  exact ⟨sound, killing_before_passing, isReport, isNumber,
    buried.2 isReport passing (.single killing_before_passing)⟩

end Session

end MutationTesting
