import MutationTesting.Proofs.Suite.Restored
import MutationTesting.Proofs.Suite.Traced
/-! A run on one file: its mutants are listed and then tested. -/
namespace MutationTesting

/-- A run on one file: how its mutants are tested, and the files and the cache at the start. -/
structure Run where
  campaign : Campaign
  file : Path
  workspace : Workspace
  cache : Cache

namespace Run

/-- The bench at the start of a run. -/
def start (run : Run) : Bench :=
  ⟨run.workspace, run.cache, 0, []⟩

/-- Lists the mutants of the file and tests them. -/
def pass (run : Run) : OnBench (List FileMutants × CampaignResult) := do
  let mutants ← run.campaign.mutator.generate [run.file] run.campaign.settings.keepGoing
  let result ← run.campaign.run mutants
  return (mutants, result)

/-- What a run comes to, and the bench it leaves. -/
def outcome (run : Run) : Except Error (List FileMutants × CampaignResult) × Bench :=
  run.pass run.start

/-- The names of the mutants that are listed. -/
def listed (run : Run) : List MutantId :=
  match run.outcome.1 with
  | .ok (mutants, _) => mutants.flatMap FileMutants.ids
  | .error _ => []

/-- What a run does. -/
def log (run : Run) : List Event :=
  run.outcome.2.log

/-- The mutants whose tests are started. -/
def tested (run : Run) : List Mutant :=
  MutationTesting.tested run.log

/-- A mutant is listed, which is one of the content that the file has at the start. -/
def Lists (run : Run) (mutant : Mutant) : Prop :=
  mutant.id ∈ run.listed ∧ ∃ source, run.workspace.readText run.file = .ok source ∧
    run.campaign.mutator.find? run.file source mutant.id = .ok (some mutant)

/-- A mutant with a name is reported to have been tested, but its tests are not started. -/
def ReportsCached (run : Run) (id : MutantId) : Prop :=
  Reported run.log run.file id ∧ ∀ mutant ∈ run.tested, mutant.id ≠ id

/-- The tests of a mutant are started whenever it comes to them. They are not where the data by
which they are chosen cannot be put back. -/
def Prompt (run : Run) : Prop :=
  ∀ mutant ∈ handled run.log, mutant ∈ run.tested

/-- A run that comes to its end without a failure. -/
def Completed (run : Run) : Prop :=
  run.outcome.1.toOption.map (fun outcome => outcome.2.error?) = some none

/-- The file is there and has no backup, and neither the commands nor the files of the run itself
touch it. -/
def Undisturbed (run : Run) : Prop :=
  run.campaign.Ready [⟨run.file, []⟩] [run.file] run.start

end Run

open OnBench Sequence

section Listing

variable {mutator : Mutator} {file : Path} {workspace : Workspace} {told : MutantId → Prop}

/-- A bench on which nothing has been done yet but to the cache. -/
structure Fresh (file : Path) (workspace : Workspace) (told : MutantId → Prop) (bench : Bench) :
    Prop where
  log : bench.log = []
  files : bench.workspace = workspace
  known : bench.cache.data.Known told file

/-- Mutants are those of a file with the content that it has. -/
def IsListing (mutator : Mutator) (file : Path) (workspace : Workspace) (mutants : FileMutants) :
    Prop :=
  mutants.file = file ∧ ∃ source, workspace.readText file = .ok source ∧
    mutator.ids file source = .ok mutants.ids

variable {failed : Bench → Prop}

theorem Fresh.leads_cached : Leads (Fresh file workspace told) cached
    (fun data bench => Fresh file workspace told bench ∧ data.Known told file) failed :=
  fun _ fresh => ⟨fresh, fresh.known⟩

theorem Fresh.leads_recache {before data : CacheData}
    (known : before.Known told file → data.Known told file) :
    Leads (fun bench => Fresh file workspace told bench ∧ before.Known told file) (recache data)
      (fun _ => Fresh file workspace told) failed :=
  fun _ held => ⟨held.1.log, held.1.files, known held.2⟩

theorem leads_addFile (anyRow : ∀ id row, told id → told { id with row }) :
    Leads (Fresh file workspace told) (mutator.addFile file)
      (fun mutants bench => Fresh file workspace told bench ∧
        IsListing mutator file workspace mutants)
      (Fresh file workspace told) := by
  have look : Leads (Fresh file workspace told)
      (files (OnDisk.look fun workspace => workspace.readText file))
      (fun source bench => Fresh file workspace told bench ∧ workspace.readText file = .ok source)
      (Fresh file workspace told) := by
    rintro bench ⟨log, rfl, known⟩
    unfold files
    dsimp only [OnDisk.look]
    cases bench.workspace.readText file with
    | error fault => exact ⟨log, rfl, known⟩
    | ok source => exact ⟨⟨log, rfl, known⟩, rfl⟩
  have named (source : String) :
      Leads (fun bench => Fresh file workspace told bench ∧ workspace.readText file = .ok source)
        (liftM (mutator.ids file source))
        (fun ids bench => Fresh file workspace told bench ∧
          IsListing mutator file workspace ⟨file, ids⟩)
        (Fresh file workspace told) :=
    .lift _ (fun ids isIds _ held => ⟨held.1, rfl, source, held.2, isIds⟩) fun _ held => held.1
  unfold Mutator.addFile
  refine .bind look fun source => .bind (named source) fun ids => ?_
  rintro bench ⟨fresh, isListing⟩
  suffices added : Leads (Fresh file workspace told) _
      (fun (mutants : FileMutants) bench => Fresh file workspace told bench ∧ mutants = ⟨file, ids⟩)
      (Fresh file workspace told) by
    refine added.mono (fun _ fresh => fresh) ?_ (fun _ fresh => fresh) bench fresh
    rintro mutants bench ⟨fresh, rfl⟩
    exact ⟨fresh, isListing⟩
  refine .bind Fresh.leads_cached fun data =>
    .bind (Fresh.leads_recache fun known => known.updateLines anyRow source) fun _ =>
    .bind Fresh.leads_cached fun data =>
    .bind (Fresh.leads_recache fun known => known.register ids) fun _ =>
    .bind (.lift _ (fun _ _ _ fresh => fresh) fun _ fresh => fresh) fun _ =>
    .pure fun _ fresh => ⟨fresh, rfl⟩

theorem leads_generate (mutator : Mutator) (anyRow : ∀ id row, told id → told { id with row })
    (keepGoing : Bool) :
    Leads (Fresh file workspace told) (mutator.generate [file] keepGoing)
      (fun mutants bench => bench.log = [] ∧ bench.cache.data.Known told file ∧
        ∀ listed ∈ mutants, IsListing mutator file workspace listed)
      (fun bench => bench.log = [] ∧ bench.cache.data.Known told file) := by
  have added : Leads (Fresh file workspace told) (mutator.addFiles keepGoing [file])
      (fun mutants bench => Fresh file workspace told bench ∧
        ∀ listed ∈ mutants, IsListing mutator file workspace listed)
      (Fresh file workspace told) :=
    addFiles_rule fun _ member => List.mem_singleton.mp member ▸ leads_addFile anyRow
  have saved : Preserves (fun bench => bench.log = [] ∧ bench.cache.data.Known told file) save := by
    intro bench held
    unfold save
    generalize bench.cache.save bench.workspace = result
    obtain ⟨error | value, workspace⟩ := result <;> exact held
  refine .bind (added.mono (fun _ fresh => fresh) (fun _ _ held => held) fun _ fresh =>
    ⟨fresh.log, fresh.known⟩) fun mutants => ?_
  rintro bench ⟨fresh, listed⟩
  exact Leads.bind saved (fun _ => .pure fun _ held => ⟨held.1, held.2, listed⟩) bench
    ⟨fresh.log, fresh.known⟩

theorem traced_of_empty {campaign : Campaign} {ids : List MutantId} {bench : Bench}
    (empty : bench.log = []) (known : bench.cache.data.Known told file) :
    campaign.Traced file ids told bench where
  known := known.mono fun _ isTold => .inl isTold
  handled := by simp [empty, handled]
  prompt _ := by simp [empty, handled, tested]
  finished := by simp [empty, finished]

theorem IsListing.named {mutants : List FileMutants}
    (listed : ∀ listed ∈ mutants, IsListing mutator file workspace listed) :
    ∀ listed ∈ mutants, listed.file = file ∧
      ∀ id ∈ listed.ids, id ∈ mutants.flatMap FileMutants.ids :=
  fun first member =>
    ⟨(listed first member).1, fun _ isNamed => List.mem_flatMap.mpr ⟨first, member, isNamed⟩⟩

theorem leads_pass {run : Run} (anyRow : ∀ id row, told id → told { id with row }) :
    Leads (Fresh run.file run.workspace told) run.pass
      (fun outcome bench =>
        (∀ listed ∈ outcome.1, IsListing run.campaign.mutator run.file run.workspace listed) ∧
        run.campaign.Traced run.file (outcome.1.flatMap FileMutants.ids) told bench ∧
        (outcome.2.error? = none →
          Campaign.Traced.Done run.campaign run.file (outcome.1.flatMap FileMutants.ids) bench.log))
      (run.campaign.Traced run.file [] told) := by
  unfold Run.pass
  refine .bind ((leads_generate _ anyRow _).mono (fun _ fresh => fresh) (fun _ _ held => held)
    fun _ held => traced_of_empty held.1 held.2) fun mutants => ?_
  rintro bench ⟨empty, known, listed⟩
  exact Leads.bind (Campaign.Traced.leads_campaign (IsListing.named listed))
    (fun result => .pure fun _ held => ⟨listed, held⟩) bench (traced_of_empty empty known)

end Listing

namespace Run

variable {run : Run} {told : MutantId → Prop}

/-- What a run reports and stores is told of, if that is so of what the cache holds at the start. -/
theorem traced (run : Run) (anyRow : ∀ id row, told id → told { id with row })
    (known : run.cache.data.Known told run.file) :
    run.campaign.Traced run.file run.listed told run.outcome.2 := by
  have led := leads_pass anyRow run.start ⟨rfl, rfl, known⟩
  unfold listed outcome
  generalize run.pass run.start = outcome at led
  obtain ⟨error | ⟨mutants, result⟩, bench⟩ := outcome
  · exact led
  · exact led.2.1

theorem known_anyway (run : Run) : run.cache.data.Known (fun _ => True) run.file :=
  fun _ _ _ _ _ _ _ => trivial

theorem prompt_of_whole (whole : run.campaign.settings.isIncremental = false) : run.Prompt := by
  have same : handled run.log = run.tested :=
    (run.traced (fun _ _ isTold => isTold) run.known_anyway).prompt whole
  exact fun mutant isHandled => same ▸ isHandled

theorem tests_of_tested {mutant : Mutant} (isTested : mutant ∈ run.tested) :
    run.campaign.Tests run.file mutant := by
  refine (run.traced (fun _ _ isTold => isTold) run.known_anyway).handled mutant ?_
  obtain ⟨event, member, starts⟩ := List.mem_filterMap.mp isTested
  refine List.mem_filterMap.mpr ⟨event, member, ?_⟩
  unfold Event.tested? at starts
  split at starts
  · exact starts
  · contradiction

/-- Each name that is listed is that of a mutant of the content that the file has. -/
theorem exists_listed {id : MutantId} (isListed : id ∈ run.listed) :
    ∃ mutant, mutant.id = id ∧ run.Lists mutant := by
  have led := leads_pass (fun _ _ isTold => isTold) run.start ⟨rfl, rfl, run.known_anyway⟩
  have isNamed := isListed
  unfold listed outcome at isListed
  generalize run.pass run.start = outcome at led isListed
  obtain ⟨error | ⟨mutants, result⟩, bench⟩ := outcome
  · contradiction
  · obtain ⟨first, member, inFirst⟩ := List.mem_flatMap.mp isListed
    obtain ⟨-, source, isText, isIds⟩ := led.1 first member
    obtain ⟨mutant, rfl, found⟩ := Mutator.find?_of_mem_ids isIds inFirst
    exact ⟨mutant, rfl, isNamed, source, isText, found⟩

theorem Completed.reported (completed : run.Completed)
    (tests : run.campaign.settings.cacheOnly = false) {id : MutantId} (isListed : id ∈ run.listed) :
    Reported run.log run.file id := by
  have led := leads_pass (fun _ _ isTold => isTold) run.start ⟨rfl, rfl, run.known_anyway⟩
  unfold listed outcome at isListed
  unfold Completed outcome at completed
  unfold log outcome
  generalize run.pass run.start = outcome at led isListed completed
  obtain ⟨error | ⟨mutants, result⟩, bench⟩ := outcome
  · contradiction
  · exact led.2.2 (by simpa [Except.toOption] using completed) tests id isListed

end Run

section Cleanness

variable {right : Event → Prop} {start : Bench} {holds : Workspace → Prop}

theorem leads_generate_clean (mutator : Mutator) (saves : Preserves (Holds right start holds) save)
    (keepGoing : Bool) (files : List Path) :
    Preserves (Holds right start holds) (mutator.generate files keepGoing) :=
  (generate_rule saves fun _ _ _ _ _ _ => trivial).mono (fun _ held => held)
    (fun _ _ held => held.1) fun _ held => held

end Cleanness

namespace Run

variable {run : Run}

theorem Undisturbed.rights (undisturbed : run.Undisturbed) :
    ∃ mutants : List FileMutants, run.listed = mutants.flatMap FileMutants.ids ∧
      (∀ listed ∈ mutants, IsListing run.campaign.mutator run.file run.workspace listed) ∧
      ∀ event ∈ run.log, run.campaign.Right mutants [run.file] run.workspace event := by
  have fresh := leads_generate run.campaign.mutator (fun _ _ isTold => isTold)
    run.campaign.settings.keepGoing run.start ⟨rfl, rfl, run.known_anyway⟩
  have saved : Preserves (Campaign.Clean run.campaign [⟨run.file, []⟩] [run.file] run.start) save :=
    Campaign.leads_saved undisturbed.stable_intact
  have clean := leads_generate_clean run.campaign.mutator saved run.campaign.settings.keepGoing
    [run.file] run.start ⟨.refl _ run.start, undisturbed.intact⟩
  unfold listed log outcome pass
  rw [bind_apply]
  generalize run.campaign.mutator.generate [run.file] run.campaign.settings.keepGoing run.start = made
    at fresh clean ⊢
  obtain ⟨error | mutants, between⟩ := made
  · exact ⟨[], rfl, by simp, by simp [fresh.1]⟩
  · obtain ⟨empty, known, listed⟩ := fresh
    obtain ⟨⟨path, -⟩, intact⟩ := clean
    have isFile (other : FileMutants) (member : other ∈ mutants) :
        ∃ listed ∈ [(⟨run.file, []⟩ : FileMutants)], listed.file = other.file :=
      ⟨_, List.mem_singleton.mpr rfl, (listed other member).1.symm⟩
    have ended := Campaign.leads_campaign (undisturbed.relist isFile) between
      ⟨⟨path, [], by simp [empty, start], by simp⟩, intact⟩
    have finishes : Leads
        (run.campaign.Traced run.file (mutants.flatMap FileMutants.ids) fun _ => True)
        (run.campaign.run mutants) _ fun _ => False :=
      Campaign.Traced.leads_campaign (IsListing.named listed)
    have finished := finishes between (traced_of_empty empty known)
    dsimp only
    rw [bind_apply]
    generalize run.campaign.run mutants between = result at ended finished
    obtain ⟨error | result, after⟩ := result
    · exact finished.elim
    · obtain ⟨⟨-, later, shape, rights⟩, -⟩ := ended
      refine ⟨mutants, rfl, listed, fun event member => rights event ?_⟩
      have same : after.log = later := shape
      exact same ▸ member

/-- While a run is undisturbed, the tests that it starts are those of mutants that it lists. -/
theorem Undisturbed.lists (undisturbed : run.Undisturbed) {mutant : Mutant}
    (isTested : mutant ∈ run.tested) : run.Lists mutant := by
  obtain ⟨mutants, ids, listed, rights⟩ := undisturbed.rights
  obtain ⟨event, member, starts⟩ := List.mem_filterMap.mp isTested
  have isRight := rights event member
  unfold Event.tested? at starts
  split at starts
  · subst starts
    obtain ⟨⟨first, isFirst, sameFile, isNamed⟩, found, standing⟩ := isRight
    obtain ⟨isOf, source, isText, -⟩ := listed first isFirst
    refine ⟨ids ▸ List.mem_flatMap.mpr ⟨first, isFirst, isNamed⟩, source, isText, ?_⟩
    rw [isOf] at sameFile
    have original := standing.original
    rw [sameFile, Workspace.find_of_readText isText] at original
    have same : source = mutant.source := by
      simpa [← String.toByteArray_inj] using original
    rwa [sameFile, ← same] at found
  · contradiction

end Run

end MutationTesting
