import MutationTesting.Proofs.FileSystem.Frame
import MutationTesting.Proofs.Mutant.Standing
import MutationTesting.Proofs.Sequence
import MutationTesting.Suite.Campaign
import MutationTesting.Suite.Generation
/-! The files that a campaign itself writes or removes. None of them has the name of a Python source
or of the backup of one. -/
namespace MutationTesting

namespace Campaign

/-- The files that a campaign itself writes or removes, mutated files and their backups aside: the
stored cache, the data by which the tests are chosen if not all are run, and the compiled forms of
mutated files. -/
inductive Keeps (settings : Settings) (cache : Path) (mutated : List Path) : Path → Prop where
  | cache : Keeps settings cache mutated cache
  | selection : settings.isIncremental = true →
      Keeps settings cache mutated (settings.directory.join Runner.selectionData)
  | snapshot : settings.isIncremental = true →
      Keeps settings cache mutated (settings.directory.join Runner.selectionSnapshot)
  | compiled {file path : Path} : file ∈ mutated → Backup.IsCompiled file path →
      Keeps settings cache mutated path

variable {settings : Settings} {directory path file : Path} {mutated : List Path}

theorem Keeps.mono {cache : Path} {further : List Path} (keeps : Keeps settings cache mutated path)
    (more : ∀ file ∈ mutated, file ∈ further) : Keeps settings cache further path := by
  cases keeps with
  | cache => exact .cache
  | selection incremental => exact .selection incremental
  | snapshot incremental => exact .snapshot incremental
  | compiled member isCompiled => exact .compiled (more _ member) isCompiled

theorem Keeps.getLast? (keeps : Keeps settings (directory.join Cache.fileName) mutated path) :
    ∃ c ∈ ['n', 'a', 'l', 'c'], path.text.toList.getLast? = some c := by
  cases keeps with
  | cache => exact ⟨'n', by simp, Path.getLast?_join _ (by decide)⟩
  | selection => exact ⟨'a', by simp, Path.getLast?_join _ (by decide)⟩
  | snapshot => exact ⟨'l', by simp, Path.getLast?_join _ (by decide)⟩
  | compiled _ isCompiled => exact ⟨'c', by simp, isCompiled.getLast?⟩

theorem Keeps.target_ne_backup
    (keeps : Keeps settings (directory.join Cache.fileName) mutated path) (file : Path)
    (workspace : Workspace) : workspace.target path ≠ workspace.target (Backup.pathOf file) := by
  obtain ⟨c, member, ends⟩ := keeps.getLast?
  exact Workspace.target_ne_of_getLast? ends (Backup.getLast?_pathOf file)
    (by rintro named; simp at member named; grind) (by decide) (by rintro rfl; simp at member) workspace

theorem Keeps.apart_of_extension
    (keeps : Keeps settings (directory.join Cache.fileName) mutated path)
    (extended : file.extension? = some "py") (workspace : Workspace) :
    workspace.target path ≠ workspace.target file ∧
      workspace.target path ≠ workspace.target (Backup.pathOf file) := by
  obtain ⟨c, member, ends⟩ := keeps.getLast?
  exact ⟨Workspace.target_ne_of_ends
      (Path.exists_name_of_getLast? ends (by rintro rfl; simp at member)
        (by rintro rfl; simp at member))
      (Path.exists_name_of_extension? extended (by decide : _ = some 'y'))
      (by rintro rfl; simp at member),
    keeps.target_ne_backup file workspace⟩

end Campaign

end MutationTesting

/-! Where operations on a bench lead: what they do to its files, and what they add to its log. -/
namespace MutationTesting.OnBench

open Sequence

variable {before failed : Bench → Prop} {α : Type}

theorem ends_attempt {operation : OnBench α} {after : α → Bench → Prop}
    {ended : Error → Bench → Prop} {never : Bench → Prop} (ends : Ends before operation after ended) :
    Leads before (OnBench.attempt operation)
      (fun outcome bench =>
        match outcome with
        | .ok value => after value bench
        | .error error => ended error bench) never := by
  intro bench holds
  have outcome := ends bench holds
  unfold OnBench.attempt
  generalize operation bench = result at outcome
  obtain ⟨error | value, behind⟩ := result <;> exact outcome

theorem leads_attempt {operation : OnBench α} {after : α → Bench → Prop} {never : Bench → Prop}
    (leads : Leads before operation after failed) :
    Leads before (OnBench.attempt operation)
      (fun outcome bench =>
        match outcome with
        | .ok value => after value bench
        | .error _ => failed bench) never :=
  ends_attempt leads.ends

theorem preserved_attempt {holds never : Bench → Prop} {operation : OnBench α}
    (leads : Leads before operation (fun _ => holds) holds) :
    Leads before (attempt operation) (fun _ => holds) never :=
  (leads_attempt leads).mono (fun _ held => held)
    (fun outcome bench held => by cases outcome <;> exact held) fun _ held => held

/-- What holds once a file has been copied, if it is there at all. -/
theorem copy_rule {holds : Workspace → Prop} {old new : Path} {operation : OnDisk Unit}
    (copies : operation = do
      if ← OnDisk.ask fun workspace => workspace.has old then
        OnDisk.change fun workspace => workspace.copy old new)
    (stays : ∀ now after : Workspace, holds now → now.SameBut (· = now.target new) after →
      holds after) : Preserves holds operation := by
  intro workspace held
  rw [copies, bind_apply]
  dsimp only [OnDisk.ask]
  cases workspace.has old with
  | false => exact held
  | true =>
    have changes : Preserves holds (OnDisk.change fun workspace => workspace.copy old new) :=
      .change (fun _ held => held) fun now after held copied =>
        stays now after held (Workspace.copy_spec copied)
    exact changes workspace held

theorem copy_cases (operation : OnDisk Unit) {old new : Path} {workspace : Workspace}
    {content : ByteArray} (copies : operation = do
      if ← OnDisk.ask fun workspace => workspace.has old then
        OnDisk.change fun workspace => workspace.copy old new)
    (found : workspace.find old = .ok (.file content)) :
    (∃ after, operation workspace = (.ok (), after) ∧
        workspace.SameBut (· = workspace.target new) after ∧
        after.find new = .ok (.file content)) ∨
      ∃ error, operation workspace = (.error error, workspace) := by
  have start : operation workspace =
      OnDisk.change (fun workspace => workspace.copy old new) workspace := by
    rw [copies, bind_apply]
    simp only [OnDisk.ask, Workspace.has_of_find found, if_true]
  rw [start]
  cases copied : workspace.copy old new with
  | error fault => exact .inr ⟨_, change_error copied⟩
  | ok after =>
    exact .inl ⟨after, change_ok copied, Workspace.copy_spec copied,
      Workspace.find_of_copy copied found⟩

section Campaigns

variable {holds : Bench → Prop} {campaign : Campaign}

/-- Files whose mutants cannot be listed are passed over, or end the listing. -/
theorem addFiles_rule {mutator : Mutator} {keepGoing : Bool} {paths : List Path}
    {good : FileMutants → Prop}
    (adds : ∀ file ∈ paths, Leads holds (mutator.addFile file)
      (fun mutants bench => holds bench ∧ good mutants) holds) :
    Leads holds (mutator.addFiles keepGoing paths)
      (fun mutants bench => holds bench ∧ ∀ listed ∈ mutants, good listed) holds := by
  induction paths with
  | nil => exact .pure fun _ held => ⟨held, by simp⟩
  | cons file rest ih =>
    have later := ih fun other member => adds other (List.mem_cons_of_mem _ member)
    unfold Mutator.addFiles
    refine .bind (leads_attempt (adds file List.mem_cons_self)) fun outcome => ?_
    cases outcome with
    | ok mutants =>
      rintro bench ⟨held, isGood⟩
      exact Leads.bind later (fun _ => .pure fun _ held =>
        ⟨held.1, List.forall_mem_cons.mpr ⟨isGood, held.2⟩⟩) bench held
    | error error =>
      dsimp only
      split
      · exact later
      · exact .throw fun _ held => held

theorem noteAll_rule {events : List Event}
    (notes : ∀ event ∈ events, Leads holds (note event) (fun _ => holds) failed) :
    Leads holds (Runner.noteAll events) (fun _ => holds) failed := by
  induction events with
  | nil => exact .pure fun _ held => held
  | cons event rest ih =>
    exact .bind (notes event List.mem_cons_self) fun _ =>
      ih fun event member => notes event (List.mem_cons_of_mem _ member)

/-- What holds once a command has been started holds after it, whatever it prints and however it
ends. -/
theorem run_rule {runner : Runner} {executor : Executor} {purpose : Purpose}
    {limit? : Option Duration} {report : String → List Event}
    (executes : Leads before (execute executor purpose runner.command limit?) (fun _ => holds) holds)
    (echoes : ∀ line, Preserves holds (note (.echo line)))
    (reports : ∀ line, ∀ event ∈ report line, Preserves holds (note event)) :
    Leads before (runner.run executor purpose limit? report) (fun _ => holds) holds := by
  unfold Runner.run
  refine .bind executes fun run => .bind (noteAll_rule ?_) fun _ =>
    .bind (.lift _ (fun _ _ _ held => held) fun _ held => held) fun code => .pure fun _ held => held
  intro event member
  obtain ⟨line, -, member⟩ := List.mem_flatMap.mp member
  obtain member | member := List.mem_append.mp member
  · split at member
    · simp at member
    · exact List.mem_singleton.mp member ▸ echoes line
  · exact reports line event member

theorem hook_rule {command? : Option String}
    (executes : ∀ command,
      Leads holds (execute campaign.executor .hook command none) (fun _ => holds) failed)
    (outputs : ∀ line, Leads holds (note (.output line)) (fun _ => holds) failed) :
    Leads holds (campaign.hook command?) (fun _ => holds) failed := by
  unfold Campaign.hook
  cases command? with
  | none => exact .pure fun _ held => held
  | some command =>
    unfold Runner.runHook
    refine .bind (.bind (executes command) fun run => .pure fun _ held => held) fun output =>
      noteAll_rule ?_
    intro event member
    obtain ⟨line, -, rfl⟩ := List.mem_map.mp member
    exact outputs line

/-- What holds once the clean run is over: its time is known, or is stored. -/
theorem baseline_rule {after : Bench → Prop}
    (known : ∀ bench, holds bench → bench.cache.data.baseline?.isSome = true → after bench)
    (fails : ∀ bench, holds bench → failed bench)
    (executes : Preserves holds
      (execute campaign.executor .baseline campaign.settings.runner.command none))
    (echoes : ∀ line, Preserves holds (note (.echo line)))
    (outputs : ∀ line, Preserves holds (note (.output line)))
    (snapshot : campaign.settings.runner.incremental = true →
      Preserves holds (files (Runner.takeSnapshot campaign.settings.runner.directory)))
    (stores : ∀ seconds, Leads holds (setBaseline (some seconds)) (fun _ => after) failed) :
    Leads holds campaign.baseline (fun _ => after) failed := by
  have failing {α : Type} {operation : OnBench α} {behind : α → Bench → Prop}
      (leads : Leads holds operation behind holds) : Leads holds operation behind failed :=
    leads.mono (fun _ held => held) (fun _ _ held => held) fails
  have cached : Leads holds cached
      (fun data bench => holds bench ∧ bench.cache.data = data) failed :=
    fun _ held => ⟨held, rfl⟩
  have reports (line : String) : ∀ event ∈ [Event.output line], Preserves holds (note event) :=
    fun event member => List.mem_singleton.mp member ▸ outputs line
  unfold Campaign.baseline
  refine .bind cached fun data => ?_
  split
  · rename_i seconds isKnown
    exact .pure fun bench held => known bench held.1 (by simp [held.2, isKnown])
  · suffices rest : Leads holds _ _ _ from
      rest.mono (fun _ held => held.1) (fun _ _ held => held) fun _ held => held
    refine .bind (failing (run_rule executes echoes reports)) fun outcome => ?_
    dsimp only
    exact .optional (fun _ => .throw fails) <|
      .optional (fun incremental => failing (snapshot incremental)) <|
      .bind (stores _) fun _ => .pure fun _ held => held

section Trials

variable {ended : Error → Bench → Prop} {baseline : Duration}

/-- Running the tests on a mutant where only some tests are run: this is prepared first. -/
theorem runMutant_selecting {before between prepared after : Bench → Prop} {mutant : Mutant}
    {limit? : Option Duration} (incremental : campaign.settings.runner.incremental = true)
    (begins : Leads before
      (begin (.selection (some mutant)) campaign.settings.runner.command) (fun _ => between) after)
    (prepares : Leads between (files (Runner.restoreSnapshot campaign.settings.runner.directory))
      (fun _ => prepared) after)
    (executes : Leads prepared (execute campaign.executor (.test (some mutant))
      campaign.settings.runner.command limit?) (fun _ => after) after)
    (echoes : ∀ line, Preserves after (note (.echo line))) :
    Leads before (campaign.settings.runner.runMutant campaign.executor limit? (some mutant))
      (fun _ => after) after := by
  unfold Runner.runMutant
  dsimp only
  rw [if_pos incremental]
  exact .bind begins fun _ => .bind prepares fun _ => run_rule executes echoes (by simp)

/-- Running the tests on a mutant: where only some tests are run, this is prepared first. -/
theorem runMutant_rule {before between after : Bench → Prop} {mutant : Mutant}
    {limit? : Option Duration}
    (begins : campaign.settings.runner.incremental = true → Leads before
      (begin (.selection (some mutant)) campaign.settings.runner.command) (fun _ => between) after)
    (prepares : campaign.settings.runner.incremental = true → Leads between
      (files (Runner.restoreSnapshot campaign.settings.runner.directory)) (fun _ => before) after)
    (executes : Leads before (execute campaign.executor (.test (some mutant))
      campaign.settings.runner.command limit?) (fun _ => after) after)
    (echoes : ∀ line, Preserves after (note (.echo line))) :
    Leads before (campaign.settings.runner.runMutant campaign.executor limit? (some mutant))
      (fun _ => after) after := by
  by_cases incremental : campaign.settings.runner.incremental = true
  · exact runMutant_selecting incremental (begins incremental) (prepares incremental) executes echoes
  · unfold Runner.runMutant
    dsimp only
    rw [if_neg incremental]
    exact run_rule executes echoes (by simp)

/-- Testing a mutant: it is put in the place of its file, the tests are run, it is taken off again
and its status is stored. -/
theorem runTests_rule {mutant : Mutant} {placed : Bench → Prop}
    (hooks : ∀ command?, Ends holds (campaign.hook command?) (fun _ => holds) ended)
    (applies : Ends holds (files mutant.apply)
      (fun applied bench => applied = { mutant with applied := true } ∧ placed bench) ended)
    (tests : ∀ limit?, Preserves placed
      (campaign.settings.runner.runMutant campaign.executor limit? (some mutant)))
    (reverts : Leads placed (files (Mutant.revert { mutant with applied := true }))
      (fun _ => holds) fun _ => False)
    (stores : ∀ status, Ends holds
      (setStatus mutant.file mutant.id status campaign.settings.testsDigest) (fun _ => holds) ended) :
    Ends holds (campaign.runTests baseline mutant) (fun _ => holds) ended := by
  unfold Campaign.runTests
  refine .bind (hooks _) fun _ => .bind applies fun applied => ?_
  rintro bench ⟨rfl, isPlaced⟩
  suffices rest : Ends placed _ _ _ from rest bench isPlaced
  refine .bind (.of_leads (preserved_attempt (tests _))) fun outcome =>
    .bind (.of_leads (leads_attempt reverts)) fun reverted => ?_
  cases reverted with
  | error error => exact fun _ never => never.elim
  | ok reverted =>
    exact .bind (hooks _) fun _ => .bind (.pure fun _ held => held) fun _ =>
      .bind (stores _) fun _ => .pure fun _ held => held

/-- What has been read of a file is its text. -/
def IsRead (text : Except Fault String) (source? : Option String) : Prop :=
  ∀ source, source? = some source → text = .ok source

theorem sourceOf_rule {file : Path} {source? : Option String} {text : Except Fault String}
    (isRead : IsRead text source?)
    (same : ∀ bench, holds bench → bench.workspace.readText file = text) :
    Ends holds (Campaign.sourceOf file source?)
      (fun source bench => holds bench ∧ text = .ok source)
      (fun _ bench => holds bench ∧ ∃ fault, text = .error fault) := by
  unfold Campaign.sourceOf
  cases source? with
  | some source => exact .pure fun _ held => ⟨held, isRead source rfl⟩
  | none =>
    intro bench held
    have isText := same bench held
    dsimp only [files, OnDisk.look]
    cases read : bench.workspace.readText file with
    | error fault => exact ⟨held, fault, isText.symm.trans read⟩
    | ok source => exact ⟨held, isText.symm.trans read⟩

/-- Testing a mutant, unless its status is known: it is made from the text of its file. -/
theorem test_rule {file : Path} {source? : Option String} {id : MutantId}
    {text : Except Fault String} (isRead : IsRead text source?)
    (same : ∀ bench, holds bench → bench.workspace.readText file = text)
    (missing : ∀ error bench, holds bench →
      (∀ source mutant, text = .ok source →
        campaign.mutator.find? file source id ≠ .ok (some mutant)) → ended error bench)
    (runs : ∀ source mutant, text = .ok source →
      campaign.mutator.find? file source id = .ok (some mutant) →
      Ends holds (campaign.runTests baseline mutant) (fun _ => holds) ended) :
    Ends holds (campaign.test baseline file source? id)
      (fun found bench => holds bench ∧ IsRead text found.2) ended := by
  have cached : Ends holds cached (fun _ => holds) ended := fun _ held => held
  unfold Campaign.test
  refine .bind cached fun data => ?_
  dsimp only
  split
  · exact .pure fun _ held => ⟨held, isRead⟩
  · refine .bind ((sourceOf_rule isRead same).mono (fun _ held => held) (fun _ _ held => held) ?_)
      fun source => ?_
    · rintro error bench ⟨held, fault, isFault⟩
      exact missing error bench held fun source mutant isText => by simp [isFault] at isText
    rintro bench ⟨held, isText⟩
    suffices rest : Ends holds _ _ _ from rest bench held
    have others (source' : String) (isSource : text = .ok source') : source' = source :=
      Except.ok.inj (isSource.symm.trans isText)
    refine .bind (.lift _ (fun found? isFound _ held => (⟨held, isFound⟩ : _ ∧ _)) ?_)
      fun found? => ?_
    · intro error isError bench held
      refine missing error bench held fun source' mutant isSource => ?_
      rw [others source' isSource, isError]
      simp
    rintro bench ⟨held, isFound⟩
    cases found? with
    | none =>
      refine missing _ bench held fun source' mutant isSource => ?_
      rw [others source' isSource, isFound]
      simp
    | some mutant =>
      refine Ends.bind (runs source mutant isText isFound) (fun status => .pure fun _ held =>
        ⟨held, ?_⟩) bench held
      rintro source' ⟨rfl⟩
      exact isText

variable {text : Path → Except Fault String} (good : Path → Option String → Prop)
  (progresses : ∀ tally, Preserves holds (note (.progress tally)))
  (finishes : ∀ file id status, Preserves holds (note (.finished file id status)))
include progresses finishes

/-- Testing the mutants of a file, one after the other, keeps what each test keeps, and what is good
of the source that has been read. -/
theorem testIds_rule {file : Path} {ids : List MutantId} {source? : Option String}
    (isGood : good file source?)
    (tests : ∀ id ∈ ids, ∀ source?, good file source? →
      Ends holds (campaign.test baseline file source? id)
        (fun found bench => holds bench ∧ good file found.2) ended)
    (tally : Tally) (never : Bench → Prop) :
    Leads holds (campaign.testIds baseline file source? tally ids)
      (fun result bench =>
        (result.error? = none → holds bench) ∧
          ∀ error, result.error? = some error → ended error bench) never := by
  induction ids generalizing source? tally with
  | nil => exact .pure fun _ held => ⟨fun _ => held, by simp⟩
  | cons id rest ih =>
    obtain ⟨testsFirst, testsOthers⟩ := List.forall_mem_cons.mp tests
    have noted {event : Event} (notes : Preserves holds (note event)) :
        Leads holds (note event) (fun _ => holds) never := notes
    unfold Campaign.testIds
    refine .bind (ends_attempt (testsFirst source? isGood)) fun outcome => ?_
    cases outcome with
    | error error =>
      refine .pure fun bench isEnded => ⟨nofun, ?_⟩
      rintro other ⟨rfl⟩
      exact isEnded
    | ok found =>
      rintro bench ⟨held, isGood⟩
      exact Leads.bind (noted (finishes file id found.1)) (fun _ => .bind (noted (progresses _))
        fun _ => ih isGood testsOthers _) bench held

theorem testFiles_good {mutants : List FileMutants} (unread : ∀ file, good file none)
    (tests : ∀ listed ∈ mutants, ∀ id ∈ listed.ids, ∀ source?, good listed.file source? →
      Ends holds (campaign.test baseline listed.file source? id)
        (fun found bench => holds bench ∧ good listed.file found.2) ended)
    (tally : Tally) (never : Bench → Prop) :
    Leads holds (campaign.testFiles baseline tally mutants)
      (fun result bench =>
        (result.error? = none → holds bench) ∧
          ∀ error, result.error? = some error → ended error bench) never := by
  induction mutants generalizing tally with
  | nil => exact .pure fun _ held => ⟨fun _ => held, by simp⟩
  | cons listed rest ih =>
    obtain ⟨testsFirst, testsOthers⟩ := List.forall_mem_cons.mp tests
    unfold Campaign.testFiles
    refine .bind (testIds_rule good progresses finishes (unread _) testsFirst tally never) ?_
    rintro ⟨tally, error?⟩
    cases error? with
    | none => exact fun bench held => ih testsOthers tally bench (held.1 rfl)
    | some error => exact .pure fun _ held => held

theorem testFiles_rule {mutants : List FileMutants}
    (tests : ∀ listed ∈ mutants, ∀ id ∈ listed.ids, ∀ source?, IsRead (text listed.file) source? →
      Ends holds (campaign.test baseline listed.file source? id)
        (fun found bench => holds bench ∧ IsRead (text listed.file) found.2) ended)
    (tally : Tally) (never : Bench → Prop) :
    Leads holds (campaign.testFiles baseline tally mutants)
      (fun result bench =>
        (result.error? = none → holds bench) ∧
          ∀ error, result.error? = some error → ended error bench) never :=
  testFiles_good (fun file => IsRead (text file)) progresses finishes (by simp [IsRead]) tests tally
    never

/-- Testing the mutants of files keeps what each test keeps, whatever becomes of the files. -/
theorem testFiles_keeps {mutants : List FileMutants}
    (tests : ∀ listed ∈ mutants, ∀ id ∈ listed.ids, ∀ source?,
      Preserves holds (campaign.test baseline listed.file source? id)) (tally : Tally) :
    Preserves holds (campaign.testFiles baseline tally mutants) := by
  refine (testFiles_good (fun _ _ => True) progresses finishes (fun _ => trivial)
    (fun listed isListed id isNamed source? _ => (tests listed isListed id isNamed source?).ends.mono
      (fun _ held => held) (fun _ _ held => ⟨held, trivial⟩) fun _ _ held => held) tally holds).mono
    (fun _ held => held) (fun result bench held => ?_) fun _ held => held
  cases failed : result.error? with
  | none => exact held.1 failed
  | some error => exact held.2 error failed

end Trials

/-- A campaign tests files after the clean run, unless that fails. -/
theorem campaign_rule {mutants : List FileMutants} {after : CampaignResult → Bench → Prop}
    (baselines : Preserves holds campaign.baseline)
    (progresses : ∀ tally, Leads holds (note (.progress tally)) (fun _ => holds) failed)
    (red : ∀ error bench, holds bench → after ⟨{}, some error⟩ bench)
    (tests : ∀ baseline tally, Leads holds (campaign.testFiles baseline tally mutants) after failed) :
    Leads holds (campaign.run mutants) after failed := by
  have stopped (error : Error) :
      Leads holds (pure ⟨{}, some error⟩ : OnBench CampaignResult) after failed :=
    .pure (red error)
  have timed (baseline : Duration) : Leads holds (do
        note (.progress { total := Campaign.count mutants })
        campaign.testFiles baseline { total := Campaign.count mutants } mutants)
      after failed :=
    .bind (progresses _) fun _ => tests baseline _
  unfold Campaign.run
  dsimp only
  split
  · have skipped : Leads holds (pure (.ok .zero) : OnBench (Except Error Duration))
        (fun _ => holds) failed :=
      .pure fun _ held => held
    refine Leads.bind skipped fun outcome => ?_
    cases outcome with
    | error error => exact stopped error
    | ok baseline => exact timed baseline
  · refine Leads.bind (preserved_attempt baselines) fun outcome => ?_
    cases outcome with
    | error error => exact stopped error
    | ok baseline => exact timed baseline

end Campaigns

/-- The log of a bench goes on from that of an earlier one with events that have a property, and
the cache is stored in the same place. -/
structure Continues (right : Event → Prop) (start bench : Bench) : Prop where
  path : bench.cache.path = start.cache.path
  log : ∃ later, bench.log = start.log ++ later ∧ ∀ event ∈ later, right event

variable {right : Event → Prop} {start : Bench} {holds : Workspace → Prop}

theorem Continues.refl (right : Event → Prop) (bench : Bench) : Continues right bench bench :=
  ⟨rfl, [], (List.append_nil _).symm, by simp⟩

theorem Continues.add {bench : Bench} (continues : Continues right start bench) {event : Event}
    (isRight : right event) : Continues right start { bench with log := bench.log ++ [event] } := by
  obtain ⟨path, later, shape, allRight⟩ := continues
  refine ⟨path, later ++ [event], by simp [shape], fun other member => ?_⟩
  obtain member | member := List.mem_append.mp member
  · exact allRight other member
  · rwa [List.mem_singleton.mp member]

/-- A bench whose log goes on like that and whose files have a property. -/
def Holds (right : Event → Prop) (start : Bench) (holds : Workspace → Prop) (bench : Bench) : Prop :=
  Continues right start bench ∧ holds bench.workspace

theorem leads_cached :
    Leads (Holds right start holds) cached (fun _ => Holds right start holds) failed :=
  fun _ held => held

theorem leads_recache (data : CacheData) :
    Leads (Holds right start holds) (recache data) (fun _ => Holds right start holds) failed :=
  fun _ held => ⟨⟨held.1.path, held.1.log⟩, held.2⟩

theorem leads_note {event : Event} (isRight : right event) :
    Leads (Holds right start holds) (note event) (fun _ => Holds right start holds) failed :=
  fun _ held => ⟨held.1.add isRight, held.2⟩

theorem leads_begin {purpose : Purpose} {command : String}
    (isRight : ∀ workspace, holds workspace → right (.started purpose command workspace)) :
    Leads (Holds right start holds) (begin purpose command) (fun _ => Holds right start holds)
      failed :=
  fun bench held => ⟨held.1.add (isRight bench.workspace held.2), held.2⟩

theorem leads_execute {executor : Executor} {purpose : Purpose} {command : String}
    {limit? : Option Duration} {after : Workspace → Prop}
    (leaves : ∀ turn workspace, holds workspace →
      after (executor.run turn workspace command limit?).2)
    (isRight : ∀ workspace, holds workspace → right (.started purpose command workspace)) :
    Leads (Holds right start holds) (execute executor purpose command limit?)
      (fun _ => Holds right start after) failed := by
  intro bench held
  obtain ⟨path, log⟩ := held.1.add (isRight bench.workspace held.2)
  exact ⟨⟨path, log⟩, leaves bench.turn bench.workspace held.2⟩

theorem leads_files {operation : OnDisk α} {after : α → Workspace → Prop}
    {failedFiles : Workspace → Prop} (leads : Leads holds operation after failedFiles) :
    Leads (Holds right start holds) (files operation) (fun value => Holds right start (after value))
      (Holds right start failedFiles) := by
  intro bench held
  have outcome := leads bench.workspace held.2
  unfold files
  generalize operation bench.workspace = result at outcome
  obtain ⟨error | value, behind⟩ := result <;>
    exact ⟨⟨held.1.path, held.1.log⟩, outcome⟩

theorem leads_save
    (kept : ∀ (content : ByteArray) (workspace after : Workspace), holds workspace →
      workspace.replace start.cache.path content = .ok after → holds after) :
    Preserves (Holds right start holds) save := by
  intro bench held
  unfold save Cache.save
  rw [held.1.path]
  cases replaced : bench.workspace.replace start.cache.path bench.cache.data.encode.toUTF8 with
  | error fault =>
    rw [Sequence.change_error replaced]
    exact ⟨⟨held.1.path, held.1.log⟩, held.2⟩
  | ok after =>
    rw [Sequence.change_ok replaced]
    exact ⟨⟨held.1.path, held.1.log⟩, kept _ _ _ held.2 replaced⟩

theorem leads_lifted (outcome : Except Error α) :
    Preserves (Holds right start holds) (liftM outcome : OnBench α) :=
  .lift outcome (fun _ _ _ held => held) fun _ held => held

section Storing

variable {later : Bench → Prop}
  (saves : Leads (Holds right start holds) save (fun _ => later) (Holds right start holds))
include saves

theorem setBaseline_rule (seconds? : Option Float) :
    Leads (Holds right start holds) (setBaseline seconds?) (fun _ => later)
      (Holds right start holds) :=
  .bind leads_cached fun _ => .bind (leads_recache _) fun _ => saves

theorem setStatus_rule (file : Path) (id : MutantId) (status : Status) (digest : String) :
    Leads (Holds right start holds) (setStatus file id status digest) (fun _ => later)
      (Holds right start holds) :=
  .bind leads_cached fun _ => .bind (leads_lifted _) fun _ => .bind (leads_recache _) fun _ => saves

end Storing

/-- Listing the mutants of files does nothing to the files, but for storing the cache. What is good
of each file that can be read is so of each file whose mutants are listed. -/
theorem generate_rule {mutator : Mutator} {keepGoing : Bool} {paths : List Path}
    {good : Path → Prop} (saves : Preserves (Holds right start holds) save)
    (reads : ∀ file ∈ paths, ∀ (workspace : Workspace) (source : String), holds workspace →
      workspace.readText file = .ok source → good file) :
    Leads (Holds right start holds) (mutator.generate paths keepGoing)
      (fun mutants bench => Holds right start holds bench ∧ ∀ listed ∈ mutants, good listed.file)
      (Holds right start holds) := by
  have addedFile (file : Path) (isFile : file ∈ paths) :
      Leads (Holds right start holds) (mutator.addFile file)
        (fun mutants bench => Holds right start holds bench ∧ good mutants.file)
        (Holds right start holds) := by
    have look : Leads (Holds right start holds)
        (files (OnDisk.look fun workspace => workspace.readText file))
        (fun _ bench => Holds right start holds bench ∧ good file) (Holds right start holds) := by
      intro bench held
      unfold files
      dsimp only [OnDisk.look]
      cases isText : bench.workspace.readText file with
      | error fault => exact held
      | ok source => exact ⟨held, reads file isFile bench.workspace source held.2 isText⟩
    unfold Mutator.addFile
    refine .bind look fun source => ?_
    rintro bench ⟨held, isGood⟩
    suffices rest : Leads (Holds right start holds) _ _ _ from rest bench held
    exact .bind (leads_lifted _) fun ids => .bind leads_cached fun data =>
      .bind (leads_recache _) fun _ => .bind leads_cached fun data =>
      .bind (leads_recache _) fun _ => .bind (leads_lifted _) fun _ =>
      .pure fun _ held => ⟨held, isGood⟩
  unfold Mutator.generate
  refine .bind (addFiles_rule addedFile) fun mutants => ?_
  rintro bench ⟨held, isGood⟩
  exact Leads.bind saves (fun _ => .pure fun _ held => ⟨held, isGood⟩) bench held

end MutationTesting.OnBench
