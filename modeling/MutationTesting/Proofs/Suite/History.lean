import MutationTesting.Proofs.Mutator
import MutationTesting.Proofs.Suite.Run
/-! Histories of a file whose content changes from run to run. What a run reports of a mutant
without testing it was found by a test of a mutant that has the same place on a line of the same
text. Whether that one makes the same edit is another matter: the place of a mutant depends on what is
around its line. -/
namespace MutationTesting

/-- One step in the history of a file: the files as they are then, and how mutants are tested. -/
structure Round where
  workspace : Workspace
  settings : Settings
  executor : Executor

/-- The run of a step on a file with a cache. -/
def Round.run (round : Round) (mutator : Mutator) (file : Path) (cache : Cache) : Run :=
  ⟨⟨round.settings, mutator, round.executor⟩, file, round.workspace, cache⟩

/-- The runs of a history. Each starts with the cache as the one before has left it. -/
def history (mutator : Mutator) (file : Path) (cache : Cache) : List Round → List Run
  | [] => []
  | round :: rest =>
    let run := round.run mutator file cache
    run :: history mutator file run.outcome.2.cache rest

theorem history_cons (mutator : Mutator) (file : Path) (cache : Cache) (round : Round)
    (rest : List Round) :
    history mutator file cache (round :: rest) = round.run mutator file cache ::
      history mutator file (round.run mutator file cache).outcome.2.cache rest := rfl

/-- In each run a mutant that is reported without being tested is one of the content of the file,
and an earlier run has tested a mutant of the file with the same place on a line of the same text. -/
def TracesNames (runs : List Run) : Prop :=
  ∀ before run after, runs = before ++ run :: after → ∀ id, run.ReportsCached id →
    (∃ mutant, mutant.id = id ∧ run.Lists mutant) ∧
    ∃ earlier ∈ before, ∃ tested ∈ earlier.tested, earlier.campaign.Tests run.file tested ∧
      tested.id.line = id.line ∧ tested.id.index = id.index

/-- In each run a mutant that is reported without being tested is like one that an earlier run has
tested. -/
def TracesEdits (mutator : Mutator) (runs : List Run) : Prop :=
  ∀ before run after, runs = before ++ run :: after → ∀ mutant, run.Lists mutant →
    run.ReportsCached mutant.id →
    ∃ earlier ∈ before, ∃ tested ∈ earlier.tested, mutator.Alike mutant tested

/-- In each run a mutant that is reported without being tested is like one of the content that the
file had in an earlier run that tests mutants. -/
def RepeatsEdits (mutator : Mutator) (runs : List Run) : Prop :=
  ∀ before run after, runs = before ++ run :: after → ∀ mutant, run.Lists mutant →
    run.ReportsCached mutant.id →
    ∃ earlier ∈ before, earlier.campaign.settings.cacheOnly = false ∧
      ∃ twin, earlier.Lists twin ∧ mutator.Alike mutant twin

section Names

/-- In some of the runs a mutant of a file has come to its tests that has the place of a name on a
line of the same text. -/
def ToldIn (file : Path) (runs : List Run) (id : MutantId) : Prop :=
  ∃ run ∈ runs, ∃ mutant ∈ handled run.log, run.campaign.Tests file mutant ∧
    mutant.id.line = id.line ∧ mutant.id.index = id.index

variable {file : Path} {past : List Run}

/-- What a run leaves in the cache is told of by it or by the runs before. -/
theorem known_after (run : Run) (same : run.file = file)
    (known : run.cache.data.Known (ToldIn file past) file) :
    run.outcome.2.cache.data.Known (ToldIn file (past ++ [run])) file := by
  subst same
  have traced := run.traced (fun _ _ isTold => isTold) known
  refine traced.known.mono ?_
  rintro id (⟨earlier, member, told⟩ | ⟨mutant, isHandled, rfl⟩)
  · exact ⟨earlier, List.mem_append_left _ member, told⟩
  · exact ⟨run, List.mem_append_right _ (List.mem_singleton.mpr rfl), mutant, isHandled,
      traced.handled mutant isHandled, rfl, rfl⟩

theorem told_of_reportsCached (run : Run) (same : run.file = file)
    (known : run.cache.data.Known (ToldIn file past) file) (prompt : run.Prompt) {id : MutantId}
    (reports : run.ReportsCached id) : id ∈ run.listed ∧ ToldIn file past id := by
  subst same
  obtain ⟨⟨status, member, tested⟩, untested⟩ := reports
  obtain ⟨isListed, named⟩ :=
    (run.traced (fun _ _ isTold => isTold) known).finished id status member
  refine ⟨isListed, ?_⟩
  obtain told | ⟨mutant, isHandled, isNamed⟩ := named tested
  · exact told
  · exact absurd isNamed (untested mutant (prompt mutant isHandled))

theorem traces_names (mutator : Mutator) {cache : Cache} (rounds : List Round)
    (known : cache.data.Known (ToldIn file past) file) (promptPast : ∀ run ∈ past, run.Prompt)
    (prompt : ∀ run ∈ history mutator file cache rounds, run.Prompt) :
    ∀ before run after, history mutator file cache rounds = before ++ run :: after →
      ∀ id, run.ReportsCached id →
      (∃ mutant, mutant.id = id ∧ run.Lists mutant) ∧
      ∃ earlier ∈ past ++ before, ∃ tested ∈ earlier.tested,
        earlier.campaign.Tests run.file tested ∧
        tested.id.line = id.line ∧ tested.id.index = id.index := by
  induction rounds generalizing cache past with
  | nil =>
    intro before run after shape
    simp [history] at shape
  | cons round rest ih =>
    intro before run after shape id reports
    rw [history_cons] at shape prompt
    cases before with
    | nil =>
      obtain ⟨rfl, -⟩ := List.cons.inj shape
      have promptNow := prompt _ List.mem_cons_self
      obtain ⟨isListed, earlier, member, mutant, isHandled, told⟩ :=
        told_of_reportsCached (round.run mutator file cache) rfl known promptNow reports
      exact ⟨Run.exists_listed isListed, earlier, by simpa using member, mutant,
        promptPast earlier member mutant isHandled, told⟩
    | cons first before =>
      obtain ⟨rfl, behind⟩ := List.cons.inj shape
      have promptSince : ∀ run ∈ past ++ [round.run mutator file cache], run.Prompt := by
        intro run member
        obtain member | member := List.mem_append.mp member
        · exact promptPast run member
        · exact List.mem_singleton.mp member ▸ prompt _ List.mem_cons_self
      have later := ih (known_after _ rfl known) promptSince
        (fun run member => prompt run (List.mem_cons_of_mem _ member))
        before run after behind id reports
      simpa using later

end Names

section Edits

variable {mutator : Mutator} {runs : List Run}

theorem Run.Undisturbed.eq_of_id {run : Run} (undisturbed : run.Undisturbed)
    {mutant tested : Mutant} (lists : run.Lists mutant) (isTested : tested ∈ run.tested)
    (same : tested.id = mutant.id) : tested = mutant := by
  obtain ⟨-, source, isText, found⟩ := lists
  obtain ⟨-, other, isOther, foundTested⟩ := undisturbed.lists isTested
  obtain rfl : other = source := Except.ok.inj (isOther.symm.trans isText)
  rw [same, found] at foundTested
  exact (Option.some.inj (Except.ok.inj foundTested)).symm

theorem repeats_of_traces (undisturbed : ∀ run ∈ runs, run.Undisturbed)
    (traces : TracesEdits mutator runs) : RepeatsEdits mutator runs := by
  intro before run after shape mutant lists reports
  obtain ⟨earlier, member, tested, isTested, alike⟩ :=
    traces before run after shape mutant lists reports
  have isRun : earlier ∈ runs := shape ▸ List.mem_append_left _ member
  exact ⟨earlier, member, (Run.tests_of_tested isTested).tests, tested,
    (undisturbed earlier isRun).lists isTested, alike⟩

/-- The first run in which a mutant was listed has tested it, if runs only report without a test what
an earlier run has listed. -/
theorem traces_of_repeats (undisturbed : ∀ run ∈ runs, run.Undisturbed)
    (completed : ∀ run ∈ runs, run.Completed) (repeats : RepeatsEdits mutator runs) :
    TracesEdits mutator runs := by
  intro before
  induction length_eq : before.length using Nat.strongRecOn generalizing before with
  | ind length ih =>
    intro run after shape mutant lists reports
    obtain ⟨earlier, member, tests, twin, isTwin, alike⟩ :=
      repeats before run after shape mutant lists reports
    have isRun : earlier ∈ runs := shape ▸ List.mem_append_left _ member
    have reported := (completed earlier isRun).reported tests isTwin.1
    by_cases isTested : ∃ tested ∈ earlier.tested, tested.id = twin.id
    · obtain ⟨tested, isTested, same⟩ := isTested
      obtain rfl := (undisturbed earlier isRun).eq_of_id isTwin isTested same
      exact ⟨earlier, member, tested, isTested, alike⟩
    · -- The twin was itself reported without a test, in a run that has fewer runs before it.
      have reportsTwin : earlier.ReportsCached twin.id :=
        ⟨reported, fun tested isTwinTested same => isTested ⟨tested, isTwinTested, same⟩⟩
      obtain ⟨first, between, rfl⟩ := List.append_of_mem member
      have fewer : first.length < length := by
        rw [← length_eq]
        simp
      obtain ⟨origin, isOrigin, tested, isTested, alikeTwin⟩ :=
        ih first.length fewer first rfl earlier (between ++ run :: after) (by simpa using shape)
          twin isTwin reportsTwin
      exact ⟨origin, List.mem_append_left _ isOrigin, tested, isTested, alike.trans alikeTwin⟩

end Edits

/-- In a history that starts with a cache that does not know the file, a mutant is only reported
without being tested if a mutant of the file has been tested that has the same place on a line of
the same text. One that makes the same edit as well has been tested for each of them if and only if
each of them is like a mutant that the file had before. -/
theorem cached_reports_are_traced (mutator : Mutator) (file : Path) (cache : Cache)
    (rounds : List Round) (unknown : cache.data.file? file = none)
    (prompt : ∀ run ∈ history mutator file cache rounds, run.Prompt) :
    TracesNames (history mutator file cache rounds) ∧
      ((∀ run ∈ history mutator file cache rounds, run.Undisturbed ∧ run.Completed) →
        (TracesEdits mutator (history mutator file cache rounds) ↔
          RepeatsEdits mutator (history mutator file cache rounds))) := by
  constructor
  · have known : cache.data.Known (ToldIn file []) file := by
      intro cached isFile
      simp [unknown] at isFile
    exact traces_names mutator rounds known (by simp) prompt
  · intro proper
    have undisturbed (run : Run) (member : run ∈ history mutator file cache rounds) :
        run.Undisturbed := (proper run member).1
    exact ⟨repeats_of_traces undisturbed,
      traces_of_repeats undisturbed fun run member => (proper run member).2⟩

/-- The parse tree of a call with two keyword arguments on a line of their own, of a function whose
name has `width` letters. -/
def keywordCall (width : Nat) : Python.ParseTree :=
  let node (kind : String) (named : Bool) (start stop : Nat) (children : List Python.ParseTree) :=
    (⟨kind, named, false, false, false, width + start, width + stop, children⟩ : Python.ParseTree)
  let keyword (start : Nat) := node "keyword_argument" true start (start + 3) [
    node "identifier" true start (start + 1) [], node "=" false (start + 1) (start + 2) [],
    node "integer" true (start + 2) (start + 3) []]
  let arguments := node "argument_list" true 0 16 [
    node "(" false 0 1 [], keyword 6, node "," false 9 10 [], keyword 11, node ")" false 15 16 []]
  let whole (kind : String) (stop : Nat) (children : List Python.ParseTree) :=
    (⟨kind, true, false, false, false, 0, width + stop, children⟩ : Python.ParseTree)
  whole "module" 17 [whole "expression_statement" 16 [whole "call" 16 [
    whole "identifier" 0 [], arguments]]]

/-- The text of such a call. -/
def keywordText (name : String) : String :=
  name ++ "(\n    a=1, b=2\n)\n"

/-- A mutator of calls of `dict` and of `foo`. -/
def keywordMutator : Mutator where
  frontend := Python.frontend fun source =>
    some (keywordCall (if source = keywordText "dict" then 4 else 3))
  table := .python []
  policy := .everyLine

/-- A step in which no test comes to an end, with a call as the content of the file. -/
def keywordRound (name : String) : Round where
  workspace := ⟨.directory [("a.py", .file (keywordText name).toUTF8)], [], []⟩
  settings := {}
  executor := Campaign.endless.executor

/-- A cache that knows no file, but the time of a clean run. -/
def timedCache : Cache :=
  ⟨Path.join ⟨"."⟩ Cache.fileName, { CacheData.empty with baseline? := some 1.0 }⟩

/-- The run on a call of `dict`. -/
def dictRun : Run :=
  (keywordRound "dict").run keywordMutator Campaign.plain timedCache

/-- The run after the function has been renamed. -/
def fooRun : Run :=
  (keywordRound "foo").run keywordMutator Campaign.plain dictRun.outcome.2.cache

/-- The history of the file. -/
def renamedCall : List Run :=
  history keywordMutator Campaign.plain timedCache [keywordRound "dict", keywordRound "foo"]

theorem renamedCall_eq : renamedCall = [dictRun, fooRun] := rfl

/-- The second mutant of the call of `foo`. In that of `dict`, the second one has another name for
the first argument. -/
def secondOfFoo : Mutant where
  file := Campaign.plain
  id := ⟨"    a=1, b=2", 1, 1⟩
  source := keywordText "foo"
  mutated := "foo(\n    a=1, b=3\n)\n"

theorem renamedCall_outcomes :
    (∀ run ∈ [dictRun, fooRun],
      run.outcome.1.toOption.map (fun outcome => outcome.2.error?) = some none) ∧
    (∀ tested ∈ dictRun.tested, secondOfFoo.id.index = tested.id.index →
      keywordMutator.edit? secondOfFoo ≠ keywordMutator.edit? tested) ∧
    dictRun.outcome.2.cache.path = Path.join ⟨"."⟩ Cache.fileName ∧ fooRun.tested = [] ∧
    secondOfFoo.id ∈ fooRun.listed ∧
    (Campaign.plain, secondOfFoo.id, .timedOut) ∈ finished fooRun.log ∧
    (fooRun.workspace.readText Campaign.plain).toOption = some secondOfFoo.source ∧
    (keywordMutator.find? Campaign.plain secondOfFoo.source secondOfFoo.id).toOption =
      some (some secondOfFoo) := by
  decide +kernel

theorem keywordRound_undisturbed {name : String} {cache : Cache}
    (path : cache.path = Path.join ⟨"."⟩ Cache.fileName)
    (there : (keywordRound name).workspace.hasFile Campaign.plain = true)
    (noBackup : (keywordRound name).workspace.has (Backup.pathOf Campaign.plain) = false) :
    ((keywordRound name).run keywordMutator Campaign.plain cache).Undisturbed where
  alone := Campaign.endless_leavesAlone _
  listed := by simp
  there file isFile := List.mem_singleton.mp isFile ▸ there
  noBackup file isFile := List.mem_singleton.mp isFile ▸ noBackup
  apart other keeps file isFile := by
    have keepsThere : Campaign.Keeps {} cache.path [Campaign.plain] other := keeps
    have keepsHere : Campaign.Keeps {} (Path.join ⟨"."⟩ Cache.fileName) [Campaign.plain] other :=
      path ▸ keepsThere
    have isPython : Campaign.plain.extension? = some "py" := by decide
    exact List.mem_singleton.mp isFile ▸
      keepsHere.apart_of_extension isPython (keywordRound name).workspace

theorem renamedCall_proper : ∀ run ∈ renamedCall, run.Undisturbed ∧ run.Completed := by
  obtain ⟨outcomes, -, path, -⟩ := renamedCall_outcomes
  rw [renamedCall_eq]
  have undisturbed : ∀ run ∈ [dictRun, fooRun], run.Undisturbed := by
    rintro run member
    obtain rfl | member := List.mem_cons.mp member
    · exact keywordRound_undisturbed rfl (by decide) (by decide)
    · obtain rfl := List.mem_singleton.mp member
      exact keywordRound_undisturbed path (by decide) (by decide)
  exact fun run member => ⟨undisturbed run member, outcomes run member⟩

/-- The cached reports of that history can be traced to tests of mutants with their names. -/
theorem renamedCall_traced :
    timedCache.data.file? Campaign.plain = none ∧ (∀ run ∈ renamedCall, run.Prompt) ∧
      TracesNames renamedCall ∧
      ((∀ run ∈ renamedCall, run.Undisturbed ∧ run.Completed) →
        (TracesEdits keywordMutator renamedCall ↔ RepeatsEdits keywordMutator renamedCall)) := by
  have whole : (keywordRound "").settings.isIncremental = false := by decide
  have prompt : ∀ run ∈ renamedCall, run.Prompt := by
    rw [renamedCall_eq]
    intro run member
    obtain rfl | member := List.mem_cons.mp member
    · exact Run.prompt_of_whole whole
    · obtain rfl := List.mem_singleton.mp member
      exact Run.prompt_of_whole whole
  exact ⟨rfl, prompt, cached_reports_are_traced keywordMutator Campaign.plain timedCache
    [keywordRound "dict", keywordRound "foo"] rfl prompt⟩

/-- One of them is a report on a mutant none like which has been tested, though nothing disturbs the
runs. -/
theorem renamedCall_mixes_edits :
    (∀ run ∈ renamedCall, run.Undisturbed ∧ run.Completed) ∧
      ¬ TracesEdits keywordMutator renamedCall := by
  refine ⟨renamedCall_proper, fun traces => ?_⟩
  obtain ⟨-, others, -, untested, isListed, reported, isText, found⟩ := renamedCall_outcomes
  have lists : fooRun.Lists secondOfFoo :=
    ⟨isListed, secondOfFoo.source, ok_of_toOption isText, ok_of_toOption found⟩
  have reports : fooRun.ReportsCached secondOfFoo.id :=
    ⟨⟨.timedOut, reported, by decide⟩, by simp [untested]⟩
  obtain ⟨earlier, member, tested, isTested, alike⟩ :=
    traces [dictRun] fooRun [] renamedCall_eq secondOfFoo lists reports
  obtain rfl := List.mem_singleton.mp member
  obtain ⟨edit, ofSecond, ofTested⟩ := alike.edit
  exact others tested isTested alike.index (ofSecond.trans ofTested.symm)

end MutationTesting
