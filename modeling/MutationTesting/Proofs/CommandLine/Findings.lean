import MutationTesting.CommandLine.Terminal
import MutationTesting.Proofs.Sequence
/-! What the work of a command does to the files: questions change nothing, and operations on the
files or with the cache do what they do without what is printed. -/
namespace MutationTesting.CommandLine

open Sequence Work

variable {terminal : Terminal} {α : Type}

theorem leads_ofExcept (result : Except Error α) :
    Leads (· = terminal) (Work.ofExcept result)
      (fun value now => now = terminal ∧ result = .ok value) (· = terminal) := by
  rintro now rfl
  cases result with
  | ok value => exact ⟨rfl, rfl⟩
  | error error => rfl

theorem leads_look (question : Workspace → Except Error α) :
    Leads (· = terminal) (look question)
      (fun value now => now = terminal ∧ question terminal.workspace = .ok value)
      (· = terminal) := by
  rintro now rfl
  exact leads_ofExcept (question now.workspace) now rfl

theorem leads_get :
    Leads (· = terminal) (get : Work Terminal) (fun value now => now = terminal ∧ value = terminal)
      (· = terminal) := by
  rintro now rfl
  exact ⟨rfl, rfl⟩

theorem onDisk_apply (operation : OnDisk α) (terminal : Terminal) :
    onDisk operation terminal =
      match operation terminal.workspace with
      | (.ok value, workspace) => (.ok value, { terminal with workspace })
      | (.error error, workspace) => (.error (messageOf error), { terminal with workspace }) := by
  have inParts : onDisk operation terminal =
      Work.ofExcept (operation terminal.workspace).1
        { terminal with workspace := (operation terminal.workspace).2 } := rfl
  rw [inParts]
  generalize operation terminal.workspace = outcome
  obtain ⟨error | value, workspace⟩ := outcome <;> rfl

theorem onBench_apply (operation : OnBench α) (terminal : Terminal) :
    onBench operation terminal =
      match Cache.openIn terminal.workspace ⟨"."⟩ with
      | .ok cache =>
        let (result, bench) := operation ⟨terminal.workspace, cache, 0, []⟩
        ((result.mapError messageOf).map fun value => (value, bench.log),
          { terminal with workspace := bench.workspace })
      | .error error => (.error (messageOf error), terminal) := by
  have looks : look (fun workspace => Cache.openIn workspace ⟨"."⟩) terminal =
      Work.ofExcept (Cache.openIn terminal.workspace ⟨"."⟩) terminal := rfl
  unfold onBench
  rw [bind_apply, looks]
  cases opens : Cache.openIn terminal.workspace ⟨"."⟩ with
  | error error => rfl
  | ok cache =>
    change (do
      set { terminal with workspace := (operation ⟨terminal.workspace, cache, 0, []⟩).2.workspace }
      return (← Work.ofExcept (operation ⟨terminal.workspace, cache, 0, []⟩).1,
        (operation ⟨terminal.workspace, cache, 0, []⟩).2.log) : Work _) terminal = _
    dsimp only
    generalize operation ⟨terminal.workspace, cache, 0, []⟩ = outcome
    obtain ⟨error | value, bench⟩ := outcome <;> rfl

/-- Operations with the cache of the working directory leave the files as they leave those of a
bench with this cache, if it can be opened. -/
theorem leads_onBench (holds : Workspace → Prop) {operation : OnBench α}
    (unopened : holds terminal.workspace)
    (opened : ∀ cache, Cache.openIn terminal.workspace ⟨"."⟩ = .ok cache →
      holds (operation ⟨terminal.workspace, cache, 0, []⟩).2.workspace) :
    Leads (· = terminal) (onBench operation) (fun _ now => holds now.workspace)
      fun now => holds now.workspace := by
  rintro now rfl
  rw [onBench_apply]
  cases opens : Cache.openIn now.workspace ⟨"."⟩ with
  | error error => exact unopened
  | ok cache =>
    have held := opened cache opens
    dsimp only
    generalize operation ⟨now.workspace, cache, 0, []⟩ = outcome at held
    obtain ⟨error | value, bench⟩ := outcome <;> exact held

end MutationTesting.CommandLine

/-! What a run finds out before it does anything: which lines, which tests and which files. A run is
this, then the check that none of the files has a backup, and then a campaign. -/
namespace MutationTesting.CommandLine

open Sequence Work

/-- What a run finds out before it looks for backups: the lines to mutate, the directories of the
tests, and the files to mutate. -/
structure Findings where
  policy : Policy
  tests : List Path
  files : List Path

/-- Fails for a path to mutate that names nothing, or a file in no language. -/
def checkPath (tools : Tools) (workspace : Workspace) (path : Path) : Work Unit := do
  if !workspace.has path then throw s!"path to mutate does not exist: {path.text}"
  if workspace.hasFile path ∧ !tools.frontend.handles path then
    let extensions := String.intercalate ", " (tools.frontend.extensions.map ("." ++ ·))
    throw s!"unsupported file type: {path.text}. Supported: {extensions}"

/-- Finds out what a run is about. -/
def findings (tools : Tools) (options : RunOptions) : Work Findings := do
  let paths ← pathsToMutate tools options.paths
  let policy ← policyOf options
  let tests := Discovery.testDirectories (← get).workspace options.testDirectories paths
  let filter ← ofExcept (Discovery.SourceFilter.make tests options.excluded)
  return ⟨policy, tests, ← filesToMutate tools filter paths⟩

namespace Findings

variable (found : Findings) (tools : Tools) (options : RunOptions)

/-- The mutator of a run. -/
def mutator : Mutator :=
  ⟨tools.frontend, .python options.settings.synonyms, found.policy⟩

/-- The campaign of a run, for tests with a digest. -/
def campaign (digest : String) : Campaign :=
  ⟨{ options.settings with testsDigest := digest }, found.mutator tools options, tools.executor⟩

/-- The course of a run: the mutants are listed and then tested. -/
def course (digest : String) : OnBench CampaignResult := do
  (found.campaign tools options digest).run
    (← mutantsToTest (found.mutator tools options) options found.files)

end Findings

/-- What is printed of a run that has come to its end. -/
def reportRun (options : RunOptions) (result : CampaignResult) (events : List Event) :
    Work Nat := do
  print (Report.legend false options.settings.testCommand)
  print (Report.events (events ++ [.output ""]))
  print (Report.summary false result.tally)
  if let some error := result.error? then printError (Report.failure false error.message)
  return result.exitCode

/-- Carries out a run and reports it. -/
def Findings.carryOut (found : Findings) (tools : Tools) (options : RunOptions) : Work Nat := do
  let digest ← look fun workspace => Discovery.testsDigest workspace found.tests
  let (result, events) ← onBench (found.course tools options digest)
  reportRun options result events

theorem testMutants_eq (tools : Tools) (options : RunOptions) :
    testMutants tools options = (do
      let found ← findings tools options
      onDisk (Backup.ensureNone found.files)
      found.carryOut tools options) := by
  simp only [testMutants, findings, bind_assoc, pure_bind]
  rfl

section Rules

variable {terminal : Terminal}

theorem leads_reportRun (holds : Workspace → Prop) (options : RunOptions) (result : CampaignResult)
    (events : List Event) :
    Preserves (fun now : Terminal => holds now.workspace) (reportRun options result events) := by
  have prints (text : String) : Preserves (fun now : Terminal => holds now.workspace) (print text) :=
    fun _ held => held
  have printsError (text : String) :
      Preserves (fun now : Terminal => holds now.workspace) (printError text) :=
    fun _ held => held
  unfold reportRun
  refine .bind (prints _) fun _ => .bind (prints _) fun _ => .bind (prints _) fun _ => ?_
  dsimp only
  split
  · exact .bind (printsError _) fun _ => .pure fun _ held => held
  · exact .pure fun _ held => held

variable {tools : Tools}

/-- A run leaves the files as its course does, if it comes to that. -/
theorem leads_carryOut {found : Findings} (options : RunOptions) (holds : Workspace → Prop)
    (held : holds terminal.workspace)
    (courses : ∀ digest cache, Cache.openIn terminal.workspace ⟨"."⟩ = .ok cache →
      holds (found.course tools options digest ⟨terminal.workspace, cache, 0, []⟩).2.workspace) :
    Leads (· = terminal) (found.carryOut tools options) (fun _ now => holds now.workspace)
      fun now => holds now.workspace :=
  .bind ((leads_look _).mono (fun _ held => held) (fun _ _ held => held.1)
    fun _ same => same ▸ held) fun digest =>
  .bind (leads_onBench holds held (courses digest)) fun _ => leads_reportRun holds _ _ _

/-- A path to mutate that names a file names one in the language. -/
theorem leads_checkPath (path : Path) :
    Leads (· = terminal) (checkPath tools terminal.workspace path)
      (fun _ now => now = terminal ∧ (terminal.workspace.hasFile path = true →
        tools.frontend.handles path = true)) (· = terminal) := by
  unfold checkPath
  dsimp only
  split
  · exact .throw fun _ held => held
  · split
    · exact .throw fun _ held => held
    · rename_i handled
      refine .pure fun _ held => ⟨held, fun isFile => ?_⟩
      simpa [isFile] using handled

theorem leads_pathsToMutate (given : List Path) :
    Leads (· = terminal) (pathsToMutate tools given)
      (fun paths now => now = terminal ∧ ∀ path ∈ paths, terminal.workspace.hasFile path = true →
        tools.frontend.handles path = true) (· = terminal) := by
  have checked (paths : List Path) : Leads (· = terminal) (do
        let workspace := (← get).workspace
        paths.forM (checkPath tools workspace)
        return paths)
      (fun paths now => now = terminal ∧ ∀ path ∈ paths, terminal.workspace.hasFile path = true →
        tools.frontend.handles path = true) (· = terminal) := by
    refine .bind leads_get fun _ => ?_
    rintro _ ⟨rfl, rfl⟩
    exact Leads.bind (.forM fun path _ => leads_checkPath path)
      (fun _ => .pure fun _ held => held) _ rfl
  unfold pathsToMutate
  dsimp only
  split
  · exact .bind (leads_look _) fun code => .bind (.pure fun _ held => held.1) checked
  · exact .bind (.pure fun _ held => held) checked

theorem leads_policyOf (options : RunOptions) : Preserves (· = terminal) (policyOf options) := by
  unfold policyOf
  split
  · exact .bind (leads_look _) fun _ => .pure fun _ held => held.1
  · exact .bind (leads_look _) fun _ => .pure fun _ held => held.1
  · exact .pure fun _ held => held

theorem handles_of_mem_sourceFiles {workspace : Workspace} {filter : Discovery.SourceFilter}
    {frontend : Frontend} {path : Path} {files : List Path}
    (handled : workspace.hasFile path = true → frontend.handles path = true)
    (isFiles : Discovery.sourceFiles workspace filter frontend.extensions path = .ok files) :
    ∀ file ∈ files, frontend.handles file = true := by
  intro file isFile
  unfold Discovery.sourceFiles at isFiles
  split at isFiles
  · contradiction
  · rename_i content found
    obtain rfl := Except.ok.inj isFiles
    obtain rfl := List.mem_singleton.mp isFile
    refine handled ?_
    simp [Workspace.hasFile, found, Entry.isFile, Entry.isDirectory]
  · obtain rfl := Except.ok.inj isFiles
    obtain ⟨walked, member, rfl⟩ := List.mem_map.mp isFile
    have kept := (List.mem_filter.mp member).2
    simp only [Bool.and_eq_true] at kept
    exact kept.2

theorem leads_findings (options : RunOptions) :
    Leads (· = terminal) (findings tools options)
      (fun found now => now = terminal ∧
        ∀ file ∈ found.files, tools.frontend.handles file = true) (· = terminal) := by
  unfold findings
  refine .bind (leads_pathsToMutate options.paths) fun paths => ?_
  rintro now ⟨rfl, handled⟩
  suffices rest : Leads (· = now) _ _ _ from rest now rfl
  refine .bind (leads_policyOf options) fun policy => .bind leads_get fun _ =>
    .bind ((leads_ofExcept _).mono (fun _ held => held.1) (fun _ _ held => held.1)
      fun _ held => held) fun filter => .bind ?_ fun files => .pure fun _ held => held
  have listed : ∀ path ∈ paths, Leads (· = now)
      (look fun workspace =>
        Discovery.sourceFiles workspace filter tools.frontend.extensions path)
      (fun files later => later = now ∧ ∀ file ∈ files, tools.frontend.handles file = true)
      (· = now) := by
    intro path isPath
    refine (leads_look _).mono (fun _ held => held) (fun files later held => ?_) fun _ held => held
    exact ⟨held.1, handles_of_mem_sourceFiles (handled path isPath) held.2⟩
  unfold filesToMutate
  refine .bind (.mapM listed) fun lists => .pure fun _ held => ⟨held.1, fun file isFile => ?_⟩
  obtain ⟨files, isList, member⟩ := List.mem_flatten.mp isFile
  exact held.2 files isList file member

end Rules

end MutationTesting.CommandLine
