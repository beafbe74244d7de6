import MutationTesting.Duration
import MutationTesting.Path
import MutationTesting.Suite.Bench
import MutationTesting.Text.Lines
import MutationTesting.Text.Search
/-! The settings of a run of the tests. -/
namespace MutationTesting

structure Settings where
  /-- The command that runs the tests. -/
  testCommand : String := "python -m pytest -x"
  /-- Whether the output of the tests is hidden. -/
  hidesOutput : Bool := true
  /-- Whether only stored results are reported. -/
  cacheOnly : Bool := false
  /-- Seconds added to every limit. -/
  base : Float := 0.0
  /-- How many times the time of the clean run a mutant may take before it is suspicious. -/
  multiplier : Float := 2.0
  /-- How many times the time of the clean run a mutant may take before it is stopped. -/
  hardFactor : Float := 10.0
  /-- The command run before each mutant is tested. -/
  before? : Option String := none
  /-- The command run after each mutant is tested. -/
  after? : Option String := none
  /-- Names that are called like `dict`. -/
  synonyms : List String := []
  /-- The digest of the tests that results are valid for. -/
  testsDigest : String := ""
  /-- Whether a file without mutants because of an error is passed over. -/
  keepGoing : Bool := false
  /-- The directory in which the runner of the tests keeps its data. -/
  directory : Path := ⟨"."⟩

namespace Settings

/-- The option that makes the runner of the tests choose those that a change concerns. -/
def selectionOption : String := "--testmon"

/-- Whether a command only runs the tests that a change concerns. -/
def isIncrementalCommand (command : String) : Bool :=
  Text.contains selectionOption command

/-- Whether only the tests are run that a change concerns. -/
def isIncremental (settings : Settings) : Bool :=
  isIncrementalCommand settings.testCommand

/-- A limit: a multiple of the time of the clean run, and the seconds added to every limit. A
limit below zero is zero, and so is one beyond every span of time. -/
def limit (settings : Settings) (factor : Float) (baseline : Duration) : Duration :=
  (Duration.ofSeconds? (settings.base + baseline.toSeconds * factor)).getD .zero

/-- The time beyond which a mutant is suspicious. -/
def suspicionLimit (settings : Settings) (baseline : Duration) : Duration :=
  settings.limit settings.multiplier baseline

/-- The time after which a mutant is stopped. -/
def killLimit (settings : Settings) (baseline : Duration) : Duration :=
  settings.limit settings.hardFactor baseline

end Settings

/-- The exit code of a runner that found no test to run. -/
def noTestsCode : Nat := 5

/-- Whether an exit code says that the tests passed. Where only some tests are run, it may be
none. -/
def testsPassed (code : Int) (incremental : Bool) : Bool :=
  code == 0 || (incremental && code == noTestsCode)

end MutationTesting

/-! Running the tests and the commands around them. -/
namespace MutationTesting

structure Runner where
  command : String
  hidesOutput : Bool
  incremental : Bool
  /-- The directory in which the runner of the tests keeps its data. -/
  directory : Path

def Settings.runner (settings : Settings) : Runner where
  command := settings.testCommand
  hidesOutput := settings.hidesOutput
  incremental := settings.isIncremental
  directory := settings.directory

namespace Runner

/-- The name of the data by which the tests are chosen. -/
def selectionData : Path := ⟨".testmondata"⟩

/-- The name of the copy of these data as the clean run left them. -/
def selectionSnapshot : Path := ⟨".testmondata-initial"⟩

/-- Copies the data as the clean run left them, if there are any. -/
def takeSnapshot (directory : Path) : OnDisk Unit := do
  if ← OnDisk.ask fun workspace => workspace.has (directory.join selectionData) then
    OnDisk.change fun workspace =>
      workspace.copy (directory.join selectionData) (directory.join selectionSnapshot)

/-- Puts the data back as the clean run left them, if there is a copy. -/
def restoreSnapshot (directory : Path) : OnDisk Unit := do
  if ← OnDisk.ask fun workspace => workspace.has (directory.join selectionSnapshot) then
    OnDisk.change fun workspace =>
      workspace.copy (directory.join selectionSnapshot) (directory.join selectionData)

/-- A run of the tests: the lines of their output and how they went. -/
structure Outcome where
  lines : List String
  passed : Bool
  elapsed : Duration

/-- What is noted for a line of output: first that it is shown, unless output is hidden, and then
what `report` makes of it. -/
def noteLine (runner : Runner) (report : String → List Event) (line : String) : List Event :=
  (if runner.hidesOutput then [] else [.echo line]) ++ report line

def noteAll : List Event → OnBench Unit
  | [] => return
  | event :: rest => do
    OnBench.note event
    noteAll rest

def run (runner : Runner) (executor : Executor) (purpose : Purpose) (limit? : Option Duration)
    (report : String → List Event) : OnBench Outcome := do
  let run ← OnBench.execute executor purpose runner.command limit?
  noteAll (run.lines.flatMap (runner.noteLine report))
  let code ← run.code runner.command limit?
  return ⟨run.lines, testsPassed code runner.incremental, run.elapsed⟩

/-- The clean run. The data by which the tests are chosen stay as the last run left them. -/
def runClean (runner : Runner) (executor : Executor) : OnBench Outcome :=
  runner.run executor .baseline none fun line => [.output line]

/-- Runs the tests on a mutant, with the data by which the tests are chosen as the clean run left
them. -/
def runMutant (runner : Runner) (executor : Executor) (limit? : Option Duration)
    (mutant? : Option Mutant := none) : OnBench Outcome := do
  if runner.incremental then
    OnBench.begin (.selection mutant?) runner.command
    OnBench.files (restoreSnapshot runner.directory)
  runner.run executor (.test mutant?) limit? fun _ => []

/-- Runs a command around the tests. How it ends does not matter. -/
def runHook (executor : Executor) (command : String) : OnBench String := do
  let run ← OnBench.execute executor .hook command none
  return String.intercalate "\n" run.lines

end Runner

end MutationTesting
