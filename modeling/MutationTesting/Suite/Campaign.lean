import MutationTesting.Suite.Generation
import MutationTesting.Suite.Runner
/-! A campaign: the clean run of the tests, and then the tests of one mutant after the other,
except those whose status the cache knows. -/
namespace MutationTesting

structure Campaign where
  settings : Settings
  mutator : Mutator
  executor : Executor

/-- The counts of a campaign and the failure that ended it, if one did. -/
structure CampaignResult where
  tally : Tally
  error? : Option Error
  deriving Repr, DecidableEq

def CampaignResult.exitCode (result : CampaignResult) : Nat :=
  result.tally.exitCode result.error?.isSome

namespace Campaign

/-- The time of the clean run: the one that the cache knows, or that of a clean run, which has to
pass. -/
def baseline (campaign : Campaign) : OnBench Duration := do
  match (← OnBench.cached).baseline? with
  | some seconds =>
    return (Duration.ofSeconds? seconds).getD .zero
  | none =>
    let runner := campaign.settings.runner
    let outcome ← runner.runClean campaign.executor
    if !outcome.passed then
      throw (.redBaseline runner.command (String.intercalate "\n" outcome.lines))
    if runner.incremental then OnBench.files (Runner.takeSnapshot runner.directory)
    OnBench.setBaseline (some outcome.elapsed.toSeconds)
    return outcome.elapsed

/-- Runs a command around the tests of a mutant, if there is one, and reports its output. -/
def hook (campaign : Campaign) (command? : Option String) : OnBench Unit := do
  if let some command := command? then
    let output ← Runner.runHook campaign.executor command
    Runner.noteAll ((Text.lines output).map Event.output)

/-- The status that a test of a mutant leads to. A test that does not come to an end counts as
one that takes too long. -/
def statusOf (campaign : Campaign) (baseline : Duration) (outcome : Except Error Runner.Outcome) :
    Status :=
  match outcome with
  | .ok outcome =>
    .ofRun (some outcome.passed) outcome.elapsed (campaign.settings.suspicionLimit baseline)
  | .error _ => .ofRun none .zero .zero

/-- Puts a mutant in the place of its file, runs the tests, takes the mutant off again, and
stores its status. -/
def runTests (campaign : Campaign) (baseline : Duration) (mutant : Mutant) : OnBench Status := do
  let settings := campaign.settings
  campaign.hook settings.before?
  let applied ← OnBench.files mutant.apply
  let outcome ← OnBench.attempt
    (settings.runner.runMutant campaign.executor (some (settings.killLimit baseline)) mutant)
  let reverted ← OnBench.attempt (OnBench.files applied.revert)
  campaign.hook settings.after?
  let _ ← reverted
  let status := campaign.statusOf baseline outcome
  OnBench.setStatus mutant.file mutant.id status settings.testsDigest
  return status

/-- The source of a file, read if it has not been read before. -/
def sourceOf (file : Path) (source? : Option String) : OnBench String := do
  match source? with
  | some source => return source
  | none => OnBench.files (OnDisk.look fun workspace => workspace.readText file)

/-- Tests a mutant unless the cache knows its status. Yields the source of the file for the
mutants after it, if it has been read. -/
def test (campaign : Campaign) (baseline : Duration) (file : Path) (source? : Option String)
    (id : MutantId) : OnBench (Status × Option String) := do
  let known := (← OnBench.cached).trustedStatus file id campaign.settings.testsDigest
  if known ≠ .untested ∨ campaign.settings.cacheOnly then return (known, source?)
  let source ← sourceOf file source?
  match ← campaign.mutator.find? file source id with
  | none => throw (.mutantNotFound file id)
  | some mutant => return (← campaign.runTests baseline mutant, some source)

def testIds (campaign : Campaign) (baseline : Duration) (file : Path) (source? : Option String)
    (tally : Tally) : List MutantId → OnBench CampaignResult
  | [] => return ⟨tally, none⟩
  | id :: rest => do
    match ← OnBench.attempt (campaign.test baseline file source? id) with
    | .error error => return ⟨tally, some error⟩
    | .ok (status, source?) =>
      let tally := tally.record status
      OnBench.note (.finished file id status)
      OnBench.note (.progress tally)
      campaign.testIds baseline file source? tally rest

def testFiles (campaign : Campaign) (baseline : Duration) (tally : Tally) :
    List FileMutants → OnBench CampaignResult
  | [] => return ⟨tally, none⟩
  | mutants :: rest => do
    let result ← campaign.testIds baseline mutants.file none tally mutants.ids
    match result.error? with
    | some _ => return result
    | none => campaign.testFiles baseline result.tally rest

def count (mutants : List FileMutants) : Nat :=
  (mutants.flatMap FileMutants.ids).length

/-- Runs a campaign. A failure ends it; the counts are those up to there. -/
def run (campaign : Campaign) (mutants : List FileMutants) : OnBench CampaignResult := do
  let baseline ←
    if campaign.settings.cacheOnly then pure (.ok .zero)
    else OnBench.attempt campaign.baseline
  match baseline with
  | .error error => return ⟨{}, some error⟩
  | .ok baseline =>
    let tally : Tally := { total := count mutants }
    OnBench.note (.progress tally)
    campaign.testFiles baseline tally mutants

end Campaign

end MutationTesting
