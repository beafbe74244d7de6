import MutationTesting.Duration
import MutationTesting.Error
import MutationTesting.FileSystem.Workspace
import MutationTesting.Mutant.Basic
/-! Commands: what runs them and what comes of it. -/
namespace MutationTesting

inductive Ending where
  /-- It ends with an exit code. -/
  | exited (code : Nat)
  /-- It is stopped since it takes longer than it may. -/
  | timedOut
  /-- It cannot be run. -/
  | failed (fault : Fault)
  deriving Repr, DecidableEq

/-- What comes of a command: the lines of its output, how it ends and how long that takes. -/
structure CommandRun where
  lines : List String
  ending : Ending
  elapsed : Duration
  deriving Repr, DecidableEq

/-- What runs commands: the number of commands run before, a workspace, a command and the time it
may take give what comes of it and the workspace it leaves. -/
structure Executor where
  run : Nat → Workspace → String → Option Duration → CommandRun × Workspace

/-- The exit code of a run, or the error that it ends with. -/
def CommandRun.code (run : CommandRun) (command : String) (limit? : Option Duration) :
    Except Error Nat :=
  match run.ending with
  | .exited code => .ok code
  | .timedOut => .error (.timedOut command (limit?.getD .zero))
  | .failed fault => .error (.fault fault)

end MutationTesting

/-! What a run of the tests does, in order, what comes of it for each mutant, and the counts of the
outcomes. -/
namespace MutationTesting

namespace Status

/-- The status of a mutant whose tests took so long. `passed?` is whether they passed, or nothing
if they did not come to an end. Slowness counts before the outcome. -/
def ofRun (passed? : Option Bool) (elapsed limit : Duration) : Status :=
  match passed? with
  | none => timedOut
  | some passed =>
    if limit < elapsed then suspicious
    else if passed then survived
    else killed

end Status

/-- The counts of a run. -/
structure Tally where
  total : Nat := 0
  progress : Nat := 0
  killed : Nat := 0
  timedOut : Nat := 0
  suspicious : Nat := 0
  survived : Nat := 0
  skipped : Nat := 0
  deriving Repr, DecidableEq, Inhabited

namespace Tally

/-- The counts with one more mutant. -/
def record (tally : Tally) (status : Status) : Tally :=
  let tally := { tally with progress := tally.progress + 1 }
  match status with
  | .killed => { tally with killed := tally.killed + 1 }
  | .timedOut => { tally with timedOut := tally.timedOut + 1 }
  | .suspicious => { tally with suspicious := tally.suspicious + 1 }
  | .survived => { tally with survived := tally.survived + 1 }
  | .untested => { tally with skipped := tally.skipped + 1 }

/-- The exit code of a run that a failure ended. -/
def failureCode : Nat := 1

/-- The exit code: a bit for a failure and one for each sort of mutants that the tests did not
kill. -/
def exitCode (tally : Tally) (failed : Bool) : Nat :=
  (if failed then failureCode else 0) +
    (if 0 < tally.survived then 2 else 0) +
    (if 0 < tally.timedOut then 4 else 0) +
    (if 0 < tally.suspicious then 8 else 0)

/-- The mutants counted by their status. -/
def recorded (tally : Tally) : Nat :=
  tally.killed + tally.timedOut + tally.suspicious + tally.survived + tally.skipped

theorem progress_record (tally : Tally) (status : Status) :
    (tally.record status).progress = tally.progress + 1 := by
  cases status <;> rfl

theorem recorded_record (tally : Tally) (status : Status) :
    (tally.record status).recorded = tally.recorded + 1 := by
  cases status <;> simp [record, recorded] <;> omega

end Tally

/-- Why something is started. -/
inductive Purpose where
  /-- The clean run of the tests. -/
  | baseline
  /-- Putting back the data by which the tests are chosen, before they are run, for a mutant if
  there is one. -/
  | selection (mutant? : Option Mutant)
  /-- The tests, for a mutant if there is one. -/
  | test (mutant? : Option Mutant)
  /-- A command around the tests of a mutant. -/
  | hook
  deriving Repr, DecidableEq

inductive Event where
  /-- A command is started on a workspace, or what has to be done before it. -/
  | started (purpose : Purpose) (command : String) (workspace : Workspace)
  /-- The counts have changed. -/
  | progress (tally : Tally)
  /-- A mutant is done. -/
  | finished (file : Path) (id : MutantId) (status : Status)
  /-- A line of output of the clean run or of a command around a test. -/
  | output (line : String)
  /-- A line of output of the tests that is shown as it is. -/
  | echo (line : String)

end MutationTesting
