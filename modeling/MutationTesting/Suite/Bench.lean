import MutationTesting.Cache.Store
import MutationTesting.Suite.Event
/-! The state in which mutants are tested, and the operations on it. -/
namespace MutationTesting

/-- The files, the cache, the number of commands run so far, and what has been done. -/
structure Bench where
  workspace : Workspace
  cache : Cache
  turn : Nat
  log : List Event

/-- Operations on a bench that may fail; what was done before a failure stays. -/
abbrev OnBench := ExceptT Error (StateM Bench)

namespace OnBench

def files (operation : OnDisk α) : OnBench α := fun bench =>
  let (result, workspace) := operation bench.workspace
  (result, { bench with workspace })

/-- The outcome of operations, be it a failure. -/
def attempt (operation : OnBench α) : OnBench (Except Error α) := fun bench =>
  let (result, bench) := operation bench
  (.ok result, bench)

def cached : OnBench CacheData := fun bench =>
  (.ok bench.cache.data, bench)

/-- Replaces the data of the cache, in memory. -/
def recache (data : CacheData) : OnBench Unit := fun bench =>
  (.ok (), { bench with cache := { bench.cache with data } })

/-- Stores the cache. -/
def save : OnBench Unit := fun bench =>
  let (result, workspace) := bench.cache.save bench.workspace
  (result, { bench with workspace })

/-- Adds to what has been done. -/
def note (event : Event) : OnBench Unit := fun bench =>
  (.ok (), { bench with log := bench.log ++ [event] })

/-- Adds to what has been done that something is started. -/
def begin (purpose : Purpose) (command : String) : OnBench Unit := fun bench =>
  (.ok (), { bench with log := bench.log ++ [.started purpose command bench.workspace] })

def execute (executor : Executor) (purpose : Purpose) (command : String)
    (limit? : Option Duration) : OnBench CommandRun := fun bench =>
  let (run, workspace) := executor.run bench.turn bench.workspace command limit?
  (.ok run,
    { bench with
      workspace
      turn := bench.turn + 1
      log := bench.log ++ [.started purpose command bench.workspace] })

/-- Sets the time of the clean run and stores the cache. -/
def setBaseline (seconds? : Option Float) : OnBench Unit := do
  recache { ← cached with baseline? := seconds? }
  save

/-- Sets the status of a mutant and stores the cache. -/
def setStatus (file : Path) (id : MutantId) (status : Status) (digest : String) :
    OnBench Unit := do
  recache (← (← cached).setStatus file id status digest)
  save

end OnBench

end MutationTesting
