import MutationTesting.Frontend
import MutationTesting.Mutant.OnDisk
import MutationTesting.Suite.Bench
/-! Listing the mutants of files, and finding, showing and applying single ones. -/
namespace MutationTesting

/-- The mutants of a file in the order in which they are tested. -/
structure FileMutants where
  file : Path
  ids : List MutantId
  deriving Repr, DecidableEq

namespace Mutator

/-- Lists the mutants of a file and adds them to the cache. -/
def addFile (mutator : Mutator) (file : Path) : OnBench FileMutants := do
  let source ← OnBench.files (OnDisk.look fun workspace => workspace.readText file)
  let ids ← mutator.ids file source
  OnBench.recache ((← OnBench.cached).updateLines file source)
  let (result, data) := (← OnBench.cached).register file ids
  OnBench.recache data
  let () ← result
  return ⟨file, ids⟩

/-- Lists the mutants of files and adds them to the cache, from the next file on. A file that
cannot be read or parsed ends this, unless such files are passed over. -/
def addFiles (mutator : Mutator) (keepGoing : Bool) : List Path → OnBench (List FileMutants)
  | [] => return []
  | file :: rest => do
    match ← OnBench.attempt (mutator.addFile file) with
    | .ok mutants => return mutants :: (← mutator.addFiles keepGoing rest)
    | .error cause =>
      if keepGoing then mutator.addFiles keepGoing rest
      else throw (.generation file cause)

/-- Lists the mutants of files, adds them to the cache and stores it. -/
def generate (mutator : Mutator) (files : List Path) (keepGoing : Bool) :
    OnBench (List FileMutants) := do
  let mutants ← mutator.addFiles keepGoing files
  OnBench.save
  return mutants

def fromCache (number : Nat) : OnBench (List FileMutants) := do
  let (file, id) ← (← OnBench.cached).lookup number
  return [⟨file, [id]⟩]

/-- The mutant that has a number in the cache, made from the file as it is now. -/
def mutantOf (mutator : Mutator) (number : Nat) : OnBench Mutant := do
  let (file, _) ← (← OnBench.cached).lookup number
  let source ← OnBench.files (OnDisk.look fun workspace => workspace.readText file)
  OnBench.recache ((← OnBench.cached).updateLines file source)
  OnBench.save
  let (_, id) ← (← OnBench.cached).lookup number
  match ← mutator.find? file source id with
  | some mutant => return mutant
  | none => throw (.mutantNotFound file id)

/-- Writes a mutant in the place of its file for good. It is not done while the file has a
backup, which may be all that is left of it. -/
def applyNumber (mutator : Mutator) (number : Nat) (backup : Bool) : OnBench Mutant := do
  let (file, _) ← (← OnBench.cached).lookup number
  OnBench.files (Backup.ensureNone [file])
  let mutant ← mutator.mutantOf number
  OnBench.files (mutant.writePermanently backup)
  return mutant

end Mutator

end MutationTesting
