import MutationTesting.Proofs.Python.Names
import MutationTesting.Proofs.Suite.Generations
/-! Listing the mutants of files that can be parsed: all files are listed, with the names of the
mutants that walks over their texts yield, and what the cache had on lines that have stayed is
kept. -/
namespace MutationTesting

/-- A walk over the text of a file, and the mutants that it yields. -/
structure FileWalk where
  file : Path
  source : String
  mutants : List Mutant

namespace FileWalk

/-- The mutants of a walk by their names. -/
def listed (walk : FileWalk) : FileMutants :=
  ⟨walk.file, walk.mutants.map Mutant.id⟩

/-- A walk is one over a file of a workspace. Its mutants have different names, each with the text of
its row. -/
structure IsOf (walk : FileWalk) (mutator : Mutator) (workspace : Workspace) : Prop where
  text : workspace.readText walk.file = .ok walk.source
  made : mutator.mutants walk.file walk.source = .ok walk.mutants
  distinct : (walk.mutants.map Mutant.id).Nodup
  lines : ∀ mutant ∈ walk.mutants, (Text.rows walk.source)[mutant.id.row]? = some mutant.id.line

variable {walk : FileWalk} {mutator : Mutator} {workspace further : Workspace}

theorem IsOf.congr (isOf : walk.IsOf mutator workspace)
    (same : further.readText walk.file = workspace.readText walk.file) :
    walk.IsOf mutator further :=
  { isOf with text := same.trans isOf.text }

theorem IsOf.ids (isOf : walk.IsOf mutator workspace) :
    mutator.ids walk.file walk.source = .ok walk.listed.ids :=
  congrArg (Except.map (List.map Mutant.id)) isOf.made

theorem IsOf.find? (isOf : walk.IsOf mutator workspace) {mutant : Mutant}
    (member : mutant ∈ walk.mutants) :
    mutator.find? walk.file walk.source mutant.id = .ok (some mutant) := by
  rw [Mutator.find?_eq, isOf.made]
  exact congrArg Except.ok (find?_id isOf.distinct member)

end FileWalk

namespace Python

end Python

namespace CacheData

variable {data : CacheData} {path other : Path} {source : String} {id : MutantId}
  {mutant : CachedMutant}

theorem linesOf_register_of_not_same (apart : other.same path = false) (data : CacheData)
    (ids : List MutantId) : (data.register path ids).2.linesOf other = data.linesOf other := by
  refine register_rule (fun after => after.linesOf other = data.linesOf other) rfl ?_
  intro id _ before after same _ added
  obtain ⟨between, isChanged, rfl⟩ := Option.map_eq_some_iff.mp added
  obtain ⟨_, _, _, -, -, -, off⟩ := linesOf_changeLine? isChanged
  exact (off other apart).trans same

end CacheData

namespace Mutator

variable {mutator : Mutator} {workspace : Workspace} {file : Path} {source : String} {id : MutantId}
  {mutant : CachedMutant} {data : CacheData}

end Mutator

end MutationTesting
