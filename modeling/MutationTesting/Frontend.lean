import MutationTesting.Error
import MutationTesting.Walk.Cursor
/-! Languages, and the mutants of a source in one of them. -/
namespace MutationTesting

/-- A language: the extensions of its files, how a source becomes a tree, and what a walk needs to
know. -/
structure Frontend where
  extensions : List String
  parse : Path → String → Except Error SourceTree
  grammar : Grammar

/-- Whether a file is in a language, as its extension says. -/
def Frontend.handles (frontend : Frontend) (file : Path) : Bool :=
  file.extension?.any frontend.extensions.contains

/-- A language, the rules for its trees, and the lines that are left out. -/
structure Mutator where
  frontend : Frontend
  table : RuleTable
  policy : Policy

namespace Mutator

def setting (mutator : Mutator) (file : Path) (source : String) (tree : SourceTree) :
    Walk.Setting :=
  { grammar := mutator.frontend.grammar
    table := mutator.table
    lines := .ofSource mutator.policy file source
    source
    suffix := tree.suffix }

def mutants (mutator : Mutator) (file : Path) (source : String) : Except Error (List Mutant) :=
  (mutator.frontend.parse file source).map fun tree =>
    (Walk.Cursor.start tree.root).toList (mutator.setting file source tree)

def ids (mutator : Mutator) (file : Path) (source : String) : Except Error (List MutantId) :=
  (mutator.mutants file source).map fun mutants => mutants.map Mutant.id

/-- The mutant of a source that has a name, if there is one. -/
def find? (mutator : Mutator) (file : Path) (source : String) (id : MutantId) :
    Except Error (Option Mutant) :=
  (mutator.frontend.parse file source).map fun tree =>
    (Walk.Cursor.start tree.root).find? (mutator.setting file source tree) fun mutant =>
      mutant.id == id

end Mutator

end MutationTesting
