import MutationTesting.Duration
import MutationTesting.FileSystem.Fault
import MutationTesting.Mutant.Basic
import MutationTesting.Path
/-! Why an operation of the library fails, and the message that says so. -/
namespace MutationTesting

/-- What is wrong with a glob pattern, and at which of its characters. -/
structure PatternError where
  position : Nat
  reason : String
  deriving Repr, DecidableEq

def PatternError.message (error : PatternError) : String :=
  s!"Pattern syntax error near position {error.position}: {error.reason}"

inductive Error where
  /-- The source has a syntax error; lines count from one. -/
  | badSyntax (file : Path) (line : Nat) (text : String)
  /-- The mutants of a file could not be listed. -/
  | generation (file : Path) (cause : Error)
  | alreadyApplied (file : Path)
  | notApplied (file : Path)
  /-- The tests fail on the unchanged sources. -/
  | redBaseline (command output : String)
  /-- A command took longer than it may. -/
  | timedOut (command : String) (limit : Duration)
  /-- A file that an option names does not exist. -/
  | missingInput (feature : String) (file : Path)
  /-- A backup of an earlier run is still there. -/
  | orphanedBackup (file backup : Path)
  /-- The cache has no mutant of this number. -/
  | unknownMutant (number : Nat)
  /-- The source no longer has this mutant. -/
  | mutantNotFound (file : Path) (id : MutantId)
  /-- The cache has no such line. -/
  | unknownLine (file : Path) (line : String) (row : Nat)
  /-- Nothing says which code is to be mutated. -/
  | noPathsToMutate
  | badPattern (error : PatternError)
  | fault (cause : Fault)
  /-- A text is no JSON of the expected form. -/
  | json (reason : String)
  deriving Repr, DecidableEq

namespace Error

/-- The message of an error, without that of its cause. -/
def message : Error → String
  | badSyntax file line text =>
    s!"syntax error in {file.text} on line {line}: {Text.quoted text}"
  | generation file _ => s!"failed while creating mutations for file {file.text}"
  | alreadyApplied file =>
    s!"mutant for {file.text} is already applied, call revert before applying again"
  | notApplied file => s!"mutant for {file.text} is not applied, call apply before reverting"
  | redBaseline command output =>
    "tests don't run cleanly without mutations. Test command was: " ++ command ++
      "\n\nOutput:\n\n" ++ output
  | timedOut command limit =>
    "subprocess running command '" ++ command ++ "' timed out after " ++ limit.render ++
      " seconds"
  | missingInput feature file => s!"{feature} requires {file.text}, which does not exist"
  | orphanedBackup file backup =>
    s!"backup {backup.text} exists from an interrupted run; restore it with " ++
      "\x60mutator restore " ++ file.text ++ "\x60 or delete it"
  | unknownMutant number => s!"no mutant with id {number} in the cache"
  | mutantNotFound file id =>
    s!"mutant {id.describe} no longer exists in {file.text}; " ++
      "the file changed since it was generated"
  | unknownLine file line row =>
    s!"cache has no line {row} ({Text.quoted line}) for {file.text}"
  | noPathsToMutate =>
    "could not figure out where the code to mutate is; pass --paths-to-mutate"
  | badPattern error => "invalid exclusion pattern: " ++ error.message
  | fault cause => cause.message
  | json reason => reason

/-- The messages of an error and of what caused it, from the outside in. -/
def chain : Error → List String
  | generation file cause => (generation file cause).message :: cause.chain
  | badPattern error => [(badPattern error).message, error.message]
  | error => [error.message]

end Error

end MutationTesting
