import MutationTesting.Cache.Store
import MutationTesting.CommandLine.Invocation
import MutationTesting.Diff.Unified
import MutationTesting.Discovery.Sources
import MutationTesting.Exclusion.Stored
import MutationTesting.Json.Value
import MutationTesting.Report.Console
import MutationTesting.Rule.Catalogue
import MutationTesting.Suite.Campaign
/-! What commands do: what they print, the code they end with, and how they leave the files. -/
namespace MutationTesting.CommandLine

/-- The files, and what has been printed. -/
structure Terminal where
  workspace : Workspace
  output : String := ""
  errors : String := ""

/-- What commands depend on: a language and what runs the tests. -/
structure Tools where
  frontend : Frontend
  executor : Executor

/-- The work of a command. A failure is the message that is printed for it. -/
abbrev Work := ExceptT String (StateM Terminal)

namespace Work

def print (text : String) : Work Unit :=
  modify fun terminal => { terminal with output := terminal.output ++ text }

/-- Prints a text where messages of failures go. -/
def printError (text : String) : Work Unit :=
  modify fun terminal => { terminal with errors := terminal.errors ++ text }

/-- The message of an error and of what caused it. -/
def messageOf (error : Error) : String :=
  String.intercalate ": " error.chain

def ofExcept (result : Except Error α) : Work α :=
  match result with
  | .ok value => return value
  | .error error => throw (messageOf error)

/-- A question about the files that may fail. -/
def look (question : Workspace → Except Error α) : Work α := do
  ofExcept (question (← get).workspace)

def onDisk (operation : OnDisk α) : Work α := do
  let terminal ← get
  let (result, workspace) := operation terminal.workspace
  set { terminal with workspace }
  ofExcept result

/-- Operations with the cache of the working directory. Yields what has been done, too. -/
def onBench (operation : OnBench α) : Work (α × List Event) := do
  let cache ← look fun workspace => Cache.openIn workspace ⟨"."⟩
  let terminal ← get
  let (result, bench) := operation ⟨terminal.workspace, cache, 0, []⟩
  set { terminal with workspace := bench.workspace }
  return (← ofExcept result, bench.log)

end Work

open Work

def projectPath (workspace : Workspace) : Path :=
  .ofComponents (.root :: workspace.here.map Component.name)

/-- The paths to mutate: those given, or the directory that looks like that of the code. -/
def pathsToMutate (tools : Tools) (given : List Path) : Work (List Path) := do
  let paths ←
    if given.isEmpty then do
      pure [← look fun workspace => Discovery.guessCode workspace (projectPath workspace)]
    else pure given
  let workspace := (← get).workspace
  paths.forM fun path => do
    if !workspace.has path then throw s!"path to mutate does not exist: {path.text}"
    if workspace.hasFile path ∧ !tools.frontend.handles path then
      let extensions := String.intercalate ", " (tools.frontend.extensions.map ("." ++ ·))
      throw s!"unsupported file type: {path.text}. Supported: {extensions}"
  return paths

/-- The lines to mutate: those that a coverage report or a patch lists, or all of them. -/
def policyOf (options : RunOptions) : Work Policy := do
  match options.coverage?, options.patch? with
  | some path, _ =>
    return (← look fun workspace => CoveredLines.readCoverage workspace path).policy
  | none, some path =>
    return (← look fun workspace => CoveredLines.readPatch workspace path).policy
  | none, none => return .everyLine

def filesToMutate (tools : Tools) (filter : Discovery.SourceFilter) (paths : List Path) :
    Work (List Path) := do
  let lists ← paths.mapM fun path =>
    look fun workspace => Discovery.sourceFiles workspace filter tools.frontend.extensions path
  return lists.flatten

/-- The mutants that a run tests, after the mutants of all files have been listed. -/
def mutantsToTest (mutator : Mutator) (options : RunOptions) (files : List Path) :
    OnBench (List FileMutants) := do
  if options.measuresAgain then OnBench.setBaseline none
  let mutants ← mutator.generate files options.settings.keepGoing
  match options.number? with
  | some number => Mutator.fromCache number
  | none => return mutants

def testMutants (tools : Tools) (options : RunOptions) : Work Nat := do
  let paths ← pathsToMutate tools options.paths
  let policy ← policyOf options
  let tests := Discovery.testDirectories (← get).workspace options.testDirectories paths
  let filter ← ofExcept (Discovery.SourceFilter.make tests options.excluded)
  let files ← filesToMutate tools filter paths
  onDisk (Backup.ensureNone files)
  let digest ← look fun workspace => Discovery.testsDigest workspace tests
  let settings := { options.settings with testsDigest := digest }
  let mutator : Mutator := ⟨tools.frontend, .python settings.synonyms, policy⟩
  let campaign : Campaign := ⟨settings, mutator, tools.executor⟩
  let (result, events) ← onBench do campaign.run (← mutantsToTest mutator options files)
  print (Report.legend false settings.testCommand)
  print (Report.events (events ++ [.output ""]))
  print (Report.summary false result.tally)
  if let some error := result.error? then printError (Report.failure false error.message)
  return result.exitCode

/-- Lists the mutants of the cache. -/
def listResults (asJson : Bool) : Work Nat := do
  let cache ← look fun workspace => Cache.openIn workspace ⟨"."⟩
  let entries := cache.data.entries
  if asJson then print ((Json.array (entries.map CacheEntry.toJson)).compact ++ "\n")
  else if entries.isEmpty then
    print (Report.success false "No mutants in the cache. Run \x60mutator run\x60 first.")
  else print (Report.results false entries)
  return 0

/-- The mutator for single mutants, which leaves out no line. -/
def mutatorFor (tools : Tools) (synonyms : List String) : Mutator :=
  ⟨tools.frontend, .python synonyms, .everyLine⟩

def showDiff (tools : Tools) (number : Nat) (synonyms : List String) : Work Nat := do
  let (mutant, _) ← onBench ((mutatorFor tools synonyms).mutantOf number)
  print (Report.diff false (Diff.unified mutant.file.text mutant.source mutant.mutated))
  return 0

/-- Puts a mutant in the place of its file. -/
def applyMutant (tools : Tools) (number : Nat) (backup : Bool) (synonyms : List String) :
    Work Nat := do
  let (mutant, _) ← onBench ((mutatorFor tools synonyms).applyNumber number backup)
  print (Report.success false s!"Applied mutant {number} to {mutant.file.text}")
  return 0

/-- Puts back a file from its backup. -/
def restoreFile (file : Path) : Work Nat := do
  match Backup.leftover? (← get).workspace file with
  | some backup =>
    onDisk (Backup.restore file backup)
    print (Report.success false s!"Restored {file.text} from {backup.text}")
    return 0
  | none =>
    printError (Report.failure false s!"No backup found for {file.text}")
    return Tally.failureCode

/-- Carries out a command. -/
def Invocation.perform (tools : Tools) : Invocation → Work Nat
  | run options => testMutants tools options
  | results asJson => listResults asJson
  | diff number synonyms => showDiff tools number synonyms
  | apply number backup synonyms => applyMutant tools number backup synonyms
  | restore file => restoreFile file

/-- What a command line yields: the exit code, what is printed, and the files. -/
structure Outcome where
  code : Nat
  output : String
  errors : String
  workspace : Workspace

/-- The exit code for a command line that is wrong. -/
def usageCode : Nat := 2

/-- The text that names the program and its version. -/
def versionLine : String := "mutator 0.1.0\n"

def outcomeOf (work : Work Nat) (workspace : Workspace) : Outcome :=
  let (result, terminal) := work { workspace }
  match result with
  | .ok code => ⟨code, terminal.output, terminal.errors, terminal.workspace⟩
  | .error message =>
    ⟨Tally.failureCode, terminal.output, terminal.errors ++ Report.failure false message,
      terminal.workspace⟩

/-- The outcome for a command line that is wrong. -/
def refused (error : UsageError) (workspace : Workspace) : Outcome :=
  ⟨usageCode, "", s!"error: {error.message}\n\nFor more information, try '--help'.\n", workspace⟩

/-- Carries out a command line. -/
def perform (tools : Tools) (environment : List (String × String)) (arguments : List String)
    (workspace : Workspace) : Outcome :=
  match Line.read environment arguments with
  | .error error => refused error workspace
  | .ok .version => ⟨0, versionLine, "", workspace⟩
  | .ok (.request request) =>
    match request.invocation with
    | .error error => refused error workspace
    | .ok invocation => outcomeOf (invocation.perform tools) workspace

end MutationTesting.CommandLine
