import MutationTesting.Decimal.Numeral
import MutationTesting.Discovery.TestDirectories
import MutationTesting.Suite.Runner
import MutationTesting.Text.Lines
import MutationTesting.Text.Search
/-! The arguments of a command line: which options a command has, and which values arguments and
variables give them. An argument wins over a variable. -/
namespace MutationTesting.CommandLine

/-- What a command line asks for. -/
inductive Command where
  /-- To test the mutants. -/
  | run
  /-- To list the mutants that were not killed. -/
  | results
  /-- To show the diff of a mutant. -/
  | diff
  /-- To put a mutant in the place of its file. -/
  | apply
  /-- To put back a file that an interrupted run has left changed. -/
  | restore
  deriving Repr, DecidableEq

def Command.word : Command → String
  | run => "run"
  | results => "results"
  | diff => "show"
  | apply => "apply"
  | restore => "restore"

def Command.all : List Command :=
  [run, results, diff, apply, restore]

inductive OptionKind where
  /-- Nothing. -/
  | flag
  /-- Nothing, and it may be given more than once. -/
  | counted
  | value
  /-- Values with commas between them, and more of them each time that it is given. -/
  | values
  deriving Repr, DecidableEq

/-- An option: its name after two dashes, its letter after one, what it takes, and the variable
whose value it has where it is not given. -/
structure OptionRule where
  name : String
  letter? : Option Char := none
  kind : OptionKind
  fallback? : Option String := none
  deriving Repr, DecidableEq

/-- How much is said about a run; it is an option of every command. -/
def verbose : OptionRule := ⟨"verbose", some 'v', .counted, none⟩

/-- Names that are called like `dict`. -/
def synonyms : OptionRule := ⟨"dict-synonyms", none, .value, some "MUTATOR_DICT_SYNONYMS"⟩

def Command.options : Command → List OptionRule
  | run => [
    ⟨"paths-to-mutate", none, .values, some "MUTATOR_PATHS_TO_MUTATE"⟩,
    ⟨"tests-dir", none, .value, some "MUTATOR_TESTS_DIR"⟩,
    ⟨"paths-to-exclude", none, .values, some "MUTATOR_PATHS_TO_EXCLUDE"⟩,
    ⟨"runner", none, .value, some "MUTATOR_RUNNER"⟩,
    ⟨"use-coverage", none, .value, none⟩, ⟨"use-patch-file", none, .value, none⟩, synonyms,
    ⟨"test-time-multiplier", none, .value, some "MUTATOR_TEST_TIME_MULTIPLIER"⟩,
    ⟨"test-time-base", none, .value, some "MUTATOR_TEST_TIME_BASE"⟩,
    ⟨"hard-timeout-factor", none, .value, some "MUTATOR_HARD_TIMEOUT_FACTOR"⟩,
    ⟨"show-output", some 's', .flag, none⟩, ⟨"cache-only", none, .flag, none⟩,
    ⟨"rerun-baseline", none, .flag, none⟩, ⟨"keep-going", none, .flag, none⟩,
    ⟨"pre-mutation", none, .value, some "MUTATOR_PRE_MUTATION"⟩,
    ⟨"post-mutation", none, .value, some "MUTATOR_POST_MUTATION"⟩, verbose]
  | results => [⟨"json", none, .flag, none⟩, verbose]
  | diff => [synonyms, verbose]
  | apply => [⟨"no-backup", none, .flag, none⟩, synonyms, verbose]
  | restore => [verbose]

/-- The name of the one operand of a command, and whether there has to be one. -/
def Command.operand? : Command → Option (String × Bool)
  | run => some ("ID", false)
  | results => none
  | diff | apply => some ("ID", true)
  | restore => some ("FILE", true)

/-- What is wrong with a command line. -/
inductive UsageError where
  | noCommand
  | unknownCommand (word : String)
  | unexpected (argument : String)
  | missingValue (option : String)
  | repeated (option : String)
  | conflict (option other : String)
  | missingOperand (name : String)
  | badValue (value name reason : String)
  deriving Repr, DecidableEq

/-- What is said of a command line that is wrong. -/
def UsageError.message : UsageError → String
  | noCommand => "'mutator' requires a subcommand but one was not provided"
  | unknownCommand word => s!"unrecognized subcommand '{word}'"
  | unexpected argument => s!"unexpected argument '{argument}' found"
  | missingValue option => s!"a value is required for '{option}' but none was supplied"
  | repeated option => s!"the argument '{option}' cannot be used multiple times"
  | conflict option other => s!"the argument '{option}' cannot be used with '{other}'"
  | missingOperand name => s!"the following required arguments were not provided:\n  <{name}>"
  | badValue value name reason => s!"invalid value '{value}' for '{name}': {reason}"

/-- What arguments give: for each option, in order, the values it was given with, and the
operand. -/
structure Given where
  values : List (String × String) := []
  operand? : Option String := none
  deriving Repr, DecidableEq

namespace Given

/-- Whether an option was given. -/
def has (given : Given) (name : String) : Bool :=
  given.values.any fun (other, _) => other = name

/-- Adds an option with a value. One that is not to be repeated is an error the second time. -/
def add (given : Given) (rule : OptionRule) (value : String) : Except UsageError Given :=
  if given.has rule.name ∧ (rule.kind = .flag ∨ rule.kind = .value) then
    .error (.repeated ("--" ++ rule.name))
  else .ok { given with values := given.values ++ [(rule.name, value)] }

def addOperand (given : Given) (command : Command) (argument : String) : Except UsageError Given :=
  if command.operand?.isSome ∧ given.operand?.isNone then
    .ok { given with operand? := some argument }
  else .error (.unexpected argument)

end Given

def isOption (argument : String) : Bool :=
  argument.startsWith "-" && argument ≠ "-"

/-- The value that an option takes from the argument after it. -/
def valueAfter (option : String) : List String → Except UsageError (String × List String)
  | value :: rest => if isOption value then .error (.missingValue option) else .ok (value, rest)
  | [] => .error (.missingValue option)

def OptionRule.takesValue (rule : OptionRule) : Bool :=
  rule.kind = .value || rule.kind = .values

/-- Reads an argument with two dashes, and perhaps the one after it. -/
def readLong (rules : List OptionRule) (given : Given) (argument : String) (rest : List String) :
    Except UsageError (Given × List String) := do
  let (name, value?) := match Text.splitOnce? "=" argument with
    | some (name, value) => (name, some value)
    | none => (argument, none)
  match rules.find? fun rule => "--" ++ rule.name = name with
  | none => throw (.unexpected name)
  | some rule =>
    match rule.takesValue, value? with
    | true, some value => return (← given.add rule value, rest)
    | true, none =>
      let (value, rest) ← valueAfter name rest
      return (← given.add rule value, rest)
    | false, none => return (← given.add rule "", rest)
    | false, some value => throw (.unexpected value)

/-- Reads the letters after one dash. None of them takes a value. -/
def readLetters (rules : List OptionRule) (given : Given) : List Char → Except UsageError Given
  | [] => .ok given
  | c :: rest =>
    match rules.find? fun rule => rule.letter? = some c with
    | some rule => do readLetters rules (← given.add rule "") rest
    | none => .error (.unexpected (String.ofList ['-', c]))

/-- Reads arguments of a command from the next one on; `fuel` is more than their number. After two
dashes all are operands. -/
def readArguments (command : Command) (fuel : Nat) (given : Given) (operandsOnly : Bool) :
    List String → Except UsageError Given
  | [] => .ok given
  | argument :: rest =>
    match fuel with
    | 0 => .ok given
    | fuel + 1 =>
      if operandsOnly ∨ !isOption argument then do
        readArguments command fuel (← given.addOperand command argument) operandsOnly rest
      else if argument = "--" then readArguments command fuel given true rest
      else if argument.startsWith "--" then do
        let (given, rest) ← readLong command.options given argument rest
        readArguments command fuel given false rest
      else do
        readArguments command fuel
          (← readLetters command.options given (argument.toList.drop 1)) false rest

/-- A command with what its arguments and variables give. -/
structure Request where
  command : Command
  given : Given
  environment : List (String × String)
  deriving Repr, DecidableEq

/-- What a command line asks for: the version, or a command. -/
inductive Line where
  | version
  | request (request : Request)
  deriving Repr, DecidableEq

/-- Whether letters before the command ask for the version, as `V` does. Before it there may only
be the letter for how much is to be said. -/
def asksVersion : List Char → Except UsageError Bool
  | [] => .ok false
  | 'V' :: _ => .ok true
  | c :: rest =>
    if verbose.letter? = some c then asksVersion rest
    else .error (.unexpected (String.ofList ['-', c]))

/-- Reads a command line. How much is to be said may stand before the command. -/
def Line.read (environment : List (String × String)) : List String → Except UsageError Line
  | [] => .error .noCommand
  | argument :: rest =>
    if argument = "--version" then .ok .version
    else if argument = "--verbose" then Line.read environment rest
    else if isOption argument then
      match asksVersion (argument.toList.drop 1) with
      | .ok true => .ok .version
      | .ok false => Line.read environment rest
      | .error error => .error error
    else
      match Command.all.find? fun command => command.word = argument with
      | none => .error (.unknownCommand argument)
      | some command => do
        let given ← readArguments command (rest.length + 1) {} false rest
        match command.operand?, given.operand? with
        | some (name, true), none => throw (.missingOperand name)
        | _, _ => return .request ⟨command, given, environment⟩

namespace Request

def rule? (request : Request) (name : String) : Option OptionRule :=
  request.command.options.find? fun rule => rule.name = name

def fromVariable? (request : Request) (name : String) : Option String :=
  ((request.rule? name).bind OptionRule.fallback?).bind fun key =>
    request.environment.lookup key

/-- Whether a flag was given. -/
def has (request : Request) (name : String) : Bool :=
  request.given.has name

def value? (request : Request) (name : String) : Option String :=
  (request.given.values.lookup name).or (request.fromVariable? name)

/-- The values of an option that may have several. -/
def values (request : Request) (name : String) : List String :=
  let given := request.given.values.filterMap fun (other, value) =>
    if other = name then some value else none
  let texts := if given.isEmpty then (request.fromVariable? name).toList else given
  texts.flatMap (Text.splitAt ',')

end Request

/-! Commands with the values of their options read. -/

structure RunOptions where
  /-- The one mutant to test, if not all of them are. -/
  number? : Option Nat
  paths : List Path
  testDirectories : String
  excluded : List String
  coverage? : Option Path
  patch? : Option Path
  /-- Whether the time of the clean run is measured anew. -/
  measuresAgain : Bool
  /-- The settings that follow from options alone. -/
  settings : Settings

/-- A command with the values of its options. -/
inductive Invocation where
  | run (options : RunOptions)
  | results (asJson : Bool)
  | diff (number : Nat) (synonyms : List String)
  | apply (number : Nat) (backup : Bool) (synonyms : List String)
  | restore (file : Path)

/-- The names that a text lists with commas between them. -/
def namesOf (text : String) : List String :=
  ((Text.splitAt ',' text).map Text.trim).filter (· ≠ "")

def readNumber (text : String) : Except UsageError Nat :=
  match Decimal.word? 64 10 text.toList with
  | some number => .ok number
  | none =>
    let digits := if text.toList.head? = some '+' then text.toList.drop 1 else text.toList
    let reason :=
      if text = "" then "cannot parse integer from empty string"
      else if digits ≠ [] ∧ digits.all Decimal.isDigit then "number too large to fit in target type"
      else "invalid digit found in string"
    .error (.badValue text "ID" reason)

namespace Request

/-- The value of an option that is a number of seconds or a factor. -/
def float (request : Request) (name : String) (default : Float) : Except UsageError Float :=
  match request.value? name with
  | none => .ok default
  | some text =>
    match Decimal.float? text with
    | some value => .ok value
    | none =>
      .error (.badValue text ("--" ++ name)
        (if text = "" then "cannot parse float from empty string" else "invalid float literal"))

/-- A path that an option names; it must not be empty. -/
def path (name text : String) : Except UsageError Path :=
  if text = "" then .error (.missingValue ("--" ++ name)) else .ok ⟨text⟩

def path? (request : Request) (name : String) : Except UsageError (Option Path) :=
  match request.value? name with
  | some text => (path name text).map some
  | none => .ok none

/-- The names that are called like `dict`. -/
def synonyms (request : Request) : List String :=
  namesOf ((request.value? "dict-synonyms").getD "")

/-- The settings that follow from options. -/
def settings (request : Request) : Except UsageError Settings := do
  let usual : Settings := {}
  return {
    testCommand := (request.value? "runner").getD usual.testCommand
    hidesOutput := !request.has "show-output"
    cacheOnly := request.has "cache-only"
    base := (← request.float "test-time-base" usual.base)
    multiplier := (← request.float "test-time-multiplier" usual.multiplier)
    hardFactor := (← request.float "hard-timeout-factor" usual.hardFactor)
    before? := request.value? "pre-mutation"
    after? := request.value? "post-mutation"
    synonyms := request.synonyms
    keepGoing := request.has "keep-going" }

/-- Reads the values of the options of a run. -/
def runOptions (request : Request) : Except UsageError RunOptions := do
  let number? ← match request.given.operand? with
    | some text => (readNumber text).map some
    | none => pure none
  let paths ← (request.values "paths-to-mutate").mapM (path "paths-to-mutate")
  let coverage? ← request.path? "use-coverage"
  let patch? ← request.path? "use-patch-file"
  if coverage?.isSome ∧ patch?.isSome then throw (.conflict "--use-coverage" "--use-patch-file")
  return {
    number?
    paths
    testDirectories := (request.value? "tests-dir").getD Discovery.defaultTestDirectories
    excluded := request.values "paths-to-exclude"
    coverage?
    patch?
    measuresAgain := request.has "rerun-baseline"
    settings := (← request.settings) }

/-- Reads the values of the options of a command. -/
def invocation (request : Request) : Except UsageError Invocation := do
  let operand := request.given.operand?.getD ""
  match request.command with
  | .run => return .run (← request.runOptions)
  | .results => return .results (request.has "json")
  | .diff => return .diff (← readNumber operand) request.synonyms
  | .apply => return .apply (← readNumber operand) (!request.has "no-backup") request.synonyms
  | .restore => if operand = "" then throw (.missingOperand "FILE") else return .restore ⟨operand⟩

end Request

end MutationTesting.CommandLine
