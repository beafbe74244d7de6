import MutationTesting.Shell.Job
/-! What the programs have in common: their options, what they read, and what they say of faults. -/
namespace MutationTesting.Shell

/-- A program: what carries out the tasks that it leaves to others and its arguments give its exit
code. -/
abbrev Program := Actor → List String → Sh Nat

inductive Need where
  | none
  | optional
  | required
  deriving Repr, DecidableEq

/-- An option of a program: the names it goes by, of one letter or more, and whether it has an
argument. It is known by the first of its names. -/
structure OptionRule where
  names : List String
  need : Need
  deriving Repr, DecidableEq

namespace OptionRule

def key (rule : OptionRule) : String :=
  rule.names.headD ""

/-- The rule that a text describes: names between commas, with a colon behind them for an
argument and two for one that may be missing. -/
def ofText (text : String) : OptionRule :=
  let plain := text.toList.filter (· ≠ ':')
  let colons := text.length - plain.length
  { names := (Text.pieces ',' plain).map String.ofList
    need := if colons = 0 then .none else if colons = 1 then .required else .optional }

/-- The rules that a text describes, one between blanks each. -/
def all (text : String) : List OptionRule :=
  ((Text.pieces ' ' text.toList).filter (!·.isEmpty)).map fun piece =>
    ofText (String.ofList piece)

end OptionRule

/-- The options that have been given, with their arguments, and the other arguments. -/
structure Given where
  options : List (String × Option String) := []
  operands : List String := []

namespace Given

def has (given : Given) (key : String) : Bool :=
  given.options.any fun (other, _) => other = key

/-- The argument of the last option of a name. -/
def last? (given : Given) (key : String) : Option String :=
  (given.options.reverse.find? fun (other, _) => other = key).bind Prod.snd

/-- The arguments of all options of a name. -/
def all (given : Given) (key : String) : List String :=
  given.options.filterMap fun (other, value?) => if other = key then value? else none

def latest? (given : Given) (keys : List String) : Option String :=
  (given.options.reverse.find? fun (key, _) => keys.contains key).map Prod.fst

def withOption (given : Given) (key : String) (value? : Option String) : Given :=
  { given with options := (key, value?) :: given.options }

end Given

/-- Whether a character needs no quotes in a message. -/
def isSafeInNames (c : Char) : Bool :=
  c.isAlphanum || "%+,-./:@_]^\x7b\x7d~#".toList.contains c

/-- A name as messages show it, in quotes if it needs some. -/
def shownName (name : String) : String :=
  let cs := name.toList
  let isHidden (c : Char) : Bool := c.toNat < 0x20 || 0x7F ≤ c.toNat
  let startsOddly := cs.head? = some '#' || cs.head? = some '~'
  if cs.isEmpty then "''"
  else if cs.all isSafeInNames && !startsOddly then name
  else if cs.any isHidden then String.ofList (hidden false cs)
  else if cs.contains '\'' then
    if cs.any fun c => "\"$\x60\\!".toList.contains c then
      String.ofList ('\'' :: cs.flatMap (fun c =>
        if c = '\'' then ['\'', '\\', '\'', '\''] else [c]) ++ ['\''])
    else "\"" ++ name ++ "\""
  else "'" ++ name ++ "'"
where
  /-- Quotes in which characters that cannot be seen are written in another way. -/
  hidden (isOpen : Bool) : List Char → List Char
    | [] => if isOpen then ['\''] else []
    | c :: rest =>
      let open_ := if isOpen then [] else ['\'']
      let close := if isOpen then ['\''] else ['\'', '\'']
      if c.toNat < 0x20 || 0x7F ≤ c.toNat then
        let code := match c with
          | '\n' => ['\\', 'n']
          | '\t' => ['\\', 't']
          | '\r' => ['\\', 'r']
          | _ =>
            let digits := Nat.toDigits 8 c.toNat
            '\\' :: List.replicate (3 - digits.length) '0' ++ digits
        close ++ ['$', '\''] ++ code ++ ['\''] ++ hidden false rest
      else if c = '\'' then close ++ ['\\', '\''] ++ hidden false rest
      else open_ ++ c :: hidden true rest

def quotedName (name : String) : String :=
  let shown := shownName name
  if shown = name then "'" ++ name ++ "'" else shown

/-- A word as messages show it between plain quotes. -/
def plainlyQuoted (text : String) : String :=
  "'" ++ String.ofList (text.toList.flatMap fun c =>
    match c with
    | '\'' => ['\\', '\'']
    | '\n' => ['\\', 'n']
    | '\t' => ['\\', 't']
    | '\r' => ['\\', 'r']
    | '\\' => ['\\', '\\']
    | c =>
      if c.toNat < 0x20 || 0x7F ≤ c.toNat then
        let digits := Nat.toDigits 8 c.toNat
        '\\' :: List.replicate (3 - digits.length) '0' ++ digits
      else [c]) ++ "'"

/-- The pieces of a text between the occurrences of a character. -/
def piecesAt (mark : Char) (text : String) : List String :=
  let (last, found) := text.foldl (fun (current, found) c =>
    if c = mark then ("", current :: found) else (current.push c, found)) ("", [])
  (last :: found).reverse

def linesEndedBy (mark : Char) (text : String) : List String :=
  let (last, found) := text.foldl (fun (current, found) c =>
    if c = mark then ("", current :: found) else (current.push c, found)) ("", [])
  (if last.isEmpty then found else last :: found).reverse

def linesOf (text : String) : List String :=
  linesEndedBy '\n' text

def endsInLine (mark : Char) (text : String) : Bool :=
  !text.isEmpty && text.back ≠ mark

namespace Sh

def programName : Sh String := do
  return (← process).command?.getD ""

/-- Writes a message of a program, behind what it has written before. -/
def warn (message : String) : Sh Unit := do
  let _ ← flush
  tryWrite 2 ((← programName) ++ ": " ++ message ++ "\n")

def fail (code : Nat) (message : String) : Sh α := do
  warn message
  throw (.exit code)

/-- How a program says where more is to be found about it. -/
def hint (name : String) : String :=
  let more := "Try '" ++ name ++ " --help' for more information.\n"
  match name with
  | "grep" =>
    "Usage: grep [OPTION]... PATTERNS [FILE]...\nTry 'grep --help' for more information.\n"
  | "diff" | "cmp" => name ++ ": " ++ more
  | _ => more

/-- Ends a program that has been called without what it needs. -/
def usage (code : Nat) : Sh α := do
  tryWrite 2 (hint (← programName))
  throw (.exit code)

/-- Ends a program that has not been called as it should be. -/
def failUsage (code : Nat) (message : String) : Sh α := do
  warn message
  usage code

/-- Ends a program since a word is none of those that an option may have. -/
def failChoice (code : Nat) (option text : String) (choices : List (List String)) : Sh α := do
  warn ("invalid argument " ++ quotedName text ++ " for '" ++ option ++ "'")
  tryWrite 2 ("Valid arguments are:\n" ++ String.join (choices.map fun names =>
    "  - " ++ String.intercalate ", " (names.map fun name => "'" ++ name ++ "'") ++ "\n"))
  usage code

/-- Ends a program since an operand is missing. -/
def failMissing (code : Nat) : Sh α :=
  failUsage code "missing operand"

/-- Ends a program since there is an operand too many. -/
def failExtra (code : Nat) (operand : String) : Sh α :=
  failUsage code ("extra operand " ++ quotedName operand)

/-- Takes the options of letters. Yields whether the last one still needs an argument. -/
def takeLetters (code : Nat) (rules : List OptionRule) : List Char →
    Sh (List (String × Option String) × Option (OptionRule × Char))
  | [] => return ([], none)
  | letter :: rest => do
    match rules.find? fun rule => rule.names.contains (String.singleton letter) with
    | none => failUsage code s!"invalid option -- '{letter}'"
    | some rule =>
      match rule.need, rest with
      | .none, _ =>
        let (others, open?) ← takeLetters code rules rest
        return ((rule.key, none) :: others, open?)
      | .required, [] => return ([], some (rule, letter))
      | .optional, [] => return ([(rule.key, none)], none)
      | _, value => return ([(rule.key, some (String.ofList value))], none)

def takeGiven (code : Nat) (rules : List OptionRule) (stops : Bool) : (fuel : Nat) → List String →
    Sh Given
  | 0, _ => return {}
  | _, [] => return {}
  | fuel + 1, argument :: rest => do
    match argument.toList with
    | ['-', '-'] => return { operands := rest }
    | '-' :: '-' :: long =>
      let name := String.ofList (long.takeWhile (· ≠ '='))
      let value? := if name.length < long.length then
          some (String.ofList (long.drop (name.length + 1))) else none
      let longs (rule : OptionRule) : List String := rule.names.filter fun name => 1 < name.length
      let candidates := rules.flatMap fun rule =>
        (longs rule).filterMap fun long =>
          if name.toList.isPrefixOf long.toList then some (long, rule) else none
      let exact := candidates.find? fun (long, _) => long = name
      let isOne := candidates.all fun (_, rule) => some rule = candidates.head?.map Prod.snd
      match exact.or (if isOne then candidates.head? else none) with
      | none =>
        if candidates.isEmpty then
          failUsage code ("unrecognized option '--" ++ String.ofList long ++ "'")
        else
          let list := String.join (candidates.map fun (long, _) => s!" '--{long}'")
          failUsage code s!"option '--{name}' is ambiguous; possibilities:{list}"
      | some (long, rule) =>
        match rule.need, value? with
        | .none, some _ => failUsage code s!"option '--{long}' doesn't allow an argument"
        | .required, none =>
          match rest with
          | value :: rest =>
            return (← takeGiven code rules stops fuel rest).withOption rule.key (some value)
          | [] => failUsage code s!"option '--{long}' requires an argument"
        | _, _ => return (← takeGiven code rules stops fuel rest).withOption rule.key value?
    | '-' :: letters =>
      if letters.isEmpty then takeOperand fuel argument rest
      else
        let (options, open?) ← takeLetters code rules letters
        let (options, rest) ← match open?, rest with
          | none, _ => pure (options, rest)
          | some (rule, _), value :: rest => pure (options ++ [(rule.key, some value)], rest)
          | some (_, letter), [] => failUsage code s!"option requires an argument -- '{letter}'"
        let given ← takeGiven code rules stops fuel rest
        return { given with options := options ++ given.options }
    | _ => takeOperand fuel argument rest
where
  takeOperand (fuel : Nat) (argument : String) (rest : List String) : Sh Given := do
    if stops then return { operands := argument :: rest }
    let given ← takeGiven code rules stops fuel rest
    return { given with operands := argument :: given.operands }

/-- Takes the options of a program from its arguments. `code` is its exit code if one of them is
wrong. -/
def takeAll (code : Nat) (rules : String) (arguments : List String) : Sh Given := do
  takeGiven code (OptionRule.all rules) false (arguments.length + 1) arguments

/-- Takes the options of a program from what comes before its operands. -/
def takeFirst (code : Nat) (rules : String) (arguments : List String) : Sh Given := do
  takeGiven code (OptionRule.all rules) true (arguments.length + 1) arguments

/-- Opens a file to read it; a hyphen stands for the input. Yields why that is not possible. -/
def openInput (path : String) : Sh (Except String (Nat × Opened)) := do
  if path = "-" then
    match ← opened? 0 with
    | some opened => return .ok opened
    | none => return .error badDescriptor
  else
    match ← openFile .read path with
    | .error reason => return .error reason
    | .ok opened => return .ok (← newOpened opened, opened)

def readInput (amount : Amount) (path : String) : Sh (Except String ByteArray) := do
  match ← openInput path with
  | .error reason => return .error reason
  | .ok (number, opened) => return (← readFrom number opened amount).map Prod.fst

/-- Whether what is read from a file never ends. -/
def isEndlessInput (path : String) : Sh Bool := do
  if path = "-" then isEndless 0
  else
    match (← addressOf path).toOption.bind deviceOf? with
    | some (.inl .zeros) | some (.inl .full) => return true
    | some (.inr descriptor) => isEndless descriptor
    | _ => return false

/-- The content of a file as a text of bytes. If it cannot be read, that is said. -/
def contentOf? (path : String) : Sh (Option String) := do
  match ← readInput .sample path with
  | .ok bytes => return some (textOfBytes bytes)
  | .error reason =>
    warn (shownName path ++ ": " ++ reason)
    return none

/-- Ends a program that goes on without end, as soon as what it has written has been read. -/
def endIfEndless (paths : List String) : Sh Unit := do
  let isEndless ← paths.anyM isEndlessInput
  if isEndless then
    let _ ← flush
    match ← opened? 1 with
    | some (_, { target := .pipe place, .. }) => endWriter place
    | _ => throw .stop

/-- The contents of files, and the exit code, which is one if one of them cannot be read. Without
paths the input is read. -/
def contentsOf (paths : List String) : Sh (List String × Nat) := do
  let paths := if paths.isEmpty then ["-"] else paths
  let found ← paths.mapM contentOf?
  return (found.filterMap id, if found.all Option.isSome then 0 else 1)

/-- Writes what becomes of the contents of files together. -/
def filter (change : String → String) (paths : List String) : Sh Nat := do
  let paths := if paths.isEmpty then ["-"] else paths
  let (contents, code) ← contentsOf paths
  say (change (String.join contents))
  endIfEndless paths
  return code

/-- How a program that another program starts ends. -/
inductive Launched where
  | ended (fate : Fate)
  | missing
  | denied

/-- The path of the program of a name, or whether it may not be run. -/
def findProgram (name : String) : Sh (Except Bool String) := do
  let found ←
    if name.toList.contains '/' then
      match ← isProgram? name with
      | some true => pure (Meaning.program name)
      | some false => pure (Meaning.missing "Permission denied")
      | none => pure (Meaning.missing "not found")
    else
      let path := ((← environment).lookup "PATH").getD "/bin:/usr/bin"
      search name "not found" (directories path)
  match found with
  | .program path => return .ok path
  | .missing reason => return .error (reason ≠ "not found")
  | _ => return .error false

/-- Runs a program by its name, as a program does. -/
def launch (self : Actor) (arguments : List String) : Sh Launched := do
  let _ ← flush
  match ← findProgram (arguments.headD "") with
  | .ok path => return .ended (← fork (self (.program path arguments)))
  | .error isDenied => return if isDenied then .denied else .missing

/-- Runs a script in a shell, as a program does. -/
def launchScript (self : Actor) (script : String) : Sh Fate := do
  let _ ← flush
  fork (self (.program "/bin/sh" ["sh", "-c", script]))

/-- What a script that is run in a shell of a name writes, and how it ends. -/
def textFrom (self : Actor) (name script : String) : Sh (String × Fate) := do
  let _ ← flush
  let place ← newPipe
  let number ← newOpened { target := .pipe place, reads := false }
  let fate ← fork do
    connect 1 (some number)
    self (.program "/bin/sh" [name, "-c", script])
  let (parts, _) ← readPipe place ((← pipe place).piecesLeft + 1) .sample []
  dropPipe place
  return (textOfBytes (joinParts parts), fate)

/-- Runs a program to its end, and writes what it has kept. -/
def runProgram (program : Program) (self : Actor) (arguments : List String) : Sh Nat := do
  let name := arguments.headD ""
  setProcess fun process => { process with command? := some name, buffer := [] }
  let result ← attempt (program self (arguments.drop 1))
  match result with
  | .ok code | .error (.exit code) =>
    match ← flush with
    | none => return code
    | some reason =>
      tryWrite 2 (name ++ ": write error: " ++ reason ++ "\n")
      return max code 1
  | .error interrupt => throw interrupt

def joinLines (lines : List String) : String :=
  String.join (lines.map (· ++ "\n"))

end Sh

end MutationTesting.Shell
