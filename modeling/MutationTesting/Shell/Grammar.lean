import MutationTesting.Shell.Lexer
/-! Reading commands. A script is read one complete command at a time, so that the commands before
a fault have been run when it is found. `fuel` bounds how deep commands lie in each other and how
many follow one another. -/
namespace MutationTesting.Shell

/-- The commands whose failure ends the shell; a function cannot have the name of one. -/
def specialCommands : List String :=
  [".", ":", "break", "continue", "eval", "exec", "exit", "export", "readonly", "return", "set",
    "shift", "times", "trap", "unset"]

inductive ListEnd where
  /-- The end of the line. -/
  | line
  /-- A token that is none of its commands, which have to be there. -/
  | token
  /-- Such a token, before which there may be no command. -/
  | tokenOrNone
  deriving Repr, DecidableEq

namespace Reader

/-- What is looked for where a command starts. -/
def atCommand : Expected :=
  { skipsNewlines := true, keywords := true, aliases := true }

/-- What is looked for where a command starts that stands on the same line. -/
def atCommandHere : Expected :=
  { keywords := true, aliases := true }

/-- The command that runs one after another. -/
def followedBy (first second : Script) : Script :=
  if first.isNothing then second else .sequence first second

/-- The command as one that runs in the background. -/
def inBackground (line : Nat) : Script → Script
  | .pipeline stages _ => .pipeline stages true
  | .redirected line body redirections => .background line body redirections
  | body => .background line body []

def redirectionTarget (token : Reader Token) : Reader Redirection := do
  let (descriptor, kind) := (← get).redirection
  if let .document _ := kind then expect { endMark := true }
  if (← token) ≠ .word then refuseToken none
  let state ← get
  match kind with
  | .file opening => return .file opening descriptor state.word
  | .duplicate isOutput => return .duplicate isOutput descriptor state.word
  | .document dropsTabs =>
    let number := state.nextDocument
    let endMark := (Word.text state.word).toList
    let awaited : Awaited := ⟨number, endMark, dropsTabs, state.isQuoted⟩
    set { state with nextDocument := number + 1, awaited := state.awaited ++ [awaited] }
    return .document descriptor number state.isQuoted

mutual

/-- Reads a list of commands. Yields nothing at the end of the script. -/
def list (fuel : Nat) (stop : ListEnd) (isFirst : Bool) (before : Script) :
    Reader (Option Script) := do
  match fuel with
  | 0 => refuse "too deep"
  | fuel + 1 =>
    expect { atCommand with skipsNewlines := stop ≠ .line }
    match ← token (nested fuel) with
    | .newline =>
      readDocuments (nested fuel)
      return some before
    | .endOfFile => atEnd fuel stop before
    | first =>
      putTokenBack
      if (stop = .tokenOrNone || (stop = .token && !isFirst)) && first.endsList then
        return some before
      let line := (← get).line
      let command ← andOr fuel
      let after ← token (nested fuel)
      let command := if after = .background then inBackground line command else command
      let all := followedBy before command
      match after with
      | .endOfFile => atEnd fuel stop all
      | .newline =>
        putTokenBack
        list fuel stop false all
      | .background | .semicolon => list fuel stop false all
      | _ =>
        if stop = .line then refuseToken none
        putTokenBack
        return some all

def atEnd (fuel : Nat) (stop : ListEnd) (commands : Script) : Reader (Option Script) := do
  readDocuments (nested fuel)
  putTokenBack
  modify fun state => { state with token := .endOfFile }
  return if commands.isNothing && stop = .line then none else some commands

/-- Reads commands up to a token that is none of them. -/
def commands (fuel : Nat) : Reader Script := do
  match fuel with
  | 0 => refuse "too deep"
  | fuel + 1 => return (← list fuel .token true .nothing).getD .nothing

def nested (fuel : Nat) (isBackquoted : Bool) : Reader Script := do
  match fuel with
  | 0 => refuse "too deep"
  | fuel + 1 =>
    let awaited := (← get).awaited
    modify fun state => { state with awaited := [] }
    let script := (← list fuel .tokenOrNone true .nothing).getD .nothing
    if !isBackquoted then
      if (← token (nested fuel)) ≠ .rightParenthesis then refuseToken (some .rightParenthesis)
      let before ← get
      set { before with rest := [], inserted := [] }
      readDocuments (nested fuel)
      modify fun state => { state with rest := before.rest, inserted := before.inserted }
    modify fun state => { state with awaited }
    return script

/-- Reads pipelines of which each runs if the one before it succeeds or fails. -/
def andOr (fuel : Nat) : Reader Script := do
  match fuel with
  | 0 => refuse "too deep"
  | fuel + 1 => moreAndOr fuel (← pipeline fuel)

def moreAndOr (fuel : Nat) (first : Script) : Reader Script := do
  match fuel with
  | 0 => refuse "too deep"
  | fuel + 1 =>
    let sign ← token (nested fuel)
    if sign = .both || sign = .either then
      expect atCommand
      let second ← pipeline fuel
      moreAndOr fuel (if sign = .both then .both first second else .either first second)
    else
      putTokenBack
      return first

/-- Reads a pipeline, perhaps one whose outcome is turned round. -/
def pipeline (fuel : Nat) : Reader Script := do
  match fuel with
  | 0 => refuse "too deep"
  | fuel + 1 =>
    let isNegated := (← token (nested fuel)) = .keyword .not
    if isNegated then expect atCommandHere else putTokenBack
    let first ← command fuel
    let stages ← stages fuel
    let all := if stages.isEmpty then first else .pipeline (first :: stages) false
    return if isNegated then .negation all else all

/-- Reads the commands that a pipe leads to. -/
def stages (fuel : Nat) : Reader (List Script) := do
  match fuel with
  | 0 => refuse "too deep"
  | fuel + 1 =>
    if (← token (nested fuel)) = .pipe then
      expect atCommand
      let stage ← command fuel
      return stage :: (← stages fuel)
    else
      putTokenBack
      return []

def need (fuel : Nat) (keyword : Keyword) : Reader Unit := do
  match fuel with
  | 0 => refuse "too deep"
  | fuel + 1 =>
    if (← token (nested fuel)) ≠ .keyword keyword then refuseToken (some (.keyword keyword))

def branches (fuel : Nat) : Reader Script := do
  match fuel with
  | 0 => refuse "too deep"
  | fuel + 1 =>
    let condition ← commands fuel
    need fuel .then
    let yes ← commands fuel
    match ← token (nested fuel) with
    | .keyword .elif => return .branch condition yes (← branches fuel)
    | .keyword .else => return .branch condition yes (← commands fuel)
    | _ =>
      putTokenBack
      return .branch condition yes .nothing

def words (fuel : Nat) : Reader (List Word) := do
  match fuel with
  | 0 => refuse "too deep"
  | fuel + 1 =>
    if (← token (nested fuel)) = .word then
      let word := (← get).word
      return word :: (← words fuel)
    else return []

def each (fuel line : Nat) : Reader Script := do
  match fuel with
  | 0 => refuse "too deep"
  | fuel + 1 =>
    let name ← token (nested fuel)
    let state ← get
    let loopName? := if state.isQuoted then none else state.word.literal?.filter isName
    match name, loopName? with
    | .word, some loopName =>
      expect atCommand
      let words ←
        if (← token (nested fuel)) = .keyword .in then do
          let words ← words fuel
          let last := (← get).token
          if last ≠ .newline ∧ last ≠ .semicolon then refuseToken none
          pure words
        else do
          if (← get).token ≠ .semicolon then putTokenBack
          pure [[.mark, .parameter "@" .plain false [], .mark]]
      expect atCommand
      need fuel .do
      return .each line loopName words (← commands fuel)
    | _, _ => refuse "Bad for loop variable"

/-- Reads the patterns of a case, of which the first one has been read. -/
def patterns (fuel : Nat) : Reader (List Word) := do
  match fuel with
  | 0 => refuse "too deep"
  | fuel + 1 =>
    let word := (← get).word
    if (← token (nested fuel)) = .pipe then
      let _ ← token (nested fuel)
      return word :: (← patterns fuel)
    else return [word]

def cases (fuel : Nat) : Reader (List (List Word × Script)) := do
  match fuel with
  | 0 => refuse "too deep"
  | fuel + 1 =>
    expect { skipsNewlines := true, keywords := true }
    let first ← token (nested fuel)
    if first = .keyword .esac then return []
    if first = .leftParenthesis then let _ ← token (nested fuel)
    let patterns ← patterns fuel
    if (← get).token ≠ .rightParenthesis then refuseToken (some .rightParenthesis)
    let body := (← list fuel .tokenOrNone true .nothing).getD .nothing
    expect { skipsNewlines := true, keywords := true }
    match ← token (nested fuel) with
    | .keyword .esac => return [(patterns, body)]
    | .endCase => return (patterns, body) :: (← cases fuel)
    | _ => refuseToken (some .endCase)

def redirections (fuel : Nat) : Reader (List Redirection) := do
  match fuel with
  | 0 => refuse "too deep"
  | fuel + 1 =>
    if (← token (nested fuel)) = .redirection then
      let redirection ← redirectionTarget (token (nested fuel))
      return redirection :: (← redirections fuel)
    else
      putTokenBack
      return []

def command (fuel : Nat) : Reader Script := do
  match fuel with
  | 0 => refuse "too deep"
  | fuel + 1 =>
    let line := (← get).line
    let close (body : Script) (last : Token) : Reader Script := do
      if (← token (nested fuel)) ≠ last then refuseToken (some last)
      redirect fuel line body
    match ← token (nested fuel) with
    | .keyword .if => close (← branches fuel) (.keyword .fi)
    | .keyword .while => do
      let condition ← commands fuel
      need fuel .do
      close (.loop false condition (← commands fuel)) (.keyword .done)
    | .keyword .until => do
      let condition ← commands fuel
      need fuel .do
      close (.loop true condition (← commands fuel)) (.keyword .done)
    | .keyword .for => close (← each fuel line) (.keyword .done)
    | .keyword .case => do
      if (← token (nested fuel)) ≠ .word then refuseToken (some .word)
      let word := (← get).word
      expect atCommand
      need fuel .in
      let cases ← cases fuel
      redirect fuel line (.choice line word cases)
    | .leftParenthesis => do
      let body ← commands fuel
      close (.subshell line body []) .rightParenthesis
    | .keyword .leftBrace => close (← commands fuel) (.keyword .rightBrace)
    | .word | .redirection =>
      putTokenBack
      simple fuel line true [] [] []
    | _ => refuseToken none

def redirect (fuel line : Nat) (body : Script) : Reader Script := do
  match fuel with
  | 0 => refuse "too deep"
  | fuel + 1 =>
    expect atCommandHere
    match ← redirections fuel, body with
    | [], _ => return body
    | found, .subshell line body _ => return .subshell line body found
    | found, _ => return .redirected line body found

/-- Reads on in a command that is a word with its arguments, or assignments alone. What has been
read is listed from the last on. -/
def simple (fuel line : Nat) (mayAssign : Bool) (assignments words : List Word)
    (found : List Redirection) : Reader Script := do
  match fuel with
  | 0 => refuse "too deep"
  | fuel + 1 =>
    expect { aliases := mayAssign }
    match ← token (nested fuel) with
    | .word =>
      let word := (← get).word
      if mayAssign && (assignedName? word).isSome then
        simple fuel line true (word :: assignments) words found
      else simple fuel line false assignments (word :: words) found
    | .redirection =>
      let redirection ← redirectionTarget (token (nested fuel))
      simple fuel line mayAssign assignments words (redirection :: found)
    | next =>
      match next, words, assignments, found with
      | .leftParenthesis, [name], [], [] =>
        if (← token (nested fuel)) ≠ .rightParenthesis then
          refuseToken (some .rightParenthesis)
        match name.literal?.filter fun name => isName name && !specialCommands.contains name with
        | none => refuse "Bad function name"
        | some name =>
          expect atCommand
          let line := (← get).line
          return .function line name (← command fuel)
      | _, _, _, _ =>
        putTokenBack
        return .simple line assignments.reverse words.reverse found.reverse

end

/-- How deep commands may lie in each other, and how many may follow one another. -/
def depth : Nat := 1000000

/-- Reads the next complete command of a script. Yields nothing at its end. -/
def complete : Reader (Option Script) := do
  modify fun state => { state with isPutBack := false, expected := {}, awaited := [] }
  list depth .line true .nothing

end Reader

end MutationTesting.Shell
