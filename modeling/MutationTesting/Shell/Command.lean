import MutationTesting.Shell.Builtin.Condition
import MutationTesting.Shell.Builtin.Echo
import MutationTesting.Shell.Job
import MutationTesting.Shell.Task
/-! Simple commands: their words are put together, their redirections and assignments are made, and
then the function, the command of the shell or the program that they name is run. -/
namespace MutationTesting.Shell.Sh

/-- When nobody writes to a pipe any more: the time, and that of the jobs that still do. -/
def closingTime (place : Nat) : Sh Nat := do
  let machine ← get
  let writes (job : Job) : Bool := job.process.channels.any fun (_, number) =>
    (machine.opened.lookup number).any fun opened =>
      opened.target = .pipe place && opened.writes
  return machine.jobs.foldl (fun time job =>
    match job.ended? with
    | some (ending, _) => if writes job then max time ending else time
    | none => time) machine.clock

/-- What a script writes, without the ends of lines at its end. -/
def outputOf (self : Actor) (script : Script) : Sh String := do
  let place ← newPipe
  let number ← newOpened { target := .pipe place, reads := false }
  pass forkTime
  let fate ← forkAndWait do
    connect 1 (some number)
    wholeShell self (self (.script { isLast := true } script))
  let closed ← closingTime place
  setPipe place { ← pipe place with closed }
  let (parts, _) ← readPipe place ((← pipe place).piecesLeft + 1) .all []
  dropPipe place
  reportFate fate
  setProcess fun process => { process with substituted := fate.code }
  let bytes := (joinParts parts).toList.filter (· ≠ 0)
  let trimmed := bytes.reverse.dropWhile (· = lineFeed)
  return String.ofList (trimmed.reverse.map Text.narrowChar)

/-- What has become of the words of a command. -/
structure Gathered where
  /-- All arguments so far. -/
  shown : List String := []
  /-- The arguments from the name on that counts. -/
  arguments : List String := []
  /-- The words that have not been looked at. -/
  rest : List Word
  /-- Whether the first name is one of the special commands, if it is one of the shell's. -/
  isSpecial? : Option Bool := none
  isOwn : Bool := false
  mayBeFunction : Bool := true
  isAssigning : Bool := false
  path? : Option String := none

/-- The arguments of the first word that becomes some, and the words behind it. -/
def firstArguments (output : Script → Sh String) : List Word → Sh (List String × List Word)
  | [] => return ([], [])
  | word :: rest => do
    let arguments ← argumentsOf output word
    if arguments.isEmpty then firstArguments output rest else return (arguments, rest)

/-- Makes sure that there are so many arguments, if words are left. -/
def gatherUpTo (output : Script → Sh String) (count : Nat) (gathered : Gathered) :
    Sh Gathered := do
  if count ≤ gathered.arguments.length then return gathered
  let (arguments, rest) ← firstArguments output gathered.rest
  return { gathered with
    shown := gathered.shown ++ arguments
    arguments := gathered.arguments ++ arguments
    rest }

/-- Leaves out `command` and its options. Nothing is left out if something else is asked of it. -/
def withoutPrefix (output : Script → Sh String) : (fuel place : Nat) → (path? : Option String) →
    Gathered → Sh (Gathered × Option (Nat × Option String))
  | 0, _, _, gathered => return (gathered, none)
  | fuel + 1, place, path?, gathered => do
    let gathered ← gatherUpTo output (place + 1) gathered
    match gathered.arguments[place]? with
    | none => return (gathered, none)
    | some argument =>
      match argument.toList with
      | ['-', '-'] =>
        let gathered ← gatherUpTo output (place + 2) gathered
        return (gathered,
          if place + 1 < gathered.arguments.length then some (place + 1, path?) else none)
      | '-' :: letter :: letters =>
        if (letter :: letters).all (· = 'p') then
          withoutPrefix output fuel (place + 1) (some usualPath) gathered
        else return (gathered, none)
      | _ => return (gathered, some (place, path?))

/-- Finds out what the first arguments of a command mean. -/
def gatherName (output : Script → Sh String) : (fuel : Nat) → Gathered → Sh Gathered
  | 0, gathered => return gathered
  | fuel + 1, gathered => do
    match gathered.arguments.head? with
    | none => return gathered
    | some name =>
      let process ← process
      let isFunction := gathered.mayBeFunction && (process.functions.lookup name).isSome
      if isFunction || !ownCommands.contains name then return { gathered with isOwn := false }
      let gathered := { gathered with
        isOwn := true
        isAssigning := assigningCommands.contains name
        isSpecial? := gathered.isSpecial?.or (some (specialCommands.contains name ||
          name = "local")) }
      if name ≠ "command" then return gathered
      let (gathered, left?) ← withoutPrefix output 1000 1 none gathered
      match left? with
      | none => return gathered
      | some (place, path?) =>
        gatherName output fuel { gathered with
          arguments := gathered.arguments.drop place
          mayBeFunction := false
          path? := path?.or gathered.path? }

/-- Puts the words of a command together. -/
def gather (output : Script → Sh String) (words : List Word) : Sh Gathered := do
  let gathered ← gatherUpTo output 1 { rest := words }
  let gathered ← gatherName output 1000 gathered
  let others ← gathered.rest.mapM fun word => do
    if gathered.isAssigning && (assignedName? word).isSome then
      return [← textOf output { assigns := true } word]
    else argumentsOf output word
  return { gathered with
    shown := gathered.shown ++ others.flatten
    arguments := gathered.arguments ++ others.flatten
    rest := [] }

/-- How many functions may be at work in each other. -/
def callLimit : Nat := 1000

def callFunction (self : Actor) (situation : Situation) (body : Script)
    (arguments : List String) : Sh Unit := do
  let before ← process
  if callLimit ≤ before.calls then
    refuse s!"Maximum function recursion depth ({callLimit}) reached"
  setProcess fun process =>
    { process with
      arguments
      loops := 0
      calls := process.calls + 1
      optionIndex := 1
      optionOffset? := none }
  let result ← attempt (self (.script { isTested := situation.isTested } body))
  setProcess fun process =>
    { process with
      arguments := before.arguments
      loops := before.loops
      calls := before.calls
      optionIndex := before.optionIndex
      optionOffset? := before.optionOffset? }
  match result with
  | .ok () | .error .back => return
  | .error interrupt => throw interrupt

/-- Runs the script in a file within this shell. -/
def source (self : Actor) (situation : Situation) (arguments : List String) : Sh Nat := do
  let (_, names) ← takeOptions "" arguments
  match names with
  | [] => return 0
  | name :: _ =>
    let workspace ← workspace
    let path ←
      if name.toList.contains '/' then pure name
      else do
        let candidates := (directories (← valueOf "PATH")).map fun directory =>
          if directory = "" then name else directory ++ "/" ++ name
        match candidates.find? fun path => workspace.hasFile (pathOf path) with
        | some path => pure path
        | none => refuse (name ++ ": not found")
    match ← openFile .read path with
    | .error reason => refuse ("cannot open " ++ path ++ ": " ++ openingReason .read reason)
    | .ok opened =>
      let number ← newOpened opened
      let content ← match ← readFrom number opened .all with
        | .ok (bytes, _) => pure (textOfBytes bytes)
        | .error _ => pure ""
      setProcess fun process => { process with command? := some path, status := 0 }
      match ← attempt (self (.text { isTested := situation.isTested } content)) with
      | .ok () | .error .back => return (← process).status
      | .error interrupt => throw interrupt

/-- The number of loops that an argument names, as far as there are so many. -/
def loopsOf (arguments : List String) : Sh Nat := do
  match arguments with
  | [] => return min 1 (← process).loops
  | text :: _ =>
    let count ← countOf text
    if count = 0 then refuse ("Illegal number: " ++ text)
    return min count (← process).loops

/-- Puts a program in the place of the shell. -/
def replaceShell (self : Actor) (arguments : List String) : Sh Nat := do
  let (_, arguments) ← takeOptions "" arguments
  match arguments with
  | [] => return 0
  | name :: _ =>
    let found ← do
      if name.toList.contains '/' then pure (Meaning.program name)
      else search name "not found" (directories (← valueOf "PATH"))
    match found with
    | .program path =>
      setProcess fun process => { process with traps := [] }
      self (.program path arguments)
      throw (.exit (← process).status)
    | .missing reason =>
      complain (name ++ ": " ++ reason)
      throw (.exit (if reason = "not found" then 127 else 126))
    | _ => throw (.exit 127)

/-- Runs a command that the shell carries out by itself. Yields its exit code. -/
def runOwn (self : Actor) (situation : Situation) (name : String) (arguments : List String) :
    Sh Nat := do
  match name with
  | ":" | "true" => return 0
  | "false" => return 1
  | "echo" => echo arguments
  | "printf" =>
    let (_, rest) ← takeOptions "" arguments
    printf rest
  | "test" | "[" => condition name arguments
  | "cd" | "chdir" => changeDirectory arguments
  | "pwd" => showDirectory arguments
  | "export" => exportVariables arguments
  | "readonly" => fixVariables arguments
  | "local" => localVariables arguments
  | "unset" => unset arguments
  | "set" => setArguments arguments
  | "shift" => shift arguments
  | "read" => readLine arguments
  | "getopts" => nextOption arguments
  | "umask" => mask arguments
  | "alias" => nameAliases arguments
  | "unalias" => unalias arguments
  | "hash" => hash arguments
  | "type" => describeAll arguments
  | "trap" => trap arguments
  | "times" => showTimes
  | "ulimit" => showLimit arguments
  | "wait" => wait self arguments
  | "kill" => kill self arguments
  | "jobs" => showJobs self arguments
  | "bg" | "fg" => refuse "No current job"
  | "command" =>
    let (options, rest) ← takeOptions "pvV" arguments
    let path? := if options.any fun (c, _) => c = 'p' then some usualPath else none
    let isVerbose := options.any fun (c, _) => c = 'V'
    match rest with
    | name :: _ =>
      if isVerbose || options.any fun (c, _) => c = 'v' then describe isVerbose path? name
      else return 0
    | [] => return 0
  | "eval" =>
    if arguments.isEmpty then return 0
    self (.text { isTested := situation.isTested } (String.intercalate " " arguments))
    return (← process).status
  | "." => source self situation arguments
  | "exec" => replaceShell self arguments
  | "exit" =>
    match arguments with
    | [] =>
      let process ← process
      throw (.exit (process.saved?.getD process.status))
    | text :: _ => throw (.exit (← countOf text))
  | "return" =>
    let code ← match arguments with
      | [] => do pure (← process).status
      | text :: _ => countOf text
    setStatus code
    throw .back
  | "break" | "continue" =>
    let loops ← loopsOf arguments
    setStatus 0
    if 0 < loops then throw (if name = "break" then .leave loops else .again loops)
    return 0
  | _ => return 127

/-- Runs a command that the shell carries out by itself. -/
def callOwn (self : Actor) (situation : Situation) (isSpecial : Bool) (name : String)
    (arguments : List String) : Sh Unit := do
  pass shortTime
  let before := (← process).command?
  setProcess fun process => { process with command? := some name }
  let result ← attempt (runOwn self situation name arguments)
  setProcess fun process => { process with command? := some name }
  let failure? ← flush
  let code ← match result, failure? with
    | .ok code, some _ =>
      complain (name ++ ": I/O error")
      pure (some (code ||| 1))
    | .ok code, none => pure (some code)
    | .error (.failed code), _ => pure (if isSpecial then none else some code)
    | .error _, _ => pure none
  setProcess fun process => { process with command? := before }
  match code, result with
  | some code, _ => setStatus code
  | none, .error interrupt => throw interrupt
  | none, .ok _ => return

def callProgram (self : Actor) (situation : Situation) (path? : Option String)
    (arguments : List String) : Sh Unit := do
  let name := arguments.headD ""
  match ← meaning false path? name with
  | .program path =>
    if situation.isLast && (← process).traps.isEmpty then
      self (.program path arguments)
      throw (.exit (← process).status)
    noteFate (← forkAndWait (self (.program path arguments)))
  | .missing reason =>
    complain (name ++ ": " ++ reason)
    setStatus 127
  | _ => return

/-- Shows a command before it is run. -/
def trace (errors? : Option Nat) (assigned shown : List String) : Sh Unit := do
  if (← process).flags.contains 'x' then
    let lead := (← valueOf? "PS4").getD ""
    let line := lead ++ String.intercalate " " (assigned ++ shown) ++ "\n"
    match errors? with
    | none => return
    | some number =>
      match (← get).opened.lookup number with
      | some opened =>
        let _ ← writeTo number opened (bytesOfText line)
      | none => return

def makeAssignment (keepsVariables exports : Bool) (text : String) : Sh Unit := do
  if keepsVariables then makeLocal true text
  else
    let (name, value?) := assignment text
    setVariable name (value?.getD "")
    if exports then
      restoreVariable name ((← lookup? name).map fun held => { held with isExported := true })

def runSimple (self : Actor) (situation : Situation) (line : Nat) (assignments words : List Word)
    (redirections : List Redirection) : Sh Unit := do
  setProcess fun process => { process with line, substituted := 0 }
  let output := outputOf self
  let gathered ← gather output words
  let isSpecial := gathered.isSpecial? = some true
  let keepsVariables := !gathered.arguments.isEmpty && !isSpecial
  let isExec := gathered.isOwn && gathered.arguments.head? = some "exec"
  let before ← process
  if keepsVariables then pushFrame
  let result ← attempt do
    if ← redirect output redirections then
      let exports := isExec && 1 < gathered.arguments.length
      let assigned ← assignments.mapM fun word => do
        let text ← textOf output { assigns := true } word
        makeAssignment keepsVariables exports text
        return text
      trace (before.channels.lookup 2) assigned gathered.shown
      match gathered.arguments with
      | [] => setStatus (← process).substituted
      | name :: arguments =>
        if gathered.isOwn then callOwn self situation isSpecial name arguments
        else
          let functions := (← process).functions
          match if gathered.mayBeFunction then functions.lookup name else none with
          | some body => callFunction self situation body arguments
          | none => callProgram self situation gathered.path? gathered.arguments
    else if isSpecial then throw (.failed 2)
  if !(isExec && result.isOk) then
    setProcess fun process => { process with channels := before.channels }
  if keepsVariables then popFrame
  resume result

end MutationTesting.Shell.Sh
