import MutationTesting.Shell.Command
import MutationTesting.Shell.Job
import MutationTesting.Shell.Utility.Arrange
import MutationTesting.Shell.Utility.Awk.Run
import MutationTesting.Shell.Utility.Blocks
import MutationTesting.Shell.Utility.Compare.Files
import MutationTesting.Shell.Utility.Date
import MutationTesting.Shell.Utility.Digest
import MutationTesting.Shell.Utility.Dump
import MutationTesting.Shell.Utility.Files
import MutationTesting.Shell.Utility.Find.Walk
import MutationTesting.Shell.Utility.Grep
import MutationTesting.Shell.Utility.Inspect
import MutationTesting.Shell.Utility.Listing
import MutationTesting.Shell.Utility.Mode
import MutationTesting.Shell.Utility.Place
import MutationTesting.Shell.Utility.Sed.Run
import MutationTesting.Shell.Utility.Show
import MutationTesting.Shell.Utility.Sort
import MutationTesting.Shell.Utility.Sorted
import MutationTesting.Shell.Utility.Start
import MutationTesting.Shell.Utility.Translate
import MutationTesting.Shell.Utility.Value
import MutationTesting.Shell.Utility.Word
/-! The programs that there are, by their names. -/
namespace MutationTesting.Shell

open Utility in
def programs : List (String × Program) :=
  [("cat", cat), ("tac", tac), ("rev", rev), ("head", head), ("tail", tail), ("wc", wc),
    ("tee", tee), ("yes", yes), ("grep", grep), ("egrep", egrep), ("fgrep", fgrep),
    ("sed", sed), ("seq", seq), ("expr", expr), ("factor", factor), ("true", always 0),
    ("false", always 1), ("sync", always 0), ("echo", Utility.echo), ("printf", Utility.printf),
    ("test", test "test"), ("[", test "["), ("basename", basename), ("dirname", dirname),
    ("env", env), ("printenv", printenv), ("nohup", nohup), ("nice", nice), ("setsid", setsid),
    ("stdbuf", stdbuf), ("sleep", sleep), ("timeout", timeout), ("xargs", xargs),
    ("which", which), ("pwd", pwd), ("id", identity), ("whoami", constant "root" 0),
    ("groups", constant "root" 0), ("tty", constant "not a tty" 1), ("uname", uname),
    ("arch", constant "x86_64" 0), ("tr", tr), ("cut", cut), ("paste", paste), ("nl", nl),
    ("fold", fold), ("expand", expand), ("unexpand", unexpand), ("uniq", uniq), ("comm", comm),
    ("join", join), ("sort", sort),
    ("rm", rm), ("mkdir", mkdir), ("rmdir", rmdir), ("touch", touch), ("mv", mv), ("cp", cp),
    ("ln", ln), ("chmod", chmod), ("ls", ls), ("stat", stat), ("readlink", readlink),
    ("realpath", realpath), ("mktemp", mktemp), ("truncate", truncate), ("dd", dd),
    ("split", split), ("od", od), ("md5sum", digest "MD5" 16 Utility.Digest.md5),
    ("sha1sum", digest "SHA1" 20 Utility.Digest.sha1),
    ("sha224sum", digest "SHA224" 28 Utility.Digest.sha224),
    ("sha256sum", digest "SHA256" 32 Utility.Digest.sha256),
    ("sha384sum", digest "SHA384" 48 Utility.Digest.sha384),
    ("sha512sum", digest "SHA512" 64 Utility.Digest.sha512), ("cksum", cksum), ("sum", sum),
    ("base64", lettered .sixty), ("base32", lettered .thirty), ("diff", diff), ("cmp", cmp),
    ("find", find), ("awk", awk), ("mawk", awk), ("date", date), ("tsort", tsort),
    ("shuf", shuf), ("unlink", unlink), ("link", link), ("chown", owned false),
    ("chgrp", owned true), ("install", install), ("nproc", constant "2" 0),
    ("logname", fun _ _ => Sh.fail 1 "no login name")]

end MutationTesting.Shell

/-! Commands that are made up of others: pipelines, loops and choices. -/
namespace MutationTesting.Shell.Sh

/-- Whether a loop goes on after a part of it. -/
def afterPart (result : Except Interrupt Unit) : Sh Bool := do
  match result with
  | .ok () => return true
  | .error (.again loops) => if loops ≤ 1 then return true else throw (.again (loops - 1))
  | .error (.leave loops) => if loops ≤ 1 then return false else throw (.leave (loops - 1))
  | .error interrupt => throw interrupt

def insideLoop (action : Sh Unit) : Sh Unit := do
  let loops := (← process).loops
  setProcess fun process => { process with loops := loops + 1 }
  let result ← attempt action
  setProcess fun process => { process with loops }
  resume result

def roundLimit : Nat := 1000000000

/-- Runs a loop while its condition succeeds, or until it does. Its exit code is that of the last
round. -/
def runLoop (self : Actor) (situation : Situation) (isUntil : Bool) (condition body : Script) :
    Sh Unit := insideLoop do
  let code ← iterate (fun code => do
    let result ← attempt (self (.script { isTested := true } condition))
    if !result.isOk then return (code, ← afterPart result)
    if ((← process).status = 0) = isUntil then return (code, false)
    let goesOn ← afterPart (← attempt (self (.script { isTested := situation.isTested } body)))
    return ((← process).status, goesOn)) roundLimit 0
  setStatus code

def runEach (self : Actor) (situation : Situation) (line : Nat) (name : String)
    (words : List Word) (body : Script) : Sh Unit := do
  setProcess fun process => { process with line }
  let items := (← words.mapM (argumentsOf (outputOf self))).flatten
  insideLoop (eachWhile (fun item => do
    setVariable name item
    afterPart (← attempt (self (.script { isTested := situation.isTested } body)))) items)
  if items.isEmpty then setStatus 0

def runCases (self : Actor) (situation : Situation) (text : List Char) :
    List (List Word × Script) → Sh Unit
  | [] => setStatus 0
  | (patterns, body) :: rest => do
    let fits ← patterns.anyM fun pattern => do
      return Pattern.fits (← patternOf (outputOf self) pattern) text
    if fits then
      if body.isNothing then setStatus 0 else self (.script situation body)
    else runCases self situation text rest

def runChoice (self : Actor) (situation : Situation) (line : Nat) (word : Word)
    (cases : List (List Word × Script)) : Sh Unit := do
  setProcess fun process => { process with line, substituted := 0 }
  let text ← textOf (outputOf self) { tilde := true } word
  runCases self situation text.toList cases

/-- How the commands of a pipeline ended: when the first one ended, when all of them have, whether
one of them would never, and how the last one did. -/
structure PipelineEnd where
  first : Nat
  all : Nat
  isStopped : Bool
  fate : Fate

/-- When the writer of a pipe ends whose reader ends at a time: as soon as it writes again, or by
itself. -/
def writerEnd (pipe : Pipe) (time readerEnd : Nat) : Nat × Bool :=
  let later := (pipe.unread ++ pipe.written.reverse).find? fun (written, _) => readerEnd < written
  match later with
  | some (written, _) => (min time written, true)
  | none => if pipe.isEndless then (readerEnd, true) else (time, false)

/-- Runs the commands of a pipeline from the next one on, each from the same time on. -/
def runStages (self : Actor) (situation : Situation) (start : Nat) (input? : Option Nat) :
    List Script → Sh PipelineEnd
  | [] => return ⟨start, start, false, .exited 0⟩
  | stage :: rest => do
    modify fun machine => { machine with clock := start }
    let pipe? ← if rest.isEmpty then pure none else some <$> newPipe
    let output? ← match pipe? with
      | some place => some <$> newOpened { target := .pipe place, reads := false }
      | none => pure none
    let result ← attempt do
      pass forkTime
      fork do
        if input?.isSome then connect 0 input?
        if output?.isSome then connect 1 output?
        wholeShell self
          (self (.script { isTested := situation.isTested, isLast := true } stage))
    let time := (← get).clock
    let (isStopped, fate) ← match result with
      | .ok fate =>
        if !situation.isBeside then reportFate fate
        pure (false, fate)
      | .error .stop => pure (true, .killed Signal.kill)
      | .error interrupt => throw interrupt
    match pipe? with
    | none => return ⟨time, time, isStopped, fate⟩
    | some place =>
      let closed ← closingTime place
      let written ← pipe place
      let isEndless := written.isEndless || (isStopped && (← get).limit?.isNone)
      setPipe place { written with closed, isEndless }
      let number ← newOpened { target := .pipe place, writes := false }
      let others ← runStages self situation start (some number) rest
      let left ← pipe place
      let (time, isCut) :=
        if others.isStopped then (time, false) else writerEnd left time others.first
      dropPipe place
      return ⟨time, max time others.all, (isStopped && !isCut) || others.isStopped, others.fate⟩

/-- Looks for the program that a command runs, if its name is a plain one. -/
def lookFor : Script → Sh Unit
  | .simple _ _ (word :: _) _ => do
    if let some name := Word.literal? word then
      if isName name then
        let _ ← meaning true none name
  | _ => return

def runPipeline (self : Actor) (situation : Situation) (stages : List Script) : Sh Unit := do
  stages.forM lookFor
  let _ ← takeSlot
  let ending ← runStages self situation (← get).clock none stages
  if ending.isStopped then
    modify fun machine => { machine with clock := machine.limit?.getD machine.clock }
    throw .stop
  waitUntil ending.all
  setStatus ending.fate.code

/-- Runs a command in a process of its own. -/
def runSubshell (self : Actor) (situation : Situation) (line : Nat) (body : Script)
    (redirections : List Redirection) : Sh Unit := do
  setProcess fun process => { process with line }
  let output := outputOf self
  let connections ← redirections.mapM (connectionOf output)
  pass forkTime
  let fate ← forkAndWait (wholeShell self do
    if ← makeConnections output connections then
      self (.script { situation with isLast := true } body)
    else throw (.failed 2))
  noteFate fate

/-- Starts a command beside those that follow. -/
def runBackground (self : Actor) (line : Nat) (body : Script) (redirections : List Redirection) :
    Sh Unit := do
  setProcess fun process => { process with line }
  let connections ← redirections.mapM (connectionOf (outputOf self))
  pass shortTime
  background body do
    let _ ← makeConnections (outputOf self) connections

/-- Runs a command with redirections. Yields whether they can be made. -/
def runRedirected (self : Actor) (situation : Situation) (line : Nat) (body : Script)
    (redirections : List Redirection) : Sh Bool := do
  setProcess fun process => { process with line }
  let connections ← redirections.mapM (connectionOf (outputOf self))
  keepingChannels do
    if ← makeConnections (outputOf self) connections then
      self (.script { isTested := situation.isTested } body)
      return true
    else return false

/-! Programs: files that can be run, among them the shell itself. -/

/-- The number of the process that started one. -/
def Process.parentOf (process : Process) : Nat :=
  (process.ancestors.head?.map Prod.fst).getD process.root

def Process.forShell (process : Process) (name : String) (environment : List (String × String)) :
    Process where
  number := process.number
  root := process.number
  name
  bindings := environment.foldl (fun bindings (name, value) =>
      if isName name then
        putVariable name { value? := some value, isExported := true } bindings
      else bindings)
    [("IFS", { value? := some " \t\n" }), ("PATH", { value? := some usualPath }),
      ("PS1", { value? := some "# " }), ("PS2", { value? := some "> " }),
      ("PS4", { value? := some "+ " }), ("OPTIND", { value? := some "1" }),
      ("PPID", { value? := some (toString (Process.parentOf process)) })]
  ancestors := process.ancestors
  traps := process.traps.filter fun (_, action) => action = ""
  channels := process.channels
  mask := process.mask

def runShell (self : Actor) (name : String) (arguments : List String) : Sh Unit := do
  let environment ← environment
  setProcess fun process => Process.forShell process name environment
  let here ← hereText
  restoreVariable "PWD" (some { value? := some here, isExported := true })
  let (hasScript, rest?) ← takeFlags true (arguments.length + 1) arguments
  let run (script : String) : Sh Unit :=
    wholeShell self (self (.text {} script))
  let setNames (names : List String) : Sh Unit :=
    match names with
    | name :: arguments => setProcess fun process => { process with name, arguments }
    | [] => return
  match hasScript, rest?.getD [] with
  | true, [] => refuse "-c requires an argument"
  | true, script :: names =>
    setNames names
    run script
  | false, rest =>
    let takesInput := rest.isEmpty || (← hasFlag 's')
    if takesInput then
      setFlag true 's'
      setProcess fun process => { process with arguments := rest }
      match ← read 0 .sample with
      | .ok (bytes, _) => run (textOfBytes bytes)
      | .error _ => return
    else
      let path := rest.headD ""
      match ← openFile .read path with
      | .error reason =>
        let reason :=
          if reason = Fault.notFound.reason ∨ reason = Fault.notDirectory.reason then "No such file"
          else reason
        refuse ("cannot open " ++ path ++ ": " ++ reason)
      | .ok opened =>
        let number ← newOpened opened
        setNames rest
        match ← readFrom number opened .all with
        | .ok (bytes, _) => run (textOfBytes bytes)
        | .error _ => return

def programDirectories : List (List String) :=
  [["bin"], ["usr", "bin"]]

/-- The interpreter that the first line of a script names, with its argument if it has one. -/
def interpreter? (content : ByteArray) : Option (String × Option String) :=
  match content.toList.map Text.narrowChar with
  | '#' :: '!' :: rest =>
    let line := rest.takeWhile (· ≠ '\n')
    let isBlank (c : Char) : Bool := c = ' ' || c = '\t'
    let line := ((line.dropWhile isBlank).reverse.dropWhile isBlank).reverse
    let name := line.takeWhile fun c => !isBlank c
    let argument := (line.drop name.length).dropWhile isBlank
    if name.isEmpty then none
    else some (String.ofList name, if argument.isEmpty then none else some (String.ofList argument))
  | _ => none

/-- Runs the program at a path in the process at work. -/
def execute (self : Actor) (path : String) (arguments : List String) : Sh Unit := do
  pass startTime
  let name := arguments.headD path
  let fail (reason : String) : Sh Unit := do
    let isMissing := reason = Fault.notFound.reason || reason = Fault.notDirectory.reason ||
      reason = Fault.tooLong.reason
    complain (name ++ ": " ++
      (if isMissing && reason ≠ Fault.tooLong.reason then "not found" else reason))
    throw (.exit (if isMissing then 127 else 126))
  let workspace ← workspace
  match workspace.find (pathOf path), workspace.address (pathOf path) with
  | .error fault, _ | _, .error fault => fail fault.reason
  | .ok entry, .ok address =>
    match entry, decide (workspace.mode address &&& 0o111 ≠ 0) with
    | .directory _, _ | _, false => fail "Permission denied"
    | .file content, true =>
      setProcess fun process => { process with command? := none, buffer := [] }
      let program := address.getLast?.getD ""
      if programDirectories.contains address.dropLast then
        if program = "sh" ∨ program = "dash" ∨ program = "bash" then
          runShell self name (arguments.drop 1)
        else
          match programs.lookup program with
          | some run => setStatus (← runProgram run self arguments)
          | none => fail Fault.notFound.reason
      else
        match interpreter? content with
        | some (interpreter, argument?) =>
          self (.program interpreter
            ([interpreter] ++ argument?.toList ++ [path] ++ arguments.drop 1))
        | none => runShell self name (path :: arguments.drop 1)

/-! What carries out tasks: scripts, texts of scripts and programs. -/

/-- Runs a script that is not a simple command in itself. Yields whether a failure of it may be a
reason to stop. -/
def runScript (self : Actor) (situation : Situation) (script : Script) : Sh Bool := do
  let inner : Situation := { isTested := situation.isTested }
  match script with
  | .nothing => return false
  | .simple line assignments words redirections =>
    runSimple self situation line assignments words redirections
    return true
  | .pipeline stages isBackground =>
    if isBackground then
      runBackground self (← process).line (.pipeline stages false) []
      return false
    runPipeline self situation stages
    return true
  | .redirected line body redirections =>
    if ← runRedirected self situation line body redirections then return false
    else return true
  | .background line body redirections =>
    runBackground self line body redirections
    return false
  | .subshell line body redirections =>
    runSubshell self situation line body redirections
    return true
  | .both first second =>
    self (.script { isTested := true } first)
    if (← process).status = 0 then self (.script situation second)
    return false
  | .either first second =>
    self (.script { isTested := true } first)
    if (← process).status ≠ 0 then self (.script situation second)
    return false
  | .sequence first second =>
    self (.script inner first)
    self (.script situation second)
    return false
  | .negation body =>
    self (.script { isTested := true } body)
    setStatus (if (← process).status = 0 then 1 else 0)
    return false
  | .branch condition yes no =>
    self (.script { isTested := true } condition)
    let chosen := if (← process).status = 0 then yes else no
    if chosen.isNothing then setStatus 0 else self (.script situation chosen)
    return false
  | .loop isUntil condition body =>
    runLoop self situation isUntil condition body
    return false
  | .each line name words body =>
    runEach self situation line name words body
    return false
  | .choice line word cases =>
    runChoice self situation line word cases
    return false
  | .function _ name body =>
    setProcess fun process =>
      { process with
        functions := (name, body) :: process.functions.filter fun (other, _) => other != name
        status := 0 }
    return false

/-- Runs a script, and ends the shell after a failure if it has to. -/
def actOnScript (self : Actor) (situation : Situation) (script : Script) : Sh Unit := do
  if ← hasFlag 'n' then return
  seeToSignals self
  let mayStop ← runScript self situation script
  seeToSignals self
  let process ← process
  if mayStop && !situation.isTested && process.status ≠ 0 && process.flags.contains 'e' then
    throw (.exit process.status)

/-- Reads and runs the next command of a text. Yields what is left and whether something has been
run, and whether the text goes on. -/
def actOnNext (self : Actor) (situation : Situation) (state : Reading × Bool) :
    Sh ((Reading × Bool) × Bool) := do
  let (reading, hasRun) := state
  let before ← process
  let reading :=
    { reading with aliases := before.aliases, nextDocument := before.nextDocument }
  match Reader.complete.run reading with
  | .error fault =>
    setProcess fun process => { process with line := fault.line }
    refuse ("Syntax error: " ++ fault.reason)
  | .ok (none, reading) => return ((reading, hasRun), false)
  | .ok (some script, reading) =>
    setProcess fun process =>
      { process with
        documents := reading.documents ++ process.documents
        nextDocument := reading.nextDocument }
    let reading := { reading with documents := [] }
    if !script.isNothing then self (.script situation script)
    return ((reading, hasRun || !script.isNothing), true)

/-- Reads a text and runs its commands one after the other. -/
def actOnText (self : Actor) (situation : Situation) (text : String) : Sh Unit := do
  let (_, hasRun) ← iterate (actOnNext self situation) roundLimit ({ rest := text.toList }, false)
  if !hasRun then setStatus 0

/-- Carries out a task, with what carries out the tasks in it. -/
def act (self : Actor) : Actor
  | .script situation script => actOnScript self situation script
  | .text situation text => actOnText self situation text
  | .program path arguments => execute self path arguments

/-- Carries out tasks that lie no deeper in each other than `depth`. -/
def perform : (depth : Nat) → Actor
  | 0 => fun _ => throw .stop
  | depth + 1 => fun task => act (perform depth) task

end MutationTesting.Shell.Sh
