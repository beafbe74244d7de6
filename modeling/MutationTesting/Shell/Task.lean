import MutationTesting.Shell.Builtin.Surroundings
/-! What is run: scripts, texts of scripts and programs. Each of them is a task; what carries out
tasks is given to the parts of the shell that need it. -/
namespace MutationTesting.Shell

structure Situation where
  /-- Whether it is tested if it succeeds, so that a failure is no reason to stop. -/
  isTested : Bool := false
  /-- Whether nothing follows, so that a program may take the place of the shell. -/
  isLast : Bool := false
  /-- Whether it goes on beside the shell, which does not say what ends its parts. -/
  isBeside : Bool := false

inductive Task where
  | script (situation : Situation) (script : Script)
  | text (situation : Situation) (text : String)
  /-- The program at a path, or of a name, with its own name and its arguments. -/
  | program (path : String) (arguments : List String)

/-- What carries out tasks. The exit code is left in the state. -/
abbrev Actor := Task → Sh Unit

/-- The exit code that a command leaves when it ends in this way. -/
def Fate.code : Fate → Nat
  | .exited code => code
  | .killed signal => Signal.code signal

/-- The process that another one starts: it has what that one has, but does nothing special about
signals. -/
def Process.child (process : Process) (number : Nat) : Process :=
  { process with
    number
    ancestors := (process.number, process.traps.map Prod.fst) :: process.ancestors
    traps := process.traps.filter fun (number, action) => number ≠ 0 && action = "" }

namespace Sh

def reportFate (fate : Fate) : Sh Unit := do
  match fate with
  | .killed signal =>
    if signal ≠ 2 ∧ signal ≠ pipeSignal then tryWrite 2 (Signal.messageOf signal ++ "\n")
  | .exited _ => return

/-- Takes note of how a command ended. -/
def noteFate (fate : Fate) : Sh Unit := do
  reportFate fate
  setStatus fate.code

/-- Does something in a process of its own. What it changes for itself does not come back. -/
def fork (action : Sh Unit) : Sh Fate := do
  let before ← get
  let number ← fresh
  setProcess fun process => process.child number
  let result ← attempt action
  let after ← get
  set { after with
    process := before.process
    workspace := { after.workspace with here := before.workspace.here } }
  match result with
  | .ok () | .error (.leave _) | .error (.again _) | .error .back =>
    return .exited (after.process.status % 256)
  | .error (.exit code) | .error (.failed code) => return .exited (code % 256)
  | .error (.killed other signal) =>
    if other = number then return .killed signal else throw (.killed other signal)
  | .error .stop => throw .stop

/-- The jobs in the table of this shell, the latest first. -/
def ownJobs : Sh (List Job) := do
  let machine ← get
  return (machine.jobs.filter fun job =>
    job.parent = machine.process.number && !job.isGone).reverse

def job? (number : Nat) : Sh (Option Job) := do
  return (← get).jobs.find? fun job => job.number = number

def setJob (job : Job) : Sh Unit :=
  modify fun machine =>
    { machine with
      jobs := machine.jobs.map fun other => if other.number = job.number then job else other }

/-- Takes the first place in the table of jobs that is free, or whose job has been waited for. -/
def takeSlot : Sh Nat := do
  let jobs ← ownJobs
  let taken := (jobs.filter fun job => !job.isAwaited).map Job.slot
  let slot := ((List.range (taken.length + 1)).map (· + 1)).find? fun slot => !taken.contains slot
  let slot := slot.getD 1
  if let some job := jobs.find? fun job => job.slot = slot then setJob { job with isGone := true }
  return slot

/-- Runs something in a process of its own and waits for it. -/
def forkAndWait (action : Sh Unit) : Sh Fate := do
  let _ ← takeSlot
  fork action

/-- Does something, with descriptors that are put back afterwards. -/
def keepingChannels (action : Sh α) : Sh α := do
  let channels := (← process).channels
  let result ← attempt action
  setProcess fun process => { process with channels }
  resume result

/-- The action about a signal, if there is one. -/
def trap? (signal : Nat) : Sh (Option String) := do
  return (← process).traps.lookup signal

/-- Does what is to be done about signals that have been sent to this process. -/
def seeToSignals (self : Actor) : Sh Unit := do
  let machine ← get
  if machine.signals.isEmpty then return
  let (mine, others) :=
    machine.signals.partition fun (number, _) => number = machine.process.number
  set { machine with signals := others }
  mine.forM fun (_, signal) => do
    match ← trap? signal with
    | none | some "" => return
    | some action =>
      let before ← process
      setProcess fun process => { process with saved? := some before.status }
      self (.text {} action)
      setProcess fun process => { process with saved? := before.saved?, status := before.status }

end Sh

end MutationTesting.Shell

/-! Redirections: descriptors that lead to files, to what other descriptors lead to, or to documents
of the script. -/
namespace MutationTesting.Shell.Sh

/-- A redirection whose target is known. A document becomes a text when the connection is made. -/
inductive Connection where
  | file (opening : Opening) (descriptor : Nat) (path : String)
  | duplicate (descriptor : Nat) (source? : Option Nat)
  | document (descriptor : Nat) (word : Word) (isLiteral : Bool)

def connectionOf (output : Script → Sh String) : Redirection → Sh Connection
  | .file opening descriptor target => do
    return .file opening descriptor (← textOf output { tilde := true } target)
  | .duplicate _ descriptor target => do
    let text ← textOf output { tilde := true } target
    match text.toList with
    | ['-'] => return .duplicate descriptor none
    | [c] =>
      if c.isDigit then return .duplicate descriptor (some (c.toNat - '0'.toNat))
      refuse "Syntax error: Bad fd number"
    | _ => refuse "Syntax error: Bad fd number"
  | .document descriptor number isLiteral => do
    return .document descriptor (((← process).documents.lookup number).getD []) isLiteral

/-- Why a file cannot be opened, as the shell says it. -/
def openingReason (opening : Opening) (reason : String) : String :=
  if reason = Fault.notFound.reason ∨ reason = Fault.notDirectory.reason then
    if opening = .read then "No such file" else "Directory nonexistent"
  else reason

def makeConnection (output : Script → Sh String) : Connection → Sh Bool
  | .file opening descriptor path => do
    let verb := if opening = .read then "open" else "create"
    let fail (reason : String) : Sh Bool := do
      complain ("cannot " ++ verb ++ " " ++ path ++ ": " ++ openingReason opening reason)
      return false
    let keeps ← hasFlag 'C'
    if opening = .write && keeps && (← workspace).hasFile (pathOf path) &&
        !((← addressOf path).toOption.any fun address => (deviceOf? address).isSome) then
      fail "File exists"
    else
      match ← openFile opening path with
      | .error reason => fail reason
      | .ok opened =>
        connect descriptor (some (← newOpened opened))
        return true
  | .duplicate descriptor none => do
    connect descriptor none
    return true
  | .duplicate descriptor (some source) => do
    match (← process).channels.lookup source with
    | none =>
      complain s!"{source}: Bad file descriptor"
      return false
    | some number =>
      connect descriptor (some number)
      return true
  | .document descriptor word isLiteral => do
    let result ← attempt do
      if isLiteral then return Word.text word else textOf output { isQuoted := true } word
    match result with
    | .ok text =>
      connect descriptor (some (← newOpened (← openText text)))
      return true
    | .error (.failed _) => return false
    | .error interrupt => throw interrupt

/-- Makes connections, up to the first one that is not possible. Yields whether all are made. -/
def makeConnections (output : Script → Sh String) : List Connection → Sh Bool
  | [] => return true
  | first :: rest => do
    if ← makeConnection output first then makeConnections output rest
    else
      setStatus 2
      return false

/-- Carries out redirections. Yields whether that is possible. -/
def redirect (output : Script → Sh String) (redirections : List Redirection) : Sh Bool := do
  makeConnections output (← redirections.mapM (connectionOf output))

end MutationTesting.Shell.Sh
