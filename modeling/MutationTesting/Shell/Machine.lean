import MutationTesting.FileSystem.Workspace
import MutationTesting.Shell.Script
import MutationTesting.Text.Utf8
/-! The state of a shell while it runs a script, and the time that passes. Commands that run at the
same time are run one after the other, each from the time at which it starts; what they write
carries the time at which it is written. -/
namespace MutationTesting.Shell

/-- The two flows to what has called the shell. -/
inductive Stream where
  | output
  | errors
  deriving Repr, DecidableEq

inductive Target where
  /-- To what has called the shell. -/
  | outside (stream : Stream)
  /-- To the pipe of a number. -/
  | pipe (number : Nat)
  | file (address : List String)
  | directory (address : List String)
  /-- What is written is forgotten, and there is nothing to be read. -/
  | nowhere
  /-- The same, but bytes of the value zero can be read without end. -/
  | zeros
  /-- The same, but nothing can be written. -/
  | full
  deriving Repr, DecidableEq

/-- Something that is open, with the place at which it is read or written next. -/
structure Opened where
  target : Target
  offset : Nat := 0
  appends : Bool := false
  reads : Bool := true
  writes : Bool := true

/-- What goes through a pipe: pieces with the times at which they are written. -/
structure Pipe where
  /-- What has been written and not been looked at, the latest piece first. -/
  written : List (Nat × ByteArray) := []
  /-- What comes next, from an offset on in the first piece. -/
  unread : List (Nat × ByteArray) := []
  offset : Nat := 0
  /-- How many pieces have been written. -/
  count : Nat := 0
  /-- When the last writer ends. -/
  closed : Nat := 0
  /-- Whether more would be written if it were read. -/
  isEndless : Bool := false
  deriving Inhabited

/-- A variable: its value, if it has one, whether programs see it and whether it stays as it is. -/
structure Variable where
  value? : Option String := none
  isExported : Bool := false
  isReadOnly : Bool := false
  deriving Repr, DecidableEq

/-- What a shell knows by itself. Texts are texts of bytes. -/
structure Process where
  number : Nat
  /-- The number of the shell of which this is a part. -/
  root : Nat
  name : String
  arguments : List String := []
  /-- The variables in the order in which they came up. -/
  bindings : List (String × Variable)
  functions : List (String × Script) := []
  aliases : List (String × String) := []
  /-- What is done about signals. The end of the shell counts as the signal zero. -/
  traps : List (Nat × String) := []
  /-- The shells of which this is a part, with the signals about which they do something. -/
  ancestors : List (Nat × List Nat) := []
  /-- The open things to which descriptors lead. -/
  channels : List (Nat × Nat)
  status : Nat := 0
  /-- The status of the last command whose output was put in. -/
  substituted : Nat := 0
  /-- The status that comes back after a trap. -/
  saved? : Option Nat := none
  /-- The last command that was started beside the others. -/
  latest? : Option Nat := none
  /-- The options that are on, by their letters. -/
  flags : List Char := []
  /-- The permission bits that new files do not get. -/
  mask : Nat := 0o022
  line : Nat := 0
  /-- The command of the shell that is at work. -/
  command? : Option String := none
  loops : Nat := 0
  calls : Nat := 0
  /-- The variables to be put back at the end of functions, the innermost one first. -/
  frames : List (List (String × Option Variable)) := []
  /-- The documents of redirections by their numbers. -/
  documents : List (Nat × Word) := []
  nextDocument : Nat := 0
  /-- The programs that have been looked for, and where they are. -/
  found : List (String × String) := []
  /-- The programs that have been looked for before the working directory changed. -/
  stale : List String := []
  /-- How far options have been taken: the next argument and the letters taken from it. -/
  optionIndex : Nat := 1
  optionOffset? : Option Nat := none
  /-- What the command at work has written so far, the latest first. -/
  buffer : List String := []

inductive Fate where
  | exited (code : Nat)
  | killed (signal : Nat)
  deriving Repr, DecidableEq

structure Job where
  number : Nat
  /-- The shell that started it. -/
  parent : Nat
  start : Nat
  process : Process
  here : List String
  body : Script
  /-- When and how it ends, once that is known. -/
  ended? : Option (Nat × Fate) := none
  /-- Whether it is at work now. -/
  isRunning : Bool := false
  /-- The place in the table of the jobs of its shell, counted from one. -/
  slot : Nat
  /-- Whether something has waited for its end. -/
  isAwaited : Bool := false
  /-- Whether it is in the table no more. -/
  isGone : Bool := false

/-- The state of all commands together. Times are in nanoseconds from the start. -/
structure Machine where
  workspace : Workspace
  clock : Nat := 0
  limit? : Option Nat := none
  /-- What has been written to the outside and when, the latest first. -/
  written : List (Nat × Stream × ByteArray) := []
  opened : List (Nat × Opened) := []
  pipes : List (Nat × Pipe) := []
  jobs : List Job := []
  /-- The signals that have been sent to processes and not been seen to. -/
  signals : List (Nat × Nat) := []
  /-- The next number that is not in use. -/
  next : Nat
  process : Process

/-- Why a command does not go on. -/
inductive Interrupt where
  | exit (code : Nat)
  /-- The shell cannot go on, unless this is foreseen. -/
  | failed (code : Nat)
  /-- So many loops end. -/
  | leave (loops : Nat)
  /-- So many loops but one end, and that one goes on. -/
  | again (loops : Nat)
  /-- The function ends. -/
  | back
  /-- A signal ends the shell or program of a number. -/
  | killed (number signal : Nat)
  /-- No time is left, or the command would never end. -/
  | stop
  deriving Repr, DecidableEq

/-- Commands of the shell; what was done before an interrupt stays. -/
abbrev Sh := ExceptT Interrupt (StateM Machine)

namespace Sh

/-- The time that a command of the shell itself takes. -/
def shortTime : Nat := 1000

/-- The time until a command of its own starts. -/
def forkTime : Nat := 300000

def startTime : Nat := 1000000

def process : Sh Process := do
  return (← get).process

def setProcess (change : Process → Process) : Sh Unit :=
  modify fun machine => { machine with process := change machine.process }

def setStatus (status : Nat) : Sh Unit :=
  setProcess fun process => { process with status }

def workspace : Sh Workspace := do
  return (← get).workspace

def setWorkspace (workspace : Workspace) : Sh Unit :=
  modify fun machine => { machine with workspace }

def waitUntil (time : Nat) : Sh Unit := fun machine =>
  let time := max machine.clock time
  match machine.limit? with
  | some limit =>
    if limit ≤ time then (.error .stop, { machine with clock := limit })
    else (.ok (), { machine with clock := time })
  | none => (.ok (), { machine with clock := time })

def pass (span : Nat) : Sh Unit := do
  waitUntil ((← get).clock + span)

/-- A number that is not in use. -/
def fresh : Sh Nat := do
  let machine ← get
  set { machine with next := machine.next + 1 }
  return machine.next

/-- Does something and yields an interrupt instead of passing it on. -/
def attempt (action : Sh α) : Sh (Except Interrupt α) := fun machine =>
  let (result, machine) := action machine
  (.ok result, machine)

def resume (result : Except Interrupt α) : Sh α := fun machine => (result, machine)

/-- Repeats a step as long as it says so. Yields what the last one yields. -/
def iterate (step : α → Sh (α × Bool)) : (rounds : Nat) → α → Sh α
  | 0, _ => fun machine => (.error .stop, machine)
  | rounds + 1, value => fun machine =>
    match step value machine with
    | (.ok (value, true), machine) => iterate step rounds value machine
    | (.ok (value, false), machine) => (.ok value, machine)
    | (.error interrupt, machine) => (.error interrupt, machine)

/-- Takes a step for each item as long as it says so. -/
def eachWhile (step : α → Sh Bool) : List α → Sh Unit
  | [] => fun machine => (.ok (), machine)
  | item :: rest => fun machine =>
    match step item machine with
    | (.ok true, machine) => eachWhile step rest machine
    | (.ok false, machine) => (.ok (), machine)
    | (.error interrupt, machine) => (.error interrupt, machine)

/-- Whether an option of the shell is on. -/
def hasFlag (letter : Char) : Sh Bool := do
  return (← process).flags.contains letter

end Sh

end MutationTesting.Shell
