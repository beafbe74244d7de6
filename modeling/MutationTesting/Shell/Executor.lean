import MutationTesting.Shell.Run
import MutationTesting.Suite.Event
/-! The shell as what runs the commands of a campaign. Its clock counts the time that passes in the
model of a shell: a program takes some time, `sleep` takes what it is told. -/
namespace MutationTesting.Shell

def shellNumber : Nat := 4000

/-- The variables that a command finds, also those that are given. -/
def environment (given : List (String × String)) : List (String × String) :=
  let usual := [("PATH", Sh.usualPath), ("HOME", "/root"),
    ("OBJC_DISABLE_INITIALIZE_FORK_SAFETY", "YES")]
  (usual.filter fun (name, _) => (given.lookup name).isNone) ++
    given.map fun (name, value) => (bytesOfName name, bytesOfName value)

/-- A directory with files that can be run or read. -/
def directoryOf (names : List String) : Entry :=
  .directory ((names.mergeSort fun a b => a ≤ b).map fun name => (name, .file .empty))

def system : List (String × Entry) :=
  let names := ("sh" :: "dash" :: "bash" :: programs.map Prod.fst).eraseDups
  let empty : Entry := .directory []
  [("bin", directoryOf names),
    ("dev", directoryOf ["full", "null", "stderr", "stdin", "stdout", "tty", "zero"]),
    ("etc", empty), ("home", empty), ("proc", empty), ("root", empty), ("sbin", empty),
    ("usr", .directory [("bin", directoryOf names), ("lib", empty), ("local", empty),
      ("sbin", empty), ("share", empty)]), ("var", .directory [("tmp", empty)])]

/-- The workspace with the directories of the system, as far as it has none of their names. -/
def withSystem (workspace : Workspace) : Workspace :=
  let missing := system.filter fun (name, _) => (workspace.top.entries.lookup name).isNone
  let names := ("sh" :: "dash" :: "bash" :: programs.map Prod.fst).eraseDups
  let modes := names.flatMap fun name =>
    [(["bin", name], 0o755), (["usr", "bin", name], 0o755)]
  { workspace with
    top := .directory (missing.foldl (fun entries (name, entry) =>
      Entry.insertNamed name entry entries) workspace.top.entries)
    modes := modes ++ workspace.modes }

/-- A workspace without the directories of the system that another one does not have. -/
def withoutSystem (before after : Workspace) : Workspace :=
  let isAdded (name : String) : Bool :=
    (system.lookup name).isSome && (before.top.entries.lookup name).isNone
  { before with
    top := .directory (after.top.entries.filter fun (name, _) => !isAdded name)
    modes := after.modes.filter fun (address, _) => !(address.head?.any isAdded) }

def start (given : List (String × String)) (workspace : Workspace) (limit? : Option Duration) :
    Machine where
  workspace := withSystem workspace
  limit? := limit?.map Duration.nanoseconds
  opened := [(1, { target := .nowhere }), (2, { target := .outside .output, reads := false }),
    (3, { target := .outside .errors, reads := false })]
  next := shellNumber + 1
  process := {
    number := shellNumber
    root := shellNumber - 1
    name := "sh"
    bindings := (environment given).map fun (name, value) =>
      (name, { value? := some value, isExported := true })
    channels := [(0, 1), (1, 2), (2, 3)] }

/-- A line as it is reported: without the line feed and the carriage returns that end it. -/
def reported (line : List UInt8) : String :=
  let trimmed := line.dropWhile fun b => b = lineFeed || b = 13
  Text.lenient ⟨trimmed.reverse.toArray⟩

/-- Adds a byte to the lines of two flows, in the order in which they end. The lines in progress
and those that have ended are listed from the last on. -/
def addByte (stream : Stream) (state : List UInt8 × List UInt8 × List String) (b : UInt8) :
    List UInt8 × List UInt8 × List String :=
  let (output, errors, lines) := state
  match stream with
  | .output =>
    if b = lineFeed then ([], errors, reported output :: lines) else (b :: output, errors, lines)
  | .errors =>
    if b = lineFeed then (output, [], reported errors :: lines) else (output, b :: errors, lines)

/-- The lines of what has been written, in the order in which they end. -/
def linesWritten (written : List (Nat × Stream × ByteArray)) : List String :=
  let inOrder := written.reverse.mergeSort fun (a, _) (b, _) => a ≤ b
  let (output, errors, lines) := inOrder.foldl (fun state (_, stream, bytes) =>
    bytes.foldl (addByte stream) state) ([], [], [])
  let rest := [output, errors].filter fun line => !line.isEmpty
  lines.reverse ++ rest.map reported

/-- How deep commands may lie in each other. -/
def depthLimit : Nat := 1000000000

/-- When nothing leads to the outside any more. -/
def closing (machine : Machine) : Nat :=
  let isOutside (number : Nat) : Bool :=
    (machine.opened.lookup number).any fun opened => match opened.target with
      | .outside _ => true
      | _ => false
  machine.jobs.foldl (fun time job =>
    match job.ended? with
    | some (ending, _) =>
      if job.process.channels.any fun (_, number) => isOutside number then max time ending
      else time
    | none => time) machine.clock

/-- Runs a command. It ends when nothing leads to the outside any more. -/
def execute (given : List (String × String)) (workspace : Workspace) (command : String)
    (limit? : Option Duration) : CommandRun × Workspace :=
  let self := Sh.perform depthLimit
  let (result, machine) :=
    (self (.program "/bin/sh" ["sh", "-c", bytesOfName command])) (start given workspace limit?)
  let finish := closing machine
  let isLate := machine.limit?.any fun limit => limit ≤ finish
  let ending : Ending :=
    if isLate then .timedOut
    else
      match result with
      | .ok () => .exited (machine.process.status % 256)
      | .error (.exit code) | .error (.failed code) => .exited (code % 256)
      | .error (.killed _ signal) => .exited (Signal.code signal)
      | .error .stop =>
        if limit?.isSome then .timedOut else .exited (Signal.code Signal.kill)
      | .error _ => .exited (machine.process.status % 256)
  (⟨linesWritten machine.written, ending, ⟨finish⟩⟩, withoutSystem workspace machine.workspace)

/-- The shell as an executor of commands that find variables. -/
def executor (given : List (String × String)) : Executor :=
  ⟨fun _ workspace command limit? => execute given workspace command limit?⟩

end MutationTesting.Shell
