import MutationTesting.Shell.Task
/-! Commands that run beside others. They are run when something waits for them or may see what
they have done, each from the time at which it was started. -/
namespace MutationTesting.Shell.Sh

/-- Does what a shell does, and then what it does at its end. -/
def toEndOf (self : Actor) (action : Sh Unit) : Sh Unit := do
  match ← attempt action with
  | .ok () | .error (.leave _) | .error (.again _) | .error .back => pure ()
  | .error (.exit code) | .error (.failed code) => setStatus code
  | .error interrupt => throw interrupt
  match ← trap? 0 with
  | none | some "" => return
  | some action =>
    let code := (← process).status
    setProcess fun process =>
      { process with
        traps := process.traps.filter fun (number, _) => number != 0
        saved? := some code }
    match ← attempt (self (.text {} action)) with
    | .error (.exit code) | .error (.failed code) => setStatus code
    | .error (.killed number signal) => throw (.killed number signal)
    | .error .stop => throw .stop
    | _ => setStatus code

/-- Runs a job from its start, but not beyond a time. -/
def runJob (self : Actor) (finish : Sh Unit) (cut? : Option Nat) (job : Job) : Sh Unit := do
  let before ← get
  let limit? := match before.limit?, cut? with
    | some limit, some cut => some (min limit cut)
    | limit?, cut? => limit?.or cut?
  set { before with
    clock := job.start
    limit?
    process := job.process
    workspace := { before.workspace with here := job.here }
    jobs := before.jobs.map fun (other : Job) =>
      if other.number = job.number then { other with isRunning := true } else other }
  let result ← attempt do
    pass forkTime
    let isBeside := job.body matches .pipeline ..
    toEndOf self (self (.script { isLast := true, isBeside } job.body))
    finish
  let after ← get
  let fate : Fate := match result with
    | .ok () => .exited (after.process.status % 256)
    | .error (.killed _ signal) => .killed signal
    | .error (.exit code) | .error (.failed code) => .exited (code % 256)
    | .error _ => .killed Signal.kill
  let time := match result, limit? with
    | .error .stop, some limit => limit
    | _, _ => after.clock
  set { after with
    clock := before.clock
    limit? := before.limit?
    process := before.process
    workspace := { after.workspace with here := before.workspace.here }
    jobs := after.jobs.map fun (other : Job) =>
      if other.number = job.number then
        { other with ended? := some (time, fate), isRunning := false }
      else other }
  match result with
  | .error (.killed number signal) =>
    if number ≠ job.number then throw (.killed number signal)
  | _ => return

/-- Runs the jobs that a shell has started and that have not been run. There may be so many jobs
in each other. -/
def finishJobs (self : Actor) : (depth : Nat) → Sh Unit
  | 0 => return
  | depth + 1 => do
    let machine ← get
    let jobs := machine.jobs.filter fun job =>
      job.parent = machine.process.number && job.ended?.isNone
    jobs.forM (runJob self (finishJobs self depth) none)

/-- How deep jobs may lie in each other. -/
def jobDepth : Nat := 100

/-- Does what a shell does up to its end, and what its jobs do. -/
def wholeShell (self : Actor) (action : Sh Unit) : Sh Unit := do
  let result ← attempt (toEndOf self action)
  finishJobs self jobDepth
  resume result

/-- Runs a job if it has ended at a time. Yields whether it has. -/
def hasEndedBy (self : Actor) (time : Nat) (job : Job) : Sh Bool := do
  match job.ended? with
  | some (ending, _) => return ending ≤ time
  | none =>
    let before ← get
    if before.jobs.any fun other => other.number = job.number && other.isRunning then
      return false
    runJob self (finishJobs self jobDepth) none job
    let after ← get
    let isEnded := after.jobs.any fun other =>
      other.number = job.number && other.ended?.any fun (ending, _) => ending ≤ time
    if !isEnded then set before
    return isEnded

/-- Runs the jobs that have ended at a time. -/
def catchUp (self : Actor) (time : Nat) : Sh Unit := do
  (← get).jobs.forM fun job => do
    let _ ← hasEndedBy self time job

/-- Starts a command beside those that follow. -/
def background (body : Script) (redirect : Sh Unit) : Sh Unit := do
  let slot ← takeSlot
  let machine ← get
  let number ← fresh
  let before := machine.process
  setProcess fun process => process.child number
  connect 0 (some (← newOpened { target := .nowhere }))
  redirect
  let process ← process
  let job : Job :=
    { number, parent := before.number, start := (← get).clock, process,
      here := machine.workspace.here, body, slot }
  modify fun machine => { machine with jobs := machine.jobs ++ [job] }
  setProcess fun _ => { before with latest? := some number, status := 0 }

def waitForJob (self : Actor) (reports : Bool) (job : Job) : Sh Nat := do
  if job.ended?.isNone then runJob self (finishJobs self jobDepth) none job
  match ← job? job.number with
  | some { ended? := some (time, fate), .. } =>
    waitUntil time
    if reports then reportFate fate
    match ← job? job.number with
    | some job => setJob { job with isAwaited := true }
    | none => pure ()
    return fate.code
  | _ => return 127

/-- The job that an argument behind a percent sign names. -/
def jobOf (argument : String) : Sh Job := do
  let jobs ← ownJobs
  let (found?, reason) := match (argument.toList.drop 1) with
    | [] | ['%'] | ['+'] => (jobs.head?, "No current job")
    | ['-'] => (jobs[1]?, "No previous job")
    | name =>
      ((Signal.decimal? (String.ofList name)).bind fun slot =>
        jobs.find? fun job => job.slot = slot, "No such job: " ++ argument)
  match found? with
  | some job => return job
  | none => refuse reason

def wait (self : Actor) (arguments : List String) : Sh Nat := do
  let (_, names) ← takeOptions "" arguments
  if names.isEmpty then
    let _ ← (← ownJobs).reverse.mapM (waitForJob self false)
    return 0
  let codes ← names.mapM fun name => do
    if name.startsWith "%" then waitForJob self true (← jobOf name)
    else
      let number ← countOf name
      match (← ownJobs).find? fun job => job.number = number with
      | some job => waitForJob self true job
      | none => return 127
  return codes.getLastD 127

/-- Shows a job. One that has ended leaves the table. -/
def showJob (self : Actor) (options : List Char) (job : Job) : Sh Unit := do
  if options.contains 'p' then say s!"{job.number}\n"
  else
    let isEnded ← hasEndedBy self (← get).clock job
    let job := (← job? job.number).getD job
    let jobs ← ownJobs
    let state := match isEnded, job.ended? with
      | true, some (_, .exited 0) => "Done"
      | true, some (_, .exited code) => s!"Done({code})"
      | true, some (_, .killed signal) => Signal.messageOf signal
      | _, _ => "Running"
    let sign (place : Nat) : Bool := (jobs[place]?.map Job.number) = some job.number
    let sign := if sign 0 then "+" else if sign 1 then "-" else " "
    let number := if options.isEmpty then "" else s!"{job.number} "
    let text := s!"[{job.slot}] {sign} {number}{state}"
    let others := match job.body with
      | .pipeline stages _ => stages.length - 1
      | _ => 0
    say (text ++ String.ofList (List.replicate (max 1 (33 - text.length)) ' ') ++
      String.join (List.replicate others " | ") ++ "\n")
    if isEnded then setJob { job with isGone := true }

def showJobs (self : Actor) (arguments : List String) : Sh Nat := do
  let (options, names) ← takeOptions "lp" arguments
  let letters := options.map Prod.fst
  if names.isEmpty then (← ownJobs).forM (showJob self letters)
  else names.forM fun name => do
    if name.startsWith "%" then showJob self letters (← jobOf name)
    else refuse ("No such job: " ++ name)
  return 0

/-- Sends a signal to a process. Yields whether there is such a process. -/
def send (self : Actor) (signal number : Nat) : Sh Bool := do
  let machine ← get
  let process := machine.process
  let isFatal := signal ≠ 0 && !Signal.harmless.contains signal &&
    !Signal.stopping.contains signal
  let queue : Sh Unit :=
    modify fun machine => { machine with signals := machine.signals ++ [(number, signal)] }
  -- The first process takes no notice.
  if number = 1 then return true
  if number = process.number || number = 0 then
    match process.traps.lookup signal, signal = Signal.kill || signal = 0 with
    | some _, false => queue
    | _, _ => if isFatal then throw (.killed process.number signal)
    return true
  match process.ancestors.lookup number with
  | some trapped =>
    if trapped.contains signal && signal ≠ Signal.kill then queue
    else if isFatal then throw (.killed number signal)
    return true
  | none =>
    match ← job? number with
    | none => return false
    | some job =>
      if ← hasEndedBy self machine.clock job then return false
      if isFatal then
        runJob self (finishJobs self jobDepth) (some machine.clock) job
        if let some job ← job? number then
          setJob { job with ended? := some (machine.clock, .killed signal) }
      return true

/-- What `kill` says of how it is called. -/
def killUsage : String :=
  "Usage: kill [-s sigspec | -signum | -sigspec] [pid | job]... or\nkill -l [exitstatus]"

/-- Sends signals to processes, or shows their names. -/
def kill (self : Actor) (arguments : List String) : Sh Nat := do
  let (signal?, lists, rest) ← do
    match arguments with
    | [] => refuse killUsage
    | first :: rest =>
      match first.toList with
      | '-' :: name =>
        match Signal.ofText? 1 (String.ofList name) with
        | some signal => pure (some signal, false, rest)
        | none =>
          let (options, rest) ← takeOptions "ls:" arguments
          let signal? ← options.foldlM (fun found (letter, value) => do
            if letter ≠ 's' then return found
            match Signal.ofText? 1 value with
            | some signal => return some signal
            | none => refuse ("invalid signal number or name: " ++ value)) none
          pure (signal?, options.any fun (letter, _) => letter = 'l', rest)
      | _ => pure (none, false, arguments)
  let signal? := if lists then signal? else some (signal?.getD 15)
  if lists then
    match signal?, rest with
    | some _, _ => refuse killUsage
    | none, [] =>
      say "0\n"
      (List.range Signal.largest).forM fun n => say (Signal.nameOf (n + 1) ++ "\n")
      return 0
    | none, text :: _ =>
      let number ← countOf text
      let number := if 128 < number then number - 128 else number
      if number = 0 || Signal.largest < number then
        refuse ("invalid signal number or exit status: " ++ text)
      say (Signal.nameOf number ++ "\n")
      return 0
  if rest.isEmpty then refuse killUsage
  let codes ← rest.mapM fun name => do
    -- There are no groups of processes that jobs belong to.
    let number? ← match name.toList with
      | '%' :: _ =>
        let _ ← jobOf name
        pure none
      | '-' :: rest =>
        let _ ← countOf (String.ofList rest)
        pure none
      | _ => some <$> countOf name
    let isSent ← match number? with
      | some number => send self (signal?.getD 15) number
      | none => pure false
    if isSent then return 0
    complain "No such process\n"
    return 1
  return codes.foldl max 0

end MutationTesting.Shell.Sh
