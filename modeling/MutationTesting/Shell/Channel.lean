import MutationTesting.Shell.Field
import MutationTesting.Shell.Machine
/-! Descriptors: what they lead to, and how it is read and written. An operation that cannot be
carried out yields the reason. -/
namespace MutationTesting.Shell

def lineFeed : UInt8 := 10

def bytesOfText (text : String) : ByteArray :=
  Text.bytesOf text.toList

def textOfBytes (bytes : ByteArray) : String :=
  String.ofList (bytes.toList.map Text.narrowChar)

/-- Reasons that do not come from the file system. -/
def badDescriptor : String := "Bad file descriptor"

def noSpace : String := "No space left on device"

namespace Pipe

/-- The first part of the next piece, up to the end of a line or to a number of bytes, and whether
the line ends there. -/
def nextPart? (limit? : Option Nat) (ends : UInt8 → Bool) (pipe : Pipe) :
    Option (Nat × ByteArray × Bool × Pipe) :=
  let unread := if pipe.unread.isEmpty then pipe.written.reverse else pipe.unread
  let written := if pipe.unread.isEmpty then [] else pipe.written
  match unread with
  | [] => none
  | (time, piece) :: rest =>
    let (stop, isEnd) := match piece.findIdx? ends pipe.offset with
      | some place => (place + 1, true)
      | none => (piece.size, false)
    let (stop, isEnd) := match limit? with
      | some limit => if pipe.offset + limit < stop then (pipe.offset + limit, false)
          else (stop, isEnd)
      | none => (stop, isEnd)
    let part := piece.extract pipe.offset stop
    if stop < piece.size then
      some (time, part, isEnd, { pipe with written, unread, offset := stop })
    else some (time, part, isEnd, { pipe with written, unread := rest, offset := 0 })

def piecesLeft (pipe : Pipe) : Nat :=
  pipe.unread.length + pipe.written.length

end Pipe

namespace Sh

/-- What a descriptor leads to, with its number. -/
def opened? (descriptor : Nat) : Sh (Option (Nat × Opened)) := do
  let machine ← get
  return do
    let number ← machine.process.channels.lookup descriptor
    return (number, ← machine.opened.lookup number)

def setOpened (number : Nat) (opened : Opened) : Sh Unit :=
  modify fun machine =>
    { machine with
      opened := (number, opened) :: machine.opened.filter fun (other, _) => other != number }

/-- A number for something that is open. -/
def newOpened (opened : Opened) : Sh Nat := do
  let number ← fresh
  modify fun machine => { machine with opened := (number, opened) :: machine.opened }
  return number

/-- Makes a descriptor lead to something that is open, or to nothing. -/
def connect (descriptor : Nat) (number? : Option Nat) : Sh Unit :=
  setProcess fun process =>
    let others := process.channels.filter fun (other, _) => other != descriptor
    { process with
      channels := match number? with
        | some number => (descriptor, number) :: others
        | none => others }

def newPipe : Sh Nat := do
  let number ← fresh
  modify fun machine => { machine with pipes := (number, {}) :: machine.pipes }
  return number

def pipe (number : Nat) : Sh Pipe := do
  return ((← get).pipes.lookup number).getD {}

def setPipe (number : Nat) (pipe : Pipe) : Sh Unit :=
  modify fun machine =>
    { machine with
      pipes := (number, pipe) :: machine.pipes.filter fun (other, _) => other != number }

/-- Takes a pipe away that is not needed any more. -/
def dropPipe (number : Nat) : Sh Unit :=
  modify fun machine =>
    { machine with pipes := machine.pipes.filter fun (other, _) => other != number }

/-- How many pieces a pipe takes that nobody reads yet. -/
def pipeLimit : Nat := 200000

/-- The signal for writing where nobody reads. -/
def pipeSignal : Nat := 13

/-- Ends the program or shell that writes to a pipe, since it would do so without end. -/
def endWriter (number : Nat) : Sh α := do
  let pipe ← pipe number
  setPipe number { pipe with isEndless := true }
  throw (.killed (← process).number pipeSignal)

def overwrite (content : ByteArray) (offset : Nat) (bytes : ByteArray) : ByteArray :=
  if offset = content.size then content ++ bytes
  else
    let padding : ByteArray := ⟨Array.replicate (offset - content.size) 0⟩
    content.extract 0 offset ++ padding ++ bytes ++
      content.extract (offset + bytes.size) content.size

def writeTo (number : Nat) (opened : Opened) (bytes : ByteArray) : Sh (Option String) := do
  if !opened.writes then return some badDescriptor
  match opened.target with
  | .outside stream =>
    modify fun machine =>
      { machine with written := (machine.clock, stream, bytes) :: machine.written }
    return none
  | .pipe place =>
    let pipe ← pipe place
    if pipeLimit < pipe.count then endWriter place
    setPipe place
      { pipe with written := ((← get).clock, bytes) :: pipe.written, count := pipe.count + 1 }
    return none
  | .file address =>
    let workspace ← workspace
    if let some (.file content) := workspace.at? address then
      let offset := if opened.appends then content.size else opened.offset
      setWorkspace (workspace.put address (some (.file (overwrite content offset bytes))))
      setOpened number { opened with offset := offset + bytes.size }
    return none
  | .directory _ => return some badDescriptor
  | .nowhere | .zeros => return none
  | .full => return some noSpace

def writeBytes (descriptor : Nat) (bytes : ByteArray) : Sh (Option String) := do
  if bytes.size = 0 then return none
  match ← opened? descriptor with
  | none => return some badDescriptor
  | some (number, opened) => writeTo number opened bytes

def write (descriptor : Nat) (text : String) : Sh (Option String) :=
  writeBytes descriptor (bytesOfText text)

def tryWrite (descriptor : Nat) (text : String) : Sh Unit := do
  let _ ← write descriptor text

/-- What is read from one that has no end, before it is clear whether that will do. -/
def sampleSize : Nat := 1000000

inductive Amount where
  /-- All that there is, which has to end. -/
  | all
  /-- All that there is; of a flow without end a long part, after which the reader is at its end. -/
  | sample
  /-- So many bytes. -/
  | bytes (count : Nat)
  /-- A line, which a byte ends. -/
  | line (ends : UInt8)

/-- Reads from a pipe. Yields the bytes and whether they end the line. `found` lists parts from the
last one on. -/
def readPipe (place : Nat) : (pieces : Nat) → Amount → List ByteArray → Sh (List ByteArray × Bool)
  | 0, amount, found => do
    let pipe ← pipe place
    if pipe.isEndless then
      match amount with
      | .sample => return (found, false)
      | _ => throw .stop
    waitUntil pipe.closed
    return (found, false)
  | pieces + 1, amount, found => do
    let (limit?, ends) : Option Nat × (UInt8 → Bool) := match amount with
      | .all | .sample => (none, fun _ => false)
      | .bytes count => (some count, fun _ => false)
      | .line byte => (none, fun b => b = byte)
    if limit? = some 0 then return (found, true)
    match (← pipe place).nextPart? limit? ends with
    | none => readPipe place pieces amount found
    | some (time, part, isEnd, pipe) =>
      setPipe place pipe
      waitUntil time
      if isEnd then return (part :: found, true)
      let amount := match amount with
        | .bytes count => .bytes (count - part.size)
        | amount => amount
      readPipe place pieces amount (part :: found)

/-- Parts that are listed from the last one on, together. -/
def joinParts (parts : List ByteArray) : ByteArray :=
  match parts with
  | [part] => part
  | _ => parts.reverse.foldl ByteArray.append .empty

/-- Reads from something that is open. Yields the bytes and whether they end the line. -/
def readFrom (number : Nat) (opened : Opened) (amount : Amount) :
    Sh (Except String (ByteArray × Bool)) := do
  if !opened.reads then return .error badDescriptor
  match opened.target with
  | .outside _ => return .error badDescriptor
  | .nowhere => return .ok (.empty, false)
  | .directory _ => return .error "Is a directory"
  | .zeros | .full =>
    match amount with
    | .bytes count => return .ok (⟨Array.replicate count 0⟩, true)
    | .sample => return .ok (⟨Array.replicate sampleSize 0⟩, false)
    | _ => throw .stop
  | .pipe place =>
    let (parts, isEnd) ← readPipe place ((← pipe place).piecesLeft + 1) amount []
    return .ok (joinParts parts, isEnd)
  | .file address =>
    match (← workspace).at? address with
    | some (.file content) =>
      let start := opened.offset
      let (stop, isEnd) := match amount with
        | .all | .sample => (content.size, false)
        | .bytes count => (min content.size (start + count), start + count ≤ content.size)
        | .line byte =>
          match content.findIdx? (fun b => b = byte) start with
          | some place => (place + 1, true)
          | none => (content.size, false)
      setOpened number { opened with offset := max start stop }
      return .ok (content.extract start stop, isEnd)
    | _ => return .ok (.empty, false)

def read (descriptor : Nat) (amount : Amount) : Sh (Except String (ByteArray × Bool)) := do
  match ← opened? descriptor with
  | none => return .error badDescriptor
  | some (number, opened) => readFrom number opened amount

/-- Whether what a descriptor reads never ends. -/
def isEndless (descriptor : Nat) : Sh Bool := do
  match ← opened? descriptor with
  | some (_, { target := .zeros, .. }) | some (_, { target := .full, .. }) => return true
  | some (_, { target := .pipe place, .. }) => return (← pipe place).isEndless
  | _ => return false

/-- Where a path of its own meaning leads. The second number is a descriptor. -/
def deviceOf? (names : List String) : Option (Target ⊕ Nat) :=
  match names with
  | ["dev", "null"] => some (.inl .nowhere)
  | ["dev", "zero"] => some (.inl .zeros)
  | ["dev", "full"] => some (.inl .full)
  | ["dev", "stdin"] => some (.inr 0)
  | ["dev", "stdout"] => some (.inr 1)
  | ["dev", "stderr"] => some (.inr 2)
  | ["dev", "fd", number] | ["proc", "self", "fd", number] => number.toNat?.map .inr
  | _ => none

/-- The names that a path leads through from the top. -/
def addressOf (text : String) : Sh (Workspace.Result (List String)) := do
  return (← workspace).address (pathOf text)

def openFile (opening : Opening) (text : String) : Sh (Except String Opened) := do
  let workspace ← workspace
  let reads := opening = .read || opening = .readWrite
  let writes := opening ≠ .read
  let fresh (target : Target) : Opened :=
    { target, reads, writes, appends := opening = .append }
  match workspace.address (pathOf text) with
  | .error fault => return .error fault.reason
  | .ok address =>
    match deviceOf? address with
    | some (.inl target) => return .ok (fresh target)
    | some (.inr descriptor) =>
      match ← opened? descriptor with
      | none => return .error "No such file or directory"
      | some (_, opened) =>
        if opening = .write then
          if let .file address := opened.target then
            setWorkspace (workspace.put address (some (.file .empty)))
        return .ok (fresh opened.target)
    | none =>
      if opening = .read then
        match workspace.find (pathOf text) with
        | .error fault => return .error fault.reason
        | .ok entry =>
          return .ok (fresh (if entry.isDirectory then .directory address else .file address))
      else
        match workspace.fileAddress (pathOf text) with
        | .error fault => return .error fault.reason
        | .ok address =>
          let isNew := (workspace.at? address).isNone
          let workspace :=
            if isNew || opening = .write || opening = .overwrite then
              workspace.put address (some (.file .empty))
            else workspace
          let mask := (← process).mask
          setWorkspace
            (if isNew then workspace.setMode address (0o666 &&& (0o777 - mask))
              else workspace)
          return .ok (fresh (.file address))

/-- A pipe from which a text of bytes can be read. -/
def openText (text : String) : Sh Opened := do
  let place ← newPipe
  setPipe place { written := [((← get).clock, bytesOfText text)], closed := (← get).clock }
  return { target := .pipe place, writes := false }

/-- How the shell names itself, the line and the command at the start of a message. -/
def lead : Sh String := do
  let process ← process
  let command := match process.command? with
    | some command => command ++ ": "
    | none => ""
  return s!"{process.name}: {process.line}: {command}"

def complain (message : String) : Sh Unit := do
  tryWrite 2 ((← lead) ++ message ++ "\n")

/-- Writes to the output as soon as the command at work has ended. -/
def say (text : String) : Sh Unit :=
  setProcess fun process => { process with buffer := text :: process.buffer }

/-- Writes what has been kept. Yields why that cannot be done. -/
def flush : Sh (Option String) := do
  let buffer := (← process).buffer
  if buffer.isEmpty then return none
  setProcess fun process => { process with buffer := [] }
  write 1 (String.join buffer.reverse)

/-- Writes a message and gives up what the shell does. -/
def refuse (message : String) : Sh α := do
  complain message
  setStatus 2
  throw (.failed 2)

end Sh

end MutationTesting.Shell
