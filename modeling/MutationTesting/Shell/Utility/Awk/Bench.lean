import MutationTesting.Shell.Utility.Awk.Script
import MutationTesting.Shell.Utility.Awk.Value
import MutationTesting.Shell.Utility.Basic
/-! The state of a script that works on records: its variables and tables, the record at work with
its fields, what is read and what is written. -/
namespace MutationTesting.Shell.Utility.Awk

inductive Slot where
  | value (value : Value)
  | table (number : Nat)
  /-- Nothing yet; as a table it is the one of a number. -/
  | free (number : Nat)
  deriving Inhabited

/-- What is left to be read, record by record, and how the command ended that has written it. -/
structure Source where
  rest : List Char
  fate : Fate := .exited 0

inductive Sink where
  | output
  | errors
  | opened (number : Nat)
  /-- To a command, which is run when the sink is closed; the latest piece first. -/
  | command (pieces : List String)

structure Bench where
  globals : Std.HashMap String Slot := {}
  /-- The parameters of the routine at work. -/
  locals : List (String × Slot) := []
  tables : Std.HashMap Nat Table := {}
  nextTable : Nat := 0
  record : Value := .nothing
  fields : Array Value := #[]
  /-- Whether the fields are those of the record. -/
  isSplit : Bool := true
  /-- Whether the record is made of the fields. -/
  isJoined : Bool := true
  /-- The ranges of records that have started. -/
  ranges : List Nat := []
  sinks : List (String × Sink) := []
  sources : List ((Bool × String) × Source) := []
  /-- What records are read from. -/
  main? : Option Source := none
  nextOperand : Nat := 1
  /-- Whether a file has been named. -/
  hasFile : Bool := false
  /-- Whether there is nothing more to be read. -/
  isOver : Bool := false
  /-- How many routines lie in each other, and how many values they have to keep for that. -/
  calls : Nat := 0
  kept : Nat := 0
  seed : Value := .number 0.0
  random : Nat := 1
  code : Nat := 0

/-- Why a statement does not go on. -/
inductive Jump where
  | next
  | nextFile
  | leave
  | again
  | back (value : Value)
  /-- The script ends, but what is done at the end is done. -/
  | exit
  /-- The script ends at once. -/
  | abort

abbrev Work := ExceptT Jump (StateT Bench Sh)

namespace Work

def slot? (name : String) : Work (Option Slot) := do
  let bench ← get
  return (bench.locals.lookup name).or (bench.globals.get? name)

def setSlot (name : String) (slot : Slot) : Work Unit :=
  modify fun bench =>
    if (bench.locals.lookup name).isSome then
      { bench with
        locals := bench.locals.map fun (other, held) =>
          (other, if other = name then slot else held) }
    else { bench with globals := bench.globals.insert name slot }

def global (name : String) : Work Value := do
  match (← get).globals.get? name with
  | some (.value value) => return value
  | _ => return .nothing

def setGlobal (name : String) (value : Value) : Work Unit :=
  modify fun bench => { bench with globals := bench.globals.insert name (.value value) }

def textOf (value : Value) : Work String := do
  match value with
  | .number _ => return value.toText ((← global "CONVFMT").toText "%.6g")
  | _ => return value.toText ""

def globalText (name : String) : Work String := do
  textOf (← global name)

def keyOf (value : Value) : Work Key := do
  return Key.ofValue (← globalText "CONVFMT") value

def abort (message : String) : Work α := do
  Sh.tryWrite 2 ((← Sh.programName) ++ ": " ++ message ++ "\n")
  modify fun bench => { bench with code := 2 }
  throw .abort

/-- Ends the script since something cannot be done. -/
def fail (reason : String) : Work α := do
  let file ← globalText "FILENAME"
  let records ← globalText "NR"
  let inFile ← globalText "FNR"
  abort ("run time error: " ++ reason ++ "\n\tFILENAME=\"" ++ file ++ "\" FNR=" ++ inFile ++
    " NR=" ++ records)

/-- The regular expression that a text is. -/
def expression (written : String) : Work Regex.Expression := do
  match expressionOf written.toList with
  | .ok expression => return expression
  | .error refusal => abort ("line 1: " ++ refusalText refusal written)

def separator (written : String) : Work Separator := do
  match Separator.ofText written.toList with
  | .ok separator => return separator
  | .error refusal => abort ("line 1: " ++ refusalText refusal written)

/-- The number of the table that a name stands for. A name without a meaning stands for a table from
then on. -/
def tableNumber (name : String) : Work Nat := do
  match ← slot? name with
  | some (.table number) => return number
  | some (.free number) =>
    setSlot name (.table number)
    return number
  | some (.value .nothing) | none =>
    let number := (← get).nextTable
    modify fun bench => { bench with nextTable := number + 1 }
    setSlot name (.table number)
    return number
  | some (.value _) => fail ("can't use a scalar as an array: " ++ name)

def table (number : Nat) : Work Table := do
  return ((← get).tables.get? number).getD {}

def setTable (number : Nat) (table : Table) : Work Unit :=
  modify fun bench => { bench with tables := bench.tables.insert number table }

/-- Makes the fields those of the record. -/
def splitRecord : Work Unit := do
  let bench ← get
  if bench.isSplit then return
  let separator ← separator (← globalText "FS")
  let parts := partsOf separator (bench.record.toText "").toList
  modify fun bench =>
    { bench with
      isSplit := true
      fields := (parts.map fun part => Value.ofInput (String.ofList part)).toArray }

def record : Work Value := do
  let bench ← get
  if bench.isJoined then return bench.record
  let mark ← globalText "OFS"
  let texts ← bench.fields.toList.mapM textOf
  let record := Value.ofInput (String.intercalate mark texts)
  modify fun bench => { bench with record, isJoined := true }
  return record

def setRecord (value : Value) : Work Unit := do
  modify fun bench => { bench with record := value, isSplit := false, isJoined := true }

/-- The value of a field; the record itself is the field of number zero. -/
def field (number : Nat) : Work Value := do
  if number = 0 then record
  else
    splitRecord
    return (← get).fields.getD (number - 1) .nothing

def fieldCount : Work Nat := do
  splitRecord
  return (← get).fields.size

def setFieldCount (count : Nat) : Work Unit := do
  splitRecord
  modify fun bench =>
    { bench with
      fields := bench.fields.extract 0 count ++ Array.replicate (count - bench.fields.size) .nothing
      isJoined := false }

def setField (number : Nat) (value : Value) : Work Unit := do
  if number = 0 then setRecord (.ofInput (← textOf value))
  else
    if (← fieldCount) < number then setFieldCount number
    modify fun bench =>
      { bench with fields := bench.fields.setIfInBounds (number - 1) value, isJoined := false }

def variable_ (name : String) : Work Value := do
  match ← slot? name with
  | some (.value value) => return value
  | some _ => return .nothing
  | none => if name = "NF" then return .ofNat (← fieldCount) else return .nothing

/-- Gives a value to a variable. Fields are separated, and put together, as it is said until
then. -/
def setVariable (name : String) (value : Value) : Work Unit := do
  if ((← get).locals.lookup name).isSome then setSlot name (.value value)
  else if name = "NF" then setFieldCount (truncated value.toFloat).toNat
  else
    if name = "FS" then splitRecord
    if name = "OFS" then let _ ← record
    setGlobal name value

/-- Adds one to the number of a global variable. -/
def count (name : String) : Work Unit := do
  setGlobal name (.number ((← global name).toFloat + 1.0))

def recordIn (source : Source) : Work (Option (Value × Source)) := do
  let separator ← match (← globalText "RS").toList with
    | [c] => pure (Separator.char c)
    | written => separator (String.ofList written)
  match recordAt? separator source.rest with
  | none => return none
  | some (record, rest) => return some (.ofInput (String.ofList record), { source with rest })

def assignment? (operand : String) : Option (String × Value) :=
  let cs := operand.toList
  let name := cs.takeWhile Regex.isWordChar
  match name, cs.drop name.length with
  | first :: _, '=' :: value =>
    if first.isDigit then none
    else some (String.ofList name, .ofInput (String.ofList (unescaped (value.length + 1) value)))
  | _, _ => none
where
  /-- What a text stands for that has letters behind backslashes. -/
  unescaped : (fuel : Nat) → List Char → List Char
    | 0, cs => cs
    | _, [] => []
    | fuel + 1, '\\' :: c :: rest =>
      match Regex.Token.character? ('\\' :: c :: rest) with
      | some (d, after) =>
        if "ntrfvab\"\\01234567".toList.contains c then d :: unescaped fuel after
        else '\\' :: c :: unescaped fuel rest
      | none => '\\' :: unescaped fuel (c :: rest)
    | fuel + 1, c :: rest => c :: unescaped fuel rest

/-- Reads all that a file holds. A directory can be opened but not read. -/
def content (path : String) : Work (Except String String) := do
  match ← Sh.readInput .sample path with
  | .ok bytes => return .ok (textOfBytes bytes)
  | .error reason =>
    if reason = "Is a directory" then abort ("read error (" ++ reason ++ ")")
    return .error reason

/-- Goes on to the next file that is named, and takes up assignments on the way. Without names the
input is read. -/
def openNext : (fuel : Nat) → Work Unit
  | 0 => modify fun bench => { bench with isOver := true }
  | fuel + 1 => do
    let bench ← get
    let count := (truncated (← global "ARGC").toFloat).toNat
    if bench.nextOperand < count then
      modify fun bench => { bench with nextOperand := bench.nextOperand + 1 }
      let operands ← table (← tableNumber "ARGV")
      let operand ← textOf ((operands.get? (.number bench.nextOperand)).getD .nothing)
      if operand = "" then openNext fuel
      else match assignment? operand with
        | some (name, value) =>
          setVariable name value
          openNext fuel
        | none =>
          modify fun bench => { bench with hasFile := true }
          setGlobal "FILENAME" (.text operand)
          setGlobal "FNR" (.number 0.0)
          match ← content operand with
          | .ok text => modify fun bench => { bench with main? := some { rest := text.toList } }
          | .error reason => abort ("cannot open \"" ++ operand ++ "\" (" ++ reason ++ ")")
    else if bench.hasFile then modify fun bench => { bench with isOver := true }
    else
      modify fun bench => { bench with hasFile := true }
      setGlobal "FILENAME" (.text "-")
      match ← content "-" with
      | .ok text => modify fun bench => { bench with main? := some { rest := text.toList } }
      | .error _ => modify fun bench => { bench with isOver := true }

def nextRecord : (fuel : Nat) → Work (Option Value)
  | 0 => return none
  | fuel + 1 => do
    let bench ← get
    if bench.isOver then return none
    match bench.main? with
    | none =>
      openNext (fuel + 1)
      nextRecord fuel
    | some source =>
      match ← recordIn source with
      | some (record, source) =>
        modify fun bench => { bench with main? := some source }
        count "NR"
        count "FNR"
        return some record
      | none =>
        modify fun bench => { bench with main? := none }
        nextRecord fuel

/-- The most files that are gone through at a time. -/
def fileLimit : Nat := 100000

def readRecord : Work (Option Value) :=
  nextRecord fileLimit

/-- What a command writes or what a file holds, from where it has been read last. -/
def source? (self : Actor) (isCommand : Bool) (name : String) : Work (Option Source) := do
  match (← get).sources.lookup (isCommand, name) with
  | some source => return some source
  | none =>
    if isCommand then
      let (text, fate) ← Sh.textFrom self "/bin/sh" name
      return some { rest := text.toList, fate }
    else
      match ← content (if name = "/dev/stdin" then "-" else name) with
      | .ok text => return some { rest := text.toList }
      | .error _ => return none

/-- Takes note of how far a source has been read. -/
def setSource (isCommand : Bool) (name : String) (source : Source) : Work Unit :=
  modify fun bench =>
    { bench with
      sources := ((isCommand, name), source) ::
        bench.sources.filter fun (other, _) => other != (isCommand, name) }

/-- What something is written to, which is opened if it is not open. -/
def sink (outlet : Outlet) (name : String) : Work Sink := do
  match (← get).sinks.lookup name with
  | some sink => return sink
  | none =>
    match outlet with
    | .command =>
      let _ ← Sh.flush
      return .command []
    | .file | .behind =>
      if name = "/dev/stdout" || name = "-" then return .output
      if name = "/dev/stderr" then return .errors
      match ← Sh.openFile (if outlet = .behind then .append else .write) name with
      | .ok opened => return .opened (← Sh.newOpened opened)
      | .error reason => abort ("cannot open \"" ++ name ++ "\" for output (" ++ reason ++ ")")

def setSink (name : String) (sink : Sink) : Work Unit :=
  modify fun bench =>
    { bench with sinks := (name, sink) :: bench.sinks.filter fun (other, _) => other != name }

/-- Writes a text to a file or to a command. -/
def writeTo (outlet : Outlet) (name text : String) : Work Unit := do
  let sink ← sink outlet name
  setSink name sink
  match sink with
  | .output => Sh.say text
  | .errors => Sh.tryWrite 2 text
  | .opened number =>
    if let some opened := (← (getThe Machine : Sh Machine)).opened.lookup number then
      let _ ← Sh.writeTo number opened (bytesOfText text)
  | .command pieces => setSink name (.command (text :: pieces))

/-- The number that the end of a command is. -/
def fateNumber : Fate → Nat
  | .exited code => code
  | .killed signal => 256 + signal

/-- Closes what is written to. Yields how that ends. -/
def closeSink (self : Actor) (name : String) : Work Nat := do
  let sink? := (← get).sinks.lookup name
  modify fun bench =>
    { bench with sinks := bench.sinks.filter fun (other, _) => other != name }
  match sink? with
  | some (.command pieces) =>
    let number ← Sh.newOpened (← Sh.openText (String.join pieces.reverse))
    let fate ← Sh.fork do
      Sh.connect 0 (some number)
      self (.program "/bin/sh" ["/bin/sh", "-c", name])
    return fateNumber fate
  | _ => return 0

/-- Closes all that is written to, what has been used last first. -/
def closeAll (self : Actor) : Work Unit := do
  for (name, _) in (← get).sinks do
    let _ ← closeSink self name

/-- Repeats a step as long as it says so. -/
def repeated (step : Work Bool) : Work Unit := ExceptT.mk fun bench => do
  let start : Except Jump Unit × Bench := (.ok (), bench)
  Sh.iterate (fun (_, bench) => do
    let (result, bench) ← step.run.run bench
    match result with
    | .ok goesOn => return ((.ok (), bench), goesOn)
    | .error jump => return ((.error jump, bench), false)) roundLimit start
where
  /-- The most rounds of a loop; one that has more does not end. -/
  roundLimit : Nat := 2000000

end Work

end MutationTesting.Shell.Utility.Awk
