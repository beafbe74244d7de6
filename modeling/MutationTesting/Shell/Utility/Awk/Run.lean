import MutationTesting.Shell.Utility.Awk.Bench
import MutationTesting.Shell.Utility.Awk.Grammar
/-! Scripts that work on records, as they run. -/
namespace MutationTesting.Shell.Utility.Awk

/-- What a script that runs does not change: what carries out commands, and the script. -/
structure Setting where
  self : Actor
  script : Script

inductive Place where
  | variable_ (name : String)
  | element (table : Nat) (key : Key)
  | field (number : Nat)

namespace Work

/-- The value at a place. An element that is asked for is there from then on. -/
def load : Place → Work Value
  | .variable_ name => variable_ name
  | .field number => field number
  | .element number key => do
    let table := (← table number).ask key
    setTable number table
    return (table.get? key).getD .nothing

def store (place : Place) (value : Value) : Work Unit := do
  match place with
  | .variable_ name => setVariable name value
  | .field number => setField number value
  | .element number key => setTable number ((← table number).put key value)

/-- The key of some values: their texts, with a mark between them if there is more than one. -/
def keyOfAll (values : List Value) : Work Key := do
  match values with
  | [value] => keyOf value
  | _ =>
    let mark ← globalText "SUBSEP"
    return .name (String.intercalate mark (← values.mapM textOf))

/-- A number for what remains of a quotient, with the sign of the first number. -/
def remainder (x y : Float) : Float :=
  match realOf x, realOf y with
  | .finite isNegative m e, .finite _ n f =>
    if n = 0 then 0.0 / 0.0
    else
      let low := min e f
      let rest := (m * Nat.pow 2 (e - low).toNat) % (n * Nat.pow 2 (f - low).toNat)
      floatOf (.finite isNegative rest low)
  | .finite .., .infinite _ => x
  | _, _ => 0.0 / 0.0

/-- Whether a comparison holds of how two values are ordered. -/
def compares (operation : Operation) (first second : Value) : Work Bool := do
  if first.isNumeric && second.isNumeric then
    let (x, y) := (first.toFloat, second.toFloat)
    return match operation with
      | .less => x < y
      | .atMost => x ≤ y
      | .same => x == y
      | .other => x != y
      | .atLeast => y ≤ x
      | _ => y < x
  else
    let (s, t) := (← textOf first, ← textOf second)
    return match operation with
      | .less => s < t
      | .atMost => !(t < s)
      | .same => s = t
      | .other => s ≠ t
      | .atLeast => !(s < t)
      | _ => t < s

def combined (operation : Operation) (first second : Value) : Work Value := do
  let (x, y) := (first.toFloat, second.toFloat)
  match operation with
  | .plus => return .number (x + y)
  | .minus => return .number (x - y)
  | .times => return .number (x * y)
  | .over => return .number (x / y)
  | .modulo => return .number (remainder x y)
  | .power => return .number (x ^ y)
  | .join => return .text ((← textOf first) ++ (← textOf second))
  | comparison => return .ofBool (← compares comparison first second)

def formatted (name : String) (values : List Value) : Work String := do
  let format ← textOf (values.headD .nothing)
  let conversion := (← globalText "CONVFMT")
  match layOut (Value.toText conversion) format (values.drop 1) with
  | (text, none) => return text
  | (text, some fault) =>
    let shown := name ++ "(\"" ++ format ++ "\")"
    if name = "printf" then Sh.say text
    match fault with
    | .missing => fail ("not enough arguments passed to " ++ shown)
    | .improper number => fail s!"improper conversion(number {number}) in {shown}"

def printed (values : List Value) : Work String := do
  let format ← globalText "OFMT"
  let texts ← values.mapM fun value =>
    match value with
    | .number _ => return value.toText format
    | _ => textOf value
  return String.intercalate (← globalText "OFS") texts ++ (← globalText "ORS")

/-- Takes up a record that has been read, at a place if there is one. -/
def takeUp (place? : Option Place) (value : Value) : Work Unit :=
  match place? with
  | some place => store place value
  | none => setRecord value

/-- Reads a record of a file or of what a command writes. Yields one if there is one, zero at the
end and minus one if there is nothing to read from. -/
def readFrom (setting : Setting) (isCommand : Bool) (name : String) (place? : Option Place) :
    Work Value := do
  match ← source? setting.self isCommand name with
  | none => return .number (-1.0)
  | some source =>
    match ← recordIn source with
    | some (value, source) =>
      setSource isCommand name source
      takeUp place? value
      return .number 1.0
    | none =>
      setSource isCommand name { source with rest := [] }
      return .number 0.0

def close (setting : Setting) (name : String) : Work Value := do
  let bench ← get
  if (bench.sinks.lookup name).isSome then
    return .ofNat (← closeSink setting.self name)
  match (bench.sources.lookup (true, name)).or (bench.sources.lookup (false, name)) with
  | some source =>
    modify fun bench =>
      { bench with sources := bench.sources.filter fun ((_, other), _) => other ≠ name }
    return .ofNat (fateNumber source.fate)
  | none => return .number (-1.0)

def system (setting : Setting) (command : String) : Work Value := do
  let _ ← Sh.flush
  let fate ← Sh.fork (setting.self (.program "/bin/sh" ["/bin/sh", "-c", command]))
  return .ofNat (fateNumber fate)

/-- What a function of values gives, for one that needs nothing else. -/
def applied (setting : Setting) (function : Function) (values : List Value) : Work Value := do
  let first := values.headD .nothing
  let second := (values.drop 1).headD .nothing
  let x := first.toFloat
  match function with
  | .part =>
    let length? := (values.drop 2).head?.map fun value => truncated value.toFloat
    let start := truncated second.toFloat
    return .text (String.ofList (partOf (← textOf first).toList start length?))
  | .index => return .ofNat (placeOf (← textOf second).toList (← textOf first).toList)
  | .layOut => return .text (← formatted "sprintf" values)
  | .sin => return .number x.sin
  | .cos => return .number x.cos
  | .arctangent => return .number (Float.atan2 x second.toFloat)
  | .exponential => return .number x.exp
  | .logarithm => return .number x.log
  | .root => return .number x.sqrt
  | .integer => return .number (if x < 0.0 then x.ceil else x.floor)
  | .random =>
    let random := ((← get).random * 1103515245 + 12345) % Nat.pow 2 31
    modify fun bench => { bench with random }
    return .number (Float.ofNat random / Float.ofNat (Nat.pow 2 31))
  | .seed =>
    let before := (← get).seed
    modify fun bench =>
      { bench with seed := first, random := (truncated x).natAbs % Nat.pow 2 31 }
    return before
  | .lower => return .text (String.ofList ((← textOf first).toList.map Char.toLower))
  | .upper => return .text (String.ofList ((← textOf first).toList.map Char.toUpper))
  | .system => system setting (← textOf first)
  | .close => close setting (← textOf first)
  | .flush =>
    let _ ← Sh.flush
    return .number 0.0
  | _ => return .ofNat (← textOf first).length

/-- Notes where a text fits an expression. -/
def located (expression : Regex.Expression) (written : String) : Work Value := do
  let (start, length) : Float × Float :=
    match expression.search? written.toList.toArray 0 with
    | some found => (Float.ofNat (found.start + 1), Float.ofNat found.length)
    | none => (0.0, -1.0)
  setGlobal "RSTART" (.number start)
  setGlobal "RLENGTH" (.number length)
  return .number start

/-- Puts the parts of a text into a table. Yields how many there are. -/
def splitInto (name : String) (separator : Separator) (written : String) : Work Value := do
  let parts := (partsOf separator written.toList).map fun part => Value.ofInput (String.ofList part)
  setTable (← tableNumber name) (.ofList parts)
  return .ofNat parts.length

/-- What a name stands for, to be given to a routine. A name without a meaning may become a table in
the routine. -/
def shared (name : String) : Work Slot := do
  match ← slot? name with
  | some (.value .nothing) | none =>
    if name = "NF" then return .value (← variable_ name)
    let number := (← get).nextTable
    modify fun bench => { bench with nextTable := number + 1 }
    setSlot name (.free number)
    return .free number
  | some slot => return slot

/-- How deep routines may lie in each other, and how many values they may keep. -/
def callLimit : Nat := 4000

def keptLimit : Nat := 1006

/-- Takes note that more values are kept while something is done. -/
def keeping (count : Nat) (action : Work α) : Work α := do
  modify fun bench => { bench with kept := bench.kept + count }
  let result ← action
  modify fun bench => { bench with kept := bench.kept - count }
  return result

/-- Ends the script if routines lie too deep in each other. -/
def checkDepth : Work Unit := do
  let bench ← get
  if keptLimit < bench.kept then abort "program limit exceeded: eval stack size=1024"
  if callLimit < bench.calls then
    let number := (← Sh.process).number
    liftM (throw (.killed number 11) : Sh Unit)

mutual

def eval (setting : Setting) : (depth : Nat) → Term → Work Value
  | 0, _ => fail "too deep"
  | depth + 1, term => do
    let eval (term : Term) : Work Value := eval setting depth term
    match term with
    | .number x => return .number x
    | .text s => return .text s
    | .pattern expression =>
      return .ofBool (expression.fits (← textOf (← record)).toList.toArray)
    | .named name => variable_ name
    | .enclosed inner => eval inner
    | .element _ _ | .field _ => load (← locate setting depth term)
    | .assigned operation? place value =>
      let place ← locate setting depth place
      let value ← eval value
      let value ← match operation? with
        | some operation => combined operation (← load place) value
        | none => pure value
      store place value
      return value
    | .stepped isUp isBefore place =>
      let place ← locate setting depth place
      let before := (← load place).toFloat
      let after := if isUp then before + 1.0 else before - 1.0
      store place (.number after)
      return .number (if isBefore then after else before)
    | .negated inner => return .ofBool (!(← eval inner).holds)
    | .signed isNegative inner =>
      let x := (← eval inner).toFloat
      return .number (if isNegative then -x else x)
    | .binary operation first second =>
      let first ← eval first
      combined operation first (← keeping 1 (eval second))
    | .fits isNegated subject pattern =>
      let subject ← textOf (← eval subject)
      let expression ← pattern_ setting depth pattern
      return .ofBool (expression.fits subject.toList.toArray != isNegated)
    | .both first second =>
      if (← eval first).holds then return .ofBool (← eval second).holds
      return .ofBool false
    | .either first second =>
      if (← eval first).holds then return .ofBool true
      return .ofBool (← eval second).holds
    | .choice condition first second =>
      if (← eval condition).holds then eval first else eval second
    | .holds keys name =>
      let key ← keyOfAll (← keys.mapM eval)
      return .ofBool ((← table (← tableNumber name)).contains key)
    | .call name arguments => call setting depth name arguments
    | .apply function arguments => apply setting depth function arguments
    | .read source? place? =>
      let source? ← source?.mapM fun (isCommand, term) => do
        return (isCommand, ← textOf (← eval term))
      let place? ← place?.mapM (locate setting depth)
      match source? with
      | some (isCommand, name) => readFrom setting isCommand name place?
      | none =>
        match ← readRecord with
        | some value =>
          takeUp place? value
          return .number 1.0
        | none => return .number 0.0

def pattern_ (setting : Setting) : (depth : Nat) → Term → Work Regex.Expression
  | 0, _ => fail "too deep"
  | depth + 1, term => do
    match term with
    | .pattern expression => return expression
    | _ => expression (← textOf (← eval setting depth term))

def locate (setting : Setting) : (depth : Nat) → Term → Work Place
  | 0, _ => fail "too deep"
  | depth + 1, term => do
    match term with
    | .named name => return .variable_ name
    | .element name keys =>
      let key ← keyOfAll (← keys.mapM (eval setting depth))
      return .element (← tableNumber name) key
    | .field number =>
      let n := truncated (← eval setting depth number).toFloat
      if n < 0 then fail s!"negative field index ${n}"
      return .field n.toNat
    | _ => fail "no place"

/-- The slot that is given to a routine for a term. -/
def given (setting : Setting) : (depth : Nat) → Term → Work Slot
  | 0, _ => fail "too deep"
  | depth + 1, term => do
    match term with
    | .named name => shared name
    | _ => return .value (← eval setting depth term)

def call (setting : Setting) : (depth : Nat) → (name : String) → List Term → Work Value
  | 0, _, _ => fail "too deep"
  | depth + 1, name, arguments => do
    match setting.script.routines.lookup name with
    | none => fail ("function " ++ name ++ " never defined")
    | some routine =>
      let slots ← arguments.mapM (given setting depth)
      let outer ← get
      let missing := routine.parameters.length - slots.length
      let free ← (List.range missing).mapM fun _ => do
        let number := (← get).nextTable
        modify fun bench => { bench with nextTable := number + 1 }
        return Slot.free number
      modify fun bench =>
        { bench with
          locals := routine.parameters.zip (slots ++ free)
          calls := outer.calls + 1
          kept := outer.kept + routine.parameters.length }
      checkDepth
      let run : Work Value := do
        try
          performAll setting depth routine.body
          return .nothing
        catch
          | .back value => return value
          | jump => throw jump
      let value ← run
      modify fun bench =>
        { bench with locals := outer.locals, calls := outer.calls, kept := outer.kept }
      return value

def apply (setting : Setting) : (depth : Nat) → Function → List Term → Work Value
  | 0, _, _ => fail "too deep"
  | depth + 1, function, arguments => do
    match function, arguments with
    | .length, [] => return .ofNat (← textOf (← record)).length
    | .length, [.named name] =>
      match ← slot? name with
      | some (.table number) => return .ofNat (← table number).size
      | _ => return .ofNat (← textOf (← variable_ name)).length
    | .split, [subject, .named name] =>
      let subject ← textOf (← eval setting depth subject)
      splitInto name (← separator (← globalText "FS")) subject
    | .split, [subject, .named name, mark] =>
      let subject ← textOf (← eval setting depth subject)
      match mark with
      | .pattern expression => splitInto name (.expression expression) subject
      | _ => splitInto name (← separator (← textOf (← eval setting depth mark))) subject
    | .locate, [subject, pattern] =>
      let subject ← textOf (← eval setting depth subject)
      located (← pattern_ setting depth pattern) subject
    | .sub, pattern :: by_ :: target | .gsub, pattern :: by_ :: target =>
      let expression ← pattern_ setting depth pattern
      let by_ ← textOf (← eval setting depth by_)
      let target := target.headD (.field (.number 0.0))
      let place? ← if target.isPlace then some <$> locate setting depth target else pure none
      let subject ← match place? with
        | some place => textOf (← load place)
        | none => textOf (← eval setting depth target)
      let (cs, count) := replaced expression (function = .gsub) by_.toList subject.toList
      if 0 < count then
        if let some place := place? then store place (.text (String.ofList cs))
      return .ofNat count
    | _, _ => applied setting function (← arguments.mapM (eval setting depth))

def performAll (setting : Setting) : (depth : Nat) → List Statement → Work Unit
  | 0, _ => fail "too deep"
  | depth + 1, statements => statements.forM (perform setting depth)

/-- Carries out the body of a loop. Yields whether the loop may go on. -/
def goesOn (setting : Setting) : (depth : Nat) → Statement → Work Bool
  | 0, _ => fail "too deep"
  | depth + 1, body => do
    try
      perform setting depth body
      return true
    catch
      | .leave => return false
      | .again => return true
      | jump => throw jump

def emit (setting : Setting) : (depth : Nat) → Option (Outlet × Term) → String → Work Unit
  | 0, _, _ => fail "too deep"
  | depth + 1, target?, text => do
    match target? with
    | none => Sh.say text
    | some (outlet, name) => writeTo outlet (← textOf (← eval setting depth name)) text

def perform (setting : Setting) : (depth : Nat) → Statement → Work Unit
  | 0, _ => fail "too deep"
  | depth + 1, statement => do
    let eval (term : Term) : Work Value := eval setting depth term
    match statement with
    | .term term =>
      let _ ← eval term
    | .print items target? =>
      let values ← if items.isEmpty then pure [← record] else items.mapM eval
      emit setting depth target? (← printed values)
    | .layOut items target? =>
      let values ← items.mapM eval
      emit setting depth target? (← formatted "printf" values)
    | .block inner => performAll setting depth inner
    | .branch condition first second? =>
      if (← eval condition).holds then perform setting depth first
      else if let some second := second? then perform setting depth second
    | .while_ condition body => repeated do
      if (← eval condition).holds then goesOn setting depth body else return false
    | .repeat_ body condition => repeated do
      if ← goesOn setting depth body then return (← eval condition).holds else return false
    | .for_ start? condition? step? body =>
      if let some start := start? then perform setting depth start
      repeated do
        let holds ← match condition? with
          | some (.term condition) => pure (← eval condition).holds
          | _ => pure true
        if !holds then return false
        if ← goesOn setting depth body then
          if let some step := step? then perform setting depth step
          return true
        return false
    | .forKeys name key body =>
      let keys := (← table (← tableNumber key)).keys
      let mut isOn := true
      for key in keys do
        if isOn then
          setVariable name (.text key)
          isOn ← goesOn setting depth body
    | .delete name keys =>
      let number ← tableNumber name
      if keys.isEmpty then setTable number {}
      else
        let key ← keyOfAll (← keys.mapM eval)
        setTable number ((← table number).erase key)
    | .next => throw .next
    | .nextFile => throw .nextFile
    | .leave => throw .leave
    | .again => throw .again
    | .exit code? =>
      if let some code := code? then
        let n := truncated (← eval code).toFloat
        modify fun bench => { bench with code := (n % 256).toNat }
      throw .exit
    | .back value? =>
      throw (.back (← match value? with
        | some value => eval value
        | none => pure .nothing))

end

/-- How deep statements and terms may lie in each other. -/
def depthLimit : Nat := 1000000000

def runRule (setting : Setting) (rule : Rule) : Work Unit := do
  match rule.body? with
  | some body => performAll setting depthLimit body
  | none => Sh.say (← printed [← record])

/-- Whether something is done with the record at work. -/
def isTriggered (setting : Setting) (trigger : Trigger) : Work Bool := do
  let holds (term : Term) : Work Bool := do return (← eval setting depthLimit term).holds
  match trigger with
  | .always => return true
  | .when condition => holds condition
  | .between number first last =>
    let isInside := (← get).ranges.contains number
    if isInside || (← holds first) then
      let isLast ← holds last
      modify fun bench =>
        let others := bench.ranges.filter (· ≠ number)
        { bench with ranges := if isLast then others else number :: others }
      return true
    return false
  | .start | .finish => return false

/-- Does what is to be done with the record at work. -/
def runRules (setting : Setting) : Work Unit := do
  try
    setting.script.rules.forM fun rule => do
      if ← isTriggered setting rule.trigger then runRule setting rule
  catch
    | .next => return
    | .nextFile => modify fun bench => { bench with main? := none }
    | jump => throw jump

/-- Carries out the rules for the start or for the end. -/
def runAll (setting : Setting) (isStart : Bool) : Work Unit := do
  setting.script.rules.forM fun rule =>
    match rule.trigger, isStart with
    | .start, true | .finish, false => runRule setting rule
    | _, _ => return

/-- Does something up to an exit. Yields whether the script goes on to its end. -/
def untilExit (action : Work Unit) : Work Bool := do
  try
    action
    return true
  catch
    | .abort => return false
    | _ => return true

/-- Carries out the rules of a script. -/
def runScript (setting : Setting) : Work Unit := do
  let rules := setting.script.rules
  let isFinish (rule : Rule) : Bool := rule.trigger matches .finish
  let isStart (rule : Rule) : Bool := rule.trigger matches .start
  let goesOn ← untilExit do
    runAll setting true
    if rules.any fun rule => !isStart rule then
      repeated do
        match ← readRecord with
        | none => return false
        | some record =>
          setRecord record
          runRules setting
          return true
      if (← table (← tableNumber "ARGV")).size = 1 then Sh.endIfEndless ["-"]
  if goesOn && rules.any isFinish then
    let _ ← untilExit (runAll setting false)
  closeAll setting.self

end Work

structure Options where
  separator? : Option String := none
  assignments : List (String × Value) := []
  files : List String := []

def takeOptions : (fuel : Nat) → Options → List String → Sh (Options × List String)
  | 0, options, rest => return (options, rest)
  | _, options, [] => return (options, [])
  | fuel + 1, options, argument :: rest => do
    match argument.toList with
    | ['-'] => return (options, argument :: rest)
    | ['-', '-'] => return (options, rest)
    | '-' :: letter :: value =>
      if !(['F', 'f', 'v'].contains letter) then
        Sh.tryWrite 2 ((← Sh.programName) ++ ": not an option: " ++ argument ++ "\n")
        throw (.exit 2)
      let (value, rest) ← match value, rest with
        | [], value :: rest => pure (value, rest)
        | [], [] =>
          Sh.tryWrite 2 ((← Sh.programName) ++
            s!": option -{letter} lacks argument\n")
          throw (.exit 2)
        | value, rest => pure (String.ofList value, rest)
      match letter with
      | 'F' => takeOptions fuel { options with separator? := some value } rest
      | 'f' => takeOptions fuel { options with files := options.files ++ [value] } rest
      | _ =>
        match Work.assignment? value with
        | some assignment =>
          takeOptions fuel { options with assignments := options.assignments ++ [assignment] } rest
        | none =>
          Sh.tryWrite 2 ((← Sh.programName) ++ ": improper assignment: -v " ++ value ++ "\n")
          throw (.exit 2)
    | _ => return (options, argument :: rest)

def tableOf (items : List (Key × String)) : Table :=
  items.foldl (fun table (key, text) => table.put key (.ofInput text)) {}

/-- The state at the start of a script. -/
def Bench.ofOptions (options : Options) (environment : List (String × String))
    (arguments : List String) : Bench :=
  let separator := options.separator?.map fun written =>
    String.ofList (Work.assignment?.unescaped (written.length + 1) written.toList)
  let texts := [("FS", separator.getD " "), ("OFS", " "), ("ORS", "\n"), ("RS", "\n"),
    ("SUBSEP", "\x1c"), ("CONVFMT", "%.6g"), ("OFMT", "%.6g"), ("FILENAME", "")]
  let numbers := ["NR", "FNR", "RSTART", "RLENGTH"]
  let values := (texts.map fun (name, text) => (name, Value.text text)) ++
    (numbers.map fun name => (name, Value.number 0.0)) ++
    [("ARGC", .ofNat arguments.length)] ++ options.assignments
  let slots := values.map fun (name, value) => (name, Slot.value value)
  let globals : Std.HashMap String Slot :=
    .ofList (slots ++ [("ENVIRON", .table 0), ("ARGV", .table 1)])
  let bindings := tableOf (environment.map fun (name, value) => (.name name, value))
  let operands := tableOf (arguments.zipIdx.map fun (text, n) => (.number n, text))
  { globals, tables := .ofList [(0, bindings), (1, operands)], nextTable := 2 }

end Awk

open Awk in
/-- Works on records as a script says. -/
def awk : Program := fun self arguments => do
  let name ← Sh.programName
  let (options, rest) ← takeOptions (arguments.length + 1) {} arguments
  let (text, rest) ←
    if options.files.isEmpty then
      match rest with
      | text :: rest => pure (text, rest)
      | [] =>
        Sh.tryWrite 2 "Usage: mawk [Options] [Program] [file ...]\n"
        throw (.exit 0)
    else
      let texts ← options.files.mapM fun path => do
        match ← Sh.readInput .sample path with
        | .ok bytes => return textOfBytes bytes
        | .error reason =>
          Sh.tryWrite 2 (name ++ ": cannot open \"" ++ path ++ "\" (" ++ reason ++ ")\n")
          throw (.exit 2)
      pure (String.join texts, rest)
  match Script.ofText text with
  | .error faults =>
    let origin := String.join ((options.files.take 1).map (· ++ ": "))
    Sh.tryWrite 2 (String.join (faults.map fun fault =>
      name ++ ": " ++ origin ++ fault.message ++ "\n"))
    return 2
  | .ok script =>
    let bench := Bench.ofOptions options (← Sh.environment) (name :: rest)
    let (_, bench) ← (ExceptT.run (Work.runScript ⟨self, script⟩)).run bench
    return bench.code

end MutationTesting.Shell.Utility
