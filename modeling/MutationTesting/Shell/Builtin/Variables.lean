import MutationTesting.Shell.Expansion
/-! The commands of the shell that set and show variables, arguments and options. -/
namespace MutationTesting.Shell.Sh

/-- Whether a letter is one of an option with an argument of its own, if it is one of an option. In
`allowed` a colon follows a letter with an argument. -/
def takesArgument? (allowed : String) (letter : Char) : Option Bool :=
  if letter = ':' then none
  else
    match allowed.toList.dropWhile (· ≠ letter) with
    | [] => none
    | _ :: rest => some (rest.head? = some ':')

def letterOptions (allowed : String) : List Char → Sh (List (Char × String) × Option Char)
  | [] => return ([], none)
  | letter :: letters => do
    match takesArgument? allowed letter with
    | none => refuse s!"Illegal option -{letter}"
    | some true =>
      if letters.isEmpty then return ([], some letter)
      else return ([(letter, String.ofList letters)], none)
    | some false =>
      let (options, missing?) ← letterOptions allowed letters
      return ((letter, "") :: options, missing?)

/-- Takes options from the start of arguments. Yields the options with their arguments, and the
other arguments. -/
def takeOptions (allowed : String) (arguments : List String) :
    Sh (List (Char × String) × List String) :=
  go (arguments.length + 1) arguments
where
  go : (fuel : Nat) → List String → Sh (List (Char × String) × List String)
    | 0, arguments => return ([], arguments)
    | _, [] => return ([], [])
    | fuel + 1, argument :: rest => do
      match argument.toList with
      | ['-', '-'] => return ([], rest)
      | '-' :: letters =>
        if letters.isEmpty then return ([], argument :: rest)
        let (options, missing?) ← letterOptions allowed letters
        match missing?, rest with
        | none, _ =>
          let (others, rest) ← go fuel rest
          return (options ++ others, rest)
        | some letter, value :: rest =>
          let (others, rest) ← go fuel rest
          return (options ++ (letter, value) :: others, rest)
        | some letter, [] => refuse s!"No arg for -{letter} option"
      | _ => return ([], argument :: rest)

/-- The number that an argument has to be. -/
def countOf (text : String) : Sh Nat := do
  match Signal.decimal? text with
  | some n => if n < Nat.pow 2 31 then return n else refuse ("Illegal number: " ++ text)
  | none => refuse ("Illegal number: " ++ text)

/-- The name before the assignment sign of an argument, and the value behind it. -/
def assignment (argument : String) : String × Option String :=
  let name := argument.toList.takeWhile (· ≠ '=')
  let rest := argument.toList.drop name.length
  (String.ofList name, if rest.isEmpty then none else some (String.ofList (rest.drop 1)))

/-- Sets a variable that has to have a name. -/
def assign (name value : String) : Sh Unit := do
  if !isName name then refuse (name ++ ": bad variable name")
  setVariable name value

/-- Marks variables, perhaps after they have been set, or shows those that are marked. -/
def markVariables (lead : String) (isMarked : Variable → Bool) (mark : Variable → Variable)
    (arguments : List String) : Sh Nat := do
  let (options, names) ← takeOptions "p" arguments
  if options.isEmpty && !names.isEmpty then
    names.forM fun argument => do
      let (name, value?) := assignment argument
      if let some value := value? then assign name value
      if value?.isNone && !isName name then refuse (name ++ ": bad variable name")
      restoreVariable name (some (mark ((← lookup? name).getD {})))
  else
    (← sortedVariables).forM fun (name, held) =>
      if isMarked held then say (declaration lead name held.value?) else pure ()
  return 0

def exportVariables : List String → Sh Nat :=
  markVariables "export " Variable.isExported fun held => { held with isExported := true }

def fixVariables : List String → Sh Nat :=
  markVariables "readonly " Variable.isReadOnly fun held => { held with isReadOnly := true }

/-- The name under which the options of the shell are kept at the start of a function. -/
def optionsName : String := "-"

/-- Keeps what a variable is, to be put back at the end of the function. -/
def keepVariable (name : String) (held? : Option Variable) : Sh Unit :=
  setProcess fun process =>
    { process with
      frames := match process.frames with
        | frame :: frames => ((name, held?) :: frame) :: frames
        | [] => [] }

/-- Makes a variable one of the function alone. -/
def makeLocal (isExported : Bool) (argument : String) : Sh Unit := do
  if argument = optionsName then
    keepVariable optionsName (some { value? := some (String.ofList (← process).flags) })
  else
    let (name, value?) := assignment argument
    if !isName name then refuse (name ++ ": bad variable name")
    let held? ← lookup? name
    let keep := keepVariable name held?
    match value? with
    | some value =>
      if held?.any Variable.isReadOnly then refuse (name ++ ": is read only")
      keep
      setVariable name value
      if isExported then
        restoreVariable name (some { ((← lookup? name).getD {}) with isExported := true })
    | none =>
      keep
      if held?.isNone then restoreVariable name (some {})

/-- Makes variables ones of the function alone. -/
def localVariables (arguments : List String) : Sh Nat := do
  if (← process).frames.isEmpty then refuse "not in a function"
  arguments.forM (makeLocal false)
  return 0

def pushFrame : Sh Unit :=
  setProcess fun process => { process with frames := [] :: process.frames }

def popFrame : Sh Unit := do
  match (← process).frames with
  | [] => return
  | frame :: frames =>
    setProcess fun process => { process with frames }
    frame.forM fun (name, held?) => do
      if name = optionsName then
        let flags := ((held?.bind Variable.value?).getD "").toList
        setProcess fun process => { process with flags }
      else
        restoreVariable name held?
        noteValue name (held?.bind Variable.value?)

def unset (arguments : List String) : Sh Nat := do
  let (options, names) ← takeOptions "vf" arguments
  names.forM fun name => do
    if (options.getLast?.map Prod.fst) = some 'f' then
      setProcess fun process =>
        { process with functions := process.functions.filter fun (other, _) => other != name }
    else
      if !isName name then refuse (name ++ ": bad variable name")
      unsetVariable name
  return 0

/-- The options of the shell: letters and names, in the order in which they are listed. -/
def optionNames : List (Char × String) :=
  [('e', "errexit"), ('f', "noglob"), ('I', "ignoreeof"), ('i', "interactive"), ('m', "monitor"),
    ('n', "noexec"), ('s', "stdin"), ('x', "xtrace"), ('v', "verbose"), ('V', "vi"), ('E', "emacs"),
    ('C', "noclobber"), ('a', "allexport"), ('b', "notify"), ('u', "nounset"), ('\x01', "nolog"),
    ('\x02', "debug")]

def setFlag (isOn : Bool) (letter : Char) : Sh Unit :=
  setProcess fun process =>
    let others := process.flags.filter (· ≠ letter)
    { process with flags := if isOn then letter :: others else others }

/-- Turns an option on or off by its name, or shows all of them. -/
def setNamedFlag (isOn : Bool) (name? : Option String) : Sh Unit := do
  let flags := (← process).flags
  match name? with
  | none =>
    if isOn then
      say "Current option settings\n"
      optionNames.forM fun (letter, name) => do
        let blanks := String.ofList (List.replicate (16 - name.length) ' ')
        say (name ++ blanks ++ (if flags.contains letter then "on" else "off") ++ "\n")
    else
      optionNames.forM fun (letter, name) =>
        say ("set " ++ (if flags.contains letter then "-o " else "+o ") ++ name ++ "\n")
  | some name =>
    match optionNames.find? fun (_, other) => other = name with
    | some (letter, _) => setFlag isOn letter
    | none => refuse ("Illegal option -o " ++ name)

/-- Takes options of the shell. With `isStart` they are those with which it is started, among which
may be one that says that a script follows. Yields that, and the other arguments. -/
def takeFlags (isStart : Bool) : (fuel : Nat) → List String → Sh (Bool × Option (List String))
  | 0, arguments => return (false, some arguments)
  | _, [] => return (false, none)
  | fuel + 1, argument :: rest => do
    let letters (isOn : Bool) (letters : List Char) : Sh (Bool × Option (List String)) := do
      let (hasScript, rest) ← letters.foldlM (fun (hasScript, rest) letter => do
        if letter = 'c' && isStart then return (true, rest)
        else if letter = 'l' && isStart then return (hasScript, rest)
        else if letter = 'o' then
          setNamedFlag isOn rest.head?
          return (hasScript, rest.drop 1)
        else if optionNames.any fun (other, _) => other = letter then
          setFlag isOn letter
          return (hasScript, rest)
        else refuse s!"Illegal option -{letter}") (false, rest)
      let (others, rest?) ← takeFlags isStart fuel rest
      return (hasScript || others, rest?)
    match argument.toList with
    | ['-'] =>
      if !isStart then
        setFlag false 'x'
        setFlag false 'v'
      return (false, if rest.isEmpty then none else some rest)
    | ['-', '-'] => return (false, if isStart && rest.isEmpty then none else some rest)
    | '-' :: cs => letters true cs
    | '+' :: cs => letters false cs
    | _ => return (false, some (argument :: rest))

/-- Sets options and arguments of the shell, or shows all variables. -/
def setArguments (arguments : List String) : Sh Nat := do
  if arguments.isEmpty then
    (← sortedVariables).forM fun (name, held) =>
      if held.value?.isSome then say (declaration "" name held.value?) else pure ()
  else
    let (_, rest?) ← takeFlags false (arguments.length + 1) arguments
    if ← hasFlag 'm' then
      complain "can't access tty; job control turned off"
      setFlag false 'm'
    if let some arguments := rest? then
      setProcess fun process => { process with arguments, optionIndex := 1, optionOffset? := none }
  return 0

def shift (arguments : List String) : Sh Nat := do
  let count ← match arguments with
    | [] => pure 1
    | count :: _ => countOf count
  if (← process).arguments.length < count then refuse "can't shift that many"
  setProcess fun process =>
    { process with
      arguments := process.arguments.drop count
      optionIndex := 1
      optionOffset? := none }
  return 0

/-- The parts of a line of input: what is split into fields, and characters behind a backslash.
`run` is the part in progress, the last character first. Yields whether the line goes on. -/
def lineSpans (isRaw : Bool) (run : List Cell) : List Char → List Span × Bool
  | [] => ([⟨.separators, run.reverse⟩], false)
  | ['\n'] => ([⟨.separators, run.reverse⟩], false)
  | '\x00' :: rest => lineSpans isRaw run rest
  | '\\' :: rest =>
    if isRaw then lineSpans isRaw (.char '\\' false :: run) rest
    else
      match rest with
      | [] => ([⟨.separators, run.reverse⟩], false)
      | ['\n'] => ([⟨.separators, run.reverse⟩], true)
      | c :: rest =>
        let (spans, goesOn) := lineSpans isRaw [] rest
        (⟨.separators, run.reverse⟩ :: ⟨.whole, [.char c true]⟩ :: spans, goesOn)
  | c :: rest => lineSpans isRaw (.char c false :: run) rest

/-- Reads lines as long as they go on. Yields their parts, and whether the input has ended. -/
def readSpans (isRaw : Bool) : (fuel : Nat) → Sh (List Span × Bool)
  | 0 => throw .stop
  | fuel + 1 => do
    match ← read 0 (.line lineFeed) with
    | .error _ => return ([], true)
    | .ok (bytes, isWhole) =>
      let (spans, goesOn) := lineSpans isRaw [] (textOfBytes bytes).toList
      if goesOn then
        let (others, hasEnded) ← readSpans isRaw fuel
        return (spans ++ others, hasEnded)
      return (spans, !isWhole)

def readLine (arguments : List String) : Sh Nat := do
  let (options, names) ← takeOptions "p:r" arguments
  if names.isEmpty then refuse "arg count"
  let isRaw := options.any fun (letter, _) => letter = 'r'
  let (spans, hasEnded) ← readSpans isRaw 1000000
  let fields := (splitFields (← separators) (some names.length) spans).map Cell.text
  let values := fields ++ List.replicate (names.length - fields.length) ""
  (names.zip values).forM fun (name, value) => assign name value
  return if hasEnded then 1 else 0

def nextOption (arguments : List String) : Sh Nat := do
  match arguments with
  | letters :: name :: rest =>
    let process ← process
    let items := (if rest.isEmpty then process.arguments else rest).toArray
    let (index, offset?) :=
      if items.size + 1 < process.optionIndex then (1, none)
      else (process.optionIndex, process.optionOffset?)
    let isQuiet := letters.toList.head? = some ':'
    let finish (index : Nat) (offset? : Option Nat) (found : String) (code : Nat) : Sh Nat := do
      setVariable "OPTIND" (toString index)
      assign name found
      setProcess fun process => { process with optionIndex := index, optionOffset? := offset? }
      return code
    let inside : List Char := match offset? with
      | some offset => if 1 < index then ((items[index - 2]?.getD "").toList.drop offset) else []
      | none => []
    let current := (items[index - 1]?.getD "").toList
    let option (c : Char) (left : List Char) (index : Nat) : Sh Nat := do
      let word := (items[index - 2]?.getD "").toList
      let offset? := some (word.length - left.length)
      match takesArgument? letters c with
      | some true =>
        match left, items[index - 1]? with
        | [], none =>
          if isQuiet then
            setVariable "OPTARG" (String.singleton c)
            finish index offset? ":" 0
          else
            tryWrite 2 s!"No arg for -{c} option\n"
            unsetVariable "OPTARG"
            finish index offset? "?" 0
        | [], some value =>
          setVariable "OPTARG" value
          finish (index + 1) none (String.singleton c) 0
        | value, _ =>
          setVariable "OPTARG" (String.ofList value)
          finish index none (String.singleton c) 0
      | some false =>
        setVariable "OPTARG" ""
        finish index offset? (String.singleton c) 0
      | none =>
        if isQuiet then setVariable "OPTARG" (String.singleton c)
        else
          tryWrite 2 s!"Illegal option -{c}\n"
          unsetVariable "OPTARG"
        finish index offset? "?" 0
    match inside, current with
    | c :: left, _ => option c left index
    | [], '-' :: c :: left =>
      if c = '-' && left.isEmpty then finish (index + 1) none "?" 1
      else option c left (index + 1)
    | [], _ => finish index none "?" 1
  | _ => refuse "Usage: getopts optstring var [arg...]"

end MutationTesting.Shell.Sh
