import MutationTesting.Shell.Builtin.Variables
import MutationTesting.Shell.Grammar
/-! The commands of the shell about the working directory, about what names of commands mean, and
about signals. -/
namespace MutationTesting.Shell

/-- The commands that the shell carries out by itself. -/
def ownCommands : List String :=
  specialCommands ++ ["[", "alias", "bg", "cd", "chdir", "command", "echo", "false", "fg",
    "getopts", "hash", "jobs", "kill", "local", "printf", "pwd", "read", "test", "true", "type",
    "ulimit", "umask", "unalias", "wait"]

def assigningCommands : List String :=
  ["alias", "export", "local", "readonly"]

/-- What a name of a command means. -/
inductive Meaning where
  | function (body : Script)
  | own
  | program (path : String)
  | missing (reason : String)

def pathOfAddress (address : List String) : String :=
  "/" ++ String.intercalate "/" address

namespace Sh

def hereText : Sh String := do
  return bytesOfName (pathOfAddress (← workspace).here)

/-- Whether a path names a file that can be run, if it names something. -/
def isProgram? (text : String) : Sh (Option Bool) := do
  let workspace ← workspace
  match workspace.find (pathOf text), workspace.address (pathOf text) with
  | .ok entry, .ok address =>
    return some (entry.isFile && workspace.mode address &&& 0o111 ≠ 0)
  | _, _ => return none

def search (name reason : String) : List String → Sh Meaning
  | [] => return .missing reason
  | directory :: rest => do
    let path := if directory = "" then name else directory ++ "/" ++ name
    match ← isProgram? path with
    | some true => return .program path
    | some false => search name "Permission denied" rest
    | none => search name reason rest

/-- The directories in which programs are looked for. -/
def directories (path : String) : List String :=
  (Text.pieces ':' path.toList).map String.ofList

/-- The directories in which programs are, whatever the variables say. -/
def usualPath : String :=
  "/usr/local/sbin:/usr/local/bin:/usr/sbin:/usr/bin:/sbin:/bin"

def meaning (mayBeFunction : Bool) (path? : Option String) (name : String) : Sh Meaning := do
  if name.toList.contains '/' then return .program name
  let process ← process
  match if mayBeFunction then process.functions.lookup name else none with
  | some body => return .function body
  | none =>
    if ownCommands.contains name then return .own
    match path?, process.found.lookup name with
    | none, some path =>
      setProcess fun process =>
        { process with stale := process.stale.filter fun other => other != name }
      return .program path
    | _, _ =>
      let path ← match path? with
        | some path => pure path
        | none => valueOf "PATH"
      let found ← search name "not found" (directories path)
      if let .program path := found then
        if path?.isNone then
          setProcess fun process => { process with found := process.found ++ [(name, path)] }
      return found

/-- Says what a name of a command means. Yields the status. -/
def describe (isVerbose : Bool) (path? : Option String) (name : String) : Sh Nat := do
  let process ← process
  let tell (short long : String) : Sh Nat := do
    say (if isVerbose then name ++ long ++ "\n" else short ++ "\n")
    return 0
  if (Keyword.ofText? name).isSome then return ← tell name " is a shell keyword"
  if let some value := process.aliases.lookup name then
    return ← tell ("alias " ++ name ++ "=" ++ quoted value) (" is an alias for " ++ value)
  let isTracked := path?.isNone && (process.found.lookup name).isSome
  match ← meaning true path? name with
  | .function _ => tell name " is a shell function"
  | .own =>
    tell name (if specialCommands.contains name then " is a special shell builtin"
      else " is a shell builtin")
  | .program path =>
    let isThere ← do
      if name.toList.contains '/' then pure (← isProgram? path).isSome else pure true
    if isThere then tell path ((if isTracked then " is a tracked alias for " else " is ") ++ path)
    else
      if isVerbose then say (name ++ ": not found\n")
      return 127
  | .missing _ =>
    if isVerbose then say (name ++ ": not found\n")
    return 127

def describeAll (names : List String) : Sh Nat := do
  let codes ← names.mapM (describe true none)
  return codes.foldl (fun a b => a ||| b) 0

/-- The number by which the places of programs are put in order. -/
def rankOf (name : String) : Nat :=
  let first := (name.toList.head?.map Char.toNat).getD 0
  (name.foldl (fun sum c => sum + c.toNat) (first * 16) % 32768) % 31

/-- Shows, forgets or looks for the places of programs. -/
def hash (arguments : List String) : Sh Nat := do
  let (options, names) ← takeOptions "r" arguments
  if !options.isEmpty then
    setProcess fun process => { process with found := [], stale := [] }
    return 0
  if names.isEmpty then
    let process ← process
    let sorted := process.found.mergeSort fun (a, _) (b, _) => rankOf a ≤ rankOf b
    sorted.forM fun (name, path) =>
      say (path ++ (if process.stale.contains name then "*" else "") ++ "\n")
    return 0
  let codes ← names.mapM fun name => do
    setProcess fun process =>
      { process with found := process.found.filter fun (other, _) => other != name }
    match ← meaning true none name with
    | .missing reason =>
      complain (name ++ ": " ++ reason)
      return 1
    | _ => return 0
  return codes.foldl max 0

/-- Goes to a directory. Yields whether that is possible. -/
def goTo (directory : String) : Sh Bool := do
  let workspace ← workspace
  match workspace.enter (pathOf directory) with
  | .error _ => return false
  | .ok entered =>
    let before ← hereText
    setWorkspace entered
    setProcess fun process => { process with stale := process.found.map Prod.fst }
    setVariable "OLDPWD" before
    setVariable "PWD" (← hereText)
    ["OLDPWD", "PWD"].forM fun name => do
      restoreVariable name ((← lookup? name).map fun held => { held with isExported := true })
    return true

/-- Goes to a directory that may lie in one of some directories. -/
def goBelow (directory : String) : List String → Sh (Option Bool)
  | [] => return none
  | first :: rest => do
    let path := if first = "" then directory else first ++ "/" ++ directory
    if (← workspace).hasDirectory (pathOf path) then
      return if ← goTo path then some (first ≠ "") else none
    else goBelow directory rest

def changeDirectory (arguments : List String) : Sh Nat := do
  let (_, names) ← takeOptions "LP" arguments
  let (directory, isShown) ← match names with
    | [] => do pure ((← valueOf "HOME"), false)
    | "-" :: _ => do pure ((← valueOf "OLDPWD"), true)
    | directory :: _ => pure (directory, false)
  let first := directory.toList.takeWhile (· ≠ '/')
  let isPlain := first ≠ [] && first ≠ ['.'] && first ≠ ['.', '.']
  let target := if directory = "" then "." else directory
  let isSearched := isPlain || directory = ""
  let below? ←
    if isSearched then goBelow target (directories (← valueOf "CDPATH")) else pure none
  match below? with
  | some isElsewhere => if isElsewhere || isShown then say ((← hereText) ++ "\n")
  | none =>
    if !(← goTo directory) then refuse ("can't cd to " ++ directory)
    if isShown then say ((← hereText) ++ "\n")
  return 0

def showDirectory (arguments : List String) : Sh Nat := do
  let _ ← takeOptions "LP" arguments
  say ((← hereText) ++ "\n")
  return 0

def permissionLetters (bits : Nat) : String :=
  String.ofList ((if bits &&& 4 ≠ 0 then ['r'] else []) ++ (if bits &&& 2 ≠ 0 then ['w'] else []) ++
    (if bits &&& 1 ≠ 0 then ['x'] else []))

/-- The bits of three that a letter stands for, where `mode` are the bits that are there. -/
def bitsOfPermission (mode : Nat) (c : Char) : Nat :=
  match c with
  | 'r' => 4
  | 'w' => 2
  | 'x' => 1
  | 'X' => if mode &&& 0o111 ≠ 0 then 1 else 0
  | 'u' => (mode >>> 6) &&& 7
  | 'g' => (mode >>> 3) &&& 7
  | 'o' => mode &&& 7
  | _ => 0

def withoutBits (bits removed : Nat) : Nat :=
  bits - (bits &&& removed)

/-- Changes permission bits as a text says: for whom, how, and which. Yields nothing if it is none
of that kind. `mode` are the bits before all changes. -/
def changedMode? (mode : Nat) : (fuel : Nat) → (positions current : Nat) → List Char → Option Nat
  | 0, _, _, _ => none
  | fuel + 1, positions, current, cs =>
    let who := cs.takeWhile "augo".toList.contains
    let positions := who.foldl (fun positions c =>
      positions ||| match c with
        | 'a' => 0o111
        | 'u' => 0o100
        | 'g' => 0o010
        | _ => 0o001) positions
    let positions := if positions = 0 then 0o111 else positions
    match cs.drop who.length with
    | sign :: rest =>
      if sign = '=' || sign = '+' || sign = '-' then
        let which := rest.takeWhile "rwxugoXs".toList.contains
        let bits := which.foldl (fun bits c => bits ||| bitsOfPermission mode c) 0
        let bits := bits * positions
        let current :=
          if sign = '-' then withoutBits current bits
          else if sign = '=' then bits ||| withoutBits current (positions * 7)
          else current ||| bits
        match rest.drop which.length with
        | [] => some current
        | ',' :: rest => changedMode? mode fuel 0 current rest
        | rest => changedMode? mode fuel positions current rest
      else none
    | [] => if cs.isEmpty then some current else none

/-- Shows or sets the permission bits that new files do not get. -/
def mask (arguments : List String) : Sh Nat := do
  let (options, rest) ← takeOptions "S" arguments
  let mask := (← process).mask
  match rest with
  | [] =>
    if options.isEmpty then
      let digits := Nat.toDigits 8 mask
      say (String.ofList (List.replicate (4 - digits.length) '0' ++ digits) ++ "\n")
    else
      let mode := withoutBits 0o777 mask
      say ("u=" ++ permissionLetters (mode >>> 6) ++ ",g=" ++ permissionLetters (mode >>> 3) ++
        ",o=" ++ permissionLetters mode ++ "\n")
  | text :: _ =>
    let cs := text.toList
    if cs.head?.any Char.isDigit then
      if cs.any fun c => c < '0' || '7' < c then refuse ("Illegal number: " ++ text)
      let value := cs.foldl (fun value c => value * 8 + (c.toNat - '0'.toNat)) 0
      setProcess fun process => { process with mask := value % 512 }
    else
      let mode := withoutBits 0o777 mask
      match changedMode? mode (cs.length + 1) 0 mode cs with
      | some mode => setProcess fun process => { process with mask := withoutBits 0o777 mode }
      | none => refuse ("Illegal mode: " ++ text)
  return 0

def nameAliases (arguments : List String) : Sh Nat := do
  let line (name value : String) : String := name ++ "=" ++ quoted value ++ "\n"
  if arguments.isEmpty then
    let aliases := (← process).aliases.mergeSort fun (a, _) (b, _) => bucketOf a ≤ bucketOf b
    aliases.forM fun (name, value) => say (line name value)
    return 0
  let codes ← arguments.mapM fun argument => do
    let start := argument.toList.take 1
    let name := String.ofList (start ++ (argument.toList.drop 1).takeWhile (· ≠ '='))
    if name = argument then
      match (← process).aliases.lookup name with
      | some value =>
        say (line name value)
        return 0
      | none =>
        tryWrite 2 ("alias: " ++ name ++ " not found\n")
        return 1
    else
      let value := String.ofList (argument.toList.drop (name.length + 1))
      setProcess fun process =>
        let isKnown := (process.aliases.lookup name).isSome
        { process with
          aliases :=
            if isKnown then process.aliases.map fun (other, old) =>
              (other, if other = name then value else old)
            else process.aliases ++ [(name, value)] }
      return 0
  return codes.foldl max 0

def unalias (arguments : List String) : Sh Nat := do
  let (options, names) ← takeOptions "a" arguments
  if !options.isEmpty then
    setProcess fun process => { process with aliases := [] }
    return 0
  let codes ← names.mapM fun name => do
    if ((← process).aliases.lookup name).isNone then
      tryWrite 2 ("unalias: " ++ name ++ " not found\n")
      return 1
    setProcess fun process =>
      { process with aliases := process.aliases.filter fun (other, _) => other != name }
    return 0
  return codes.foldl max 0

/-- Sets or shows what is done about signals. -/
def trap (arguments : List String) : Sh Nat := do
  let (_, arguments) ← takeOptions "" arguments
  match arguments with
  | [] =>
    let traps := (← process).traps.mergeSort fun (a, _) (b, _) => a ≤ b
    traps.forM fun (number, action) =>
      say ("trap -- " ++ quoted action ++ " " ++ Signal.nameOf number ++ "\n")
    return 0
  | first :: rest =>
    let isReset := rest.isEmpty || (Signal.decimal? first).any fun number => number ≤ Signal.largest
    let action? := if isReset || first = "-" then none else some first
    setAll action? (if isReset then arguments else rest)
where
  setAll (action? : Option String) : List String → Sh Nat
    | [] => return 0
    | name :: rest => do
      match Signal.ofText? 0 name with
      | none =>
        tryWrite 2 ("trap: " ++ name ++ ": bad trap\n")
        return 1
      | some number =>
        setProcess fun process =>
          let others := process.traps.filter fun (other, _) => other != number
          { process with
            traps := match action? with
              | some action => (number, action) :: others
              | none => others }
        setAll action? rest

def showTimes : Sh Nat := do
  say "0m0.000000s 0m0.000000s\n0m0.000000s 0m0.000000s\n"
  return 0

def showLimit (arguments : List String) : Sh Nat := do
  let (_, rest) ← takeOptions "HSatfdscmlpnvwr" arguments
  if rest.isEmpty then say "unlimited\n"
  return 0

end Sh

end MutationTesting.Shell
