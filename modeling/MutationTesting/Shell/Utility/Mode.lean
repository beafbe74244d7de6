import MutationTesting.Shell.Utility.Basic
/-! Permission bits: how they are shown, and the changes of them that a text describes. -/
namespace MutationTesting.Shell.Utility

namespace Mode

def letters (mode : Nat) : String :=
  let three (shift : Nat) (special : Nat) (set unset : Char) : List Char :=
    let bits := mode >>> shift
    let isSpecial := mode &&& special ≠ 0
    [if bits &&& 4 ≠ 0 then 'r' else '-', if bits &&& 2 ≠ 0 then 'w' else '-',
      if isSpecial then if bits &&& 1 ≠ 0 then set else unset
      else if bits &&& 1 ≠ 0 then 'x' else '-']
  String.ofList (three 6 0o4000 's' 'S' ++ three 3 0o2000 's' 'S' ++ three 0 0o1000 't' 'T')

/-- Permission bits as digits in base eight, at least so many. -/
def octal (width mode : Nat) : String :=
  let digits := Nat.toDigits 8 mode
  String.ofList (List.replicate (width - digits.length) '0' ++ digits)

inductive Operation where
  | add
  | remove
  | assign
  deriving Repr, DecidableEq

/-- The bits that are added, removed or assigned: given ones, the ones to run a file if that makes
sense, or those of a class of users. -/
inductive Value where
  | bits (bits : Nat) (runs : Bool)
  | copied (shift : Nat)
  deriving Repr, DecidableEq

/-- A change of the bits of some users. Without users the bits that new files do not get are kept
as they are. -/
structure Change where
  operation : Operation
  users? : Option Nat
  value : Value
  deriving Repr, DecidableEq

def Change.toBits (bits : Nat) : Change :=
  { operation := .assign, users? := some 0o7777, value := .bits bits false }

/-- The bits of the users of a letter. -/
def usersOf? : Char → Option Nat
  | 'u' => some 0o4700
  | 'g' => some 0o2070
  | 'o' => some 0o1007
  | 'a' => some 0o7777
  | _ => none

def operationOf? : Char → Option Operation
  | '+' => some .add
  | '-' => some .remove
  | '=' => some .assign
  | _ => none

/-- The bits of letters, and whether a directory or a file that can be run may be run. -/
def bitsOf : List Char → Nat × Bool
  | [] => (0, false)
  | c :: rest =>
    let (bits, runs) := bitsOf rest
    match c with
    | 'r' => (bits ||| 0o444, runs)
    | 'w' => (bits ||| 0o222, runs)
    | 'x' => (bits ||| 0o111, runs)
    | 's' => (bits ||| 0o6000, runs)
    | 't' => (bits ||| 0o1000, runs)
    | _ => (bits, true)

def numberOf (digits : List Char) : Nat :=
  digits.foldl (fun value c => value * 8 + (c.toNat - '0'.toNat)) 0

def changesOf (users? : Option Nat) : (fuel : Nat) → List Char → Option (List Change)
  | 0, _ => none
  | fuel + 1, cs =>
    match cs with
    | [] => none
    | c :: rest => do
      let operation ← operationOf? c
      let (value, rest) ←
        match rest with
        | 'u' :: rest => some (Value.copied 6, rest)
        | 'g' :: rest => some (Value.copied 3, rest)
        | 'o' :: rest => some (Value.copied 0, rest)
        | _ =>
          let digits := rest.takeWhile fun c => '0' ≤ c && c ≤ '7'
          if !digits.isEmpty && users?.isNone then
            some (Value.bits (numberOf digits) false, rest.drop digits.length)
          else
            let letters := rest.takeWhile "rwxXst".toList.contains
            let (bits, runs) := bitsOf letters
            some (Value.bits bits runs, rest.drop letters.length)
      let isNumber := match value, rest with
        | .bits .., _ => (cs.drop 1).head?.any Char.isDigit
        | _, _ => false
      let change : Change :=
        { operation, users? := if isNumber then some 0o7777 else users?, value }
      match rest with
      | [] => some [change]
      | _ => (changesOf users? fuel rest).map (change :: ·)

/-- The changes of a part of a text between commas. -/
def clauseOf (cs : List Char) : Option (List Change) :=
  let users := cs.takeWhile fun c => (usersOf? c).isSome
  let users? := if users.isEmpty then none
    else some (users.foldl (fun bits c => bits ||| (usersOf? c).getD 0) 0)
  changesOf users? (cs.length + 1) (cs.drop users.length)

/-- The changes that a text describes: a number, or letters. -/
def parse (text : String) : Option (List Change) :=
  let cs := text.toList
  if cs.isEmpty then none
  else if cs.all fun c => '0' ≤ c && c ≤ '7' then
    let bits := numberOf cs
    if bits ≤ 0o7777 then some [Change.toBits bits] else none
  else
    ((piecesAt ',' text).mapM fun piece => clauseOf piece.toList).map List.flatten

def Change.apply (change : Change) (isDirectory : Bool) (mask mode : Nat) : Nat :=
  let users := change.users?.getD 0o7777
  let bits := match change.value with
    | .bits bits runs =>
      if runs && (isDirectory || mode &&& 0o111 ≠ 0) then bits ||| 0o111 else bits
    | .copied shift =>
      let three := (mode >>> shift) &&& 7
      three <<< 6 ||| three <<< 3 ||| three
  let bits := bits &&& users &&&
    (if change.users?.isSome then 0o7777 else 0o7777 - (mask &&& 0o777))
  match change.operation with
  | .add => mode ||| bits
  | .remove => mode &&& (0o7777 - bits)
  | .assign => mode &&& (0o7777 - users) ||| bits

def applyAll (changes : List Change) (isDirectory : Bool) (mask mode : Nat) : Nat :=
  changes.foldl (fun mode change => change.apply isDirectory mask mode) mode

end Mode

/-- Whether an argument describes a change of bits although it looks like an option. -/
def looksLikeMode (argument : String) : Bool :=
  match argument.toList with
  | '-' :: c :: _ => "rwxXstugoa01234567,+=".toList.contains c
  | _ => false

def pathsBelow : (depth : Nat) → String → Entry → List String
  | 0, _, _ => []
  | depth + 1, path, entry =>
    path :: entry.entries.flatMap fun (name, below) =>
      pathsBelow depth (path ++ (if path.endsWith "/" then "" else "/") ++ bytesOfName name) below

/-- How deep directories may lie in each other. -/
def pathDepth : Nat := 2100

def chmod : Program := fun _ arguments => do
  let modes := arguments.filter looksLikeMode
  let arguments := arguments.filter fun argument => !looksLikeMode argument
  let given ← Sh.takeAll 1 ("R,recursive v,verbose c,changes f,silent,quiet reference: " ++
    "preserve-root no-preserve-root") arguments
  let isReferred := (given.last? "reference").isSome
  let (mode?, paths) := match isReferred, modes, given.operands with
    | true, _, paths => (none, paths)
    | false, [], mode :: paths => (some mode, paths)
    | false, [], [] => (none, [])
    | false, modes, paths => (some (String.intercalate "," modes), paths)
  if !isReferred && mode?.isNone then Sh.failMissing 1
  if paths.isEmpty then
    Sh.failUsage 1 (match mode? with
      | some mode => "missing operand after " ++ quotedName mode
      | none => "missing operand")
  let changes ←
    match mode?, given.last? "reference" with
    | some text, _ =>
      match Mode.parse text with
      | some changes => pure changes
      | none => Sh.failUsage 1 ("invalid mode: " ++ quotedName text)
    | none, some path =>
      let workspace ← Sh.workspace
      match workspace.find (pathOf path), workspace.address (pathOf path) with
      | .ok _, .ok address => pure [Mode.Change.toBits (workspace.mode address)]
      | .error fault, _ | _, .error fault =>
        Sh.fail 1 ("failed to get attributes of " ++ quotedName path ++ ": " ++ fault.reason)
    | none, none => pure []
  let mask := (← Sh.process).mask
  let style? := given.latest? ["v", "c", "f"]
  let codes ← paths.mapM fun path => do
    match (← Sh.workspace).find (pathOf path) with
    | .error fault =>
      if style? ≠ some "f" then
        Sh.warn ("cannot access " ++ quotedName path ++ ": " ++ fault.reason)
      if style? = some "v" then Sh.say (quotedName path ++ " could not be accessed\n")
      return 1
    | .ok entry =>
      let all := if given.has "R" then pathsBelow pathDepth path entry else [path]
      let codes ← all.mapM fun path => do
        let workspace ← Sh.workspace
        match workspace.find (pathOf path), workspace.address (pathOf path) with
        | .ok entry, .ok address =>
          let before := workspace.mode address
          let after := Mode.applyAll changes entry.isDirectory mask before
          Sh.setWorkspace (workspace.setMode address after)
          let shown (mode : Nat) : String := Mode.octal 4 mode ++ " (" ++ Mode.letters mode ++ ")"
          if before ≠ after && (style? = some "v" || style? = some "c") then
            Sh.say ("mode of " ++ quotedName path ++ " changed from " ++ shown before ++ " to " ++
              shown after ++ "\n")
          if before = after && style? = some "v" then
            Sh.say ("mode of " ++ quotedName path ++ " retained as " ++ shown after ++ "\n")
          let wanted := Mode.applyAll changes entry.isDirectory 0 before
          if !modes.isEmpty && after &&& (0o7777 - wanted) ≠ 0 then
            Sh.warn (shownName path ++ ": new permissions are " ++ Mode.letters after ++ ", not " ++
              Mode.letters wanted)
            return 1
          return 0
        | _, _ => return 1
      return codes.foldl max 0
  return codes.foldl max 0

end MutationTesting.Shell.Utility
