import MutationTesting.Shell.Utility.Find.Predicate
import MutationTesting.Shell.Utility.Listing
import MutationTesting.Shell.Utility.Start
/-! A program that walks through directories and finds files in them. All files belong to one user,
and all are new. -/
namespace MutationTesting.Shell.Utility

namespace Find

/-- What is read from the arguments behind the paths. -/
structure Plan where
  words : List Word := []
  least : Nat := 0
  most? : Option Nat := none
  /-- Whether a directory comes behind what is in it. -/
  isDeep : Bool := false
  /-- Whether something is done with files, so that their paths are not shown. -/
  acts : Bool := false
  deletes : Bool := false
  prunes : Bool := false
  asksDepth : Bool := false
  form : Option Bool := none
  /-- The programs that gather paths, and whether they run where the files are. -/
  gathers : List (List String × Bool) := []

namespace Plan

def with' (plan : Plan) (word : Word) : Plan :=
  { plan with words := plan.words ++ [word] }

def asks (plan : Plan) (test : Test) : Plan :=
  plan.with' (.primary (.test test))

def does (plan : Plan) (action : Action) : Plan :=
  { plan.with' (.primary (.action action)) with acts := true }

end Plan

/-- Ends the program since an argument is missing or wrong. -/
def failArgument (name : String) (rest : List String) : Sh α :=
  match rest with
  | [] => Sh.fail 1 s!"missing argument to \x60{name}'"
  | argument :: _ => Sh.fail 1 s!"invalid argument \x60{argument}' to \x60{name}'"

/-- The size that a text is, and the unit that it is in. -/
def sizeOf (text : String) : Sh Test := do
  let units : List (Char × Nat) :=
    [('b', 512), ('c', 1), ('w', 2), ('k', 1024), ('M', 1048576), ('G', 1073741824)]
  let cs := text.toList
  let (digits, unit) ← match cs.getLast? with
    | none => Sh.fail 1 "invalid null argument to -size"
    | some c =>
      if c.isDigit then pure (text, 512)
      else
        match units.lookup c with
        | some unit => pure (String.ofList cs.dropLast, unit)
        | none => Sh.fail 1 ("invalid -size type \x60" ++ String.singleton c ++ "'")
  let (bound, digits) := Bound.ofText digits
  match count? digits with
  | some count => return .size bound count unit
  | none => Sh.fail 1 s!"Invalid argument \x60{text}' to -size"

def bitsOf (text : String) : Sh Test := do
  let (bound, rest) := match text.toList with
    | '-' :: rest => (Bound.more, rest)
    | '/' :: rest => (Bound.less, rest)
    | cs => (Bound.exactly, cs)
  match Mode.parse (String.ofList rest) with
  | some changes => return .bits bound (Mode.applyAll changes false 0 0)
  | none => Sh.fail 1 ("invalid mode " ++ quotedName text)

/-- The command behind a name, up to what ends it, whether paths are gathered for it, and what
follows. -/
def commandOf (name : String) (mayGather : Bool) (rest : List String) :
    Sh (List String × Bool × List String) := do
  let mark := "\x7b\x7d"
  let hasMark (word : String) : Bool := Text.contains mark word
  let rec go : (found : List String) → List String → Option (List String × Bool × List String)
    | _, [] => none
    | found, word :: rest =>
      if word = ";" then some (found.reverse, false, rest)
      else if word = "+" && mayGather && found.head?.any hasMark then
        some (found.reverse, true, rest)
      else go (word :: found) rest
  match go [] rest with
  | none => failArgument name []
  | some ([], _, _) => failArgument name rest
  | some (words, true, rest) =>
    if 1 < (words.filter hasMark).length then
      Sh.fail 1 (s!"Only one instance of {mark} is supported with {name} ... +")
    if words.getLast? ≠ some mark then
      let last := words.getLast?.getD ""
      Sh.fail 1 (s!"In '{name} ... {mark} +' the '{mark}' must appear by itself, but you " ++
        s!"specified '{last}'")
    return (words, true, rest)
  | some found => return found

/-- Opens a file that is written to. -/
def target (path : String) : Sh Nat := do
  match ← Sh.openFile .write path with
  | .ok opened => Sh.newOpened opened
  | .error reason => Sh.fail 1 (quotedName path ++ ": " ++ reason)

def layoutOf (text : String) : Sh (List Piece) := do
  match piecesOf (text.length + 1) [] [] text.toList with
  | .error fault => Sh.fail 1 fault
  | .ok (pieces, warnings) =>
    warnings.forM fun warning => Sh.warn ("warning: " ++ warning)
    return pieces

def isPart (isFirst : Bool) (argument : String) : Bool :=
  match argument.toList with
  | '-' :: rest => !rest.isEmpty
  | [')'] | [','] => !isFirst
  | ['!'] | ['('] => true
  | _ => false

/-- The names of users and groups that there are, with their numbers. -/
def users : List (String × Nat) :=
  [("root", 0), ("daemon", 1), ("bin", 2), ("sys", 3), ("games", 5), ("man", 6), ("mail", 8),
    ("www-data", 33), ("nobody", 65534)]

/-- Reads a part of the expression: its name has been taken. -/
def readPart (plan : Plan) (name : String) (rest : List String) : Sh (Plan × List String) := do
  let number (test : Bound → Nat → Test) : Sh (Plan × List String) :=
    match rest with
    | [] => failArgument name []
    | argument :: others =>
      let (bound, digits) := Bound.ofText argument
      match count? digits with
      | some count => return (plan.asks (test bound count), others)
      | none => failArgument name rest
  let text (test : String → Test) : Sh (Plan × List String) :=
    match rest with
    | [] => failArgument name []
    | argument :: others => return (plan.asks (test argument), others)
  let depth : Sh (Nat × List String) := do
    match rest with
    | [] => failArgument name []
    | argument :: others =>
      match count? argument with
      | some count => return (count, others)
      | none =>
        Sh.fail 1 (s!"Expected a positive decimal integer argument to {name}, but got " ++
          plainlyQuoted argument)
  let file (test : List String → Test) : Sh (Plan × List String) := do
    match rest with
    | [] => failArgument name []
    | argument :: others =>
      match (← Sh.workspace).address (pathOf argument) with
      | .ok address =>
        if ((← Sh.workspace).at? address).isSome then return (plan.asks (test address), others)
        Sh.fail 1 (quotedName argument ++ ": No such file or directory")
      | .error fault => Sh.fail 1 (quotedName argument ++ ": " ++ fault.reason)
  let always : Plan := plan.asks (.always true)
  let opened (rest : List String) : Sh (Nat × List String) := do
    match rest with
    | [] => failArgument name []
    | path :: others => return (← target path, others)
  let age : Sh (Plan × List String) :=
    number fun bound count => .always (bound.holds count 0)
  let key := match name.toList with
    | '-' :: rest => String.ofList rest
    | cs => String.ofList cs
  match key with
  | "!" | "not" => return (plan.with' (.negation name), rest)
  | "a" | "and" => return (plan.with' (.connective .and name), rest)
  | "o" | "or" => return (plan.with' (.connective .or name), rest)
  | "," => return (plan.with' (.connective .list name), rest)
  | "(" => return (plan.with' (.opening name), rest)
  | ")" => return (plan.with' .closing, rest)
  | "depth" | "d" => return ({ always with isDeep := true, asksDepth := true }, rest)
  | "daystart" | "follow" | "mount" | "xdev" | "noleaf" | "warn" | "nowarn"
  | "ignore_readdir_race" | "noignore_readdir_race" | "true" => return (always, rest)
  | "false" | "nouser" | "nogroup" => return (plan.asks (.always false), rest)
  | "readable" | "writable" => return (always, rest)
  | "maxdepth" =>
    let (count, rest) ← depth
    return ({ always with most? := some count }, rest)
  | "mindepth" =>
    let (count, rest) ← depth
    return ({ always with least := count }, rest)
  | "name" => text fun pattern => .name pattern false
  | "iname" => text fun pattern => .name pattern true
  | "path" | "wholename" => text fun pattern => .path pattern false
  | "ipath" | "iwholename" => text fun pattern => .path pattern true
  | "lname" | "ilname" | "fstype" | "context" => text fun _ => .always false
  | "regextype" =>
    match rest with
    | [] => failArgument name []
    | form :: others =>
      match forms.lookup form with
      | some form => return ({ always with form }, others)
      | none =>
        let names := String.intercalate ", " (forms.map fun (name, _) => "'" ++ name ++ "'")
        Sh.fail 1 (s!"Unknown regular expression type {quotedName form}; valid types are " ++
          names ++ ".")
  | "regex" | "iregex" =>
    match rest with
    | [] => failArgument name []
    | pattern :: others =>
      match regexOf plan.form (key = "iregex") pattern with
      | .ok expression => return (plan.asks (.fits expression), others)
      | .error refusal =>
        Sh.fail 1 ("failed to compile regular expression '" ++ pattern ++ "': " ++
          refusal.message)
  | "type" | "xtype" =>
    match rest with
    | [] => failArgument name []
    | letters :: others =>
      let pieces := (piecesAt ',' letters).map String.toList
      if letters = "" then
        Sh.fail 1 s!"Arguments to {name} should contain at least one letter"
      pieces.forM fun piece => do
        match piece with
        | [] =>
          Sh.fail 1 (s!"Last file type in list argument to {name} is missing, i.e., list is " ++
            "ending on: ','")
        | letter :: more =>
          if !"bcdpflsD".toList.contains letter then
            Sh.fail 1 (s!"Unknown argument to {name}: " ++ String.singleton letter)
          if !more.isEmpty then
            Sh.fail 1 s!"Must separate multiple arguments to {name} using: ','"
      return (plan.asks (.kinds pieces.flatten), others)
  | "size" =>
    match rest with
    | [] => failArgument name []
    | argument :: others => return (plan.asks (← sizeOf argument), others)
  | "perm" =>
    match rest with
    | [] => failArgument name []
    | argument :: others => return (plan.asks (← bitsOf argument), others)
  | "empty" => return (plan.asks .isEmpty, rest)
  | "executable" => return (plan.asks .isExecutable, rest)
  | "links" => number .links
  | "inum" | "used" => number fun _ _ => .always false
  | "uid" | "gid" => number fun bound count => .always (bound.holds count 0)
  | "user" | "group" =>
    match rest with
    | [] => failArgument name []
    | argument :: others =>
      match (users.lookup argument).or (count? argument) with
      | some number => return (plan.asks (.always (number = 0)), others)
      | none =>
        Sh.fail 1 (quotedName argument ++ if key = "user" then " is not the name of a known user"
          else " is not the name of an existing group")
  | "mtime" | "atime" | "ctime" => age
  | "mmin" | "amin" | "cmin" =>
    number fun bound count => .always (match bound with
      | .exactly => count = 1
      | .more => count = 0
      | .less => 0 < count)
  | "newer" | "anewer" | "cnewer" => file fun _ => .always false
  | "samefile" => file .isAt
  | "print" => return (plan.does (.print "\n" none), rest)
  | "print0" => return (plan.does (.print "\x00" none), rest)
  | "ls" => return (plan.does (.list none), rest)
  | "fprint" | "fprint0" =>
    let (number, rest) ← opened rest
    return (plan.does (.print (if key = "fprint" then "\n" else "\x00") (some number)), rest)
  | "fls" =>
    let (number, rest) ← opened rest
    return (plan.does (.list (some number)), rest)
  | "printf" =>
    match rest with
    | [] => failArgument name []
    | layout :: others => return (plan.does (.lay (← layoutOf layout) none), others)
  | "fprintf" =>
    let (number, rest) ← opened rest
    match rest with
    | [] => failArgument name []
    | layout :: others => return (plan.does (.lay (← layoutOf layout) (some number)), others)
  | "delete" => return ({ plan.does .delete with isDeep := true, deletes := true }, rest)
  | "prune" => return ({ plan.with' (.primary (.action .prune)) with prunes := true }, rest)
  | "quit" => return (plan.with' (.primary (.action .quit)), rest)
  | "exec" | "execdir" =>
    let isInside : Bool := key = "execdir"
    let (words, isGathered, rest) ← commandOf name true rest
    if isGathered then
      let more := plan.does (.gather plan.gathers.length)
      return ({ more with gathers := plan.gathers ++ [(words.dropLast, isInside)] }, rest)
    else return (plan.does (.run words isInside false), rest)
  | "ok" | "okdir" =>
    let (words, _, rest) ← commandOf name false rest
    return (plan.does (.run words (key = "okdir") true), rest)
  | _ =>
    if key.startsWith "newer" then
      match rest with
      | [] => failArgument name []
      | _ :: others => return (plan.asks (.always true), others)
    else Sh.fail 1 s!"unknown predicate \x60{name}'"

def readPlan : (fuel : Nat) → Plan → List String → Sh Plan
  | 0, plan, _ => return plan
  | _, plan, [] => return plan
  | fuel + 1, plan, argument :: rest => do
    if !isPart false argument then
      Sh.warn s!"paths must precede expression: \x60{argument}'"
      throw (.exit 1)
    let (plan, rest) ← readPart plan argument rest
    readPlan fuel plan rest

structure Found where
  path : String
  /-- The path of those on the command line that it has been found below. -/
  start : String
  depth : Nat
  entry : Entry
  address : List String

namespace Found

def name (found : Found) : String :=
  baseOf found.path

def folder (found : Found) : String :=
  let cs := found.path.toList.reverse
  let cs := if found.path = "/" then cs else cs.dropWhile (· = '/')
  match cs.dropWhile (· ≠ '/') with
  | [] => "."
  | _ :: rest => String.ofList rest.reverse

def kind (found : Found) : String :=
  if found.entry.isDirectory then "d" else "f"

def size (found : Found) : Nat :=
  match found.entry with
  | .file content => content.size
  | .directory _ => Listing.directorySize

end Found

structure Progress where
  isPruned : Bool := false
  isOver : Bool := false
  code : Nat := 0
  /-- The paths for each program that gathers some. -/
  gathered : List (Nat × String) := []

abbrev Walk := StateT Progress Sh

def Test.holds (test : Test) (found : Found) : Sh Bool := do
  let fits (foldsCase : Bool) (pattern text : String) : Bool :=
    if foldsCase then Pattern.fits (pattern.toList.map Char.toLower) (text.toList.map Char.toLower)
    else Pattern.fits pattern.toList text.toList
  match test with
  | .always answer => return answer
  | .name pattern foldsCase => return fits foldsCase pattern found.name
  | .path pattern foldsCase => return fits foldsCase pattern found.path
  | .fits expression =>
    return ((expression.matchAt? found.path.toList.toArray 0).map Regex.Match.length) =
      some found.path.length
  | .kinds letters => return letters.any fun letter => found.kind = String.singleton letter
  | .size bound count unit => return bound.holds count ((found.size + unit - 1) / unit)
  | .isEmpty =>
    return match found.entry with
      | .file content => content.size = 0
      | .directory entries => entries.isEmpty
  | .bits bound asked =>
    let mode := (← Sh.workspace).mode found.address
    return match bound with
      | .exactly => mode = asked
      | .more => mode &&& asked = asked
      | .less => asked = 0 || mode &&& asked ≠ 0
  | .links bound count =>
    let item : Listing.Item := { name := found.name, entry := found.entry, mode := 0 }
    return bound.holds count item.links
  | .isAt address => return found.address = address
  | .isExecutable =>
    return found.entry.isDirectory || (← Sh.workspace).mode found.address &&& 0o111 ≠ 0

/-- What is shown of a file in the place of a letter. -/
def fieldText (found : Found) (mode : Nat) (directive : Directive) (letter : Char) : String :=
  let fixed : Option Measure → Option Nat
    | some (.fixed n) => some n
    | _ => none
  let layout : Layout := {
    flags := directive.flags
    width := (fixed directive.width?).getD 0
    precision? := fixed directive.precision? }
  let text (text : String) : String := String.ofList (layout.text text.toList)
  let number (n : Nat) : String := String.ofList (layout.signed n)
  let item : Listing.Item := { name := found.name, entry := found.entry, mode }
  let below : String :=
    String.ofList ((found.path.toList.drop found.start.length).dropWhile (· = '/'))
  match letter with
  | 'p' => text found.path
  | 'f' => text (if found.path.toList.all (· = '/') then found.path else found.name)
  | 'h' => text found.folder
  | 'P' => text below
  | 'H' => text found.start
  | 's' => number found.size
  | 'd' => number found.depth
  | 'm' => text (String.ofList (Nat.toDigits 8 mode))
  | 'M' => text item.letters
  | 'y' | 'Y' => text found.kind
  | 'n' => number item.links
  | 'u' | 'g' => text "root"
  | 'U' | 'G' => text "0"
  | 'b' => number (item.blocks * 2)
  | 'k' => number item.blocks
  | 'F' => text "overlay"
  | 'l' => text ""
  | 'D' | 'i' => number 1
  | 'S' => text "1"
  | _ => text "Thu Jan  1 00:00:00.0000000000 1970"

/-- Shows a text, or writes it to a file. -/
def put (target? : Option Nat) (text : String) : Sh Unit := do
  match target? with
  | none => Sh.say text
  | some number =>
    if let some opened := (← get).opened.lookup number then
      let _ ← Sh.writeTo number opened (bytesOfText text)

def inFolder (folder : String) (action : Sh α) : Sh α := do
  let place := (← Sh.workspace).here
  if let .ok workspace := (← Sh.workspace).enter (pathOf folder) then Sh.setWorkspace workspace
  let result ← action
  Sh.setWorkspace { (← Sh.workspace) with here := place }
  return result

/-- Runs a program. Yields whether it ended well. -/
def runs (self : Actor) (words : List String) (folder? : Option String) : Walk Bool := do
  let launched ← (match folder? with
    | none => Sh.launch self words
    | some folder => inFolder folder (Sh.launch self words) : Sh Sh.Launched)
  let name := quotedName (words.headD "")
  match launched with
  | .ended (.exited code) => return code = 0
  | .ended (.killed signal) =>
    Sh.warn s!"{name} terminated by signal {signal}"
    modify fun progress => { progress with code := 1 }
    return false
  | .missing =>
    Sh.warn (name ++ ": No such file or directory")
    return false
  | .denied =>
    Sh.warn (name ++ ": Permission denied")
    return false

/-- The path of a file where its directory is the working directory. -/
def insidePath (found : Found) : String :=
  if found.name = "." || found.name = "/" then found.name else "./" ++ found.name

/-- Does something with a file. Yields whether what follows is asked or done. -/
def Action.perform (self : Actor) (action : Action) (found : Found) : Walk Bool := do
  match action with
  | .print mark target? =>
    put target? (found.path ++ mark)
    return true
  | .lay pieces target? =>
    let mode := (← Sh.workspace).mode found.address
    let shown := pieces.map fun piece =>
      match piece with
      | .text text => text
      | .field directive letter => fieldText found mode directive letter
    put target? (String.join shown)
    return true
  | .list target? =>
    let mode := (← Sh.workspace).mode found.address
    let item : Listing.Item := { name := found.name, entry := found.entry, mode }
    put target? (padLeft 9 "1" ++ " " ++ padLeft 6 (toString item.blocks) ++ " " ++
      item.letters ++ " " ++ padLeft 3 (toString item.links) ++ " " ++ padRight 8 "root" ++ " " ++
      padRight 8 "root" ++ " " ++ padLeft 8 (toString found.size) ++ " Jan  1 00:00 " ++
      found.path ++ "\n")
    return true
  | .delete =>
    if found.path = "." then return true
    let workspace ← Sh.workspace
    let isFull := match workspace.at? found.address with
      | some (.directory (_ :: _)) => true
      | _ => false
    if isFull || found.address.isEmpty then
      Sh.warn (s!"cannot delete {quotedName found.path}: Directory not empty")
      modify fun progress => { progress with code := 1 }
      return false
    Sh.setWorkspace (workspace.put found.address none)
    return true
  | .prune =>
    modify fun progress => { progress with isPruned := true }
    return true
  | .quit =>
    modify fun progress => { progress with isOver := true }
    return true
  | .run words isInside asks =>
    let path := if isInside then insidePath found else found.path
    let words := words.map fun word =>
      String.ofList (Gather.replaceMark "\x7b\x7d".toList path.toList (word.length + 1)
        word.toList)
    if asks then
      let name := words.headD ""
      let isWanted ← Files.ask s!"< {name} ... {path} > "
      if !isWanted then return false
    runs self words (if isInside then some found.folder else none)
  | .gather number =>
    modify fun progress => { progress with gathered := progress.gathered ++ [(number, found.path)] }
    return true

/-- Whether what is asked holds of a file; does with it what is to be done. -/
def Expression.carryOut (self : Actor) (found : Found) : Expression → Walk Bool
  | .test asked => asked.holds found
  | .action wanted => wanted.perform self found
  | .not inner => do return !(← inner.carryOut self found)
  | .both first second => do
    if (← first.carryOut self found) && !(← get).isOver then second.carryOut self found
    else return false
  | .either first second => do
    if (← first.carryOut self found) || (← get).isOver then return true
    else second.carryOut self found
  | .last first second => do
    let _ ← first.carryOut self found
    if (← get).isOver then return true else second.carryOut self found

def missing (path reason : String) : Walk Unit := do
  Sh.warn (quotedName path ++ ": " ++ reason)
  modify fun progress => { progress with code := 1 }

def visit (self : Actor) (plan : Plan) (expression : Expression) (start : String) :
    (fuel : Nat) → (depth : Nat) → (path : String) → Walk Unit
  | 0, _, _ => return
  | fuel + 1, depth, path => do
    if (← get).isOver then return
    let workspace ← Sh.workspace
    match workspace.find (pathOf path), workspace.address (pathOf path) with
    | .ok entry, .ok address =>
      let found : Found := { path, start, depth, entry, address }
      let asks : Walk Unit := do
        if plan.least ≤ depth then
          -- What is in a directory may have changed before it is its turn.
          let entry := ((← Sh.workspace).at? address).getD entry
          let _ ← expression.carryOut self { found with entry }
      modify fun progress => { progress with isPruned := false }
      if !plan.isDeep then asks
      let goesOn := entry.isDirectory && plan.most?.all (depth < ·) &&
        (plan.isDeep || !(← get).isPruned) && !(← get).isOver
      if goesOn then
        match (← Sh.workspace).at? address with
        | some (.directory entries) =>
          for (name, _) in entries do
            visit self plan expression start fuel (depth + 1) (inside path (bytesOfName name))
        | _ => missing path "No such file or directory"
      if plan.isDeep && !(← get).isOver then asks
    | .error fault, _ | _, .error fault => missing path fault.reason

def runsOf (key : String → String) : List String → List (String × List String)
  | [] => []
  | path :: rest =>
    match runsOf key rest with
    | [] => [(key path, [path])]
    | (other, paths) :: groups =>
      if key path = other then (other, path :: paths) :: groups
      else (key path, [path]) :: (other, paths) :: groups

/-- Runs the programs that have gathered paths. -/
def finish (self : Actor) (plan : Plan) : Walk Unit := do
  for ((words, isInside), number) in plan.gathers.zipIdx do
    let paths := (← get).gathered.filterMap fun (other, path) =>
      if other = number then some path else none
    let folderOf (path : String) : String :=
      Found.folder { path, start := "", depth := 0, entry := .directory [], address := [] }
    if isInside then
      for (folder, paths) in runsOf folderOf paths do
        let names := paths.map fun path => insidePath
          { path, start := "", depth := 0, entry := .directory [], address := [] }
        if !(← runs self (words ++ names) (some folder)) then
          modify fun progress => { progress with code := 1 }
    else if !paths.isEmpty then
      let limits : Gather.Limits := {}
      let base := words.foldl (fun length word => length + word.length + 1) 0
      let items := paths.map fun path => ({ text := path } : Gather.Item)
      for group in Gather.groups limits base [] 0 0 items do
        if !(← runs self (words ++ group) none) then
          modify fun progress => { progress with code := 1 }

end Find

open Find in
def find : Program := fun self arguments => do
  let rec options : List String → List String
    | "--" :: rest => rest
    | "-D" :: _ :: rest => options rest
    | argument :: rest =>
      if ["-H", "-L", "-P"].contains argument || argument.startsWith "-O" then options rest
      else argument :: rest
    | [] => []
  let arguments := options arguments
  let paths := arguments.takeWhile fun argument => !isPart true argument
  let plan ← readPlan (arguments.length + 1) {} (arguments.drop paths.length)
  if plan.deletes && plan.prunes && !plan.asksDepth then
    Sh.fail 1 ("The -delete action automatically turns on -depth, but -prune does nothing when " ++
      "-depth is in effect.  If you want to carry on anyway, just explicitly use the -depth " ++
      "option.")
  let plan := if plan.acts then plan else plan.with' .ending
  match Reader.expressionOf plan.words with
  | .error message => Sh.fail 1 message
  | .ok expression =>
    let expression := if plan.acts then expression
      else .both expression (.action (.print "\n" none))
    let walk : Walk Unit := do
      for path in if paths.isEmpty then ["."] else paths do
        if !(← get).isOver then visit self plan expression path pathDepth 0 path
      finish self plan
    let (_, progress) ← walk.run {}
    return progress.code

end MutationTesting.Shell.Utility
