import MutationTesting.Shell.Number
import MutationTesting.Shell.Utility.Basic
/-! Programs that start others, in other surroundings, with other arguments or for some time. -/
namespace MutationTesting.Shell.Utility

/-- Goes on as another program. `lead` starts what is said if that is not possible. -/
def become (self : Actor) (lead : String) (arguments : List String) : Sh Nat := do
  let name := arguments.headD ""
  match ← Sh.findProgram name with
  | .ok path =>
    let _ ← Sh.flush
    self (.program path arguments)
    return (← Sh.process).status
  | .error isDenied =>
    Sh.fail (if isDenied then 126 else 127) (lead ++ quotedName name ++ ": " ++
      if isDenied then "Permission denied" else "No such file or directory")

/-- The variables with one more, in the place of another one of its name. -/
def withVariable (name value : String) : List (String × String) → List (String × String)
  | [] => [(name, value)]
  | (other, old) :: rest =>
    if other = name then (name, value) :: rest
    else (other, old) :: withVariable name value rest

/-- The name and the value that a text sets. -/
def settingOf? (text : String) : Option (String × String) :=
  let name := text.toList.takeWhile (· ≠ '=')
  if name.length < text.length then
    some (String.ofList name, String.ofList (text.toList.drop (name.length + 1)))
  else none

/-- Makes the variables that programs see others. -/
def setEnvironment (bindings : List (String × String)) : Sh Unit :=
  Sh.setProcess fun process =>
    let kept := process.bindings.filter fun (_, held) => !held.isExported
    { process with
      bindings := bindings.foldl (fun found (name, value) =>
        putVariable name { value? := some value, isExported := true } found) kept }

/-- The words of a text in which quotes keep blanks. -/
def splitWords (text : List Char) : List String :=
  go (text.length + 1) none none text
where
  go : (fuel : Nat) → (quote? : Option Char) → (word? : Option (List Char)) → List Char →
      List String
    | 0, _, _, _ => []
    | _, _, word?, [] => match word? with
      | some word => [String.ofList word.reverse]
      | none => []
    | fuel + 1, quote?, word?, c :: rest =>
      match quote? with
      | some quote =>
        if c = quote then go fuel none (some (word?.getD [])) rest
        else go fuel quote? (some (c :: word?.getD [])) rest
      | none =>
        if c = '\'' || c = '"' then go fuel (some c) (some (word?.getD [])) rest
        else if Pattern.isSpace c then
          match word? with
          | some word => String.ofList word.reverse :: go fuel none none rest
          | none => go fuel none none rest
        else go fuel none (some (c :: word?.getD [])) rest

/-- Shows the variables, or runs a program with others. -/
def env : Program := fun self arguments => do
  let rules := "i,ignore-environment u:,unset 0,null C:,chdir S:,split-string v,debug"
  let given ← Sh.takeFirst 125 rules arguments
  let given ← match given.last? "S" with
    | some text =>
      let more ← Sh.takeFirst 125 rules (splitWords text.toList ++ given.operands)
      pure { more with options := given.options ++ more.options }
    | none => pure given
  let (isBare, operands) := match given.operands with
    | "-" :: rest => (true, rest)
    | operands => (given.has "i", operands)
  let start ← if isBare then pure [] else Sh.environment
  let start := start.filter fun (name, _) => !(given.all "u").contains name
  let settings := operands.takeWhile fun text => (settingOf? text).isSome
  let bindings := (settings.filterMap settingOf?).foldl (fun bindings (name, value) =>
    withVariable name value bindings) start
  let command := operands.drop settings.length
  if command.isEmpty then
    let mark := if given.has "0" then "\x00" else "\n"
    bindings.forM fun (name, value) => Sh.say (name ++ "=" ++ value ++ mark)
    return 0
  if let some path := given.last? "C" then
    match (← Sh.workspace).enter (pathOf path) with
    | .ok workspace => Sh.setWorkspace workspace
    | .error fault =>
      Sh.fail 125 ("cannot change directory to " ++ quotedName path ++ ": " ++ fault.reason)
  setEnvironment bindings
  become self "" command

def printenv : Program := fun _ arguments => do
  let given ← Sh.takeFirst 2 "0,null" arguments
  let mark := if given.has "0" then "\x00" else "\n"
  let bindings ← Sh.environment
  if given.operands.isEmpty then
    bindings.forM fun (name, value) => Sh.say (name ++ "=" ++ value ++ mark)
    return 0
  let codes ← given.operands.mapM fun name => do
    match bindings.lookup name with
    | some value =>
      Sh.say (value ++ mark)
      return 0
    | none => return 1
  return codes.foldl max 0

/-- Runs a program that goes on when its terminal is closed. -/
def nohup : Program := fun self arguments => do
  let given ← Sh.takeFirst 125 "" arguments
  if given.operands.isEmpty then Sh.failMissing 125
  become self "failed to run command " given.operands

/-- Runs a program that lets others go first. -/
def nice : Program := fun self arguments => do
  let arguments := match arguments with
    | first :: rest =>
      match first.toList with
      | '-' :: digits => if !digits.isEmpty && digits.all Char.isDigit then rest else arguments
      | _ => arguments
    | [] => []
  let given ← Sh.takeFirst 125 "n:,adjustment" arguments
  if given.operands.isEmpty then
    if given.has "n" then Sh.failUsage 125 "a command must be given with an adjustment"
    Sh.say "0\n"
    return 0
  become self "" given.operands

/-- Runs a program in a session of its own. -/
def setsid : Program := fun self arguments => do
  let given ← Sh.takeFirst 1 "c,ctty f,fork w,wait" arguments
  if given.operands.isEmpty then Sh.failUsage 1 "no command specified"
  become self "failed to execute " given.operands

/-- Runs a program that keeps less before it writes it. -/
def stdbuf : Program := fun self arguments => do
  let given ← Sh.takeFirst 125 "i:,input o:,output e:,error" arguments
  if given.operands.isEmpty then Sh.failMissing 125
  if given.options.isEmpty then
    Sh.failUsage 125 "you must specify a buffering mode option"
  become self "failed to run command " given.operands

/-- The span of time that a text is, in nanoseconds. -/
def spanOf? (text : String) : Option Nat := do
  let (value, rest) ← Real.at? .double text.toList
  if value.isNegative then none
  let factor ← match rest with
    | [] | ['s'] => some 1
    | ['m'] => some 60
    | ['h'] => some 3600
    | ['d'] => some 86400
    | _ => none
  match value with
  | .finite _ mantissa exponent =>
    let (numerator, denominator) := Real.fraction mantissa exponent
    return (numerator * factor * 1000000000 + denominator - 1) / denominator
  | .infinite _ => return Nat.pow 10 18 * 1000000000
  | .nothing _ => none

def sleep : Program := fun self arguments => do
  let given ← Sh.takeAll 1 "" arguments
  if given.operands.isEmpty then Sh.failMissing 1
  let spans := given.operands.map spanOf?
  (given.operands.zip spans).forM fun (text, span?) => do
    if span?.isNone then Sh.warn ("invalid time interval " ++ quotedName text)
  if !spans.all Option.isSome then Sh.usage 1
  let time := (← get).clock + (spans.filterMap id).foldl (· + ·) 0
  let limit? := (← get).limit?
  Sh.catchUp self (match limit? with
    | some limit => min limit time
    | none => time)
  Sh.waitUntil time
  return 0

/-- Runs a program, but not for longer than some time. -/
def timeout : Program := fun self arguments => do
  let given ← Sh.takeFirst 125 ("s:,signal k:,kill-after preserve-status foreground v,verbose " ++
    "p,unused") arguments
  let signal ← match given.last? "s" with
    | none => pure 15
    | some text =>
      match Signal.ofText? 0 text with
      | some signal => pure signal
      | none => Sh.failUsage 125 (quotedName text ++ ": invalid signal")
  if let some text := given.last? "k" then
    if (spanOf? text).isNone then
      Sh.failUsage 125 ("invalid time interval " ++ quotedName text)
  match given.operands with
  | [] | [_] => Sh.usage 125
  | text :: command =>
    match spanOf? text with
    | none => Sh.failUsage 125 ("invalid time interval " ++ quotedName text)
    | some span =>
      let before ← get
      let deadline := before.clock + span
      let isOuter := before.limit?.any fun limit => limit ≤ deadline
      if 0 < span && !isOuter then modify fun machine => { machine with limit? := some deadline }
      let result ← Sh.attempt (Sh.launch self command)
      modify fun machine => { machine with limit? := before.limit? }
      match result with
      | .error .stop =>
        if isOuter || span = 0 then throw .stop
        Sh.waitUntil deadline
        if given.has "v" then
          Sh.warn ("sending signal " ++ Signal.nameOf signal ++ " to command " ++
            quotedName (command.headD ""))
        if signal = Signal.kill then
          if given.has "foreground" then return 137
          throw (.killed (← Sh.process).number signal)
        return if given.has "preserve-status" then 128 + signal else 124
      | .error interrupt => throw interrupt
      | .ok (.ended (.exited code)) => return code
      | .ok (.ended (.killed signal)) => throw (.killed (← Sh.process).number signal)
      | .ok .missing =>
        Sh.fail 127 ("failed to run command " ++ quotedName (command.headD "") ++
          ": No such file or directory")
      | .ok .denied =>
        Sh.fail 126 ("failed to run command " ++ quotedName (command.headD "") ++
          ": Permission denied")

namespace Gather

/-- How arguments are read from the input. -/
structure Style where
  mark? : Option Char := none
  stopWord? : Option String := none
  /-- Whether each line is one argument. -/
  byLine : Bool := false

/-- An argument, and whether it is the last one of a line. -/
structure Item where
  text : String
  endsLine : Bool := false

/-- The arguments in a text in which blanks separate them unless they are quoted. -/
def items (style : Style) : (fuel : Nat) → (word? : Option (List Char)) → (found : List Item) →
    List Char → List Item × Option String
  | 0, _, found, _ => (found.reverse, none)
  | fuel + 1, word?, found, cs =>
    let finish (endsLine : Bool) : List Item := match word? with
      | some word => ⟨String.ofList word.reverse, endsLine⟩ :: found
      | none => found
    match cs with
    | [] => ((finish true).reverse, none)
    | '\n' :: rest => items style fuel none (finish true) rest
    | '\\' :: c :: rest => items style fuel (some (c :: word?.getD [])) found rest
    | ['\\'] => ((finish true).reverse, none)
    | c :: rest =>
      if c = '\'' || c = '"' then
        let inner := rest.takeWhile fun d => d ≠ c && d ≠ '\n'
        match rest.drop inner.length with
        | d :: rest =>
          if d = c then items style fuel (some (inner.reverse ++ word?.getD [])) found rest
          else ((finish true).reverse, some (if c = '"' then "double" else "single"))
        | [] => (found.reverse, some (if c = '"' then "double" else "single"))
      else if c = ' ' || c = '\t' then
        if style.byLine then
          match word? with
          | some word => items style fuel (some (c :: word)) found rest
          | none => items style fuel none found rest
        else
          -- Blanks at the end of a line make it go on.
          let after := rest.dropWhile fun c => c = ' ' || c = '\t'
          if after.head? = some '\n' then items style fuel none (finish false) (after.drop 1)
          else items style fuel none (finish false) rest
      else items style fuel (some (c :: word?.getD [])) found rest

/-- The arguments in a text, and which quotes are not closed. -/
def all (style : Style) (text : String) : List Item × Option String :=
  let (found, fault?) := match style.mark? with
    | some mark =>
      ((linesEndedBy mark text).map fun line => ({ text := line, endsLine := true } : Item), none)
    | none => items style (text.length + 1) none [] text.toList
  match style.stopWord? with
  | some mark => (found.takeWhile fun item => item.text ≠ mark, fault?)
  | none => (found, fault?)

def mostBytes : Nat := 131072

structure Limits where
  items? : Option Nat := none
  lines? : Option Nat := none
  bytes : Nat := mostBytes

/-- Arguments in groups, one for each command. -/
def groups (limits : Limits) (base : Nat) : (group : List String) → (lines size : Nat) →
    List Item → List (List String)
  | group, _, _, [] => if group.isEmpty then [] else [group.reverse]
  | group, lines, size, item :: rest =>
    let cost := item.text.length + 1
    let isFull := !group.isEmpty && (limits.items?.any (· ≤ group.length) ||
      limits.lines?.any (· ≤ lines) || limits.bytes < base + size + cost)
    let ends := if item.endsLine then 1 else 0
    if isFull then group.reverse :: groups limits base [item.text] ends cost rest
    else groups limits base (item.text :: group) (lines + ends) (size + cost) rest

def replaceMark (mark new : List Char) : (fuel : Nat) → List Char → List Char
  | 0, cs => cs
  | _, [] => []
  | fuel + 1, c :: cs =>
    if !mark.isEmpty && mark.isPrefixOf (c :: cs) then
      new ++ replaceMark mark new fuel ((c :: cs).drop mark.length)
    else c :: replaceMark mark new fuel cs

end Gather

/-- Whether a word needs quotes in a shell. -/
def isPlainWord (text : String) : Bool :=
  text ≠ "" && text.toList.all fun c => c.isAlphanum || "%+,-./:@_]^=".toList.contains c

/-- Runs a program with arguments that are read. -/
def xargs : Program := fun self arguments => do
  let given ← Sh.takeFirst 1 ("0,null a:,arg-file d:,delimiter E:,eof e:: I:,replace i:: " ++
    "L:,max-lines l:: n:,max-args P:,max-procs p,interactive r,no-run-if-empty s:,max-chars " ++
    "t,verbose x,exit show-limits process-slot-var:") arguments
  let number (key : String) (least : Nat) : Sh (Option Nat) := do
    match given.last? key with
    | none => return none
    | some text =>
      match text.toList, text.toNat? with
      | _, some n =>
        if n < least then
          Sh.failUsage 1 s!"value {n} for -{key} option should be >= {least}"
        return some n
      | '-' :: rest, none =>
        if !rest.isEmpty && rest.all Char.isDigit then
          Sh.failUsage 1 s!"value {text} for -{key} option should be >= {least}"
        Sh.failUsage 1 ("invalid number \"" ++ text ++ s!"\" for -{key} option")
      | _, none => Sh.failUsage 1 ("invalid number \"" ++ text ++ s!"\" for -{key} option")
  let items? ← number "n" 1
  let lines? ← number "L" 1
  let bytes? ← number "s" 1
  let _ ← number "P" 0
  let lines? :=
    if given.has "l" then some (((given.last? "l").bind String.toNat?).getD 1) else lines?
  let mark? : Option Char := match given.latest? ["0", "d"] with
    | some "0" => some '\x00'
    | some _ =>
      match ((given.last? "d").getD "").toList with
      | '\\' :: c :: rest =>
        if c = 'x' then some (Char.ofNat (digitsIn 16 0 0 rest).1)
        else if c.isDigit then some (Char.ofNat (digitsIn 8 0 0 (c :: rest)).1)
        else some (escapeAt' c)
      | c :: _ => some c
      | [] => some '\x00'
    | none => none
  let replace? : Option String := match given.latest? ["I", "i", "L", "l", "n"] with
    | some "I" => given.last? "I"
    | some "i" => some ((given.last? "i").getD "\x7b\x7d")
    | _ => none
  let (items?, lines?) := match given.latest? ["I", "i", "L", "l", "n"] with
    | some "n" => (items?, none)
    | some "L" | some "l" => (none, lines?)
    | _ => (none, none)
  let style : Gather.Style := {
    mark?
    stopWord? := if mark?.isSome then none else (given.last? "E").filter (· ≠ "")
    byLine := replace?.isSome && mark?.isNone }
  let source := (given.last? "a").getD "-"
  let text ← match ← Sh.readInput .sample source with
    | .ok bytes => pure (textOfBytes bytes)
    | .error reason =>
      if source = "-" then pure ""
      else Sh.fail 1 ("Cannot open input file " ++ quotedName source ++ ": " ++ reason)
  let (items, fault?) := Gather.all style text
  let command := if given.operands.isEmpty then ["echo"] else given.operands
  if let some quote := fault? then
    Sh.warn (s!"unmatched {quote} quote; by default quotes are special to xargs unless you use " ++
      "the -0 option")
  let commands : List (List String) := match replace? with
    | some mark => items.map fun item =>
      command.head?.toList ++ (command.drop 1).map fun word =>
        String.ofList (Gather.replaceMark mark.toList item.text.toList (word.length + 1)
          word.toList)
    | none =>
      let base := command.foldl (fun length word => length + word.length + 1) 0
      let limits : Gather.Limits := { items?, lines?, bytes := bytes?.getD Gather.mostBytes }
      let groups := Gather.groups limits base [] 0 0 items
      let groups := if groups.isEmpty && !given.has "r" && fault?.isNone then [[]] else groups
      groups.map fun group => command ++ group
  let shown (word : String) : String := if isPlainWord word then word else quotedName word
  let start := if fault?.isSome then 1 else 0
  commands.foldlM (fun code words => do
    if given.has "t" then
      let _ ← Sh.flush
      Sh.tryWrite 2 (String.intercalate " " (words.map shown) ++ "\n")
    let launched ← Sh.keepingChannels do
      if source = "-" then Sh.connect 0 (some (← Sh.newOpened { target := .nowhere }))
      Sh.launch self words
    let name := words.headD ""
    match launched with
    | .missing => Sh.fail 127 (shownName name ++ ": No such file or directory")
    | .denied => Sh.fail 126 (shownName name ++ ": Permission denied")
    | .ended (.killed signal) => Sh.fail 125 s!"{shownName name}: terminated by signal {signal}"
    | .ended (.exited 255) =>
      Sh.fail 124 (shownName name ++ ": exited with status 255; aborting")
    | .ended (.exited 0) => return code
    | .ended (.exited _) => return max code 123) start
where
  /-- The character that a letter behind a backslash stands for. -/
  escapeAt' (c : Char) : Char :=
    match c with
    | 'n' => '\n'
    | 't' => '\t'
    | 'r' => '\r'
    | 'a' => '\x07'
    | 'b' => '\x08'
    | 'f' => '\x0c'
    | 'v' => '\x0b'
    | c => c

def which : Program := fun _ arguments => do
  let given ← Sh.takeFirst 2 "a s" arguments
  let path := ((← Sh.environment).lookup "PATH").getD ""
  let codes ← given.operands.mapM fun name => do
    if name.toList.contains '/' then
      if (← Sh.isProgram? name) = some true then
        Sh.say (name ++ "\n")
        return 0
      return 1
    let found ← (directories path).filterMapM fun directory => do
      let path := directory ++ "/" ++ name
      return if (← Sh.isProgram? path) = some true then some path else none
    let found := if given.has "a" then found else found.take 1
    found.forM fun path => Sh.say (path ++ "\n")
    return if found.isEmpty then 1 else 0
  return if codes.isEmpty then 1 else codes.foldl max 0
where
  directories (path : String) : List String := Sh.directories path

def pwd : Program := fun _ arguments => do
  let _ ← Sh.takeAll 1 "L,logical P,physical" arguments
  Sh.say ((← Sh.hereText) ++ "\n")
  return 0

/-- Shows a line that is always the same. -/
def constant (text : String) (code : Nat) : Program := fun _ _ => do
  Sh.say (text ++ "\n")
  return code

def identity : Program := fun _ arguments => do
  let given ← Sh.takeAll 1 "a Z,context g,group G,groups n,name r,real u,user z,zero" arguments
  if let some name := given.operands.head? then
    if name ≠ "root" && name ≠ "0" then Sh.fail 1 (quotedName name ++ ": no such user")
  let one := given.has "u" || given.has "g" || given.has "G"
  if given.has "n" && !one then
    Sh.fail 1 "cannot print only names or real IDs in default format"
  Sh.say (if !one then "uid=0(root) gid=0(root) groups=0(root)\n"
    else if given.has "n" then "root\n" else "0\n")
  return 0

def uname : Program := fun _ arguments => do
  let given ← Sh.takeAll 1 ("a,all s,kernel-name n,nodename r,kernel-release v,kernel-version " ++
    "m,machine p,processor i,hardware-platform o,operating-system") arguments
  if let some operand := given.operands.head? then Sh.failExtra 1 operand
  let all := given.has "a"
  let parts :=
    (if all || given.has "s" || given.options.isEmpty then ["Linux"] else []) ++
    (if all || given.has "n" then ["localhost"] else []) ++
    (if all || given.has "r" then ["6.1.0"] else []) ++
    (if all || given.has "v" then ["#1 SMP"] else []) ++
    (if all || given.has "m" then ["x86_64"] else []) ++
    (if all || given.has "p" then ["x86_64"] else []) ++
    (if all || given.has "i" then ["x86_64"] else []) ++
    (if all || given.has "o" then ["GNU/Linux"] else [])
  Sh.say (String.intercalate " " parts ++ "\n")
  return 0

end MutationTesting.Shell.Utility
