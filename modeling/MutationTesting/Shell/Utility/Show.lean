import MutationTesting.Shell.Number
import MutationTesting.Shell.Utility.Basic
/-! Programs that show files or parts of them. -/
namespace MutationTesting.Shell.Utility

/-- A byte as it is shown when it cannot be seen. -/
def visible (c : Char) : List Char :=
  let n := c.toNat
  let low (n : Nat) : List Char :=
    if n < 32 then ['^', Char.ofNat (n + 64)] else if n = 127 then ['^', '?'] else [Char.ofNat n]
  if n < 128 then low n else ['M', '-'] ++ low (n - 128)

structure CatStyle where
  numbers : Bool
  onlyFull : Bool
  squeezes : Bool
  showsEnds : Bool
  showsTabs : Bool
  showsHidden : Bool

def CatStyle.body (style : CatStyle) (isEnded : Bool) (line : String) : String :=
  let cs := line.toList
  let shown := cs.flatMap fun c =>
    if c = '\t' then if style.showsTabs then ['^', 'I'] else [c]
    else if style.showsHidden then visible c
    else [c]
  let shown :=
    if style.showsEnds && !style.showsHidden && isEnded && cs.getLast? = some '\r' then
      shown.dropLast ++ ['^', 'M']
    else shown
  String.ofList shown ++ if style.showsEnds && isEnded then "$" else ""

/-- Lines as `cat` shows them. `blank` is how many blank lines have come before. -/
def CatStyle.lines (style : CatStyle) (isEnded : Bool) : (number blank : Nat) → List String →
    List String → List String
  | _, _, found, [] => found.reverse
  | number, blank, found, line :: rest =>
    let isLast := rest.isEmpty
    let isEnded' := !isLast || isEnded
    let isBlank := line.isEmpty && isEnded'
    if style.squeezes && isBlank && 0 < blank then
      style.lines isEnded number (blank + 1) found rest
    else
      let isNumbered := if style.onlyFull then !isBlank else style.numbers
      let digits := toString number
      let lead :=
        if isNumbered then String.ofList (List.replicate (6 - digits.length) ' ') ++ digits ++ "\t"
        else ""
      let shown := lead ++ style.body isEnded' line ++ if isEnded' then "\n" else ""
      style.lines isEnded (if isNumbered then number + 1 else number)
        (if isBlank then blank + 1 else 0) (shown :: found) rest

def cat : Program := fun _ arguments => do
  let given ← Sh.takeAll 1 ("A,show-all b,number-nonblank e E,show-ends n,number " ++
    "s,squeeze-blank t T,show-tabs u v,show-nonprinting") arguments
  let all := given.has "A"
  let style : CatStyle := {
    numbers := given.has "n"
    onlyFull := given.has "b"
    squeezes := given.has "s"
    showsEnds := all || given.has "e" || given.has "E"
    showsTabs := all || given.has "t" || given.has "T"
    showsHidden := all || given.has "e" || given.has "t" || given.has "v" }
  let paths := if given.operands.isEmpty then ["-"] else given.operands
  let isPlain := given.options.all fun (key, _) => key = "u"
  let target? : Option Target := (← Sh.opened? 1).map fun (_, opened) => opened.target
  let found ← paths.mapM fun path => do
    match ← Sh.openInput path with
    | .error reason =>
      Sh.warn (shownName path ++ ": " ++ reason)
      if path = "-" then Sh.warn ("closing standard input: " ++ reason)
      return none
    | .ok (number, opened) =>
      let isSame : Bool := match opened.target, target? with
        | .file a, some (.file b) => a = b
        | _, _ => false
      let workspace ← Sh.workspace
      let content := match opened.target with
        | .file address => ((workspace.at? address).bind Entry.content?).getD .empty
        | _ => .empty
      if isSame && opened.offset < content.size then
        Sh.warn (shownName path ++ ": input file is output file")
        return none
      match ← Sh.readFrom number opened .sample with
      | .error reason =>
        Sh.warn (shownName path ++ ": " ++ reason)
        return none
      | .ok (bytes, _) =>
        if isPlain then
          Sh.say (textOfBytes bytes)
          if ← Sh.isEndlessInput path then Sh.endIfEndless [path]
        return some bytes
  let code := if found.all Option.isSome then 0 else 1
  if !isPlain then
    let text := textOfBytes ((found.filterMap id).foldl ByteArray.append .empty)
    Sh.say (String.join (style.lines (!endsInLine '\n' text) 1 0 [] (linesOf text)))
    Sh.endIfEndless paths
  return code

/-- Shows the lines of files from the last one on. -/
def tac : Program := fun _ arguments => do
  let given ← Sh.takeAll 1 "b,before r,regex s:,separator" arguments
  let mark := ((given.last? "s").bind fun text => text.toList.head?).getD '\n'
  let paths := if given.operands.isEmpty then ["-"] else given.operands
  let codes ← paths.mapM fun path => do
    match ← Sh.readInput .all path with
    | .error reason =>
      Sh.warn (if reason = "Is a directory" then shownName path ++ ": read error: " ++ reason
        else "failed to open " ++ quotedName path ++ " for reading: " ++ reason)
      return 1
    | .ok bytes =>
      let text := textOfBytes bytes
      let lines := linesEndedBy mark text
      let parts := if endsInLine mark text then
          match lines.getLast? with
          | some last => (lines.dropLast.map (·.push mark)) ++ [last]
          | none => []
        else lines.map (·.push mark)
      Sh.say (String.join parts.reverse)
      return 0
  return codes.foldl max 0

/-- Shows each line from its last character on. -/
def rev : Program := fun _ arguments => do
  let given ← Sh.takeAll 1 "V,version h,help" arguments
  let paths := if given.operands.isEmpty then ["-"] else given.operands
  let codes ← paths.mapM fun path => do
    match ← Sh.readInput .sample path with
    | .error reason =>
      Sh.warn ((if path = "-" then "stdin" else "cannot open " ++ path) ++ ": " ++ reason)
      return 1
    | .ok bytes =>
      let text := textOfBytes bytes
      let lines := (linesOf text).map fun line => String.ofList line.toList.reverse
      let shown := String.intercalate "\n" lines
      Sh.say (if endsInLine '\n' text || lines.isEmpty then shown else shown ++ "\n")
      return 0
  Sh.endIfEndless paths
  return codes.foldl max 0

/-- The number that a text with a unit is: letters multiply it. -/
def sized? (text : String) : Option Nat :=
  let digits := text.toList.takeWhile Char.isDigit
  let unit := String.ofList (text.toList.drop digits.length)
  let units : List (String × Nat) :=
    [("", 1), ("b", 512), ("kB", 1000), ("K", 1024), ("KB", 1000), ("KiB", 1024), ("k", 1024),
      ("MB", 1000000), ("M", 1048576), ("MiB", 1048576), ("m", 1048576), ("GB", 1000000000),
      ("G", 1073741824), ("GiB", 1073741824)]
  if digits.isEmpty then none
  else (units.lookup unit).map fun factor => numberOfDigits digits * factor

/-- Which part of a file is shown. -/
structure Part where
  bytes : Bool := false
  count : Nat := 10
  /-- Whether the count is from the other end. -/
  isOther : Bool := false

def partOf (bytes : Bool) (other : Char) (text : String) : Sh Part := do
  let (isOther, digits) := match text.toList with
    | c :: rest => if c = other then (true, String.ofList rest)
        else if c = '+' || c = '-' then (false, String.ofList rest) else (false, text)
    | [] => (false, "")
  match sized? digits with
  | some count => return { bytes, count, isOther }
  | none =>
    let what := if bytes then "bytes" else "lines"
    Sh.fail 1 (s!"invalid number of {what}: " ++ quotedName text)

/-- The first line of a file that is shown among several. -/
def header (isFirst : Bool) (path : String) : String :=
  (if isFirst then "" else "\n") ++ "==> " ++
    (if path = "-" then "standard input" else path) ++ " <==\n"

/-- Options in the old form, with a number behind the hyphen. -/
def modernized (arguments : List String) : List String :=
  match arguments with
  | first :: rest =>
    match first.toList with
    | '-' :: c :: cs =>
      if c.isDigit then
        let digits := (c :: cs).takeWhile Char.isDigit
        let letters := cs.drop (digits.length - 1)
        let letter := if letters.contains 'c' then "-c" else "-n"
        let others := letters.filter fun c => c = 'q' || c = 'v' || c = 'f'
        letter :: String.ofList digits :: (others.map fun c => "-" ++ String.singleton c) ++ rest
      else arguments
    | _ => arguments
  | [] => []

/-- The first lines of a text that has so many. -/
def firstLines (mark : Char) : (count : Nat) → (found : List Char) → List Char → List Char
  | 0, found, _ => found.reverse
  | _, found, [] => found.reverse
  | count + 1, found, c :: rest =>
    if c = mark then firstLines mark count (c :: found) rest
    else firstLines mark (count + 1) (c :: found) rest

/-- Shows the first part of one file. -/
def headOf (part : Part) (mark : Char) (number : Nat) (opened : Opened) :
    Sh (Except String Unit) := do
  if part.bytes && !part.isOther then
    match ← Sh.readFrom number opened (.bytes part.count) with
    | .error reason => return .error reason
    | .ok (bytes, _) =>
      Sh.say (textOfBytes bytes)
      return .ok ()
  else if part.isOther then
    match ← Sh.readFrom number opened .all with
    | .error reason => return .error reason
    | .ok (bytes, _) =>
      let text := textOfBytes bytes
      if part.bytes then Sh.say (textOfBytes (bytes.extract 0 (bytes.size - part.count)))
      else
        let lines := linesEndedBy mark text
        Sh.say (String.join ((lines.take (lines.length - part.count)).map (·.push mark)))
      return .ok ()
  else
    if part.count = 0 then
      match ← Sh.readFrom number opened (.bytes 0) with
      | .error reason => return .error reason
      | .ok _ => return .ok ()
    let _ ← Sh.iterate (fun (left : Nat) => do
      let opened := ((← get).opened.lookup number).getD opened
      match ← Sh.readFrom number opened (.line (UInt8.ofNat mark.toNat)) with
      | .error _ => return (0, false)
      | .ok (bytes, isWhole) =>
        Sh.say (textOfBytes bytes)
        return (left - 1, isWhole && 1 < left)) (part.count + 1) part.count
    match opened.target with
    | .directory _ => return .error "Is a directory"
    | .pipe place =>
      -- A program takes more from a pipe than it shows.
      if !(← Sh.pipe place).isEndless then
        Sh.setPipe place { (← Sh.pipe place) with unread := [], written := [] }
      return .ok ()
    | _ => return if opened.reads then .ok () else .error badDescriptor

def head : Program := fun _ arguments => do
  let given ← Sh.takeAll 1 "c:,bytes n:,lines q,quiet,silent v,verbose z,zero-terminated"
    (modernized arguments)
  let part ← match given.latest? ["c", "n"] with
    | some "c" => partOf true '-' ((given.last? "c").getD "")
    | some _ => partOf false '-' ((given.last? "n").getD "")
    | none => pure {}
  let paths := if given.operands.isEmpty then ["-"] else given.operands
  let isNamed := match given.latest? ["q", "v"] with
    | some "v" => true
    | some _ => false
    | none => 1 < paths.length
  let mark := if given.has "z" then '\x00' else '\n'
  let (code, _) ← paths.foldlM (fun (code, isFirst) path => do
    match ← Sh.openInput path with
    | .error reason =>
      Sh.warn ("cannot open " ++ quotedName path ++ " for reading: " ++ reason)
      return (1, isFirst)
    | .ok (number, opened) =>
      if isNamed then Sh.say (header isFirst path)
      match ← headOf part mark number opened with
      | .ok () => return (code, false)
      | .error reason =>
        Sh.warn ("error reading " ++ quotedName (if path = "-" then "standard input" else path) ++
          ": " ++ reason)
        return (1, false)) (0, true)
  return code

def lastPart (part : Part) (mark : Char) (text : String) : String :=
  if part.bytes then
    let cs := text.toList
    if part.isOther then String.ofList (cs.drop (part.count - 1))
    else String.ofList (cs.drop (cs.length - part.count))
  else
    let lines := linesEndedBy mark text
    let dropped := if part.isOther then part.count - 1 else lines.length - part.count
    let left := lines.drop dropped
    let shown := String.intercalate (String.singleton mark) left
    if left.isEmpty || endsInLine mark text then shown else shown.push mark

def tail : Program := fun _ arguments => do
  let arguments := match arguments with
    | first :: rest =>
      match first.toList with
      | '+' :: c :: cs => if c.isDigit && rest.length ≤ 1 then
            "-n" :: String.ofList ('+' :: c :: cs) :: rest else arguments
      | _ => modernized arguments
    | [] => []
  let given ← Sh.takeAll 1 ("c:,bytes n:,lines q,quiet,silent v,verbose z,zero-terminated " ++
    "f::,follow F s:,sleep-interval pid: retry") arguments
  let part ← match given.latest? ["c", "n"] with
    | some "c" => partOf true '+' ((given.last? "c").getD "")
    | some _ => partOf false '+' ((given.last? "n").getD "")
    | none => pure {}
  let paths := if given.operands.isEmpty then ["-"] else given.operands
  let isNamed := match given.latest? ["q", "v"] with
    | some "v" => true
    | some _ => false
    | none => 1 < paths.length
  let mark := if given.has "z" then '\x00' else '\n'
  let (code, _) ← paths.foldlM (fun (code, isFirst) path => do
    match ← Sh.openInput path with
    | .error reason =>
      Sh.warn ("cannot open " ++ quotedName path ++ " for reading: " ++ reason)
      return (1, isFirst)
    | .ok (number, opened) =>
      if isNamed then Sh.say (header isFirst path)
      match ← Sh.readFrom number opened .all with
      | .ok (bytes, _) =>
        Sh.say (lastPart part mark (textOfBytes bytes))
        return (code, false)
      | .error reason =>
        Sh.warn ("error reading " ++ quotedName (if path = "-" then "standard input" else path) ++
          ": " ++ reason)
        return (1, false)) (0, true)
  if given.has "f" || given.has "F" then throw .stop
  return code

structure Counts where
  lines : Nat := 0
  words : Nat := 0
  chars : Nat := 0
  bytes : Nat := 0
  longest : Nat := 0

def Counts.ofText (text : String) : Counts :=
  let (counts, inWord, width) := text.foldl (fun (counts, inWord, width) c =>
    let counts : Counts := { counts with
      bytes := counts.bytes + 1
      lines := if c = '\n' then counts.lines + 1 else counts.lines }
    let isSpace := Pattern.isSpace c
    let isPrinted := 0x20 ≤ c.toNat && c.toNat < 0x7F
    let startsWord := !isSpace && isPrinted && !inWord
    let counts : Counts :=
      { counts with words := if startsWord then counts.words + 1 else counts.words }
    let nextWidth : Nat :=
      if c = '\n' || c = '\r' || c = '\x0c' then 0
      else if c = '\t' then width + 8 - width % 8
      else if isPrinted then width + 1
      else width
    ({ counts with longest := max counts.longest nextWidth },
      if isSpace then false else inWord || isPrinted, nextWidth)) (({} : Counts), false, 0)
  let _ := (inWord, width)
  { counts with chars := counts.bytes }

/-- Counts the lines, words and bytes of files. -/
def wc : Program := fun _ arguments => do
  let given ← Sh.takeAll 1 ("c,bytes m,chars l,lines w,words L,max-line-length files0-from: " ++
    "total:") arguments
  let all := ["l", "w", "m", "c", "L"].all fun key => !given.has key
  let fields (counts : Counts) : List Nat :=
    (if all || given.has "l" then [counts.lines] else []) ++
    (if all || given.has "w" then [counts.words] else []) ++
    (if given.has "m" then [counts.chars] else []) ++
    (if all || given.has "c" then [counts.bytes] else []) ++
    (if given.has "L" then [counts.longest] else [])
  let paths := if given.operands.isEmpty then ["-"] else given.operands
  let isOne := (fields {}).length = 1 && paths.length = 1
  let workspace ← Sh.workspace
  let sizes ← paths.mapM fun path => do
    match ← Sh.openInput path with
    | .ok (_, { target := .file address, .. }) =>
      return some (some (((workspace.at? address).bind Entry.content?).getD .empty).size)
    | .ok _ => return some none
    | .error _ => return none
  let total := (sizes.filterMap id).foldl (fun sum size? => sum + size?.getD 0) 0
  let width :=
    if isOne then 1
    else if (sizes.filterMap id).all Option.isSome then (toString total).length
    else max 7 (toString total).length
  let line (counts : Counts) (name : String) : String :=
    String.intercalate " " ((fields counts).map fun n =>
      let digits := toString n
      String.ofList (List.replicate (width - digits.length) ' ') ++ digits) ++ name ++ "\n"
  let found ← paths.mapM fun path => do
    let shown := if path = "-" && given.operands.isEmpty then "" else " " ++ path
    match ← Sh.readInput .all path with
    | .ok bytes =>
      let counts := Counts.ofText (textOfBytes bytes)
      Sh.say (line counts shown)
      return some counts
    | .error reason =>
      Sh.warn (shownName path ++ ": " ++ reason)
      if reason = "Is a directory" then Sh.say (line {} shown)
      return none
  if 1 < paths.length then
    let sum := (found.filterMap id).foldl (fun (a b : Counts) =>
      { lines := a.lines + b.lines, words := a.words + b.words, chars := a.chars + b.chars,
        bytes := a.bytes + b.bytes, longest := max a.longest b.longest }) {}
    Sh.say (line sum " total")
  return if found.all Option.isSome then 0 else 1

/-- Copies the input to the output and to files. -/
def tee : Program := fun _ arguments => do
  let given ← Sh.takeAll 1 "a,append i,ignore-interrupts p output-error::" arguments
  let opened ← given.operands.mapM fun path => do
    match ← Sh.openFile (if given.has "a" then .append else .write) path with
    | .ok opened => return some (← Sh.newOpened opened)
    | .error reason =>
      Sh.warn (shownName path ++ ": " ++ reason)
      return none
  match ← Sh.read 0 .sample with
  | .error reason => Sh.fail 1 ("read error: " ++ reason)
  | .ok (bytes, _) =>
    Sh.say (textOfBytes bytes)
    (opened.filterMap id).forM fun number => do
      match (← get).opened.lookup number with
      | some opened =>
        if bytes.size ≠ 0 then
          let _ ← Sh.writeTo number opened bytes
      | none => return
    Sh.endIfEndless ["-"]
    return if opened.all Option.isSome then 0 else 1

/-- Bytes over and over, until they are a long part of what would come without end. -/
def sampleOf : (doublings : Nat) → ByteArray → ByteArray
  | 0, bytes => bytes
  | doublings + 1, bytes =>
    if Sh.sampleSize ≤ bytes.size then bytes else sampleOf doublings (bytes ++ bytes)

def yes : Program := fun _ arguments => do
  let arguments := match arguments with
    | "--" :: rest => rest
    | arguments => arguments
  let line := if arguments.isEmpty then "y" else String.intercalate " " arguments
  match ← Sh.writeBytes 1 (sampleOf 24 (bytesOfText (line ++ "\n"))) with
  | some reason => Sh.fail 1 ("standard output: " ++ reason)
  | none =>
    match ← Sh.opened? 1 with
    | some (_, { target := .pipe place, .. }) => Sh.endWriter place
    | _ => throw .stop

end MutationTesting.Shell.Utility
