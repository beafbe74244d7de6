import MutationTesting.Shell.Utility.Compare.Hunk
import MutationTesting.Shell.Utility.Files
import MutationTesting.Shell.Utility.Grep
import MutationTesting.Shell.Utility.Show
/-! Programs that compare files, byte by byte or line by line. -/
namespace MutationTesting.Shell.Utility

namespace Compare

/-- How the changes between files are shown. -/
inductive Form where
  | plain
  | unified (context : Nat)
  | contextual (context : Nat)
  | edScript
  | forwardScript
  | storeScript
  | beside
  | brief
  deriving Repr, DecidableEq

structure Settings where
  form : Form
  key : String → String
  isRecursive : Bool
  takesMissing : Bool
  tellsSame : Bool
  /-- Whether changes of a line do not count. -/
  isTrivial : String → Bool
  /-- Whether a line is the title of a part of a file. -/
  isTitle : String → Bool
  startsWithTab : Bool
  expandsTabs : Bool
  isText : Bool
  labels : List String
  excluded : List String
  width : Nat
  hidesCommon : Bool
  leftOnly : Bool
  /-- The options as they have been given. -/
  options : String

/-- A line without what does not count when it is compared. -/
def keyOf (given : Given) (line : String) : String :=
  let hasEnd := line.endsWith "\n"
  let cs := if hasEnd then line.toList.dropLast else line.toList
  let cs := if given.has "strip-trailing-cr" && cs.getLast? = some '\r' then cs.dropLast else cs
  let isSpace := Pattern.isSpace
  let cs :=
    if given.has "w" then cs.filter fun c => !isSpace c
    else
      let trimmed := if given.has "b" || given.has "Z" then
          (cs.reverse.dropWhile isSpace).reverse else cs
      if given.has "b" then
        trimmed.zipIdx.filterMap fun (c, index) =>
          if !isSpace c then some c
          else if (index + 1 < trimmed.length && (trimmed.drop (index + 1)).head?.any isSpace) then
            none
          else some ' '
      else trimmed
  let cs := if given.has "i" then cs.map Char.toLower else cs
  let ignoresEnds := ["w", "b", "Z", "e", "f"].any given.has
  String.ofList cs ++ if hasEnd || ignoresEnds then "\n" else ""

def endedLines (text : String) : Array String :=
  let lines := linesOf text
  let isOpen := endsInLine '\n' text
  (lines.zipIdx.map fun (line, index) =>
    if isOpen && index + 1 = lines.length then line else line.push '\n').toArray

/-- How the comparison of two things ended: its exit code. -/
abbrev Result := Nat

/-- The header of the changes between two files. -/
def header (settings : Settings) (old new : String) : String :=
  let name (index : Nat) (path time : String) : String :=
    settings.labels.getD index (path ++ "\t" ++ time)
  let usual := "1970-01-01 00:00:00.000000000 +0000"
  let older := "Thu Jan  1 00:00:00 1970"
  match settings.form with
  | .contextual _ => "*** " ++ name 0 old older ++ "\n--- " ++ name 1 new older ++ "\n"
  | _ => "--- " ++ name 0 old usual ++ "\n+++ " ++ name 1 new usual ++ "\n"

def isBlankLine (given : Given) (line : String) : Bool :=
  let cs := line.toList.takeWhile (· ≠ '\n')
  if given.has "w" || given.has "b" then cs.all Pattern.isSpace
  else if given.has "Z" then cs.all Pattern.isSpace
  else cs.isEmpty

/-- Whether a change concerns nothing but lines whose changes do not count. -/
def isTrivialChange (settings : Settings) (old new : Array String) (change : Change) : Bool :=
  (stretch old change.old change.deleted ++ stretch new change.new change.inserted).all
    settings.isTrivial

def texts (settings : Settings) (title oldPath newPath oldText newText : String) : Sh Result := do
  let old := settings.labels.getD 0 oldPath
  let new := settings.labels.getD 1 newPath
  let same : Sh Result := do
    if settings.tellsSame then Sh.say (s!"Files {old} and {new} are identical\n")
    return 0
  let isEditing := settings.form = .edScript || settings.form = .forwardScript
  let unended := (if endsInLine '\n' oldText then [old] else []) ++
    if endsInLine '\n' newText then [new] else []
  let needsEnd := isEditing && !unended.isEmpty
  if oldText = newText && settings.form ≠ .beside && !needsEnd then return ← same
  let isBinary (text : String) : Bool := (text.toList.take 4096).contains '\x00'
  let differ : Sh Result := do
    Sh.say (s!"Files {old} and {new} differ\n")
    return 1
  if !settings.isText && (isBinary oldText || isBinary newText) then
    if settings.form = .brief then return ← differ
    Sh.say (s!"Binary files {old} and {new} differ\n")
    return 1
  let oldLines := endedLines oldText
  let newLines := endedLines newText
  let horizon := match settings.form with
    | .unified context | .contextual context => context
    | _ => 0
  let trimsEnd := isEditing || endsInLine '\n' oldText = endsInLine '\n' newText
  let changes := align settings.key horizon trimsEnd oldLines newLines
  let comparison : Comparison := {
    old := oldLines
    new := newLines
    changes
    isTrivial := isTrivialChange settings oldLines newLines
    isTitle := settings.isTitle
    startsWithTab := settings.startsWithTab
    expandsTabs := settings.expandsTabs }
  let shownChanges := comparison.counted
  if settings.form ≠ .beside && shownChanges.isEmpty && !needsEnd then
    return ← same
  let header := header settings oldPath newPath
  match settings.form with
  | .brief => differ
  | form =>
    let shown := match form with
      | .unified context => comparison.unified context header
      | .contextual context => comparison.contextual context header
      | .edScript => comparison.edScript
      | .forwardScript => comparison.forwardScript
      | .storeScript => comparison.storeScript
      | .beside => comparison.sideBySide settings.width settings.hidesCommon settings.leftOnly
      | _ => comparison.plain
    Sh.say (title ++ shown)
    if needsEnd then
      for path in unended do
        Sh.warn (path ++ ": No newline at end of file\n")
      return 2
    return if shownChanges.isEmpty then 0 else 1

/-- The content of a file, or nothing if it is missing and that is allowed. -/
def content (settings : Settings) (path : String) : Sh (Except String String) := do
  match ← Sh.readInput .all path with
  | .ok bytes => return .ok (textOfBytes bytes)
  | .error reason =>
    if settings.takesMissing && reason = "No such file or directory" then return .ok ""
    return .error reason

def files (settings : Settings) (title old new : String) : Sh Result := do
  let oldText ← content settings old
  let newText ← content settings new
  match oldText, newText with
  | .ok oldText, .ok newText => texts settings title old new oldText newText
  | _, _ =>
    if let .error reason := oldText then Sh.warn (old ++ ": " ++ reason)
    if let .error reason := newText then Sh.warn (new ++ ": " ++ reason)
    return 2

def directories (settings : Settings) : (depth : Nat) → (old new : String) → Sh Result
  | 0, _, _ => return 2
  | depth + 1, old, new => do
    let isExcluded (name : String) : Bool :=
      settings.excluded.any fun pattern => Pattern.fits pattern.toList name.toList
    let entriesOf (path : String) : Sh (List (String × Entry)) := do
      let entries := ((← Files.entry? path).map Entry.entries).getD []
      return (entries.map fun (name, entry) => (bytesOfName name, entry)).filter fun (name, _) =>
        !isExcluded name
    let olds ← entriesOf old
    let news ← entriesOf new
    let names := ((olds ++ news).map Prod.fst).mergeSort (fun a b => a ≤ b) |>.eraseDups
    let codes ← names.mapM fun name => do
      let first := inside old name
      let second := inside new name
      let only (path : String) : Sh Result := do
        Sh.say (s!"Only in {path}: {name}\n")
        return 1
      let title (form : Form) : String :=
        if form = .brief then "" else s!"diff{settings.options} {first} {second}\n"
      let kind (entry : Entry) : String :=
        match entry with
        | .directory _ => "directory"
        | .file content => if content.size = 0 then "regular empty file" else "regular file"
      match olds.lookup name, news.lookup name with
      | some (.directory _), some (.directory _) =>
        if settings.isRecursive then directories settings depth first second
        else
          Sh.say (s!"Common subdirectories: {first} and {second}\n")
          return 0
      | some a, some b =>
        if a.isDirectory || b.isDirectory then
          Sh.say (s!"File {first} is a {kind a} while file {second} is a {kind b}\n")
          return 1
        files settings (title settings.form) first second
      | some a, none =>
        if !settings.takesMissing then only old
        else if a.isDirectory then
          if settings.isRecursive then directories settings depth first second else only old
        else files settings (title settings.form) first second
      | none, some b =>
        if !settings.takesMissing then only new
        else if b.isDirectory then
          if settings.isRecursive then directories settings depth first second else only new
        else files settings (title settings.form) first second
      | none, none => return 0
    return codes.foldl max 0

end Compare

namespace Compare

/-- The options of the program that shows differences. -/
def optionTexts : String :=
  "a,text b,ignore-space-change B,ignore-blank-lines c C: context:: d,minimal D:,ifdef e,ed " ++
    "E,ignore-tab-expansion f,forward-ed F:,show-function-line H,speed-large-files " ++
    "i,ignore-case I:,ignore-matching-lines l,paginate L:,label n,rcs N,new-file " ++
    "p,show-c-function P,unidirectional-new-file q,brief r,recursive " ++
    "s,report-identical-files S:,starting-file t,expand-tabs T,initial-tab u U: unified:: " ++
    "w,ignore-all-space W:,width x:,exclude X:,exclude-from y,side-by-side " ++
    "Z,ignore-trailing-space color:: from-file: to-file: normal no-dereference " ++
    "horizon-lines: strip-trailing-cr suppress-common-lines left-column " ++
    "suppress-blank-empty no-ignore-file-name-case tabsize: line-format: old-line-format: " ++
    "new-line-format: unchanged-line-format: 0 1 2 3 4 5 6 7 8 9"

/-- The number that options of one digit make: the last ones that follow each other. -/
def digitsOf (given : Given) : Option Nat :=
  let isDigit : String × Option String → Bool := fun (key, _) =>
    key.length = 1 && key.toList.all Char.isDigit
  let digits := (given.options.reverse.dropWhile fun option => !isDigit option).takeWhile isDigit
  if digits.isEmpty then none
  else count? (String.join (digits.reverse.map Prod.fst))

def formOf (given : Given) : Sh Form := do
  let forms := given.options.filterMap fun (key, _) =>
    match key with
    | "c" | "C" | "context" => some "c"
    | "u" | "U" | "unified" => some "u"
    | "e" | "f" | "n" | "y" | "normal" => some key
    | _ => none
  if 1 < forms.eraseDups.length then Sh.failUsage 2 "conflicting output style options"
  let mut lengths : List Nat := []
  for (key, value?) in given.options do
    if key = "c" || key = "u" then lengths := 3 :: lengths
    if ["C", "U", "context", "unified"].contains key then
      match value? with
      | none => lengths := 3 :: lengths
      | some text =>
        match count? text with
        | some length => lengths := length :: lengths
        | none => Sh.failUsage 2 (s!"invalid context length '{text}'")
  let isExplicit := ["C", "U", "context", "unified"].any given.has
  let length := lengths.foldl max 0
  let length := match digitsOf given with
    | some digits => if length < digits || !isExplicit then digits else length
    | none => if lengths.isEmpty then 3 else length
  if given.has "q" then return .brief
  return match forms.head? with
    | some "u" => .unified length
    | some "c" => .contextual length
    | some "e" => .edScript
    | some "f" => .forwardScript
    | some "n" => .storeScript
    | some "y" => .beside
    | some _ => .plain
    | none => if given.has "p" then .contextual length else .plain

/-- Whether a line has a stretch that one of the expressions that an option gives describes. -/
def fitsAny (given : Given) (key : String) : Sh (String → Bool) := do
  let expressions ← (given.all key).mapM fun text => do
    match Regex.Expression.ofText (Grep.dialect false false) text.toList with
    | .ok expression => return expression
    | .error refusal => Sh.fail 2 (text ++ ": " ++ refusal.message)
  return fun line =>
    let text := (line.toList.takeWhile (· ≠ '\n')).toArray
    expressions.any fun expression => (expression.search? text 0).isSome

end Compare

open Compare in
/-- Shows the differences between files, line by line. -/
def diff : Program := fun _ arguments => do
  let given ← Sh.takeAll 2 optionTexts arguments
  let operands := given.operands
  let form ← formOf given
  let isIgnored ← fitsAny given "I"
  let isNamed ← fitsAny given "F"
  let opensFunction (line : String) : Bool :=
    line.toList.head?.any fun c => c.isAlpha || c = '$' || c = '_'
  match operands with
  | [] =>
    let last := arguments.getLast?.getD "diff"
    Sh.failUsage 2 s!"missing operand after '{last}'"
  | [operand] => Sh.failUsage 2 s!"missing operand after '{operand}'"
  | _ :: _ :: extra :: _ => Sh.failUsage 2 s!"extra operand '{extra}'"
  | [old, new] =>
    let switches := operands.foldl (fun found operand =>
      (found.reverse.erase operand).reverse) arguments
    let settings : Compare.Settings := {
      form
      key := keyOf given
      isRecursive := given.has "r"
      takesMissing := given.has "N"
      tellsSame := given.has "s"
      isTrivial := fun line => given.has "B" && isBlankLine given line || isIgnored line
      isTitle := fun line => given.has "p" && opensFunction line || isNamed line
      startsWithTab := given.has "T"
      expandsTabs := given.has "t"
      isText := given.has "a"
      labels := given.all "L"
      excluded := given.all "x"
      width := ((given.last? "W").bind count?).getD 130
      hidesCommon := given.has "suppress-common-lines"
      leftOnly := given.has "left-column"
      options := String.join (switches.map fun argument => " " ++ argument) }
    let isThere (path : String) : Sh (Except String Bool) := do
      if path = "-" then return .ok false
      match ← Files.entry path with
      | .ok entry => return .ok entry.isDirectory
      | .error reason => return .error reason
    let first ← isThere old
    let second ← isThere new
    let isExcused (found : Except String Bool) : Bool :=
      match found with
      | .ok _ => true
      | .error reason => settings.takesMissing && reason = "No such file or directory"
    let isMissing (found : Except String Bool) : Bool := found.toOption.isNone
    if !(isExcused first && isExcused second) || isMissing first && isMissing second then
      let tell (path : String) (found : Except String Bool) : Sh Unit := do
        if let .error reason := found then Sh.warn (path ++ ": " ++ reason)
      tell old first
      tell new second
      return 2
    if let (.ok true, .ok true) := (first, second) then
      let oldAddress := (← Sh.addressOf old).toOption
      let newAddress := (← Sh.addressOf new).toOption
      if oldAddress = newAddress then return 0
    match first, second with
    | .ok true, .ok true => directories settings pathDepth old new
    | .ok true, .error _ | .error _, .ok true =>
      if settings.isRecursive then directories settings pathDepth old new
      else
        files settings "" old new
    | .ok true, .ok false =>
      if new = "-" then Sh.fail 2 "cannot compare '-' to a directory"
      files settings "" (inside old (baseOf new)) new
    | .ok false, .ok true =>
      if old = "-" then Sh.fail 2 "cannot compare '-' to a directory"
      files settings "" old (inside new (baseOf old))
    | _, _ =>
      if old = "-" || new = "-" then
        let shared ← content settings "-"
        let text (path : String) : Sh (Except String String) :=
          if path = "-" then return shared else content settings path
        match ← text old, ← text new with
        | .ok oldText, .ok newText => texts settings "" old new oldText newText
        | a, b =>
          if let .error reason := a then Sh.warn (old ++ ": " ++ reason)
          if let .error reason := b then Sh.warn (new ++ ": " ++ reason)
          return 2
      else files settings "" old new

namespace Compare

/-- A byte as it is shown beside its number. -/
def byteShown (byte : UInt8) : String :=
  let low (n : Nat) : String :=
    if n < 32 then "^" ++ String.singleton (Char.ofNat (n + 64))
    else if n = 127 then "^?" else String.singleton (Char.ofNat n)
  let n := byte.toNat
  if n < 128 then low n else "M-" ++ low (n - 128)

def octalOf (byte : UInt8) : String :=
  padLeft 3 (String.ofList (Nat.toDigits 8 byte.toNat))

def differences (first second : ByteArray) : List Nat :=
  (List.range (min first.size second.size)).filter fun place =>
    first.get! place ≠ second.get! place

end Compare

open Compare in
/-- Finds out whether two files are the same, byte by byte. -/
def cmp : Program := fun _ arguments => do
  let given ← Sh.takeAll 2
    "b,print-bytes i:,ignore-initial l,verbose n:,bytes s,quiet,silent" arguments
  if given.has "l" && given.has "s" then
    Sh.failUsage 2 "options -l and -s are incompatible"
  let size (what text : String) : Sh Nat := do
    match sized? text with
    | some value => return value
    | none => Sh.failUsage 2 (s!"invalid --{what} value '{text}'")
  let limit? ← (given.last? "n").mapM (size "bytes")
  let skips ← match given.last? "i" with
    | none => pure []
    | some text => (piecesAt ':' text).mapM (size "ignore-initial")
  if given.operands.isEmpty then
    let last := arguments.getLast?.getD "cmp"
    Sh.failUsage 2 s!"missing operand after '{last}'"
  let extra ← ((given.operands.drop 2).take 2).mapM (size "ignore-initial")
  if let other :: _ := given.operands.drop 4 then Sh.failUsage 2 s!"extra operand '{other}'"
  let first := given.operands.headD "-"
  let second := given.operands.getD 1 "-"
  let firstSkip := (skips.head?.or extra.head?).getD 0
  let secondSkip := ((skips[1]?.or skips.head?).or extra[1]?).getD 0
  if first = second && firstSkip = secondSkip then
    if first = "-" || (← Files.entry? first).isSome then return 0
  let content (path : String) (skip : Nat) : Sh ByteArray := do
    match ← Sh.readInput .all path with
    | .ok bytes => return bytes.extract skip (match limit? with
        | some limit => min bytes.size (skip + limit)
        | none => bytes.size)
    | .error reason =>
      if !given.has "s" then Sh.warn (path ++ ": " ++ reason)
      throw (.exit 2)
  let firstBytes ← content first firstSkip
  let secondBytes ← content second secondSkip
  let isFirstShort := firstBytes.size < secondBytes.size
  let least := min firstBytes.size secondBytes.size
  let places := differences firstBytes secondBytes
  if places.isEmpty && firstBytes.size = secondBytes.size then return 0
  if given.has "s" then return 1
  let showsBytes := given.has "b"
  let shownByte (byte : UInt8) : String := octalOf byte ++ " " ++ byteShown byte
  let breaks (count : Nat) : Nat :=
    ((List.range count).filter fun place => firstBytes.get! place = lineFeed).length
  let ending : Sh Unit := do
    if firstBytes.size ≠ secondBytes.size then
      let short := if isFirstShort then first else second
      if least = 0 then Sh.warn (s!"EOF on {short} which is empty")
      else if given.has "l" then Sh.warn (s!"EOF on {short} after byte {least}")
      else
        let lines := breaks least
        let isWhole := firstBytes.get! (least - 1) = lineFeed
        Sh.warn (s!"EOF on {short} after byte {least}, " ++
          if isWhole then s!"line {lines}" else s!"in line {lines + 1}")
  if given.has "l" then
    let sizeOf (path : String) (bytes : ByteArray) : Nat :=
      if path = "-" then Nat.pow 10 18 else bytes.size
    let width := (toString (min (sizeOf first firstBytes) (sizeOf second secondBytes))).length
    Sh.say (String.join (places.map fun place =>
      let a := firstBytes.get! place
      let b := secondBytes.get! place
      padLeft width (toString (place + 1)) ++ " " ++
        (if showsBytes then octalOf a ++ " " ++ padRight 4 (byteShown a) ++ " " ++ shownByte b
          else octalOf a ++ " " ++ octalOf b) ++ "\n"))
    ending
    return 1
  match places with
  | [] =>
    ending
    return 1
  | place :: _ =>
    let line := breaks place + 1
    let a := firstBytes.get! place
    let b := secondBytes.get! place
    if showsBytes then
      Sh.say (s!"{first} {second} differ: byte {place + 1}, line {line} is " ++ shownByte a ++
        " " ++ shownByte b ++ "\n")
    else Sh.say (s!"{first} {second} differ: char {place + 1}, line {line}\n")
    return 1

end MutationTesting.Shell.Utility
