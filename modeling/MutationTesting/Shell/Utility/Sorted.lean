import MutationTesting.Shell.Utility.Columns
/-! Programs that compare lines with those next to them, or with those of another sorted file. -/
namespace MutationTesting.Shell.Utility

/-- Whether a character separates the words of a line. -/
def isBlank (c : Char) : Bool :=
  c = ' ' || c = '\t' || c = '\n'

namespace Unique

/-- Which lines of a group of equal ones are shown. -/
structure Style where
  counts : Bool
  showsUnique : Bool
  showsFirst : Bool
  showsLater : Bool

/-- What follows so many words, with the blanks before them. -/
def withoutWords : (count : Nat) → List Char → List Char
  | 0, cs => cs
  | count + 1, cs => withoutWords count ((cs.dropWhile isBlank).dropWhile fun c => !isBlank c)

def groups (key : String → String) (lines : List String) : List (List String) :=
  let (groups, group, _) := lines.foldl (fun (groups, group, last?) line =>
    let key := key line
    if last? = some key then (groups, line :: group, last?)
    else (if group.isEmpty then groups else group.reverse :: groups, [line], some key))
    ([], [], none)
  (if group.isEmpty then groups else group.reverse :: groups).reverse

def Style.shown (style : Style) (mark : Char) (group : List String) : List String :=
  let count := group.length
  let lead := if style.counts then padLeft 7 (toString count) ++ " " else ""
  let lines :=
    if count = 1 then if style.showsUnique then group else []
    else if style.showsLater then
      if style.showsFirst then group else group.dropLast
    else if style.showsFirst then group.take 1
    else []
  lines.map fun line => lead ++ line.push mark

end Unique

/-- Options in the old form of `uniq`. -/
def withOldSkips (arguments : List String) : List String :=
  arguments.map fun argument =>
    match argument.toList with
    | '-' :: c :: cs => if c.isDigit then "-f" ++ String.ofList (c :: cs) else argument
    | '+' :: c :: cs => if c.isDigit then "-s" ++ String.ofList (c :: cs) else argument
    | _ => argument

/-- Shows one line of each group of equal neighbours. -/
def uniq : Program := fun _ arguments => do
  let given ← Sh.takeAll 1 ("c,count d,repeated D all-repeated:: f:,skip-fields i,ignore-case " ++
    "s:,skip-chars u,unique w:,check-chars z,zero-terminated group::") (withOldSkips arguments)
  let number (key what : String) : Sh (Option Nat) := do
    match given.last? key with
    | none => return none
    | some text =>
      match count? text with
      | some n => return some n
      | none => Sh.fail 1 (s!"{text}: invalid number of {what}")
  let words := (← number "f" "fields to skip").getD 0
  let chars := (← number "s" "bytes to skip").getD 0
  let width? ← number "w" "bytes to compare"
  let showsLater := given.has "D" || given.has "all-repeated"
  let isGrouped := given.has "group"
  if isGrouped && (showsLater || given.has "c" || given.has "d" || given.has "u") then
    Sh.failUsage 1 "--group is mutually exclusive with -c/-d/-D/-u"
  if given.has "c" && showsLater then
    Sh.failUsage 1 "printing all duplicated lines and repeat counts is meaningless"
  if let extra :: _ := given.operands.drop 2 then Sh.failExtra 1 extra
  let path := given.operands.headD "-"
  let mark := if given.has "z" then '\x00' else '\n'
  let key (line : String) : String :=
    let cs := (Unique.withoutWords words line.toList).drop chars
    let cs := match width? with
      | some width => cs.take width
      | none => cs
    let cs := if given.has "i" then cs.map Char.toUpper else cs
    String.ofList cs
  match ← Sh.readInput .sample path with
  | .error reason =>
    if reason = "Is a directory" then
      Sh.fail 1 ("error reading " ++ quotedName path ++ ": " ++ reason)
    Sh.fail 1 (shownName path ++ ": " ++ reason)
  | .ok bytes =>
    let groups := Unique.groups key (linesEndedBy mark (textOfBytes bytes))
    let style : Unique.Style := {
      counts := given.has "c"
      showsUnique := !(given.has "d" || showsLater)
      showsFirst := !given.has "u"
      showsLater }
    let shown :=
      if isGrouped then
        let method := ((given.last? "group").getD "separate")
        let blocks := groups.map fun group => String.join (group.map (·.push mark))
        let line := String.singleton mark
        let inner := String.intercalate line blocks
        if groups.isEmpty then ""
        else (if method = "prepend" || method = "both" then line else "") ++ inner ++
          (if method = "append" || method = "both" then line else "")
      else
        let blocks := groups.map fun group => String.join (style.shown mark group)
        let blocks := blocks.filter fun block => !block.isEmpty
        match given.last? "all-repeated" with
        | some "prepend" => String.join (blocks.map fun block => "\n" ++ block)
        | some "separate" => String.intercalate "\n" blocks
        | _ => String.join blocks
    match given.operands[1]? with
    | none | some "-" =>
      Sh.say shown
      Sh.endIfEndless [path]
      return 0
    | some target =>
      match ← Sh.openFile .write target with
      | .error reason => Sh.fail 1 (shownName target ++ ": " ++ reason)
      | .ok opened =>
        let number ← Sh.newOpened opened
        let _ ← Sh.writeTo number opened (bytesOfText shown)
        return 0

namespace Merge

/-- Where a line is out of order. -/
structure Disorder where
  first : Bool := false
  second : Bool := false

inductive Check where
  | never
  | always
  | afterDifference
  deriving Repr, DecidableEq

/-- A line of one of two sorted lists, or of both. -/
inductive Row where
  | first (line : String)
  | second (line : String)
  | both (line : String)
  /-- What is found out about the order of the lines of a list. -/
  | disorder (isFirst : Bool)
  deriving Repr, DecidableEq

/-- What is read of one list: the lines before, the last one first, and those that come. -/
structure Side where
  before : List String := []
  rest : List String
  isWrong : Bool := false

/-- Goes to the next line. Yields whether something has been found to be out of order. -/
def Side.next (check : Check) (hasDifference : Bool) (side : Side) : Side × Bool :=
  match side.rest with
  | [] => (side, false)
  | line :: rest =>
    let before := line :: side.before.take 1
    let isChecked := !side.isWrong && (check = .always || check = .afterDifference && hasDifference)
    let isWrong : Bool := isChecked && match rest, side.before with
      | next :: _, _ => decide (next < line)
      | [], last :: _ => decide (line < last)
      | [], [] => false
    ({ before, rest, isWrong := side.isWrong || isWrong }, isWrong)

/-- The lines of two sorted lists together. -/
def rows (check : Check) : (fuel : Nat) → (hasDifference : Bool) → (found : List Row) →
    (a b : Side) → List Row
  | 0, _, found, _, _ => found.reverse
  | fuel + 1, hasDifference, found, a, b =>
    let noted (isFirst isWrong : Bool) (found : List Row) : List Row :=
      if isWrong then .disorder isFirst :: found else found
    let firstOnly (line : String) : List Row :=
      let (a, isWrong) := a.next check true
      rows check fuel true (noted true isWrong (.first line :: found)) a b
    let secondOnly (line : String) : List Row :=
      let (b, isWrong) := b.next check true
      rows check fuel true (noted false isWrong (.second line :: found)) a b
    match a.rest, b.rest with
    | [], [] => found.reverse
    | line :: _, [] => firstOnly line
    | [], line :: _ => secondOnly line
    | first :: _, second :: _ =>
      if first < second then firstOnly first
      else if second < first then secondOnly second
      else
        let (a, isFirstWrong) := a.next check hasDifference
        let (b, isSecondWrong) := b.next check hasDifference
        rows check fuel hasDifference
          (noted false isSecondWrong (noted true isFirstWrong (.both first :: found))) a b

end Merge

/-- The two files that a program compares. -/
def twoOperands (code : Nat) (given : Given) : Sh (String × String) := do
  match given.operands with
  | [] => Sh.failMissing code
  | [operand] => Sh.failUsage code ("missing operand after " ++ quotedName operand)
  | _ :: _ :: extra :: _ => Sh.failExtra code extra
  | [first, second] => return (first, second)

/-- Shows which lines two sorted files share. -/
def comm : Program := fun _ arguments => do
  let given ← Sh.takeAll 1 ("1 2 3 check-order nocheck-order output-delimiter: total " ++
    "z,zero-terminated") arguments
  let (first, second) ← twoOperands 1 given
  let mark := if given.has "z" then '\x00' else '\n'
  let separator := match given.last? "output-delimiter" with
    | some "" => "\x00"
    | some text => text
    | none => "\t"
  let content (path : String) : Sh (List String) := do
    match ← Sh.readInput .all path with
    | .ok bytes => return linesEndedBy mark (textOfBytes bytes)
    | .error reason => Sh.fail 1 (shownName path ++ ": " ++ reason)
  let firstLines ← content first
  let secondLines ← content second
  let check : Merge.Check := match given.latest? ["check-order", "nocheck-order"] with
    | some "check-order" => .always
    | some _ => .never
    | none => .afterDifference
  let rows := Merge.rows check (firstLines.length + secondLines.length + 1) false []
    { rest := firstLines } { rest := secondLines }
  let showsFirst := !given.has "1"
  let showsSecond := !given.has "2"
  let showsBoth := !given.has "3"
  let lead (isShown : Bool) : String := if isShown then separator else ""
  rows.forM fun row => do
    match row with
    | .first line => if showsFirst then Sh.say (line.push mark)
    | .second line => if showsSecond then Sh.say ((lead showsFirst ++ line).push mark)
    | .both line =>
      if showsBoth then Sh.say ((lead showsFirst ++ lead showsSecond ++ line).push mark)
    | .disorder isFirst =>
      Sh.warn s!"file {if isFirst then 1 else 2} is not in sorted order"
      if check = .always then throw (.exit 1)
  if given.has "total" then
    let count (holds : Merge.Row → Bool) : String := toString (rows.filter holds).length
    let firsts := count fun row => match row with
      | .first _ => true
      | _ => false
    let seconds := count fun row => match row with
      | .second _ => true
      | _ => false
    let boths := count fun row => match row with
      | .both _ => true
      | _ => false
    Sh.say ((String.intercalate separator [firsts, seconds, boths, "total"]).push mark)
  let isWrong := rows.any fun row => match row with
    | .disorder _ => true
    | _ => false
  if isWrong then Sh.fail 1 "input is not in sorted order"
  return 0

namespace Join

structure Record where
  line : String
  fields : Array String
  number : Nat

/-- A field that is shown: the one that the lines share, or one of a line. -/
inductive Place where
  | shared
  | field (isFirst : Bool) (index : Nat)
  deriving Repr, DecidableEq

structure Settings where
  separator? : Option Char
  firstKey : Nat
  secondKey : Nat
  showsFirst : Bool
  showsSecond : Bool
  showsPairs : Bool
  filler : String
  foldsCase : Bool
  layout? : Option (List Place)
  check : Merge.Check

def fieldsOf (separator? : Option Char) (line : String) : Array String :=
  match separator? with
  | some separator => if line.isEmpty then #[] else (piecesAt separator line).toArray
  | none =>
    ((piecesAt ' ' (line.map fun c => if isBlank c then ' ' else c)).filter
      fun field => !field.isEmpty).toArray

def Settings.key (settings : Settings) (isFirst : Bool) (record : Record) : String :=
  let key := record.fields.getD (if isFirst then settings.firstKey else settings.secondKey) ""
  if settings.foldsCase then key.map Char.toUpper else key

/-- The line that two records become; one of them may be missing. -/
def Settings.shown (settings : Settings) (first? second? : Option Record) : String :=
  let between := String.singleton (settings.separator?.getD ' ')
  let field (record? : Option Record) (index : Nat) : String :=
    let text := (record?.bind fun record => record.fields[index]?).getD ""
    if text.isEmpty then settings.filler else text
  let shared :=
    if first?.isSome then field first? settings.firstKey else field second? settings.secondKey
  let fields := match settings.layout? with
    | some layout => layout.map fun place =>
      match place with
      | .shared => shared
      | .field true index => field first? index
      | .field false index => field second? index
    | none =>
      let others (record? : Option Record) (key : Nat) : List String :=
        match record? with
        | none => []
        | some record =>
          ((List.range record.fields.size).filter (· ≠ key)).map fun index => field record? index
      shared :: others first? settings.firstKey ++ others second? settings.secondKey
  String.intercalate between fields

/-- What is to be shown: a line, or what is said of one that is out of order. -/
inductive Event where
  | line (text : String)
  | disorder (isFirst : Bool) (record : Record)

structure State where
  hasDifference : Bool := false
  isFirstWrong : Bool := false
  isSecondWrong : Bool := false
  events : List Event := []

/-- Checks the order of a record and the one behind it. -/
def Settings.checked (settings : Settings) (isFirst : Bool) (records : List Record)
    (state : State) : State :=
  match records with
  | record :: next :: _ =>
    let isWrong := if isFirst then state.isFirstWrong else state.isSecondWrong
    let isDue := settings.check = .always ||
      settings.check = .afterDifference && state.hasDifference
    if isDue && !isWrong && settings.key isFirst next < settings.key isFirst record then
      { state with
        isFirstWrong := state.isFirstWrong || isFirst
        isSecondWrong := state.isSecondWrong || !isFirst
        events := .disorder isFirst next :: state.events }
    else state
  | _ => state

def Settings.tail (settings : Settings) (isFirst shows : Bool) : List Record → State → State
  | [], state => state
  | record :: rest, state =>
    let text := if isFirst then settings.shown (some record) none
      else settings.shown none (some record)
    let state := if shows then { state with events := .line text :: state.events } else state
    settings.tail isFirst shows rest (settings.checked isFirst (record :: rest) state)

def Settings.run (settings : Settings) : (fuel : Nat) → (firsts seconds : List Record) → State →
    State
  | 0, _, _, state => state
  | _, [], seconds, state =>
    settings.tail false settings.showsSecond seconds state
  | _, firsts, [], state =>
    settings.tail true settings.showsFirst firsts state
  | fuel + 1, first :: firsts, second :: seconds, state =>
    let a := settings.key true first
    let b := settings.key false second
    if a < b then
      let state := if settings.showsFirst then
          { state with events := .line (settings.shown (some first) none) :: state.events }
        else state
      let state := settings.checked true (first :: firsts) state
      settings.run fuel firsts (second :: seconds) { state with hasDifference := true }
    else if b < a then
      let state := if settings.showsSecond then
          { state with events := .line (settings.shown none (some second)) :: state.events }
        else state
      let state := settings.checked false (second :: seconds) state
      settings.run fuel (first :: firsts) seconds { state with hasDifference := true }
    else
      let sameFirsts := first :: firsts.takeWhile fun record => settings.key true record = b
      let sameSeconds := second :: seconds.takeWhile fun record => settings.key false record = a
      let checkAll (isFirst : Bool) (count : Nat) (records : List Record) (state : State) : State :=
        (List.range count).foldl (fun state index =>
          settings.checked isFirst (records.drop index) state) state
      let state := checkAll true sameFirsts.length (first :: firsts) state
      let state := checkAll false sameSeconds.length (second :: seconds) state
      let lines := if settings.showsPairs then
          sameFirsts.flatMap fun first => sameSeconds.map fun second =>
            Event.line (settings.shown (some first) (some second))
        else []
      let state := { state with events := lines.reverse ++ state.events }
      settings.run fuel ((first :: firsts).drop sameFirsts.length)
        ((second :: seconds).drop sameSeconds.length) state

def placeOf (text : String) : Except String Place :=
  match text.toList with
  | ['0'] => .ok .shared
  | side :: '.' :: digits =>
    if side ≠ '1' && side ≠ '2' then
      .error ("invalid file number in field spec: " ++ quotedName text)
    else
      match count? (String.ofList digits) with
      | some (index + 1) => .ok (.field (side = '1') index)
      | _ => .error ("invalid field number: " ++ quotedName (String.ofList digits))
  | _ => .error ("invalid field specifier: " ++ quotedName text)

end Join

/-- Joins the lines of two sorted files that have a field in common. -/
def join : Program := fun _ arguments => do
  let given ← Sh.takeAll 1 ("a: e: i,ignore-case j: o: t: v: 1: 2: check-order nocheck-order " ++
    "header z,zero-terminated") arguments
  let key (name : String) : Sh Nat := do
    match (given.last? name).or (given.last? "j") with
    | none => return 0
    | some text =>
      match count? text with
      | some (index + 1) => return index
      | _ => Sh.fail 1 ("invalid field number: " ++ quotedName text)
  let firstKey ← key "1"
  let secondKey ← key "2"
  let side (text : String) : Sh Unit := do
    if text ≠ "1" && text ≠ "2" then Sh.fail 1 ("invalid field number: " ++ quotedName text)
  (given.all "a" ++ given.all "v").forM side
  let separator? ← (given.last? "t").mapM fun text => do
    match text.toList with
    | [] => return '\n'
    | [c] => return c
    | ['\\', '0'] => return '\x00'
    | _ => Sh.fail 1 ("multi-character tab " ++ quotedName text)
  let layout? ← match given.all "o" with
    | [] => pure none
    | ["auto"] => pure none
    | texts =>
      let pieces := texts.flatMap fun text =>
        (piecesAt ',' (text.map fun c => if isBlank c then ',' else c)).filter fun piece =>
          !piece.isEmpty
      match pieces.mapM Join.placeOf with
      | .ok places => pure (some places)
      | .error message => Sh.fail 1 message
  let (first, second) ← twoOperands 1 given
  if first = "-" && second = "-" then Sh.fail 1 "both files cannot be standard input"
  let mark := if given.has "z" then '\x00' else '\n'
  let settings : Join.Settings := {
    separator?, firstKey, secondKey, layout?
    showsFirst := (given.all "a" ++ given.all "v").contains "1"
    showsSecond := (given.all "a" ++ given.all "v").contains "2"
    showsPairs := !given.has "v"
    filler := (given.last? "e").getD ""
    foldsCase := given.has "i"
    check := match given.latest? ["check-order", "nocheck-order"] with
      | some "check-order" => .always
      | some _ => .never
      | none => .afterDifference }
  let records (path : String) : Sh (List Join.Record) := do
    match ← Sh.readInput .all path with
    | .error reason => Sh.fail 1 (shownName path ++ ": " ++ reason)
    | .ok bytes =>
      return (linesEndedBy mark (textOfBytes bytes)).zipIdx.map fun (line, index) =>
        { line, fields := Join.fieldsOf separator? line, number := index + 1 }
  let firsts ← records first
  let seconds ← records second
  let (firsts, seconds) ←
    if given.has "header" then do
      if !firsts.isEmpty || !seconds.isEmpty then
        Sh.say ((settings.shown firsts.head? seconds.head?).push mark)
      pure (firsts.drop 1, seconds.drop 1)
    else pure (firsts, seconds)
  let state := settings.run (firsts.length + seconds.length + 1) firsts seconds {}
  state.events.reverse.forM fun event => do
    match event with
    | .line text => Sh.say (text.push mark)
    | .disorder isFirst record =>
      let name := if isFirst then first else second
      Sh.warn s!"{name}:{record.number}: is not sorted: {record.line}"
      if settings.check = .always then throw (.exit 1)
  if state.isFirstWrong || state.isSecondWrong then Sh.fail 1 "input is not in sorted order"
  return 0

end MutationTesting.Shell.Utility
