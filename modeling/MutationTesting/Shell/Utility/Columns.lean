import MutationTesting.Regex.Reader
import MutationTesting.Shell.Number
import MutationTesting.Shell.Pattern
import MutationTesting.Shell.Utility.Basic
/-! Programs that choose, join, number and lay out the parts of lines. -/
namespace MutationTesting.Shell.Utility

def blanks (count : Nat) : String :=
  String.ofList (List.replicate count ' ')

/-- A text behind as many blanks as it is shorter than a width. -/
def padLeft (width : Nat) (text : String) : String :=
  blanks (width - text.length) ++ text

/-- A text before as many blanks as it is shorter than a width. -/
def padRight (width : Nat) (text : String) : String :=
  text ++ blanks (width - text.length)

/-- The number that a text of digits is. -/
def count? (text : String) : Option Nat :=
  Signal.decimal? text

namespace Cut

inductive Unit where
  | bytes
  | fields
  deriving Repr, DecidableEq

/-- The numbers from one to another; without an end they go on. -/
structure Range where
  first : Nat
  last? : Option Nat
  deriving Repr, DecidableEq

namespace Range

def holds (n : Nat) (range : Range) : Bool :=
  range.first ≤ n && range.last?.all fun last => n ≤ last

/-- Ranges, each of which starts behind the one before it. -/
def merged : List Range → List Range
  | [] => []
  | range :: rest =>
    match merged rest with
    | [] => [range]
    | next :: others =>
      if range.last?.all fun last => next.first ≤ last then
        ⟨range.first, match range.last?, next.last? with
          | some a, some b => some (max a b)
          | _, _ => none⟩ :: others
      else range :: next :: others

def complement (start : Nat) : List Range → List Range
  | [] => [⟨start, none⟩]
  | range :: rest =>
    let before : List Range :=
      if start < range.first then [⟨start, some (range.first - 1)⟩] else []
    match range.last? with
    | none => before
    | some last => before ++ complement (last + 1) rest

end Range

def Unit.lowest : Unit → String
  | .bytes => "byte/character positions are numbered from 1"
  | .fields => "fields are numbered from 1"

/-- The numbers on the sides of a hyphen that start a piece of a list. -/
def digitsAt (unit : Unit) (cs : List Char) : Except String (Option Nat × List Char) :=
  let digits := cs.takeWhile Char.isDigit
  let value := numberOfDigits digits
  if digits.isEmpty then .ok (none, cs)
  else if Nat.pow 2 64 - 1 ≤ value then
    .error (match unit with
      | .bytes => "byte/character offset '" ++ String.ofList digits ++ "' is too large"
      | .fields => "field number '" ++ String.ofList digits ++ "' is too large")
  else .ok (some value, cs.drop digits.length)

/-- The ranges of a list, one between commas or blanks each. -/
def rangesOf (unit : Unit) : (fuel : Nat) → (found : List Range) → List Char →
    Except String (List Range)
  | 0, found, _ => .ok found.reverse
  | fuel + 1, found, cs => do
    let (first?, rest) ← digitsAt unit cs
    let (range, rest) ←
      match rest with
      | '-' :: rest =>
        if first? = some 0 then throw unit.lowest
        let (last?, rest) ← digitsAt unit rest
        match rest with
        | '-' :: _ => throw (match unit with
            | .bytes => "invalid byte or character range"
            | .fields => "invalid field range")
        | c :: _ =>
          if c ≠ ',' && !isSpacer c then throw (wrong rest)
        | [] => pure ()
        match first?, last? with
        | none, none => throw "invalid range with no endpoint: -"
        | _, none => pure (Range.mk (first?.getD 1) none, rest)
        | _, some last =>
          if last < first?.getD 1 then throw "invalid decreasing range"
          pure (Range.mk (first?.getD 1) (some last), rest)
      | c :: _ =>
        if c ≠ ',' && !isSpacer c then throw (wrong rest)
        one first? rest
      | [] => one first? rest
    match rest with
    | _ :: rest => rangesOf unit fuel (range :: found) rest
    | [] => return (range :: found).reverse
where
  isSpacer (c : Char) : Bool := c = ' ' || c = '\t'
  wrong (rest : List Char) : String :=
    (match unit with
      | .bytes => "invalid byte/character position "
      | .fields => "invalid field value ") ++ quotedName (String.ofList rest)
  one (first? : Option Nat) (rest : List Char) : Except String (Range × List Char) :=
    match first? with
    | none | some 0 => .error unit.lowest
    | some n => .ok (⟨n, some n⟩, rest)

/-- The ranges that a list stands for, in their order. -/
def parse (unit : Unit) (isComplement : Bool) (text : String) : Except String (List Range) := do
  let ranges ← rangesOf unit (text.length + 1) [] text.toList
  let sorted := Range.merged (ranges.mergeSort fun a b => a.first ≤ b.first)
  return if isComplement then Range.complement 1 sorted else sorted

/-- The chosen parts of a line, of the fields that a range takes or of its characters. -/
def chosen (ranges : List Range) (parts : List α) : List (List α) :=
  (ranges.map fun range =>
    let rest := parts.drop (range.first - 1)
    match range.last? with
    | some last => rest.take (last + 1 - range.first)
    | none => rest).filter fun parts => !parts.isEmpty

end Cut

def cut : Program := fun _ arguments => do
  let given ← Sh.takeAll 1 ("b:,bytes c:,characters d:,delimiter f:,fields n s,only-delimited " ++
    "z,zero-terminated complement output-delimiter:") arguments
  let lists := given.options.filter fun (key, _) => key = "b" || key = "c" || key = "f"
  let delimiter? ← (given.last? "d").mapM fun text => do
    if 1 < text.length then Sh.failUsage 1 "the delimiter must be a single character"
    return text.toList.headD '\x00'
  match lists with
  | [] => Sh.failUsage 1 "you must specify a list of bytes, characters, or fields"
  | _ :: _ :: _ => Sh.failUsage 1 "only one list may be specified"
  | [(key, list?)] =>
    let unit : Cut.Unit := if key = "f" then .fields else .bytes
    if delimiter?.isSome && unit = .bytes then
      Sh.failUsage 1 "an input delimiter may be specified only when operating on fields"
    if given.has "s" && unit = .bytes then
      Sh.failUsage 1 ("suppressing non-delimited lines makes sense\n" ++
        "\tonly when operating on fields")
    match Cut.parse unit (given.has "complement") (list?.getD "") with
    | .error message => Sh.failUsage 1 message
    | .ok ranges =>
      let delimiter := delimiter?.getD '\t'
      let mark := if given.has "z" then '\x00' else '\n'
      let line (line : String) : String :=
        match unit with
        | .bytes =>
          let parts := Cut.chosen ranges line.toList
          String.intercalate ((given.last? "output-delimiter").getD "") (parts.map String.ofList)
        | .fields =>
          match piecesAt delimiter line with
          | [_] => line
          | fields =>
            String.intercalate ((given.last? "output-delimiter").getD (String.singleton delimiter))
              (Cut.chosen ranges fields).flatten
      let (contents, code) ← Sh.contentsOf given.operands
      contents.forM fun text => do
        if unit = .fields && delimiter = mark then
          let fields := linesEndedBy mark text
          let shown := if fields.length < 2 then
              if given.has "s" then none else some text
            else some (String.intercalate
              ((given.last? "output-delimiter").getD (String.singleton delimiter))
              (Cut.chosen ranges fields).flatten)
          if let some shown := shown then
            let isOpen := text.isEmpty || !endsInLine mark shown
            Sh.say (if isOpen then shown else shown.push mark)
        else
          let lines := linesEndedBy mark text
          let lines := if given.has "s" then lines.filter fun line => line.contains delimiter
            else lines
          Sh.say (String.join (lines.map fun text => (line text).push mark))
      Sh.endIfEndless (if given.operands.isEmpty then ["-"] else given.operands)
      return code

/-- The delimiters of `paste`; some are empty. -/
def delimitersOf : List Char → Option (List String)
  | [] => some []
  | ['\\'] => none
  | '\\' :: c :: rest =>
    let text := match c with
      | '0' => ""
      | 'b' => "\x08"
      | 'f' => "\x0c"
      | 'n' => "\n"
      | 'r' => "\r"
      | 't' => "\t"
      | 'v' => "\x0b"
      | c => String.singleton c
    (delimitersOf rest).map (text :: ·)
  | c :: rest => (delimitersOf rest).map (String.singleton c :: ·)

/-- Texts with delimiters between them, which are taken in turn. -/
def joinedInTurn (delimiters : Array String) (parts : List String) : String :=
  String.join (parts.zipIdx.map fun (part, index) =>
    if index = 0 then part
    else delimiters.getD ((index - 1) % delimiters.size) "" ++ part)

def pasteRows : (fuel : Nat) → (found : List (List String)) → List (List String) →
    List (List String)
  | 0, found, _ => found.reverse
  | fuel + 1, found, columns =>
    if columns.all List.isEmpty then found.reverse
    else
      pasteRows fuel (columns.map (fun column => column.headD "") :: found)
        (columns.map fun column => column.drop 1)

/-- Shows the lines of files beside each other. -/
def paste : Program := fun _ arguments => do
  let given ← Sh.takeAll 1 "d:,delimiters s,serial z,zero-terminated" arguments
  let mark := if given.has "z" then '\x00' else '\n'
  let text := (given.last? "d").getD "\t"
  let delimiters ← match delimitersOf text.toList with
    | none => Sh.fail 1 ("delimiter list ends with an unescaped backslash: " ++ text)
    | some [] => pure #[""]
    | some found => pure found.toArray
  let paths := if given.operands.isEmpty then ["-"] else given.operands
  if given.has "s" then
    let found ← paths.mapM fun path => do
      match ← Sh.contentOf? path with
      | none => return false
      | some text =>
        Sh.say ((joinedInTurn delimiters (linesEndedBy mark text)).push mark)
        return true
    return if found.all id then 0 else 1
  let inputs := paths.filter (· = "-")
  let shared ← if inputs.isEmpty then pure [] else do
    match ← Sh.contentOf? "-" with
    | some text => pure (linesEndedBy mark text)
    | none => throw (.exit 1)
  let columns ← paths.zipIdx.mapM fun (path, index) => do
    if path = "-" then
      let place := ((paths.take index).filter (· = "-")).length
      return (shared.zipIdx.filter fun (_, index) => index % inputs.length = place).map Prod.fst
    else
      match ← Sh.openInput path with
      | .error reason => Sh.fail 1 (shownName path ++ ": " ++ reason)
      | .ok _ =>
        match ← Sh.contentOf? path with
        | some text => return linesEndedBy mark text
        | none => throw (.exit 1)
  let longest := (columns.map List.length).foldl max 0
  let rows := pasteRows (longest + 1) [] columns
  Sh.say (String.join (rows.map fun row => (joinedInTurn delimiters row).push mark))
  return 0

namespace Numbering

inductive Style where
  | all
  | full
  | none
  | fitting (pattern : Regex.Expression)

structure Settings where
  header : Style
  body : Style
  footer : Style
  delimiter : String
  first : Int
  step : Int
  together : Nat
  width : Nat
  separator : String
  format : String
  restarts : Bool

/-- What is known while lines are numbered. -/
structure State where
  number : Int
  style : Style
  blank : Nat := 0
  shown : List String := []

/-- A number as it stands before a line. -/
def Settings.label (settings : Settings) (number : Int) : String :=
  match settings.format with
  | "ln" => padRight settings.width (toString number)
  | "rz" =>
    let digits := toString number.natAbs
    let sign := if number < 0 then "-" else ""
    let width := settings.width - sign.length
    sign ++ String.ofList (List.replicate (width - digits.length) '0') ++ digits
  | _ => padLeft settings.width (toString number)

def Settings.add (settings : Settings) (state : State) (line : String) : State :=
  let mark := settings.delimiter
  let begin (style : Style) : State :=
    { state with
      style
      number := if settings.restarts then settings.first else state.number
      shown := "\n" :: state.shown }
  if mark ≠ "" && line = mark ++ mark ++ mark then begin settings.header
  else if mark ≠ "" && line = mark ++ mark then begin settings.body
  else if mark ≠ "" && line = mark then begin settings.footer
  else
    let isBlank := line.isEmpty
    let blank := if isBlank then state.blank + 1 else 0
    let isCounted : Bool := match state.style with
      | .all => !isBlank || settings.together ≤ 1 || blank % settings.together = 0
      | .full => !isBlank
      | .none => false
      | .fitting pattern => pattern.fits line.toList.toArray
    let lead := if isCounted then settings.label state.number ++ settings.separator
      else blanks (settings.width + settings.separator.length)
    { state with
      blank := if isCounted then 0 else blank
      number := if isCounted then state.number + settings.step else state.number
      shown := (lead ++ line ++ "\n") :: state.shown }

end Numbering

def nl : Program := fun _ arguments => do
  let given ← Sh.takeAll 1 ("b:,body-numbering d:,section-delimiter f:,footer-numbering " ++
    "h:,header-numbering i:,line-increment l:,join-blank-lines n:,number-format " ++
    "p,no-renumber s:,number-separator v:,starting-line-number w:,number-width") arguments
  let style (what key : String) (default : Numbering.Style) : Sh Numbering.Style := do
    match given.last? key with
    | none => return default
    | some text =>
      let wrong : Sh Numbering.Style := do
        Sh.warn (s!"invalid {what} numbering style: " ++ quotedName text)
        return .none
      match text.toList with
      | ['a'] => return .all
      | ['t'] => return .full
      | ['n'] => return .none
      | 'p' :: pattern =>
        match Regex.Expression.ofText {} pattern with
        | .ok pattern => return .fitting pattern
        | .error refusal => Sh.fail 1 refusal.message
      | _ => wrong
  let number (what key : String) (default : Int) : Sh Int := do
    match given.last? key with
    | none => return default
    | some text =>
      match integerIn? 10 text with
      | some value => return value
      | none => Sh.fail 1 (s!"invalid {what}: " ++ quotedName text)
  let positive (what key : String) (default : Nat) : Sh Nat := do
    let value ← number what key default
    if value ≤ 0 then
      Sh.fail 1 (s!"invalid {what}: " ++ quotedName ((given.last? key).getD "") ++
        ": Numerical result out of range")
    return value.toNat
  let body ← style "body" "b" .full
  let header ← style "header" "h" .none
  let footer ← style "footer" "f" .none
  let isWrong (key : String) : Bool :=
    match given.last? key with
    | none => false
    | some text => !(["a", "t", "n"].contains text) && text.toList.head? ≠ some 'p'
  let format := (given.last? "n").getD "rn"
  let first ← number "starting line number" "v" 1
  let step ← number "line number increment" "i" 1
  let together ← positive "line number of blank lines" "l" 1
  let width ← positive "line number field width" "w" 6
  if !(["ln", "rn", "rz"].contains format) then
    Sh.warn ("invalid line numbering format: " ++ quotedName format)
    Sh.usage 1
  if ["b", "h", "f"].any isWrong then Sh.usage 1
  let delimiter := match given.last? "d" with
    | none => "\\:"
    | some text => if text.length = 1 then text ++ ":" else text
  let settings : Numbering.Settings := {
    header, body, footer, delimiter, first, step, together, width, format
    separator := (given.last? "s").getD "\t"
    restarts := !given.has "p" }
  let (contents, code) ← Sh.contentsOf given.operands
  let state : Numbering.State := { number := first, style := body }
  let lines := linesOf (String.join contents)
  let state := lines.foldl settings.add state
  Sh.say (String.join state.shown.reverse)
  Sh.endIfEndless (if given.operands.isEmpty then ["-"] else given.operands)
  return code

namespace Fold

def advance (bytes : Bool) (column : Nat) (c : Char) : Nat :=
  if bytes then column + 1
  else
    match c with
    | '\x08' => column - 1
    | '\r' => 0
    | '\t' => column + 8 - column % 8
    | _ => column + 1

/-- The place behind the last blank among characters, the last one of which comes first. -/
def lastBlank? (cs : List Char) : Option Nat :=
  (cs.findIdx? fun c => c = ' ' || c = '\t').map fun index => cs.length - index

/-- The rows that a text becomes; the last character of a row comes first. -/
def rows (bytes atBlanks : Bool) (width : Nat) : (fuel : Nat) → (row : List Char) →
    (column : Nat) → (found : List String) → List Char → List String
  | 0, row, _, found, _ => (String.ofList row.reverse :: found).reverse
  | _, row, _, found, [] =>
    (if row.isEmpty then found else String.ofList row.reverse :: found).reverse
  | fuel + 1, row, column, found, c :: rest =>
    if c = '\n' then
      rows bytes atBlanks width fuel [] 0 (String.ofList (c :: row).reverse :: found) rest
    else
      let next := advance bytes column c
      if next ≤ width || row.isEmpty then
        rows bytes atBlanks width fuel (c :: row) next found rest
      else
        match if atBlanks then lastBlank? row else none with
        | some place =>
          let cs := row.reverse
          let left := cs.drop place
          rows bytes atBlanks width fuel left.reverse (left.foldl (advance bytes) 0)
            (String.ofList (cs.take place ++ ['\n']) :: found) (c :: rest)
        | none =>
          rows bytes atBlanks width fuel [] 0
            (String.ofList ('\n' :: row).reverse :: found) (c :: rest)

end Fold

/-- Options in the old form, where a number behind a hyphen is the argument of one. -/
def withNumber (letter : String) (arguments : List String) : List String :=
  arguments.map fun argument =>
    match argument.toList with
    | '-' :: c :: cs =>
      if c.isDigit && cs.all fun c => c.isDigit || c = ',' then
        "-" ++ letter ++ String.ofList (c :: cs)
      else argument
    | _ => argument

def fold : Program := fun _ arguments => do
  let given ← Sh.takeAll 1 "b,bytes s,spaces w:,width" (withNumber "w" arguments)
  let width ← match given.last? "w" with
    | none => pure 80
    | some text =>
      match count? text with
      | some 0 => Sh.fail 1 ("invalid number of columns: " ++ quotedName text ++
          ": Numerical result out of range")
      | some width => pure width
      | none => Sh.fail 1 ("invalid number of columns: " ++ quotedName text)
  let (contents, code) ← Sh.contentsOf given.operands
  contents.forM fun text => do
    let rows := Fold.rows (given.has "b") (given.has "s") width (2 * text.length + 2) [] 0 []
      text.toList
    Sh.say (String.join rows)
  Sh.endIfEndless (if given.operands.isEmpty then ["-"] else given.operands)
  return code

namespace Tabs

/-- Where tabs stop: at columns, and then at the multiples of a number. -/
structure Stops where
  columns : List Nat
  /-- How far apart they are behind the columns, if they go on. -/
  every? : Option Nat

def Stops.next? (stops : Stops) (column : Nat) : Option Nat :=
  match stops.columns.find? fun stop => column < stop with
  | some stop => some stop
  | none => stops.every?.map fun every => column + every - column % every

def stopsOf (text : String) : Except String Stops := do
  let pieces := ((text.map fun c => if c = ' ' then ',' else c) |> piecesAt ',').filter
    fun piece => !piece.isEmpty
  let numbers ← pieces.mapM fun piece =>
    match count? piece with
    | some 0 => throw "tab size cannot be 0"
    | some n => pure n
    | none => throw ("tab size contains invalid character(s): " ++
        quotedName (String.ofList (piece.toList.dropWhile Char.isDigit)))
  match numbers with
  | [] => return ⟨[], some 8⟩
  | [n] => return ⟨[], some n⟩
  | _ =>
    let isAscending := (numbers.zip (numbers.drop 1)).all fun (a, b) => a < b
    if isAscending then return ⟨numbers, none⟩ else throw "tab sizes must be ascending"

/-- A text with blanks for tabs. Only those before other characters count if `onlyFirst`. -/
def expanded (stops : Stops) (onlyFirst : Bool) (text : String) : String :=
  (text.foldl (fun (shown, column, isActive) c =>
    match c with
    | '\n' => (shown.push c, 0, true)
    | '\t' =>
      if isActive then
        let next := (stops.next? column).getD (column + 1)
        (shown ++ blanks (next - column), next, true)
      else (shown.push c, column, false)
    | '\x08' => (shown.push c, column - 1, isActive && !onlyFirst)
    | ' ' => (shown.push c, column + 1, isActive)
    | c => (shown.push c, column + 1, isActive && !onlyFirst)) ("", 0, true)).fst

/-- What is known while blanks become tabs. -/
structure Run where
  shown : String := ""
  column : Nat := 0
  /-- The blanks that have not been shown yet. -/
  waiting : List Char := []
  /-- Whether a blank that waits is alone before a stop. -/
  isAlone : Bool := false
  wasBlank : Bool := false
  isActive : Bool := true

def tabFirst (cs : List Char) : List Char :=
  match cs with
  | _ :: rest => '\t' :: rest
  | [] => []

/-- Shows what waits, and a character behind it. -/
def Run.settle (run : Run) (everywhere isBlank : Bool) (c : Char) : Run :=
  let waiting := if 1 < run.waiting.length && run.isAlone then tabFirst run.waiting
    else run.waiting
  { run with
    shown := (run.shown ++ String.ofList waiting).push c
    waiting := []
    isAlone := run.isAlone && waiting.isEmpty
    wasBlank := isBlank
    isActive := run.isActive && (everywhere || isBlank) }

def Run.add (stops : Stops) (everywhere : Bool) (run : Run) (c : Char) : Run :=
  if !run.isActive then
    if c = '\n' then { shown := run.shown.push c } else { run with shown := run.shown.push c }
  else
    match c with
    | '\n' => { shown := (run.settle everywhere false c).shown }
    | '\x08' => { run with column := run.column - 1 }.settle everywhere false c
    | ' ' =>
      match stops.next? run.column with
      | none => { run with isActive := false }.settle everywhere true c
      | some next =>
        let run := { run with column := run.column + 1 }
        if run.wasBlank && run.column = next then
          let waiting := if run.isAlone then (tabFirst run.waiting).take 1 else []
          { run with waiting }.settle everywhere true '\t'
        else
          { run with
            isAlone := run.isAlone || run.column = next
            waiting := run.waiting ++ [c]
            wasBlank := true }
    | '\t' =>
      match stops.next? run.column with
      | none => { run with isActive := false }.settle everywhere true c
      | some next =>
        let waiting := if run.isAlone then (tabFirst run.waiting).take 1 else []
        { run with column := next, waiting }.settle everywhere true c
    | c => { run with column := run.column + 1 }.settle everywhere false c

def Run.finish (run : Run) : String :=
  run.shown ++ String.ofList (if 1 < run.waiting.length && run.isAlone then tabFirst run.waiting
    else run.waiting)

end Tabs

def stopsFrom (given : Given) : Sh Tabs.Stops := do
  match given.all "t" with
  | [] => return ⟨[], some 8⟩
  | lists =>
    match Tabs.stopsOf (String.intercalate "," lists) with
    | .ok stops => return stops
    | .error message => Sh.fail 1 message

def expand : Program := fun _ arguments => do
  let given ← Sh.takeAll 1 "i,initial t:,tabs" (withNumber "t" arguments)
  let stops ← stopsFrom given
  Sh.filter (Tabs.expanded stops (given.has "i")) given.operands

def unexpand : Program := fun _ arguments => do
  let given ← Sh.takeAll 1 "a,all first-only t:,tabs" (withNumber "t" arguments)
  let stops ← stopsFrom given
  let everywhere := (given.has "a" || given.has "t") && !given.has "first-only"
  Sh.filter (fun text =>
    (text.foldl (Tabs.Run.add stops everywhere) {}).finish) given.operands

end MutationTesting.Shell.Utility
