import MutationTesting.Exclusion.Patch
import MutationTesting.Exclusion.Policy
import MutationTesting.FileSystem.OnDisk
import MutationTesting.Json.Magnitude
import MutationTesting.Text.Quoted
import MutationTesting.Text.Utf8
/-! What is said of a coverage report that is wrong, and of which place in it. The report is read
from left to right, and the first thing that cannot be part of a report is named, with the line and
the column where reading it has come to. The report is taken byte by byte. -/
namespace MutationTesting.Exclusion

/-- What is wrong, and what is left of the report at the place that is named. -/
structure Misread where
  reason : String
  rest : List Char
  /-- Whether the next byte is the one that is wrong, so that the place is behind it. -/
  atNext : Bool

/-- A reading that ends at the first thing that is wrong. -/
abbrev Reading := StateT (List Char) (Except Misread)

namespace Reading

def stop (reason : String) : Reading α := do
  throw ⟨reason, ← get, false⟩

def stopAtNext (reason : String) : Reading α := do
  throw ⟨reason, ← get, true⟩

def peek? : Reading (Option Char) := do
  return (← get).head?

/-- Passes over a character. -/
def skip : Reading Unit :=
  modify List.tail

/-- Passes over a character and yields it. -/
def next? : Reading (Option Char) := do
  let next? ← peek?
  skip
  return next?

/-- Passes over blanks and yields the character behind them. -/
def afterBlanks? : Reading (Option Char) := do
  modify fun cs => cs.dropWhile Json.isBlank
  peek?

def endOfValue : String := "EOF while parsing a value"

def endOfString : String := "EOF while parsing a string"

def badNumber : String := "invalid number"

def badEscape : String := "invalid escape"

def outOfRange : String := "number out of range"

/-- Passes over the letters that are left of a word. -/
def word : List Char → Reading Unit
  | [] => return
  | c :: rest => do
    match ← next? with
    | none => stop endOfValue
    | some other => if other = c then word rest else stop "expected ident"

def code : Reading Nat := do
  match ← get with
  | a :: b :: c :: d :: rest =>
    set rest
    match Decimal.digits? 16 [a, b, c, d] with
    | some n => return n
    | none => stop badEscape
  | _ =>
    set ([] : List Char)
    stop endOfString

/-- Passes over a character that has to follow the first half of a pair of units. -/
def expectSecond (c : Char) : Reading Unit := do
  match ← peek? with
  | none => stop endOfString
  | some other =>
    skip
    if other ≠ c then stop "unexpected end of hex escape"

/-- The character of an escape with a code. -/
def unicode : Reading Char := do
  let lone := "lone leading surrogate in hex escape"
  let first ← code
  if first < 0xD800 ∨ 0xDFFF < first then return Char.ofNat first
  else if 0xDC00 ≤ first then stop lone
  else
    expectSecond '\\'
    expectSecond 'u'
    let second ← code
    if second < 0xDC00 ∨ 0xDFFF < second then stop lone
    return Char.ofNat (0x10000 + (first - 0xD800) * 0x400 + (second - 0xDC00))

/-- The characters of a string after its first quote. -/
def string (fuel : Nat) : Reading (List Char) := do
  match fuel, ← peek? with
  | 0, _ | _, none => stop endOfString
  | fuel + 1, some c =>
    skip
    if c = '"' then return []
    else if c = '\\' then
      match ← next? with
      | none => stop endOfString
      | some 'u' => return Text.narrow (String.singleton (← unicode)) ++ (← string fuel)
      | some letter =>
        match Json.escape? letter with
        | some char => return char :: (← string fuel)
        | none => stop badEscape
    else if c.toNat < 0x20 then
      stop "control character (\\u0000-\\u001F) found while parsing a string"
    else return c :: (← string fuel)

/-- Passes over digits and yields them. -/
def digits : Reading (List Char) := do
  let found := (← get).takeWhile Decimal.isDigit
  modify fun cs => cs.drop found.length
  return found

/-- Reads a point and digits, if there is a point. -/
def fraction : Reading (List Char) := do
  if (← peek?) ≠ some '.' then return []
  skip
  match ← digits with
  | [] =>
    if (← peek?).isSome then stopAtNext badNumber else stopAtNext endOfValue
  | found => return '.' :: found

/-- The largest exponent that a number may have. -/
def largestExponent : Nat := Nat.pow 2 31 - 1

/-- Reads the digits of an exponent that are left, of which `value` is what has been read. An
exponent that is too large is refused at the digit that makes it so, unless `isHarmless`: then
the number is zero. -/
def exponentDigits (isHarmless : Bool) (value : Nat) : (fuel : Nat) → Reading (List Char)
  | 0 => return []
  | fuel + 1 => do
    match ← peek? with
    | none => return []
    | some c =>
      if !Decimal.isDigit c then return []
      skip
      let value := value * 10 + (c.toNat - '0'.toNat)
      if value ≤ largestExponent then return c :: (← exponentDigits isHarmless value fuel)
      else if isHarmless then return c :: (← digits)
      else stop outOfRange

/-- Reads an exponent, if there is one, of a number with the given digits. -/
def exponent (significant : List Char) : Reading (List Char) := do
  match ← peek? with
  | some mark =>
    if mark ≠ 'e' ∧ mark ≠ 'E' then return []
    skip
    let sign ← match ← peek? with
      | some '+' => do skip; pure ['+']
      | some '-' => do skip; pure ['-']
      | _ => pure []
    match ← next? with
    | none => stop endOfValue
    | some c =>
      if !Decimal.isDigit c then stop badNumber
      let isHarmless := sign = ['-'] || significant.all fun d => d = '0' || d = '.'
      let rest ← exponentDigits isHarmless (c.toNat - '0'.toNat) (← get).length
      return mark :: sign ++ c :: rest
  | none => return []

def number : Reading (List Char) := do
  match ← next? with
  | none => stop endOfValue
  | some c =>
    if !Decimal.isDigit c then stop badNumber
    if c = '0' ∧ (← peek?).any Decimal.isDigit then stopAtNext badNumber
    let whole ← if c = '0' then pure [] else digits
    let significant := c :: whole ++ (← fraction)
    return significant ++ (← exponent significant)

/-- How a number is named. One that fits no word of sixty-four bits is one with a point. -/
def describeNumber (text : String) : Reading String := do
  let magnitude := if Text.startsWith "-" text then String.ofList (text.toList.drop 1) else text
  let isWhole := magnitude.toList.all Decimal.isDigit
  let bound := if magnitude = text then Nat.pow 2 64 else Nat.pow 2 63 + 1
  if isWhole ∧ (magnitude.toNat?.getD 0) < bound ∧ text ≠ "-0" then
    return "integer \x60" ++ text ++ "\x60"
  match (Json.number text).float? with
  | some value => return "floating point \x60" ++ Json.floatLayout.render value ++ "\x60"
  | none => stop outOfRange

/-- Stops at a value of another kind than the one that is expected. -/
def wrongKind (expected : String) : Reading α := do
  let named (kind : String) : Reading α :=
    stop ("invalid type: " ++ kind ++ ", expected " ++ expected)
  match ← peek? with
  | some 'n' => do
    skip
    word ['u', 'l', 'l']
    named "null"
  | some 't' => do
    skip
    word ['r', 'u', 'e']
    named "boolean \x60true\x60"
  | some 'f' => do
    skip
    word ['a', 'l', 's', 'e']
    named "boolean \x60false\x60"
  | some '"' => do
    skip
    let cs ← string ((← get).length + 1)
    named ("string " ++ Text.quoted (Text.widen cs))
  | some '[' => named "sequence"
  | some '\x7b' => named "map"
  | some c =>
    if c = '-' ∨ Decimal.isDigit c then do
      let sign ← if c = '-' then do skip; pure ['-'] else pure []
      named (← describeNumber (String.ofList (sign ++ (← number))))
    else stopAtNext "expected value"
  | none => stopAtNext "expected value"

def lineNumber : Reading Unit := do
  match ← afterBlanks? with
  | none => stopAtNext endOfValue
  | some c =>
    if c = '-' ∨ Decimal.isDigit c then do
      let sign ← if c = '-' then do skip; pure ['-'] else pure []
      let text := String.ofList (sign ++ (← number))
      let kind ← describeNumber text
      if Text.startsWith "floating" kind then stop ("invalid type: " ++ kind ++ ", expected usize")
      else if c = '-' then stop ("invalid value: " ++ kind ++ ", expected usize")
    else wrongKind "usize"

def lineNumbers (fuel : Nat) (isFirst : Bool) : Reading Unit := do
  match fuel with
  | 0 => return
  | fuel + 1 =>
    match ← afterBlanks? with
    | none => stopAtNext "EOF while parsing a list"
    | some ']' => skip
    | some c =>
      if !isFirst then
        if c ≠ ',' then stopAtNext "expected \x60,\x60 or \x60]\x60"
        skip
        match ← afterBlanks? with
        | some ']' => stopAtNext "trailing comma"
        | none => stopAtNext endOfValue
        | some _ => pure ()
      lineNumber
      lineNumbers fuel false

def lines : Reading Unit := do
  match ← afterBlanks? with
  | none => stopAtNext endOfValue
  | some '[' => do
    skip
    lineNumbers ((← get).length + 1) true
  | some _ => wrongKind "a sequence"

/-- Reads the name of a file and its lines. -/
def member : Reading Unit := do
  skip
  let _ ← string ((← get).length + 1)
  match ← afterBlanks? with
  | some ':' => skip
  | some _ => stopAtNext "expected \x60:\x60"
  | none => stopAtNext "EOF while parsing an object"
  lines

/-- Reads files with their lines from the next one on. -/
def members (fuel : Nat) (isFirst : Bool) : Reading Unit := do
  let keyKind := "key must be a string"
  match fuel with
  | 0 => return
  | fuel + 1 =>
    match ← afterBlanks? with
    | none => stopAtNext "EOF while parsing an object"
    | some '\x7d' => skip
    | some c =>
      if isFirst then
        if c ≠ '"' then stopAtNext keyKind
      else
        if c ≠ ',' then stopAtNext "expected \x60,\x60 or \x60\x7d\x60"
        skip
        match ← afterBlanks? with
        | some '"' => pure ()
        | some '\x7d' => stopAtNext "trailing comma"
        | some _ => stopAtNext keyKind
        | none => stopAtNext endOfValue
      member
      members fuel false

def report : Reading Unit := do
  match ← afterBlanks? with
  | none => stopAtNext endOfValue
  | some '\x7b' => do
    skip
    members ((← get).length + 1) true
    if (← afterBlanks?).isSome then stopAtNext "trailing characters"
  | some _ => wrongKind "a map"

end Reading

/-- What is wrong with a text and where: the line, and the bytes of it up to there. -/
def Misread.message (misread : Misread) (text : List Char) : String :=
  let before := text.take (text.length - misread.rest.length)
  let line := before.count '\n' + 1
  let column := (before.reverse.takeWhile (· ≠ '\n')).length
  let column := if misread.atNext ∧ misread.rest ≠ [] then column + 1 else column
  let (line, column) :=
    if misread.atNext ∧ misread.rest.head? = some '\n' then (line + 1, 0) else (line, column)
  s!"{misread.reason} at line {line} column {column}"

/-- What is said of a report that is wrong. -/
def misreadMessage (report : String) : String :=
  let bytes := Text.narrow report
  match Reading.report bytes with
  | .error misread => misread.message bytes
  | .ok _ => "invalid coverage report"

end MutationTesting.Exclusion

/-! Lines of interest that files list. -/
namespace MutationTesting.CoveredLines

/-- The text of a file that an option names. -/
def readInput (workspace : Workspace) (option : String) (path : Path) : Except Error String :=
  if workspace.has path then (workspace.readText path).mapError Error.fault
  else .error (.missingInput option path)

/-- The lines that the patch in a file adds. -/
def readPatch (workspace : Workspace) (path : Path) : Except Error CoveredLines :=
  (readInput workspace "--use-patch-file" path).map ofPatch

/-- The lines that the coverage report in a file lists. -/
def readCoverage (workspace : Workspace) (path : Path) : Except Error CoveredLines := do
  let report ← readInput workspace "--use-coverage" path
  match ofCoverage? report with
  | some covered => return covered
  | none => throw (.json (Exclusion.misreadMessage report))

end MutationTesting.CoveredLines
