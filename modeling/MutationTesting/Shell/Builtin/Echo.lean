import MutationTesting.Shell.Number
import MutationTesting.Shell.Variable
/-! The commands of the shell that write their arguments. -/
namespace MutationTesting.Shell

/-- The character that a letter behind a backslash stands for. -/
def control? (c : Char) : Option Char :=
  match c with
  | 'a' => some '\x07'
  | 'b' => some '\x08'
  | 'e' => some '\x1b'
  | 'f' => some '\x0c'
  | 'n' => some '\n'
  | 'r' => some '\r'
  | 't' => some '\t'
  | 'v' => some '\x0b'
  | '\\' => some '\\'
  | _ => none

def isOctalDigit (c : Char) : Bool :=
  '0' ≤ c && c ≤ '7'

def octalByte (digits : List Char) : Char :=
  Char.ofNat (digits.foldl (fun value c => value * 8 + (c.toNat - '0'.toNat)) 0 % 256)

/-- What follows a backslash: the character that it stands for, and what follows that. -/
def escapeAt (cs : List Char) : Char × List Char :=
  match cs with
  | c :: rest =>
    match control? c with
    | some control => (control, rest)
    | none =>
      let digits := (cs.take 3).takeWhile isOctalDigit
      if digits.isEmpty then ('\\', cs) else (octalByte digits, cs.drop digits.length)
  | [] => ('\\', [])

/-- A text in which backslashes count, behind what has been read, the last character first, and
whether it says that nothing may follow. -/
def unescaped : (fuel : Nat) → (found cs : List Char) → List Char × Bool
  | 0, found, _ => (found.reverse, false)
  | _, found, [] => (found.reverse, false)
  | fuel + 1, found, '\\' :: rest =>
    match rest with
    | 'c' :: _ => (found.reverse, true)
    | '0' :: digits =>
      let digits := (digits.take 3).takeWhile isOctalDigit
      unescaped fuel (octalByte digits :: found) (rest.drop (digits.length + 1))
    | _ =>
      let (c, rest) := escapeAt rest
      unescaped fuel (c :: found) rest
  | fuel + 1, found, c :: rest => unescaped fuel (c :: found) rest

/-- A text in which backslashes count, and whether it says that nothing may follow. -/
def unescapedText (text : String) : List Char × Bool :=
  unescaped (text.length + 1) [] text.toList

/-- Writes its arguments with blanks between them. -/
def echo (arguments : List String) : Sh Nat := do
  let (arguments, ending) := match arguments with
    | "-n" :: rest => (rest, "")
    | arguments => (arguments, "\n")
  let (text, isLast) := unescapedText (String.intercalate " " arguments)
  Sh.say (String.ofList text ++ if isLast then "" else ending)
  return 0

/-- What `printf` has to lay out: the arguments that are left, whether one has been taken, and
whether something is wrong with one of them. -/
structure Printing where
  arguments : List String
  isUsed : Bool := false
  hasFault : Bool := false

abbrev Printer := StateT Printing Sh

namespace Printer

def next? : Printer (Option String) := do
  let state ← get
  match state.arguments with
  | [] => return none
  | argument :: rest =>
    set { state with arguments := rest, isUsed := true }
    return some argument

/-- Says what is wrong with an argument. -/
def warn (message : String) : Printer Unit := do
  StateT.lift (Sh.complain message)
  modify fun state => { state with hasFault := true }

/-- Says that what follows a number in an argument is none. -/
def checkEnd (argument : String) (isNumber : Bool) (rest : List Char) (isInRange : Bool) :
    Printer Unit := do
  if !rest.isEmpty then
    warn (argument ++ if isNumber then ": not completely converted" else
      ": expected numeric value")
  else if !isInRange then warn (argument ++ ": Numerical result out of range")

/-- The code of the character behind a quote. -/
def codeOf? (argument : String) : Option Nat :=
  match argument.toList with
  | '\'' :: rest | '"' :: rest => some ((rest.head?.map Char.toNat).getD 0)
  | _ => none

def integer (isSigned : Bool) : Printer Int := do
  match ← next? with
  | none => return 0
  | some argument =>
    if let some code := codeOf? argument then return code
    match integerAt? 0 argument.toList with
    | none =>
      checkEnd argument false argument.toList true
      return 0
    | some (value, rest) =>
      if isSigned then
        checkEnd argument true rest (saturated value = value)
        return saturated value
      else
        let isInRange := value.natAbs < Nat.pow 2 64
        checkEnd argument true rest isInRange
        return if isInRange then value % Nat.pow 2 64 else Nat.pow 2 64 - 1

/-- The next argument as a number with a fraction. -/
def real : Printer Real := do
  match ← next? with
  | none => return .zero
  | some argument =>
    if let some code := codeOf? argument then return .ofFraction .double false code 1
    match Real.at? .double argument.toList with
    | none =>
      checkEnd argument false argument.toList true
      return .zero
    | some (value, rest) =>
      let isInRange := match value with
        | .infinite _ => Real.startsWithWord "inf" (argument.toList.dropWhile fun c => !c.isAlpha)
        | _ => true
      checkEnd argument true rest isInRange
      return value

/-- The number that a width or a precision is. -/
def measure : Option Measure → Printer (Option Int)
  | none => return none
  | some (.fixed value) => return some value
  | some .argument => do return some (← integer true)

/-- Lays out the next argument. Yields whether nothing may follow. -/
def conversion (directive : Directive) (letter : Char) (shown : List Char) :
    Printer (List Char × Bool) := do
  let width? ← measure directive.width?
  let precision? ← measure directive.precision?
  let layout : Layout := { flags := directive.flags }
  let layout := layout.withWidth (width?.getD 0)
  let layout := { layout with
    precision? := precision?.bind fun precision =>
      if precision < 0 then none else some precision.toNat }
  match letter with
  | 'b' =>
    let (text, isLast) := unescapedText ((← next?).getD "")
    return (layout.text text, isLast)
  | 'c' =>
    let c := ((← next?).bind fun argument => argument.toList.head?).getD '\x00'
    return (layout.pad [c], false)
  | 's' => return (layout.text ((← next?).getD "").toList, false)
  | 'd' | 'i' => return (layout.signed (← integer true), false)
  | 'o' | 'u' | 'x' | 'X' => return (layout.unsigned letter (← integer false).toNat, false)
  | 'a' | 'A' | 'e' | 'E' | 'f' | 'F' | 'g' | 'G' => return (layout.real letter (← real), false)
  | _ => StateT.lift (Sh.refuse (String.ofList shown ++ ": invalid directive"))

/-- Lays out arguments after a format once. Yields whether nothing may follow. -/
def format : (fuel : Nat) → List Char → Printer Bool
  | 0, _ | _, [] => return false
  | fuel + 1, '\\' :: rest => do
    let (c, rest) := escapeAt rest
    StateT.lift (Sh.say (String.singleton c))
    format fuel rest
  | fuel + 1, '%' :: '%' :: rest => do
    StateT.lift (Sh.say "%")
    format fuel rest
  | fuel + 1, '%' :: rest => do
    match directiveAt rest with
    | (_, []) => StateT.lift (Sh.refuse "missing format character")
    | (directive, letter :: after) =>
      let shown := '%' :: rest.take (rest.length - after.length)
      let (text, isLast) ← conversion directive letter shown
      StateT.lift (Sh.say (String.ofList text))
      if isLast then return true else format fuel after
  | fuel + 1, c :: rest => do
    let plain := rest.takeWhile fun c => c ≠ '%' && c ≠ '\\'
    StateT.lift (Sh.say (String.ofList (c :: plain)))
    format fuel (rest.drop plain.length)

/-- Lays out arguments after a format until none is left. -/
def rounds (cs : List Char) : (count : Nat) → Printer Unit
  | 0 => return
  | count + 1 => do
    modify fun state => { state with isUsed := false }
    let isLast ← format (cs.length + 1) cs
    let state ← get
    if !isLast && state.isUsed && !state.arguments.isEmpty then rounds cs count

end Printer

/-- Lays out its arguments after a format. -/
def printf (arguments : List String) : Sh Nat := do
  match arguments with
  | [] => Sh.refuse "usage: printf format [arg ...]"
  | format :: arguments =>
    let ((), state) ← Printer.rounds format.toList (arguments.length + 1) { arguments }
    return if state.hasFault then 1 else 0

end MutationTesting.Shell
