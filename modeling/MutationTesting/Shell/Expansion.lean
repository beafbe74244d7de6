import MutationTesting.Shell.Arithmetic
import MutationTesting.Shell.Variable
/-! From words to texts: the values of parameters, the output of commands and the values of
expressions are put in, and the result is split into fields. `output` runs a script and yields what
it writes. `fuel` bounds how many parts a word has and how deep they lie in each other. -/
namespace MutationTesting.Shell

/-- How the parts of a word are taken. -/
structure Manner where
  /-- Whether the result is split into fields. -/
  splits : Bool := false
  /-- Whether a tilde at the start stands for a directory. -/
  tilde : Bool := false
  /-- Whether one does behind an assignment sign, too, and from then on behind a colon. -/
  assigns : Bool := false
  isAssigned : Bool := false
  /-- Whether the word is what stands behind the name of a parameter. -/
  inOperand : Bool := false
  isQuoted : Bool := false

def homes : List (String × String) :=
  [("root", "/root"), ("daemon", "/usr/sbin"), ("bin", "/bin"), ("sys", "/dev"),
    ("sync", "/bin"), ("games", "/usr/games"), ("man", "/var/cache/man"), ("lp", "/var/spool/lpd"),
    ("mail", "/var/mail"), ("news", "/var/spool/news"), ("uucp", "/var/spool/uucp"),
    ("proxy", "/bin"), ("www-data", "/var/www"), ("backup", "/var/backups"),
    ("list", "/var/list"), ("irc", "/run/ircd"), ("nobody", "/nonexistent")]

/-- The options of the shell by their letters, in the order in which they are shown as a value. -/
def flagOrder : List Char :=
  "ubaCEVvxsnmiIfe".toList

def valueCells (isQuoted : Bool) (text : String) : List Cell :=
  text.toList.map fun c => .char c (isQuoted && (hasMeaning c || c == '\\'))
where
  hasMeaning (c : Char) : Bool := "!*?[=~:/-]".toList.contains c

/-- The characters of the cells up to the end of the argument that they start in. -/
def Cell.argument (cells : List Cell) : List Char :=
  (cells.takeWhile (· ≠ .gap)).filterMap fun
    | .char c _ => some c
    | _ => none

/-- What is left of cells when the part at their start that fits a pattern is left out, the shortest
one or the longest one. It lies in the first argument; only where the whole of that one is what is
left out, as the longest one, the arguments behind it go with it. -/
def Cell.withoutStart (longest : Bool) (pattern : List Char) (cells : List Cell) : List Cell :=
  let first := argument cells
  if longest && Pattern.fits pattern first then []
  else cells.drop (first.length - (Pattern.withoutStart longest pattern first).length)

/-- The same at the end of cells. The longest part starts in the first argument, the shortest one in
the last argument whose end fits, and what follows that argument goes with it. -/
def Cell.withoutEnd (longest : Bool) (pattern : List Char) (cells : List Cell) : List Cell :=
  let starts :=
    if longest then List.range ((argument cells).length + 1)
    else (List.range (cells.length + 1)).reverse
  match starts.find? fun n => Pattern.fits pattern (argument (cells.drop n)) with
  | some n => cells.take n
  | none => cells

namespace Sh

def joinCells (isQuoted : Bool) (separator? : Option Cell) : List String → List Cell
  | [] => []
  | [text] => valueCells isQuoted text
  | text :: rest =>
    valueCells isQuoted text ++ separator?.toList ++ joinCells isQuoted separator? rest

def allArguments (splits isQuoted isEach : Bool) : Sh (List Cell) := do
  let arguments := (← process).arguments
  if isEach && isQuoted && splits then return joinCells true (some .gap) arguments
  let ifs? ← valueOf? "IFS"
  let separator? : Option Cell := match ifs? with
    | none => some (.char ' ' false)
    | some ifs =>
      if splits && !isQuoted then some .gap
      else ifs.toList.head?.map fun c => .char c (isQuoted && valueCells.hasMeaning c)
  return joinCells isQuoted separator? arguments

def parameterCells? (splits isQuoted : Bool) (name : String) : Sh (Option (List Cell)) := do
  let process ← process
  let plain (text : String) : Option (List Cell) := some (valueCells isQuoted text)
  match name with
  | "$" => return plain (toString process.root)
  | "?" => return plain (toString process.status)
  | "#" => return plain (toString process.arguments.length)
  | "!" => return process.latest?.bind fun number => plain (toString number)
  | "-" => return plain (String.ofList (flagOrder.filter process.flags.contains))
  | "@" => return some (← allArguments splits isQuoted true)
  | "*" => return some (← allArguments splits isQuoted false)
  | _ =>
    match Signal.decimal? name with
    | some 0 => return plain process.name
    | some number => return process.arguments[number - 1]?.bind plain
    | none => return ((process.bindings.lookup name).bind Variable.value?).bind plain

/-- The directory that a tilde at the start of pieces stands for, and what follows its name. -/
def tilde? (manner : Manner) (pieces : List Piece) : Sh (Option (String × List Piece)) := do
  let ends (c : Char) : Bool := c = '/' || (c = ':' && manner.assigns)
  match pieces with
  | .char '~' false :: rest =>
    let name := rest.takeWhile fun
      | .char c false => !ends c
      | _ => false
    let rest := rest.drop name.length
    let isWhole := match rest with
      | [] | .char _ false :: _ => true
      | _ => false
    if !isWhole then return none
    let home? ← match Word.text name with
      | "" => valueOf? "HOME"
      | user => pure (homes.lookup user)
    return home?.map fun home => (home, rest)
  | _ => return none

/-- Says that a parameter has no value. -/
def refuseMissing (name message : String) : Sh α :=
  refuse (name ++ ": " ++ message)

/-- The number that an expression has, after what it assigns has been assigned. -/
def arithmetic (expression : String) : Sh Int := do
  let process ← process
  let lookup (name : String) : String :=
    ((process.bindings.lookup name).bind Variable.value?).getD ""
  match Arithmetic.evaluate lookup expression with
  | .ok (value, assigned) =>
    assigned.reverse.forM fun (name, value) => setVariable name (toString value)
    return value
  | .error (.wrong reason) =>
    refuse ("arithmetic expression: " ++ reason ++ ": \"" ++ expression ++ "\"")
  | .error (.notANumber text) => refuse ("Illegal number: " ++ text)
  | .error .overflow => throw (.killed process.number 8)

mutual

/-- The parts that pieces become. `found` lists those of the pieces before them, the last one
first. -/
def spansOf (output : Script → Sh String) (fuel : Nat) (manner : Manner) (inQuotes : Bool)
    (pieces : List Piece) (found : List Span) : Sh (List Span) := do
  match fuel with
  | 0 => throw .stop
  | fuel + 1 =>
    let isQuoted := manner.isQuoted || inQuotes
    if manner.tilde then
      let manner := { manner with tilde := false }
      match ← tilde? manner pieces with
      | some (home, rest) =>
        spansOf output fuel manner inQuotes rest (⟨.whole, valueCells true home⟩ :: found)
      | none => spansOf output fuel manner inQuotes pieces found
    else
      match pieces with
      | [] => return found.reverse
      | .mark :: .parameter "@" .plain false [] :: .mark :: rest =>
        if inQuotes then
          spansOf output fuel manner false (pieces.drop 1) (⟨.whole, [.mark]⟩ :: found)
        else
          let spans ←
            parameterSpans output fuel { manner with isQuoted := true } "@" .plain false []
          spansOf output fuel manner false rest (spans.reverse ++ found)
      | .mark :: rest =>
        spansOf output fuel manner (!inQuotes) rest (⟨.whole, [.mark]⟩ :: found)
      | .char c true :: rest =>
        spansOf output fuel manner inQuotes rest (⟨.whole, [.char c true]⟩ :: found)
      | .char c false :: rest =>
        let stops : Char → Bool := fun c =>
          manner.assigns && (c = ':' || (c = '=' && !manner.isAssigned))
        let isPlain : Piece → Bool := fun
          | .char c false => !stops c
          | _ => false
        let run := if stops c then [] else rest.takeWhile isPlain
        let cells := Cell.char c false :: run.filterMap fun
          | .char c _ => some (.char c false)
          | _ => none
        let rest := rest.drop run.length
        let splitting := if manner.inOperand && !isQuoted then .separators else .whole
        let manner :=
          if stops c then { manner with tilde := true, isAssigned := true } else manner
        spansOf output fuel manner inQuotes rest (⟨splitting, cells⟩ :: found)
      | .parameter name adjustment checksEmpty operand :: rest =>
        let spans ←
          parameterSpans output fuel { manner with isQuoted } name adjustment checksEmpty operand
        spansOf output fuel manner inQuotes rest (spans.reverse ++ found)
      | .output script :: rest =>
        let cells := valueCells isQuoted (← output script)
        let splitting := if isQuoted then .whole else .separators
        spansOf output fuel manner inQuotes rest (⟨splitting, cells⟩ :: found)
      | .value expression :: rest =>
        let spans ← spansOf output fuel {} false expression []
        let value ← arithmetic (Cell.text (spans.flatMap Span.cells))
        let cells := valueCells isQuoted (toString value)
        let splitting := if isQuoted then .whole else .separators
        spansOf output fuel manner inQuotes rest (⟨splitting, cells⟩ :: found)

def parameterSpans (output : Script → Sh String) (fuel : Nat) (manner : Manner) (name : String)
    (adjustment : Adjustment) (checksEmpty : Bool) (operand : List Piece) : Sh (List Span) := do
  match fuel with
  | 0 => throw .stop
  | fuel + 1 =>
    if adjustment = .unknown then refuse "Bad substitution"
    let cells? ← parameterCells? manner.splits manner.isQuoted name
    let cells? := cells?.filter fun cells => !(checksEmpty && cells.isEmpty)
    let process ← process
    let splitting : Splitting :=
      if !manner.isQuoted then .separators
      else if name = "@" && !process.arguments.isEmpty then .gaps
      else .whole
    let checkUnset : Sh Unit := do
      if cells?.isNone && process.flags.contains 'u' then
        refuseMissing name "parameter not set"
    let operandManner := { manner with tilde := true, inOperand := true }
    let operandText : Sh String := do
      let spans ← spansOf output fuel { tilde := true } false operand []
      return Cell.text (spans.flatMap Span.cells)
    match adjustment with
    | .plain | .unknown =>
      checkUnset
      return [⟨splitting, cells?.getD []⟩]
    | .orElse =>
      match cells? with
      | some cells => return [⟨splitting, cells⟩]
      | none => spansOf output fuel operandManner false operand []
    | .ifThere =>
      match cells? with
      | some _ => spansOf output fuel operandManner false operand []
      | none => return [⟨splitting, []⟩]
    | .orAssign =>
      match cells? with
      | some cells => return [⟨splitting, cells⟩]
      | none =>
        let value ← operandText
        if !isName name then refuse (name ++ ": bad variable name")
        setVariable name value
        return [⟨splitting, valueCells manner.isQuoted value⟩]
    | .orFail =>
      match cells? with
      | some cells => return [⟨splitting, cells⟩]
      | none =>
        let message ← operandText
        if !operand.isEmpty then refuseMissing name message
        refuseMissing name ("parameter not set" ++ if checksEmpty then " or null" else "")
    | .length =>
      checkUnset
      let length := (cells?.getD []).length
      return [⟨if manner.isQuoted then .whole else .separators, valueCells false (toString length)⟩]
    | .withoutStart longest =>
      checkUnset
      let pattern ← patternCells output fuel operand
      return [⟨splitting, Cell.withoutStart longest pattern (cells?.getD [])⟩]
    | .withoutEnd longest =>
      checkUnset
      let pattern ← patternCells output fuel operand
      return [⟨splitting, Cell.withoutEnd longest pattern (cells?.getD [])⟩]

def patternCells (output : Script → Sh String) (fuel : Nat) (pieces : List Piece) :
    Sh (List Char) := do
  match fuel with
  | 0 => throw .stop
  | fuel + 1 =>
    let spans ← spansOf output fuel { tilde := true } false pieces []
    return Cell.pattern false false (spans.flatMap Span.cells)

end

def partLimit : Nat := 1000000000

def argumentsOf (output : Script → Sh String) (word : Word) : Sh (List String) := do
  let spans ← spansOf output partLimit { splits := true, tilde := true } false word []
  let fields := splitFields (← separators) none spans
  if ← hasFlag 'f' then return fields.map Cell.text
  let workspace ← workspace
  return fields.flatMap (argumentsOfField workspace)

def textOf (output : Script → Sh String) (manner : Manner) (word : Word) : Sh String := do
  return Cell.text ((← spansOf output partLimit manner false word []).flatMap Span.cells)

def patternOf (output : Script → Sh String) (word : Word) : Sh (List Char) :=
  patternCells output partLimit word

end Sh

end MutationTesting.Shell
