import MutationTesting.Regex.Reader
import MutationTesting.Shell.Number
import MutationTesting.Shell.Utility.Basic
/-! Programs that compute values: sequences of numbers, expressions and factors. -/
namespace MutationTesting.Shell.Utility

/-- A number with a fixed number of digits behind its point, or one without bounds. -/
inductive Quantity where
  /-- An integer over a power of ten. -/
  | exact (value : Int) (places : Nat)
  | endless (isNegative : Bool)
  deriving Repr, DecidableEq

/-- A number of a sequence as it was written. -/
structure Written where
  value : Quantity
  /-- How many digits are behind its point, if it is written in decimal digits. -/
  places? : Option Nat
  width : Nat

namespace Written

def ofText? (text : String) : Option Written := do
  let cs := text.toList.dropWhile Pattern.isSpace
  let (isNegative, unsigned) := match cs with
    | '-' :: rest => (true, rest)
    | '+' :: rest => (false, rest)
    | rest => (false, rest)
  let sign : Int := if isNegative then -1 else 1
  let whole := unsigned.takeWhile Char.isDigit
  let behind := unsigned.drop whole.length
  let hasPoint := behind.head? = some '.'
  let part := if hasPoint then (behind.drop 1).takeWhile Char.isDigit else []
  let rest := behind.drop (if hasPoint then part.length + 1 else 0)
  let (exponent, rest) := Real.exponentAt 'e' 'E' rest
  if (!whole.isEmpty || !part.isEmpty) && rest.isEmpty then
    let digits := numberOfDigits (whole ++ part)
    let shift := exponent - part.length
    let (value, places) :=
      if 0 ≤ shift then (digits * Nat.pow 10 (min shift.toNat 5000), 0)
      else (digits, min (-shift).toNat 5000)
    let base := cs.takeWhile fun c => c ≠ 'e' && c ≠ 'E'
    let hasExponent := base.length < cs.length
    let known := if hasPoint then part.length else 0
    let pointWidth : Int :=
      if !hasPoint then 0 else if part.isEmpty then -1 else if whole.isEmpty then 1 else 0
    let width : Int := base.length + pointWidth
    let (places', width) : Nat × Int :=
      if !hasExponent then (known, width)
      else if exponent < 0 then
        let extra : Int := if hasPoint then if part.isEmpty then 1 else 0 else 1
        (known + exponent.natAbs, width + extra + exponent.natAbs)
      else
        let left := known - min known exponent.toNat
        let dropped : Int := if hasPoint && left = 0 && 0 < part.length then 1 else 0
        (left, width - dropped + (exponent.toNat - min part.length exponent.toNat))
    return ⟨.exact (sign * value) places, some places', width.toNat⟩
  else
    let (real, rest) ← Real.at? .extended text.toList
    if !rest.isEmpty then none
    else match real with
      | .infinite isNegative => some ⟨.endless isNegative, none, text.length⟩
      | .nothing _ => none
      | .finite isNegative mantissa exponent =>
        let (numerator, denominator) := Real.fraction mantissa exponent
        let places := Nat.log2 denominator
        let value : Int := numerator * Nat.pow 5 places
        some ⟨.exact (if isNegative then -value else value) places, none, text.length⟩

/-- The value of a number with so many digits behind its point. -/
def scaledTo (places : Nat) (number : Written) : Int :=
  match number.value with
  | .exact value own => value * Nat.pow 10 (places - own)
  | .endless _ => 0

def ownPlaces (number : Written) : Nat :=
  match number.value with
  | .exact _ places => places
  | .endless _ => 0

end Written

/-- An integer over a power of ten with so many digits behind its point. -/
def fixedText (places shown : Nat) (value : Int) : String :=
  let magnitude :=
    if places ≤ shown then value.natAbs * Nat.pow 10 (shown - places)
    else nearestQuotient value.natAbs (Nat.pow 10 (places - shown))
  let text := String.ofList (Real.pointed shown false magnitude)
  if value < 0 then "-" ++ text else text

/-- Puts zeros behind the sign of a number up to a width. -/
def zeroPadded (width : Nat) (text : String) : String :=
  let (sign, digits) := match text.toList with
    | '-' :: rest => ("-", rest)
    | cs => ("", cs)
  sign ++ String.ofList (List.replicate (width - text.length) '0' ++ digits)

/-- The longest sequence that is not taken for one without end. -/
def longestSequence : Nat := 2000000

/-- The numbers from one on, by steps, up to another one. `more` tells whether they go on. -/
def sequenceFrom (step : Int) (reaches : Int → Bool) : (count : Nat) → (value : Int) →
    (found : List Int) → List Int
  | 0, _, found => found.reverse
  | count + 1, value, found =>
    if reaches value then sequenceFrom step reaches count (value + step) (value :: found)
    else found.reverse

/-- How the numbers of a sequence are shown: a text before, a layout with its letter, and a text
behind. -/
structure NumberFormat where
  before : String
  layout : Layout
  letter : Char
  behind : String

def numberFormat (text : String) : Sh NumberFormat := do
  let shown := quotedName text
  let rec plain (found : List Char) : List Char → List Char × List Char
    | '%' :: '%' :: rest => plain ('%' :: found) rest
    | '%' :: rest => (found.reverse, '%' :: rest)
    | c :: rest => plain (c :: found) rest
    | [] => (found.reverse, [])
  match plain [] text.toList with
  | (_, []) => Sh.fail 1 s!"format {shown} has no % directive"
  | (before, _ :: rest) =>
    let (directive, rest) := directiveAt rest
    let rest := match rest with
      | 'L' :: rest => rest
      | rest => rest
    match rest with
    | [] => Sh.fail 1 s!"format {shown} ends in %"
    | letter :: rest =>
      if !"efgaEFGA".toList.contains letter then
        Sh.fail 1 (s!"format {shown} has unknown %" ++ String.singleton letter ++ " directive")
      match plain [] rest with
      | (_, _ :: _) => Sh.fail 1 s!"format {shown} has too many % directives"
      | (behind, []) =>
        let measure : Option Measure → Option Nat
          | some (.fixed n) => some n
          | _ => none
        let layout : Layout := {
          flags := directive.flags
          width := (measure directive.width?).getD 0
          precision? := measure directive.precision? }
        return ⟨String.ofList before, layout, letter, String.ofList behind⟩

def NumberFormat.shown (format : NumberFormat) (places : Nat) (value : Int) : String :=
  let real := Real.ofFraction .extended (value < 0) value.natAbs (Nat.pow 10 places)
  format.before ++ String.ofList (format.layout.real format.letter real) ++ format.behind

def seq : Program := fun _ arguments => do
  let isNumber (text : String) : Bool := match text.toList with
    | '-' :: c :: _ => c.isDigit || c = '.'
    | _ => false
  let options := arguments.takeWhile fun text =>
    !isNumber text && (text.startsWith "-" || text = "-")
  -- A number behind an option that needs an argument is that argument.
  let takesNext := options.getLast?.any fun text => text = "-s" || text = "-f"
  let head := if takesNext then arguments.take (options.length + 1) else options
  let rest := arguments.drop head.length
  let (given, operands) ← do
    if rest.head?.any isNumber then
      pure (← Sh.takeFirst 1 "f:,format s:,separator w,equal-width" head, rest)
    else
      let given ← Sh.takeFirst 1 "f:,format s:,separator w,equal-width" arguments
      pure (given, given.operands)
  if operands.isEmpty then Sh.failMissing 1
  if 3 < operands.length then Sh.failExtra 1 (operands.getD 3 "")
  let format? ← match given.last? "f" with
    | some text => do pure (some (← numberFormat text))
    | none => pure none
  if format?.isSome && given.has "w" then
    Sh.failUsage 1 "format string may not be specified when printing equal width strings"
  let numbers ← operands.mapM fun text => do
    match Written.ofText? text with
    | some number => return number
    | none =>
      let isNothing := match Real.at? .extended text.toList with
        | some (.nothing _, []) => true
        | _ => false
      if isNothing then
        Sh.failUsage 1 ("invalid 'not-a-number' argument: " ++ quotedName text)
      Sh.failUsage 1 ("invalid floating point argument: " ++ quotedName text)
  let one : Written := ⟨.exact 1 0, some 0, 1⟩
  let (first, step, last) := match numbers with
    | [last] => (one, one, last)
    | [first, last] => (first, one, last)
    | [first, step, last] => (first, step, last)
    | _ => (one, one, one)
  if numbers.length = 3 && step.scaledTo step.ownPlaces = 0 &&
      (match step.value with | .exact _ _ => true | .endless _ => false) then
    Sh.failUsage 1 ("invalid Zero increment value: " ++ quotedName (operands.getD 1 ""))
  let places := max first.ownPlaces (max step.ownPlaces last.ownPlaces)
  let stepValue := step.scaledTo places
  let lastValue := last.scaledTo places
  let isDown := stepValue < 0
  let reaches (value : Int) : Bool := match last.value with
    | .endless isNegative => isNegative = isDown
    | .exact _ _ => if isDown then lastValue ≤ value else value ≤ lastValue
  let values := sequenceFrom stepValue reaches longestSequence (first.scaledTo places) []
  let show_ (value : Int) : String :=
    match format?, first.places?, step.places?, last.places? with
    | some format, _, _, _ => format.shown places value
    | none, some a, some b, last? =>
      let shown := max a b
      let text := fixedText places shown value
      match given.has "w", last? with
      | true, some c =>
        let point (own : Nat) : Nat := if own = 0 && 0 < shown then 1 else 0
        let firstWidth := first.width + (shown - a) + point a
        let lastWidth := last.width + shown - c + point c -
          (if 0 < c && shown = 0 then 1 else 0)
        zeroPadded (max firstWidth lastWidth) text
      | _, some _ => text
      | _, none =>
        match last.value with
        | .endless _ => text
        | _ => (NumberFormat.mk "" {} 'g' "").shown places value
    | none, _, _, _ => (NumberFormat.mk "" {} 'g' "").shown places value
  let separator := (given.last? "s").getD "\n"
  if values.isEmpty then return 0
  Sh.say (String.intercalate separator (values.map show_) ++ "\n")
  if values.length = longestSequence then
    let _ ← Sh.flush
    match ← Sh.opened? 1 with
    | some (_, { target := .pipe place, .. }) => Sh.endWriter place
    | _ => throw .stop
  return 0

namespace Expr

inductive Fault where
  /-- It is not written as it should be. -/
  | shape (message : String)
  | value (message : String)

/-- Reading of an expression from its words; `before` is the last word that has been taken. -/
structure Words where
  before : String
  rest : List String

abbrev Reader := ExceptT Fault (StateM Words)

def bad (message : String) : Reader α :=
  throw (.shape ("syntax error: " ++ message))

def take (word : String) : Reader Bool := do
  let words ← get
  match words.rest with
  | first :: rest =>
    if first = word then
      set (⟨first, rest⟩ : Words)
      return true
    return false
  | [] => return false

/-- Takes the first one of some words that comes next. -/
def takeOne (choices : List String) : Reader (Option String) := do
  let words ← get
  match words.rest with
  | first :: rest =>
    if choices.contains first then
      set (⟨first, rest⟩ : Words)
      return some first
    return none
  | [] => return none

/-- Takes a word; there must be one. -/
def word : Reader String := do
  let words ← get
  match words.rest with
  | first :: rest =>
    set (⟨first, rest⟩ : Words)
    return first
  | [] => bad ("missing argument after " ++ quotedName words.before)

def integer? (text : String) : Option Int :=
  match text.toList with
  | '-' :: digits =>
    if !digits.isEmpty && digits.all Char.isDigit then some (-(numberOfDigits digits : Int))
    else none
  | digits =>
    if !digits.isEmpty && digits.all Char.isDigit then some (numberOfDigits digits) else none

def integer (text : String) : Reader Int :=
  match integer? text with
  | some n => return n
  | none => throw (.value "non-integer argument")

def isNothing (text : String) : Bool :=
  match text.toList with
  | [] => true
  | '-' :: rest => !rest.isEmpty && rest.all (· = '0')
  | cs => cs.all (· = '0')

/-- The part of a text that fits an expression at its start, or its length. -/
def matchStart (text pattern : String) : Reader String := do
  match Regex.Expression.ofText {} pattern.toList with
  | .error refusal => throw (.value refusal.message)
  | .ok expression =>
    match expression.matchAt? text.toList.toArray 0 with
    | none => return if expression.groups = 0 then "0" else ""
    | some found =>
      if expression.groups = 0 then return toString found.length
      else return String.ofList (found.part text.toList.toArray 1)

/-- The order of two texts, as numbers if they are such. -/
def order (a b : String) : Ordering :=
  match integer? a, integer? b with
  | some m, some n => compare m n
  | _, _ => compare a b

def holds (operator : String) (order : Ordering) : Bool :=
  match operator with
  | "<" => order = .lt
  | "<=" => order ≠ .gt
  | "=" | "==" => order = .eq
  | "!=" => order ≠ .eq
  | ">=" => order ≠ .lt
  | _ => order = .gt

/-- The operators with two operands, those that bind least first. -/
def levels : List (List String) :=
  [["|"], ["&"], ["<=", "<", "==", "=", "!=", ">=", ">"], ["+", "-"], ["*", "/", "%"], [":"]]

/-- What an operator makes of its operands. Unless `counts` the value does not matter. -/
def combine (operator : String) (counts : Bool) (a b : String) : Reader String := do
  match operator with
  | "|" => return if isNothing a then (if isNothing b then "0" else b) else a
  | "&" => return if isNothing a || isNothing b then "0" else a
  | ":" => if counts then matchStart a b else return ""
  | "+" | "-" | "*" | "/" | "%" =>
    if !counts then return ""
    let m ← integer a
    let n ← integer b
    match operator with
    | "+" => return toString (m + n)
    | "-" => return toString (m - n)
    | "*" => return toString (m * n)
    | _ =>
      if n = 0 then throw (.value "division by zero")
      return toString (if operator = "/" then m.tdiv n else m.tmod n)
  | _ => return if holds operator (order a b) then "1" else "0"

mutual

def levelAt (counts : Bool) : (fuel : Nat) → List (List String) → Reader String
  | 0, _ => bad "too deep"
  | fuel + 1, [] => primary counts fuel
  | fuel + 1, operators :: rest => do
    let first ← levelAt counts fuel rest
    tail counts fuel operators rest first

def tail (counts : Bool) : (fuel : Nat) → List String → List (List String) → String → Reader String
  | 0, _, _, _ => bad "too deep"
  | fuel + 1, operators, rest, first => do
    match ← takeOne operators with
    | none => return first
    | some operator =>
      let needsSecond := match operator with
        | "|" => counts && isNothing first
        | "&" => counts && !isNothing first
        | _ => counts
      let second ← levelAt needsSecond fuel rest
      let value ← combine operator counts first second
      tail counts fuel operators rest value

/-- An operator with its operands behind it, or a plain one. -/
def primary (counts : Bool) : (fuel : Nat) → Reader String
  | 0 => bad "too deep"
  | fuel + 1 => do
    if ← take "+" then return ← word
    if ← take "length" then
      let text ← primary counts fuel
      return toString text.length
    if ← take "match" then
      let text ← primary counts fuel
      let pattern ← primary counts fuel
      if counts then return ← matchStart text pattern else return text
    if ← take "index" then
      let text ← primary counts fuel
      let signs ← primary counts fuel
      let place? := text.toList.findIdx? signs.toList.contains
      return toString ((place?.map (· + 1)).getD 0)
    if ← take "substr" then
      let text ← primary counts fuel
      let start ← primary counts fuel
      let length ← primary counts fuel
      match integer? start, integer? length with
      | some start, some length =>
        if start ≤ 0 || length ≤ 0 then return ""
        return String.ofList ((text.toList.drop (start.toNat - 1)).take length.toNat)
      | _, _ => return ""
    let words ← get
    match words.rest with
    | [] => bad ("missing argument after " ++ quotedName words.before)
    | "(" :: _ =>
      let _ ← take "("
      let value ← levelAt counts fuel levels
      let words ← get
      match words.rest with
      | [] => bad ("expecting ')' after " ++ quotedName words.before)
      | ")" :: _ =>
        let _ ← take ")"
        return value
      | other :: _ => bad ("expecting ')' instead of " ++ quotedName other)
    | ")" :: _ => bad "unexpected ')'"
    | _ => word

end

def value (words : List String) : Except Fault String :=
  let fuel := 20 * (words.length + 2)
  let read : Reader String := do
    let value ← levelAt true fuel levels
    match (← get).rest with
    | [] => return value
    | other :: _ => bad ("unexpected argument " ++ quotedName other)
  (read.run ⟨"expr", words⟩).1

end Expr

def expr : Program := fun _ arguments => do
  let arguments := match arguments with
    | "--" :: rest => rest
    | arguments => arguments
  if arguments.isEmpty then Sh.failMissing 2
  match Expr.value arguments with
  | .ok value =>
    Sh.say (value ++ "\n")
    return if Expr.isNothing value then 1 else 0
  | .error (.shape message) | .error (.value message) => Sh.fail 2 message

def factorsFrom : (fuel divisor number : Nat) → (found : List Nat) → List Nat
  | 0, _, number, found => (number :: found).reverse
  | fuel + 1, divisor, number, found =>
    if number < divisor * divisor then (if 1 < number then number :: found else found).reverse
    else if number % divisor = 0 then factorsFrom fuel divisor (number / divisor) (divisor :: found)
    else factorsFrom fuel (if divisor = 2 then 3 else divisor + 2) number found

def factor : Program := fun _ arguments => do
  let given ← Sh.takeAll 1 "h,exponents" arguments
  let words ←
    if given.operands.isEmpty then
      match ← Sh.read 0 .sample with
      | .ok (bytes, _) =>
        let text := textOfBytes bytes
        let spaced := text.map fun c => if Pattern.isSpace c then ' ' else c
        pure ((piecesAt ' ' spaced).filter (· ≠ ""))
      | .error reason => Sh.fail 1 ("error reading input: " ++ reason)
    else pure given.operands
  let codes ← words.mapM fun word => do
    let digits := (word.toList.dropWhile Pattern.isSpace)
    let digits := match digits with
      | '+' :: rest => rest
      | digits => digits
    if digits.isEmpty || !digits.all Char.isDigit then
      Sh.warn (plainlyQuoted word ++ " is not a valid positive integer")
      return 1
    let number := numberOfDigits digits
    let factors := if number = 0 then [] else factorsFrom 5000000 2 number []
    Sh.say (toString number ++ ":" ++ String.join (factors.map fun n => s!" {n}") ++ "\n")
    return 0
  return codes.foldl max 0

end MutationTesting.Shell.Utility
