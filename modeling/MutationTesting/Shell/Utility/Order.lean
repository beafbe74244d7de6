import MutationTesting.Shell.Number
/-! Orders of texts other than that of their characters: as decimal numbers, as numbers with units,
as numbers with fractions, as months and as versions. -/
namespace MutationTesting.Shell.Utility

def compareTexts (a b : String) : Ordering :=
  if a < b then .lt else if b < a then .gt else .eq

/-- A decimal number of any length: its sign, the digits before the point without leading zeros and
those behind it without final ones. -/
structure Decimal where
  isNegative : Bool
  whole : String
  fraction : String
  deriving Repr, DecidableEq

namespace Decimal

/-- The number at the start of a text behind blanks, and what follows it. -/
def at' (cs : List Char) : Decimal × List Char :=
  let cs := cs.dropWhile fun c => c = ' ' || c = '\t' || c = '\n'
  let (isNegative, cs) := match cs with
    | '-' :: rest => (true, rest)
    | cs => (false, cs)
  let whole := cs.takeWhile Char.isDigit
  let rest := cs.drop whole.length
  let (fraction, rest) := match rest with
    | '.' :: rest =>
      let digits := rest.takeWhile Char.isDigit
      (digits, rest.drop digits.length)
    | rest => ([], rest)
  let fraction := (fraction.reverse.dropWhile (· = '0')).reverse
  ({ isNegative
     whole := String.ofList (whole.dropWhile (· = '0'))
     fraction := String.ofList fraction }, rest)

def isZero (number : Decimal) : Bool :=
  number.whole.isEmpty && number.fraction.isEmpty

def compareSizes (a b : Decimal) : Ordering :=
  ((compare a.whole.length b.whole.length).then (compareTexts a.whole b.whole)).then
    (compareTexts a.fraction b.fraction)

def order (a b : Decimal) : Ordering :=
  match a.isNegative && !a.isZero, b.isNegative && !b.isZero with
  | true, true => compareSizes b a
  | true, false => .lt
  | false, true => .gt
  | false, false => compareSizes a b

/-- How large the unit behind a number is: none, thousands, millions and so on. -/
def unitOrder (cs : List Char) : Int :=
  let cs := cs.dropWhile fun c => c = ' ' || c = '\t' || c = '\n'
  let isNegative : Bool := cs.head? = some '-'
  let (number, rest) := at' cs
  if number.isZero then 0
  else
    let letters := "KMGTPEZYRQ".toList
    let size : Nat := match rest with
      | 'k' :: _ => 1
      | c :: _ => match letters.findIdx? (· = c) with
        | some index => index + 1
        | none => 0
      | [] => 0
    if isNegative then -size else size

end Decimal

namespace Real

/-- The order of two finite numbers, or of infinite ones. -/
def order (a b : Real) : Ordering :=
  let size : Real → Nat × Int
    | .finite _ mantissa exponent => (mantissa, exponent)
    | _ => (0, 0)
  let sign (number : Real) : Int :=
    match number with
    | .finite _ 0 _ => 0
    | .infinite isNegative => if isNegative then -2 else 2
    | number => if number.isNegative then -1 else 1
  (compare (sign a) (sign b)).then <|
    if sign a = 1 || sign a = -1 then
      let (m, e) := size a
      let (n, f) := size b
      let low := min e f
      let sizes := compare (m * Nat.pow 2 (e - low).toNat) (n * Nat.pow 2 (f - low).toNat)
      if sign a = 1 then sizes else sizes.swap
    else .eq

end Real

/-- The number of the month whose name starts a text behind blanks, or zero. -/
def monthOf (text : String) : Nat :=
  let cs := text.toList.dropWhile fun c => c = ' ' || c = '\t' || c = '\n'
  let name := String.ofList ((cs.take 3).map Char.toUpper)
  match ["JAN", "FEB", "MAR", "APR", "MAY", "JUN", "JUL", "AUG", "SEP", "OCT", "NOV",
      "DEC"].findIdx? (· = name) with
  | some index => index + 1
  | none => 0

namespace Version

/-- The rank of the character at the start of a text among those of versions. -/
def rank : List Char → Int
  | [] => -1
  | c :: _ =>
    if c.isDigit then 0 else if c.isAlpha then c.toNat else if c = '~' then -2 else c.toNat + 256

def startsWithDigit : List Char → Bool
  | c :: _ => c.isDigit
  | [] => false

/-- The order of two versions: texts and numbers in turn. -/
def parts : (fuel : Nat) → List Char → List Char → Ordering
  | 0, _, _ => .eq
  | _, [], [] => .eq
  | fuel + 1, a, b =>
    if (!a.isEmpty && !startsWithDigit a) || (!b.isEmpty && !startsWithDigit b) then
      (compare (rank a) (rank b)).then (parts fuel (a.drop 1) (b.drop 1))
    else
      let digits (cs : List Char) : List Char := cs.takeWhile Char.isDigit
      let number (cs : List Char) : List Char := (digits cs).dropWhile (· = '0')
      ((compare (number a).length (number b).length).then
        (compareTexts (String.ofList (number a)) (String.ofList (number b)))).then
        (parts fuel (a.drop (digits a).length) (b.drop (digits b).length))

/-- What comes before the endings of a name: points with a letter and letters or digits. -/
def endingAt : List Char → Option (List Char)
  | '.' :: c :: rest =>
    if c.isAlpha || c = '~' then some (rest.dropWhile fun c => c.isAlphanum || c = '~') else none
  | _ => none

def isEndings : (fuel : Nat) → List Char → Bool
  | 0, _ => false
  | _, [] => true
  | fuel + 1, cs =>
    match endingAt cs with
    | some rest => isEndings fuel rest
    | none => false

/-- A name without its endings, but never without its first character. -/
def stem (cs : List Char) : List Char :=
  let isStem (length : Nat) : Bool := isEndings (cs.length + 1) (cs.drop length)
  match (List.range cs.length).find? fun n => 0 < n && isStem n with
  | some length => cs.take length
  | none => cs

/-- The order of two names in which there are versions. -/
def order (first second : String) : Ordering :=
  let a := first.toList
  let b := second.toList
  let special (cs : List Char) : Nat :=
    match cs with
    | [] => 0
    | ['.'] => 1
    | ['.', '.'] => 2
    | '.' :: _ => 3
    | _ => 4
  let fuel := a.length + b.length + 1
  let isPlain : Bool := 3 ≤ special a
  (compare (special a) (special b)).then <|
    if isPlain then (parts fuel (stem a) (stem b)).then (parts fuel a b) else .eq

end Version

end MutationTesting.Shell.Utility
