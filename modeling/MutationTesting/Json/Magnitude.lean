import MutationTesting.Json.Value
/-! The floating-point value of a number in JSON. The digits are gathered in a word of 64 bits,
as many as fit; the others only count for the power of ten, by which the word is then multiplied
or divided. So the value may be off in its last place. -/
namespace MutationTesting.Json

/-- Digits gathered in a word, how many did not fit, and whether one did not. -/
structure Gathered where
  word : Nat
  read : Nat
  skipped : Nat
  full : Bool
  deriving Repr, DecidableEq

/-- One more digit. Once a digit does not fit, no later one is taken. -/
def Gathered.push (state : Gathered) (c : Char) : Gathered :=
  let next := state.word * 10 + (c.toNat - '0'.toNat)
  if state.full ∨ Nat.pow 2 64 ≤ next then { state with skipped := state.skipped + 1, full := true }
  else { state with word := next, read := state.read + 1 }

/-- The largest power of ten that is a floating-point value. -/
def largestPower : Nat := 308

/-- `10 ^ n` as a floating-point value. -/
def power (n : Nat) : Float :=
  Float.ofScientific 1 false n

/-- A number with a significand of 53 bits at most, nearest to a natural number; of two equally near
ones it is the one with an even significand. -/
def rounded (n : Nat) : Nat :=
  let unit := Nat.pow 2 (n.log2 - 52)
  let floor := n / unit
  let rest := 2 * (n % unit)
  (if unit < rest ∨ (rest = unit ∧ floor % 2 = 1) then floor + 1 else floor) * unit

/-- The least number that is rounded to infinity. -/
def overflow : Nat :=
  (Nat.pow 2 54 - 1) * Nat.pow 2 970

/-- `x / 10 ^ exponent`, dividing by the largest power of ten at most `divisions` times first. -/
def divide (x : Float) (exponent : Nat) : (divisions : Nat) → Float
  | 0 => x
  | divisions + 1 =>
    if exponent ≤ largestPower then x / power exponent
    else if x == 0.0 then x
    else divide (x / power largestPower) (exponent - largestPower) divisions

/-- How often a word has to be divided by the largest power of ten until it is zero, and one
more. -/
def divisionLimit : Nat := 4

/-- `word * 10 ^ exponent`, both rounded before they are multiplied. There is no value beyond the
largest one. -/
def scale? (word : Nat) (exponent : Int) : Option Float :=
  if exponent < 0 then some (divide word.toFloat exponent.natAbs divisionLimit)
  else if exponent.toNat ≤ largestPower then
    if rounded word * rounded (Nat.pow 10 exponent.toNat) < overflow then
      some (word.toFloat * power exponent.toNat)
    else none
  else if word = 0 then some word.toFloat
  else none

/-- The exponent after the mark, if there is a mark. -/
def exponentOf (cs : List Char) : Int :=
  match cs with
  | [] => 0
  | _ :: rest => (Decimal.integer? rest).getD 0

/-- The floating-point value of the digits of a number that has no sign. -/
def magnitude? (cs : List Char) : Option Float :=
  let whole := (cs.takeWhile Decimal.isDigit).foldl Gathered.push ⟨0, 0, 0, false⟩
  match cs.dropWhile Decimal.isDigit with
  | [] => if whole.full then scale? whole.word whole.skipped
      else some whole.word.toFloat
  | '.' :: rest =>
    let all := (rest.takeWhile Decimal.isDigit).foldl Gathered.push
      { whole with read := 0, full := false }
    let exponent := exponentOf (rest.dropWhile Decimal.isDigit)
    scale? all.word (exponent + whole.skipped - all.read)
  | rest => scale? whole.word (exponentOf rest + whole.skipped)

def float? : Json → Option Float
  | number digits =>
    match digits.toList with
    | '-' :: cs => (magnitude? cs).map fun x => -x
    | cs => magnitude? cs
  | _ => none

end MutationTesting.Json
