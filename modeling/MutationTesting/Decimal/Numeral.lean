import MutationTesting.Text.Search
/-! Reading numbers: integers in a base up to sixteen and decimal numerals with a point and an
exponent, rounded to the nearest floating-point value. -/
namespace MutationTesting.Decimal

/-- The value of a digit in a base up to sixteen, letters counting from ten. -/
def digit? (base : Nat) (c : Char) : Option Nat :=
  let value :=
    if '0' ≤ c ∧ c ≤ '9' then c.toNat - '0'.toNat
    else if 'a' ≤ c ∧ c ≤ 'z' then c.toNat - 'a'.toNat + 10
    else if 'A' ≤ c ∧ c ≤ 'Z' then c.toNat - 'A'.toNat + 10
    else base
  if value < base then some value else none

def digitsFrom? (base value : Nat) : List Char → Option Nat
  | [] => some value
  | c :: rest => (digit? base c).bind fun d => digitsFrom? base (value * base + d) rest

/-- The value of a text of at least one digit. -/
def digits? (base : Nat) (cs : List Char) : Option Nat :=
  if cs = [] then none else digitsFrom? base 0 cs

/-- The value of an unsigned integer: digits, before which a plus sign may stand. -/
def unsigned? (base : Nat) (cs : List Char) : Option Nat :=
  match cs with
  | '+' :: rest => digits? base rest
  | _ => digits? base cs

/-- An unsigned integer below `2 ^ width`. -/
def word? (width base : Nat) (cs : List Char) : Option Nat :=
  (unsigned? base cs).filter (· < Nat.pow 2 width)

/-- Whether a character is a decimal digit of ASCII. -/
def isDigit (c : Char) : Bool :=
  '0' ≤ c && c ≤ '9'

def integer? (cs : List Char) : Option Int :=
  match cs with
  | '-' :: rest => (digits? 10 rest).map fun n => -(n : Int)
  | _ => (unsigned? 10 cs).map fun n => (n : Int)

/-- The floating-point value nearest to `coefficient * 10 ^ exponent`. -/
def nearestFloat (coefficient : Nat) (exponent : Int) : Float :=
  let magnitude := exponent + (Nat.toDigits 10 coefficient).length
  if coefficient = 0 ∨ magnitude < -330 then 0.0
  else if 320 < magnitude then 1.0 / 0.0
  else Float.ofScientific coefficient (decide (exponent < 0)) exponent.natAbs

/-- A decimal numeral without a sign: digits, which a point may divide, and an optional
exponent. -/
def numeral? (cs : List Char) : Option Float := do
  let whole := cs.takeWhile isDigit
  let rest := cs.dropWhile isDigit
  let (fraction, rest) :=
    match rest with
    | '.' :: rest => (rest.takeWhile isDigit, rest.dropWhile isDigit)
    | _ => ([], rest)
  let coefficient ← digits? 10 (whole ++ fraction)
  let exponent ←
    match rest with
    | [] => some 0
    | c :: rest => if c = 'e' ∨ c = 'E' then integer? rest else none
  return nearestFloat coefficient (exponent - fraction.length)

/-- The values that have a name, whatever the case of its letters. -/
def named? (cs : List Char) : Option Float :=
  let name := String.ofList (cs.map Char.toLower)
  if name = "inf" ∨ name = "infinity" then some (1.0 / 0.0)
  else if name = "nan" then some (0.0 / 0.0)
  else none

/-- The floating-point value that a text denotes. -/
def float? (s : String) : Option Float :=
  let magnitude? (cs : List Char) := (named? cs).orElse fun _ => numeral? cs
  match s.toList with
  | '-' :: rest => (magnitude? rest).map fun x => -x
  | '+' :: rest => magnitude? rest
  | cs => magnitude? cs

/-! The digits of a natural number are read as the number, and the first of them is no zero if the
number is positive. -/

theorem digit?_ten {c : Char} (isDecimal : isDigit c = true) :
    digit? 10 c = some (c.toNat - '0'.toNat) ∧ c.toNat - '0'.toNat < 10 := by
  have range : '0' ≤ c ∧ c ≤ '9' := by simpa [isDigit] using isDecimal
  have upper : c.toNat ≤ '9'.toNat := range.2
  have small : c.toNat - '0'.toNat < 10 := by
    have : '9'.toNat = '0'.toNat + 9 := rfl
    omega
  rw [digit?, if_pos range]
  exact ⟨if_pos small, small⟩

theorem digitsFrom?_ten {cs : List Char} (areDigits : ∀ c ∈ cs, isDigit c = true) (value : Nat) :
    digitsFrom? 10 value cs = some (Nat.ofDigitChars 10 cs value) := by
  induction cs generalizing value with
  | nil => rfl
  | cons c rest ih =>
    have read := (digit?_ten (areDigits c List.mem_cons_self)).1
    rw [digitsFrom?, read, Option.bind_some,
      ih (fun c member => areDigits c (List.mem_cons_of_mem _ member)), Nat.ofDigitChars_cons,
      Nat.mul_comm]

theorem digits?_ten {cs : List Char} (areDigits : ∀ c ∈ cs, isDigit c = true) (some : cs ≠ []) :
    digits? 10 cs = .some (Nat.ofDigitChars 10 cs 0) := by
  rw [digits?, if_neg some, digitsFrom?_ten areDigits]

theorem isDigit_toDigits {n : Nat} {c : Char} (member : c ∈ Nat.toDigits 10 n) : isDigit c = true :=
  Nat.isDigit_of_mem_toDigits (by decide) (by decide) member

theorem digits?_toDigits (n : Nat) : digits? 10 (Nat.toDigits 10 n) = some n := by
  rw [digits?_ten (fun c => isDigit_toDigits) Nat.toDigits_ne_nil, Nat.ofDigitChars_ten_toDigits]

/-- A positive number does not begin with a zero. -/
theorem toDigits_eq_cons {n : Nat} (positive : 0 < n) :
    ∃ first rest, Nat.toDigits 10 n = first :: rest ∧ first ≠ '0' := by
  induction n using Nat.strongRecOn with
  | _ n ih =>
    rw [Nat.toDigits_eq_if (by decide)]
    split
    · rename_i small
      refine ⟨n.digitChar, [], rfl, fun isZero => ?_⟩
      have value := Nat.toNat_digitChar_of_lt_ten small
      rw [isZero, show '0'.toNat = 48 from rfl] at value
      omega
    · rename_i large
      obtain ⟨first, rest, digits, nonzero⟩ := ih (n / 10) (by omega) (by omega)
      exact ⟨first, rest ++ [(n % 10).digitChar], by rw [digits]; rfl, nonzero⟩

end MutationTesting.Decimal
