/-! Floating-point values as text: the shortest digits that read back as the value, with a point or
with an exponent. The values that round to a given one form an interval; the coarsest grid of
decimals with a point in the interval gives the fewest digits, and of its points the nearest to the
value is taken. Whether there is an exponent, and how it looks, is a `Layout`. -/
namespace MutationTesting.Decimal

/-- A positive number `significand * 2 ^ exponent`. `narrow` says that the next smaller
floating-point value is only half as far away as the next larger one. -/
structure Binary where
  significand : Nat
  exponent : Int
  narrow : Bool
  deriving Repr, DecidableEq

/-- A number `coefficient * 10 ^ exponent`. -/
structure Scaled where
  coefficient : Nat
  exponent : Int
  deriving Repr, DecidableEq

/-- Which of two equally near decimals is taken. -/
inductive Tie where
  | upper
  | even
  deriving Repr, DecidableEq

/-- Fractions with one denominator: a value between two bounds, which belong to the interval if
it is closed. -/
structure Interval where
  low : Nat
  value : Nat
  high : Nat
  denominator : Nat
  closed : Bool
  deriving Repr, DecidableEq

/-- The numbers that round to `x`: half the gap on either side, with its ends if the significand
is even. -/
def Binary.interval (x : Binary) : Interval :=
  let unit := Nat.pow 2 (x.exponent - 2).toNat
  { low := (4 * x.significand - if x.narrow then 1 else 2) * unit
    value := 4 * x.significand * unit
    high := (4 * x.significand + 2) * unit
    denominator := Nat.pow 2 (2 - x.exponent).toNat
    closed := x.significand % 2 == 0 }

/-- The interval divided by a power of ten. -/
def Interval.scale (i : Interval) (exponent : Int) : Interval :=
  let factor := Nat.pow 10 (-exponent).toNat
  { i with
    low := i.low * factor
    value := i.value * factor
    high := i.high * factor
    denominator := i.denominator * Nat.pow 10 exponent.toNat }

def Interval.has (i : Interval) (n : Nat) : Bool :=
  let scaled := n * i.denominator
  if i.closed then i.low ≤ scaled && scaled ≤ i.high else i.low < scaled && scaled < i.high

/-- The integer of the interval that is nearest to its value: one of the two next to it. -/
def Interval.nearest? (tie : Tie) (i : Interval) : Option Nat :=
  let floor := i.value / i.denominator
  match i.has floor, i.has (floor + 1) with
  | true, true =>
    let middle := (2 * floor + 1) * i.denominator
    if 2 * i.value < middle then some floor
    else if middle < 2 * i.value then some (floor + 1)
    else
      match tie with
      | .upper => some (floor + 1)
      | .even => some (if floor % 2 = 0 then floor else floor + 1)
  | true, false => some floor
  | false, true => some (floor + 1)
  | false, false => none

/-- The largest power of ten that occurs as a grid. -/
def coarsest : Int := 310

/-- The number of grids from the coarsest one to a grid finer than the gap between any two
floating-point values. -/
def grids : Nat := 660

/-- The shortest decimal that rounds to `x`, and the nearest of those. -/
def Binary.shortest (tie : Tie) (x : Binary) : Scaled :=
  let found := (List.range grids).findSome? fun (steps : Nat) =>
    let exponent := coarsest - steps
    ((x.interval.scale exponent).nearest? tie).map (Scaled.mk · exponent)
  found.getD ⟨0, 0⟩

theorem Interval.has_of_nearest? {tie : Tie} {i : Interval} {n : Nat}
    (h : i.nearest? tie = some n) : i.has n = true := by
  unfold nearest? at h
  simp only at h
  split at h
  · rename_i first second
    split at h
    · simp_all
    · split at h
      · simp_all
      · cases tie
        · simp_all
        · simp only [Option.some.injEq] at h
          split at h <;> simp_all
  · simp_all
  · simp_all
  · simp at h

/-- The choices of a floating-point format. -/
structure Layout where
  /-- The smallest exponent of ten that is written with a point alone. -/
  plainFrom : Int
  /-- The largest exponent of ten that is written with a point alone. -/
  plainTo : Int
  /-- The least number of digits of an exponent. -/
  exponentDigits : Nat
  /-- Which of two equally near digits is taken. -/
  tie : Tie
  deriving Repr, DecidableEq

/-- Whether the value is below zero or the negative zero. -/
def isNegative (x : Float) : Bool :=
  x.toBits >>> 63 == 1

/-- The significand and the exponent of a finite value, its sign left out. `none` is zero. -/
def binary? (x : Float) : Option Binary :=
  let bits := x.toBits.toNat
  let fraction := bits % Nat.pow 2 52
  let biased : Nat := bits / Nat.pow 2 52 % Nat.pow 2 11
  if biased = 0 then
    if fraction = 0 then none else some ⟨fraction, -1074, false⟩
  else some ⟨Nat.pow 2 52 + fraction, (biased : Int) - 1075, fraction == 0 && 1 < biased⟩

/-- Whether the value is neither infinite nor an invalid result. -/
def isFinite (x : Float) : Bool :=
  x.toBits.toNat / Nat.pow 2 52 % Nat.pow 2 11 != Nat.pow 2 11 - 1

/-- `n` zeros. -/
def zeros (n : Nat) : List Char :=
  List.replicate n '0'

/-- Digits with a point; `exponent` is the power of ten of the last one. -/
def plain (digits : List Char) (exponent : Int) : List Char :=
  if 0 ≤ exponent then digits ++ zeros exponent.toNat ++ ['.', '0']
  else
    let places := (-exponent).toNat
    if places < digits.length then
      digits.take (digits.length - places) ++ '.' :: digits.drop (digits.length - places)
    else ['0', '.'] ++ zeros (places - digits.length) ++ digits

/-- Digits with a point after the first one, if there are others, and the exponent of ten. -/
def scientific (exponentDigits : Nat) (digits : List Char) (exponent : Int) : List Char :=
  let power := Nat.toDigits 10 exponent.natAbs
  let mantissa :=
    match digits with
    | [] => ['0']
    | [d] => [d]
    | d :: rest => d :: '.' :: rest
  mantissa ++ ['e', if exponent < 0 then '-' else '+'] ++
    zeros (exponentDigits - power.length) ++ power

/-- The text of a finite value. -/
def Layout.render (layout : Layout) (x : Float) : String :=
  let body :=
    match binary? x with
    | none => ['0', '.', '0']
    | some b =>
      let decimal := b.shortest layout.tie
      let digits := Nat.toDigits 10 decimal.coefficient
      let leading := decimal.exponent + digits.length - 1
      if layout.plainFrom ≤ leading ∧ leading ≤ layout.plainTo then plain digits decimal.exponent
      else scientific layout.exponentDigits digits leading
  String.ofList (if isNegative x then '-' :: body else body)

end MutationTesting.Decimal
