import MutationTesting.Decimal.Layout
/-! Spans of time, counted in nanoseconds. -/
namespace MutationTesting

/-- A span of time. -/
structure Duration where
  nanoseconds : Nat
  deriving Repr, DecidableEq, Inhabited

namespace Duration

/-- The nanoseconds of a second. -/
def perSecond : Nat := 1000000000

def zero : Duration := ⟨0⟩

def ofSeconds (n : Nat) : Duration := ⟨n * perSecond⟩

def ofMilliseconds (n : Nat) : Duration := ⟨n * 1000000⟩

def ofMicroseconds (n : Nat) : Duration := ⟨n * 1000⟩

instance : LE Duration := ⟨fun a b => a.nanoseconds ≤ b.nanoseconds⟩

instance : LT Duration := ⟨fun a b => a.nanoseconds < b.nanoseconds⟩

instance (a b : Duration) : Decidable (a ≤ b) := Nat.decLe _ _

instance (a b : Duration) : Decidable (a < b) := Nat.decLt _ _

instance : Add Duration := ⟨fun a b => ⟨a.nanoseconds + b.nanoseconds⟩⟩

def seconds (d : Duration) : Nat :=
  d.nanoseconds / perSecond

/-- The nanoseconds beyond the whole seconds. -/
def subsecond (d : Duration) : Nat :=
  d.nanoseconds % perSecond

def toSeconds (d : Duration) : Float :=
  d.seconds.toFloat + d.subsecond.toFloat / 1000000000.0

/-- A quotient rounded to the nearest integer, of two equally near ones to the even one. -/
def roundHalfEven (numerator denominator : Nat) : Nat :=
  let floor := numerator / denominator
  let twice := 2 * (numerator % denominator)
  if twice < denominator then floor
  else if denominator < twice then floor + 1
  else if floor % 2 = 0 then floor else floor + 1

/-- A finite positive value times `factor`, rounded to an integer. -/
def scaleRounded (x : Decimal.Binary) (factor : Nat) : Nat :=
  roundHalfEven (x.significand * factor * Nat.pow 2 x.exponent.toNat)
    (Nat.pow 2 (-x.exponent).toNat)

/-- The span of so many seconds, rounded to nanoseconds. There is none below zero, and none of
two to the power of 64 seconds or more. -/
def ofSeconds? (x : Float) : Option Duration :=
  if !Decimal.isFinite x then none
  else
    match Decimal.binary? x with
    | none => some zero
    | some b =>
      if Decimal.isNegative x then none
      else
        let nanoseconds := scaleRounded b perSecond
        if nanoseconds < Nat.pow 2 64 * perSecond then some ⟨nanoseconds⟩ else none

/-- A finite value of at least zero with two places. -/
def twoPlaces (x : Float) : String :=
  let hundredths :=
    match Decimal.binary? x with
    | none => 0
    | some b => scaleRounded b 100
  let places := Nat.toDigits 10 (hundredths % 100)
  String.ofList (Nat.toDigits 10 (hundredths / 100) ++ '.' :: Decimal.zeros (2 - places.length) ++
    places)

/-- The span in seconds, with two places. -/
def render (d : Duration) : String :=
  twoPlaces d.toSeconds

end Duration

end MutationTesting
