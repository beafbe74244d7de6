import MutationTesting.Shell.Pattern
/-! Numbers of the shell: integers of 64 bits, and how they are read from a text; and numbers with a
fraction as programs have them, a mantissa of so many bits times a power of two. The latter are read
from decimal texts, rounded to the nearest one, and shown with so many digits, rounded from their
exact value. -/
namespace MutationTesting.Shell

/-- The integer of 64 bits that stands for an integer. -/
def wrapped (n : Int) : Int :=
  Int.bmod n (Nat.pow 2 64)

def largest : Int := Nat.pow 2 63 - 1

def smallest : Int := -(Nat.pow 2 63)

def saturated (n : Int) : Int :=
  if largest < n then largest else if n < smallest then smallest else n

/-- The value of a digit in a base up to 36. -/
def digitIn? (base : Nat) (c : Char) : Option Nat :=
  let value :=
    if c.isDigit then c.toNat - '0'.toNat
    else if c.isLower then c.toNat - 'a'.toNat + 10
    else if c.isUpper then c.toNat - 'A'.toNat + 10
    else 36
  if value < base then some value else none

/-- The value of digits at the start of a text, how many there are, and what follows them. -/
def digitsIn (base value count : Nat) : List Char → Nat × Nat × List Char
  | [] => (value, count, [])
  | c :: rest =>
    match digitIn? base c with
    | some digit => digitsIn base (value * base + digit) (count + 1) rest
    | none => (value, count, c :: rest)

/-- The number without a sign at the start of a text, and what follows it. Base zero is that of the
way in which the number is written: `0x` for sixteen, `0` for eight, and else ten. -/
def magnitudeAt? (base : Nat) (cs : List Char) : Option (Nat × List Char) :=
  let plain (base : Nat) : Option (Nat × List Char) :=
    match digitsIn base 0 0 cs with
    | (_, 0, _) => none
    | (value, _, rest) => some (value, rest)
  match cs with
  | '0' :: x :: c :: rest =>
    if (x = 'x' ∨ x = 'X') ∧ (base = 0 ∨ base = 16) ∧ (digitIn? 16 c).isSome then
      let (value, _, rest) := digitsIn 16 0 0 (c :: rest)
      some (value, rest)
    else plain (if base = 0 then 8 else base)
  | '0' :: _ => plain (if base = 0 then 8 else base)
  | _ => plain (if base = 0 then 10 else base)

/-- The integer at the start of a text after spaces, as large as it is, and what follows it. -/
def integerAt? (base : Nat) (cs : List Char) : Option (Int × List Char) :=
  match cs.dropWhile Pattern.isSpace with
  | '-' :: rest => (magnitudeAt? base rest).map fun (n, rest) => (-(n : Int), rest)
  | '+' :: rest => (magnitudeAt? base rest).map fun (n, rest) => ((n : Int), rest)
  | rest => (magnitudeAt? base rest).map fun (n, rest) => ((n : Int), rest)

/-- The integer that a text is, with nothing but spaces around it. With base zero a text without
a number is zero. -/
def integerIn? (base : Nat) (text : String) : Option Int :=
  let cs := text.toList
  let (value, rest) := match integerAt? base cs, base with
    | some (value, rest), _ => (some value, rest)
    | none, 0 => (some 0, cs)
    | none, _ => (none, cs)
  if rest.all Pattern.isSpace then value.filter fun n => smallest ≤ n ∧ n ≤ largest else none

/-- How exact numbers are: the bits of the mantissa, and the bounds of the power of two. -/
structure Exactness where
  bits : Nat
  least : Int
  greatest : Int
  deriving Repr, DecidableEq

def Exactness.double : Exactness := ⟨53, -1074, 971⟩

def Exactness.extended : Exactness := ⟨64, -16445, 16320⟩

/-- A number: a mantissa times a power of two, or one that is too large or none. -/
inductive Real where
  | finite (isNegative : Bool) (mantissa : Nat) (exponent : Int)
  | infinite (isNegative : Bool)
  | nothing (isNegative : Bool)
  deriving Repr, DecidableEq

/-- The quotient that is nearest, an even one in the middle between two. -/
def nearestQuotient (numerator denominator : Nat) : Nat :=
  let quotient := numerator / denominator
  let rest := numerator % denominator
  if denominator < 2 * rest || (denominator = 2 * rest && quotient % 2 = 1) then quotient + 1
  else quotient

namespace Real

def zero : Real := .finite false 0 0

/-- A number times a power of two, as a fraction. -/
def fraction (mantissa : Nat) (exponent : Int) : Nat × Nat :=
  if 0 ≤ exponent then (mantissa * Nat.pow 2 exponent.toNat, 1)
  else (mantissa, Nat.pow 2 (-exponent).toNat)

def ofFraction (exactness : Exactness) (isNegative : Bool) (numerator denominator : Nat) : Real :=
  if numerator = 0 then .finite isNegative 0 0
  else
    let guess : Int := (numerator.log2 : Int) - denominator.log2 - exactness.bits
    let mantissaAt (exponent : Int) : Nat :=
      if 0 ≤ exponent then nearestQuotient numerator (denominator * Nat.pow 2 exponent.toNat)
      else nearestQuotient (numerator * Nat.pow 2 (-exponent).toNat) denominator
    let first := max exactness.least guess
    let exponent :=
      if Nat.pow 2 exactness.bits ≤ mantissaAt first then first + 1 else first
    let mantissa := mantissaAt exponent
    let (mantissa, exponent) :=
      if Nat.pow 2 exactness.bits ≤ mantissa then (mantissa / 2, exponent + 1)
      else (mantissa, exponent)
    if exactness.greatest < exponent then .infinite isNegative
    else .finite isNegative mantissa exponent

/-- The digits at the start of a text, and what follows them. -/
def digitsAt (isDigit : Char → Bool) (cs : List Char) : List Char × List Char :=
  (cs.takeWhile isDigit, cs.dropWhile isDigit)

/-- The exponent at the start of a text, behind its letter, and what follows it. -/
def exponentAt (lower upper : Char) (cs : List Char) : Int × List Char :=
  match cs with
  | letter :: rest =>
    if letter = lower || letter = upper then
      let (isNegative, digits) := match rest with
        | '-' :: digits => (true, digits)
        | '+' :: digits => (false, digits)
        | digits => (false, digits)
      match digitsAt Char.isDigit digits with
      | ([], _) => (0, cs)
      | (digits, after) =>
        let (value, _, _) := digitsIn 10 0 0 (digits.take 9)
        (if isNegative then -(value : Int) else value, after)
    else (0, cs)
  | [] => (0, cs)

/-- Digits with a point in them, and what follows them. -/
def pointedAt (isDigit : Char → Bool) (cs : List Char) : List Char × List Char × List Char :=
  let (whole, after) := digitsAt isDigit cs
  match after with
  | '.' :: rest =>
    let (part, after) := digitsAt isDigit rest
    if whole.isEmpty && part.isEmpty then ([], [], cs) else (whole, part, after)
  | _ => (whole, [], after)

/-- Whether a text starts with a word, in letters of either case. -/
def startsWithWord (word : String) (cs : List Char) : Bool :=
  (cs.take word.length).map Char.toLower = word.toList

/-- The number without a sign at the start of a text, and what follows it. -/
def magnitudeAt? (exactness : Exactness) (isNegative : Bool) (cs : List Char) :
    Option (Real × List Char) :=
  let decimal : Option (Real × List Char) :=
    match pointedAt Char.isDigit cs with
    | ([], [], _) => none
    | (whole, part, after) =>
      let (value, _, _) := digitsIn 10 0 0 (whole ++ part)
      let (exponent, after) := exponentAt 'e' 'E' after
      let power := exponent - part.length
      let size := (whole ++ part).length
      if value = 0 || power + size < -6000 then some (.finite isNegative 0 0, after)
      else if 6000 < power then some (.infinite isNegative, after)
      else if 0 ≤ power then
        some (ofFraction exactness isNegative (value * Nat.pow 10 power.toNat) 1, after)
      else some (ofFraction exactness isNegative value (Nat.pow 10 (-power).toNat), after)
  if startsWithWord "infinity" cs then some (.infinite isNegative, cs.drop 8)
  else if startsWithWord "inf" cs then some (.infinite isNegative, cs.drop 3)
  else if startsWithWord "nan" cs then some (.nothing isNegative, cs.drop 3)
  else if startsWithWord "0x" cs then
    match pointedAt Pattern.isHexDigit (cs.drop 2) with
    | ([], [], _) => decimal
    | (whole, part, after) =>
      let (value, _, _) := digitsIn 16 0 0 (whole ++ part)
      let (exponent, after) := exponentAt 'p' 'P' after
      let power := exponent - 4 * part.length
      if power < -20000 then some (.finite isNegative 0 0, after)
      else if 20000 < power then some (.infinite isNegative, after)
      else
        let (numerator, denominator) := fraction value power
        some (ofFraction exactness isNegative numerator denominator, after)
  else decimal

/-- The number at the start of a text after spaces, and what follows it. -/
def at? (exactness : Exactness) (cs : List Char) : Option (Real × List Char) :=
  match cs.dropWhile Pattern.isSpace with
  | '-' :: rest => magnitudeAt? exactness true rest
  | '+' :: rest => magnitudeAt? exactness false rest
  | rest => magnitudeAt? exactness false rest

def isNegative : Real → Bool
  | finite isNegative _ _ | infinite isNegative | nothing isNegative => isNegative

/-- A mantissa times a power of two times a power of ten, as the nearest integer. -/
def scaled (mantissa : Nat) (exponent places : Int) : Nat :=
  let (numerator, denominator) := fraction mantissa exponent
  if 0 ≤ places then nearestQuotient (numerator * Nat.pow 10 places.toNat) denominator
  else nearestQuotient numerator (denominator * Nat.pow 10 (-places).toNat)

/-- The first number of places, from one on, that makes a fraction at least one. -/
def placesFrom (numerator denominator : Nat) : (fuel places : Nat) → Nat
  | 0, places => places
  | fuel + 1, places =>
    if denominator ≤ numerator * Nat.pow 10 places then places
    else placesFrom numerator denominator fuel (places + 1)

/-- The power of ten of the first digit of a number that is not zero. -/
def powerOf (mantissa : Nat) (exponent : Int) : Int :=
  let (numerator, denominator) := fraction mantissa exponent
  if denominator ≤ numerator then ((Nat.toDigits 10 (numerator / denominator)).length : Int) - 1
  else
    let guess := ((denominator.log2 - numerator.log2 - 1) * 30103) / 100000
    let places : Int := placesFrom numerator denominator 6 guess
    0 - places

/-- Puts a point before the last digits. -/
def pointed (places : Nat) (keepsPoint : Bool) (value : Nat) : List Char :=
  let digits := Nat.toDigits 10 value
  let digits := List.replicate (places + 1 - digits.length) '0' ++ digits
  let whole := digits.take (digits.length - places)
  if places = 0 && !keepsPoint then whole else whole ++ '.' :: digits.drop whole.length

/-- The number with so many digits behind the point. -/
def fixed (places : Nat) (keepsPoint : Bool) (mantissa : Nat) (exponent : Int) : List Char :=
  pointed places keepsPoint (scaled mantissa exponent places)

/-- The first digits of a number, and the power of ten of the first one. -/
def leading (places : Nat) (mantissa : Nat) (exponent : Int) : Nat × Int :=
  if mantissa = 0 then (0, 0)
  else
    let power := powerOf mantissa exponent
    let value := scaled mantissa exponent (places - power)
    if Nat.pow 10 (places + 1) ≤ value then (value / 10, power + 1) else (value, power)

/-- The number with one digit before the point, so many behind it, and a power of ten. -/
def scientific (letter : Char) (places : Nat) (keepsPoint : Bool) (mantissa : Nat)
    (exponent : Int) : List Char :=
  let (value, power) := leading places mantissa exponent
  let digits := Nat.toDigits 10 power.natAbs
  let digits := List.replicate (2 - digits.length) '0' ++ digits
  pointed places keepsPoint value ++ letter :: (if power < 0 then '-' else '+') :: digits

/-- Digits without the zeros at the end of their fraction. -/
def withoutFinalZeros (cs : List Char) : List Char :=
  if cs.contains '.' then
    let trimmed := cs.reverse.dropWhile (· = '0')
    (if trimmed.head? = some '.' then trimmed.drop 1 else trimmed).reverse
  else cs

/-- The number with so many digits in the shorter one of two forms. -/
def general (letter : Char) (digits : Nat) (keepsPoint : Bool) (mantissa : Nat)
    (exponent : Int) : List Char :=
  let digits := max digits 1
  let (_, power) := leading (digits - 1) mantissa exponent
  if power < -4 || (digits : Int) ≤ power then
    let text := scientific letter (digits - 1) keepsPoint mantissa exponent
    if keepsPoint then text
    else
      let number := text.takeWhile (· ≠ letter)
      withoutFinalZeros number ++ text.drop number.length
  else
    let places := ((digits : Int) - 1 - power).toNat
    let text := fixed places keepsPoint mantissa exponent
    if keepsPoint then text else withoutFinalZeros text

def hexadecimal (precision? : Option Nat) (mantissa : Nat) (exponent : Int) : List Char :=
  if mantissa = 0 then "0x0p+0".toList
  else
    let shift := 52 - mantissa.log2
    let (mantissa, exponent) := (mantissa * Nat.pow 2 shift, exponent - shift + 52)
    let places := precision?.getD 13
    let rounded := nearestQuotient mantissa (Nat.pow 16 (13 - places))
    let part := Nat.toDigits 16 (rounded % Nat.pow 16 (min places 13))
    let part := List.replicate (min places 13 - part.length) '0' ++ part
    let part := part ++ List.replicate (places - 13) '0'
    let part :=
      if precision?.isSome then part else (part.reverse.dropWhile (· = '0')).reverse
    let whole := Nat.toDigits 16 (rounded / Nat.pow 16 (min places 13))
    ['0', 'x'] ++ whole ++ (if part.isEmpty then [] else '.' :: part) ++
      ['p', if exponent < 0 then '-' else '+'] ++ Nat.toDigits 10 exponent.natAbs

/-- The number without its sign as a letter of a format asks for it. -/
def shown (letter : Char) (precision? : Option Nat) (keepsPoint : Bool) (number : Real) :
    List Char :=
  let text := match number with
    | infinite _ => "inf".toList
    | nothing _ => "nan".toList
    | finite _ mantissa exponent =>
      match letter.toLower with
      | 'f' => fixed (precision?.getD 6) keepsPoint mantissa exponent
      | 'e' => scientific 'e' (precision?.getD 6) keepsPoint mantissa exponent
      | 'a' => hexadecimal precision? mantissa exponent
      | _ => general 'e' (precision?.getD 6) keepsPoint mantissa exponent
  if letter.isUpper then text.map Char.toUpper else text

end Real

/-! Formats: how values are laid out. -/

/-- How a value is laid out: how it is marked, how wide, and with how many digits or
characters. -/
structure Layout where
  flags : List Char := []
  width : Nat := 0
  precision? : Option Nat := none
  deriving Repr, DecidableEq

namespace Layout

def has (layout : Layout) (flag : Char) : Bool :=
  layout.flags.contains flag

/-- The layout with a width, which is negative for one to the left. -/
def withWidth (layout : Layout) (width : Int) : Layout :=
  { layout with
    width := width.natAbs
    flags := if width < 0 then '-' :: layout.flags else layout.flags }

def pad (layout : Layout) (cs : List Char) : List Char :=
  let blanks := List.replicate (layout.width - cs.length) ' '
  if layout.has '-' then cs ++ blanks else blanks ++ cs

/-- A number with its sign, what comes before its digits, and zeros up to the width if they are
allowed. -/
def number (layout : Layout) (zeros : Bool) (sign lead digits : List Char) : List Char :=
  let start := sign ++ lead
  let filling :=
    if zeros && layout.has '0' && !layout.has '-' then
      List.replicate (layout.width - start.length - digits.length) '0'
    else []
  layout.pad (start ++ filling ++ digits)

def sign (layout : Layout) (isNegative : Bool) : List Char :=
  if isNegative then ['-']
  else if layout.has '+' then ['+']
  else if layout.has ' ' then [' ']
  else []

/-- At least so many digits as the precision asks for. -/
def digits (layout : Layout) (base value : Nat) : List Char :=
  let digits := if value = 0 then [] else Nat.toDigits base value
  List.replicate (layout.precision?.getD 1 - digits.length) '0' ++ digits

def signed (layout : Layout) (value : Int) : List Char :=
  layout.number layout.precision?.isNone (layout.sign (value < 0)) []
    (layout.digits 10 value.natAbs)

/-- An integer without a sign, as a letter asks for it. -/
def unsigned (layout : Layout) (letter : Char) (value : Nat) : List Char :=
  let zeros := layout.precision?.isNone
  match letter with
  | 'o' =>
    let digits := layout.digits 8 value
    let digits :=
      if layout.has '#' && digits.head? ≠ some '0' then '0' :: digits else digits
    layout.number zeros [] [] digits
  | 'x' | 'X' =>
    let digits := layout.digits 16 value
    let lead := if layout.has '#' && value ≠ 0 then ['0', 'x'] else []
    let upper : List Char → List Char := fun cs => if letter = 'X' then cs.map Char.toUpper else cs
    layout.number zeros [] (upper lead) (upper digits)
  | _ => layout.number zeros [] [] (layout.digits 10 value)

/-- A number with a fraction, as a letter asks for it. -/
def real (layout : Layout) (letter : Char) (value : Real) : List Char :=
  let isFinite := match value with
    | .finite .. => true
    | _ => false
  layout.number isFinite (layout.sign value.isNegative) []
    (value.shown letter layout.precision? (layout.has '#'))

def text (layout : Layout) (cs : List Char) : List Char :=
  layout.pad (match layout.precision? with
    | some precision => cs.take precision
    | none => cs)

end Layout

/-- A width or a precision in a format: a number, or the next argument. -/
inductive Measure where
  | fixed (value : Nat)
  | argument
  deriving Repr, DecidableEq

/-- A conversion in a format, up to its letter. -/
structure Directive where
  flags : List Char
  width? : Option Measure
  precision? : Option Measure
  deriving Repr, DecidableEq

def numberOfDigits (digits : List Char) : Nat :=
  digits.foldl (fun value c => value * 10 + (c.toNat - '0'.toNat)) 0

/-- The conversion behind a percent sign, and what follows it from its letter on. -/
def directiveAt (cs : List Char) : Directive × List Char :=
  let flags := cs.takeWhile "#-+ 0".toList.contains
  let rest := cs.drop flags.length
  let measure (cs : List Char) : Option Measure × List Char :=
    match cs with
    | '*' :: rest => (some .argument, rest)
    | _ =>
      let digits := cs.takeWhile Char.isDigit
      (if digits.isEmpty then none else some (.fixed (numberOfDigits digits)),
        cs.drop digits.length)
  let (width?, rest) := measure rest
  match rest with
  | '.' :: rest =>
    let (precision?, rest) := measure rest
    (⟨flags, width?, precision?.or (some (.fixed 0))⟩, rest)
  | _ => (⟨flags, width?, none⟩, rest)

end MutationTesting.Shell
