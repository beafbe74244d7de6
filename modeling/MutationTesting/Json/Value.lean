import MutationTesting.Decimal.Layout
import MutationTesting.Decimal.Numeral
import MutationTesting.Text.Quoted
/-! Values of JSON, and how they are written. A number keeps its digits as they are written, so that
each reader of it can ask for the kind of number it needs. -/
namespace MutationTesting

/-- A value of JSON. A string is `none` if its escapes denote half of a pair of code units: such
a string may stand where it is ignored, but it is no text. An object with a name that is no text
is an `illegible` one, which may stand where it is ignored. -/
inductive Json where
  | null
  | bool (value : Bool)
  | number (digits : String)
  | string (text? : Option String)
  | array (items : List Json)
  | object (fields : List (String × Json))
  | illegible
  deriving Repr

namespace Json

def text (s : String) : Json :=
  string (some s)

/-- The number of a natural number. -/
def natural (n : Nat) : Json :=
  number (String.ofList (Nat.toDigits 10 n))

/-- Numbers with a point or an exponent, as they are stored: an exponent below a hundred
thousandth and from ten quadrillions on, without leading zeros. -/
def floatLayout : Decimal.Layout :=
  { plainFrom := -5, plainTo := 15, exponentDigits := 1, tie := .even }

/-- The number of a floating-point value; values that are no number are null. -/
def float (x : Float) : Json :=
  if Decimal.isFinite x then number (floatLayout.render x) else null

def text? : Json → Option String
  | string text? => text?
  | _ => none

def items? : Json → Option (List Json)
  | array items => some items
  | _ => none

/-- The natural number, below `2 ^ width`, that a value is. A sign, a point or an exponent make
it another kind of number. -/
def natural? (width : Nat) : Json → Option Nat
  | number digits => (Decimal.digits? 10 digits.toList).filter (· < Nat.pow 2 width)
  | _ => none

/-! Writing JSON, on one line or with a line for each item and member. -/

/-- What stands for a character in a string. -/
def escaped (c : Char) : List Char :=
  if c = '"' then ['\\', '"']
  else if c = '\\' then ['\\', '\\']
  else if c = '\x08' then ['\\', 'b']
  else if c = '\x0c' then ['\\', 'f']
  else if c = '\n' then ['\\', 'n']
  else if c = '\r' then ['\\', 'r']
  else if c = '\t' then ['\\', 't']
  else if c.toNat < 0x20 then
    ['\\', 'u', '0', '0'] ++ List.replicate (2 - (Text.hexadecimal c.toNat).length) '0' ++
      Text.hexadecimal c.toNat
  else [c]

/-- A text as a string of JSON. -/
def quote (s : String) : String :=
  String.ofList ('"' :: s.toList.flatMap escaped ++ ['"'])

mutual
/-- A value on one line. -/
def compact : Json → String
  | null => "null"
  | bool b => if b then "true" else "false"
  | number digits => digits
  | string text? => quote (text?.getD "")
  | array items => "[" ++ compactItems items ++ "]"
  | object fields => "\x7b" ++ compactMembers fields ++ "\x7d"
  | illegible => "\x7b\x7d"

def compactItems : List Json → String
  | [] => ""
  | [item] => item.compact
  | item :: rest => item.compact ++ "," ++ compactItems rest

def compactMembers : List (String × Json) → String
  | [] => ""
  | [(key, item)] => quote key ++ ":" ++ item.compact
  | (key, item) :: rest => quote key ++ ":" ++ item.compact ++ "," ++ compactMembers rest
end

def newLine (depth : Nat) : String :=
  "\n" ++ String.ofList (List.replicate (2 * depth) ' ')

mutual
/-- A value at a depth, with a line for each item and member. -/
def prettyAt (depth : Nat) : Json → String
  | null => "null"
  | bool b => if b then "true" else "false"
  | number digits => digits
  | string text? => quote (text?.getD "")
  | array [] => "[]"
  | array (item :: rest) =>
    "[" ++ prettyItems (depth + 1) (item :: rest) ++ newLine depth ++ "]"
  | object [] => "\x7b\x7d"
  | illegible => "\x7b\x7d"
  | object (field :: rest) =>
    "\x7b" ++ prettyMembers (depth + 1) (field :: rest) ++ newLine depth ++ "\x7d"

def prettyItems (depth : Nat) : List Json → String
  | [] => ""
  | [item] => newLine depth ++ item.prettyAt depth
  | item :: rest => newLine depth ++ item.prettyAt depth ++ "," ++ prettyItems depth rest

def prettyMembers (depth : Nat) : List (String × Json) → String
  | [] => ""
  | [(key, item)] => newLine depth ++ quote key ++ ": " ++ item.prettyAt depth
  | (key, item) :: rest =>
    newLine depth ++ quote key ++ ": " ++ item.prettyAt depth ++ "," ++ prettyMembers depth rest
end

/-- A value with a line for each item and member. -/
def pretty (value : Json) : String :=
  value.prettyAt 0

end Json

end MutationTesting
