import MutationTesting.Decimal.Numeral
import MutationTesting.Json.Value
/-! Reading JSON: a text is cut into tokens, and these are put together to a value. -/
namespace MutationTesting.Json

/-- A token. A string without a text has half of a pair of code units in it. -/
inductive Token where
  | beginObject
  | endObject
  | beginArray
  | endArray
  | colon
  | comma
  | null
  | bool (value : Bool)
  | number (digits : String)
  | string (text? : Option String)
  deriving Repr, DecidableEq

/-- The blanks between tokens. -/
def isBlank (c : Char) : Bool :=
  c == ' ' || c == '\n' || c == '\t' || c == '\r'

/-- A part of a string: a character, or half of a pair of code units. -/
inductive Unit16 where
  | char (c : Char)
  | half (n : Nat)
  deriving Repr, DecidableEq

/-- The unit that an escape with a code denotes. -/
def Unit16.ofCode (n : Nat) : Unit16 :=
  if 0xD800 ≤ n ∧ n ≤ 0xDFFF then .half n else .char (Char.ofNat n)

/-- The characters of a string. A first half must be followed by a second one, and a second half
must follow a first one. -/
def joinUnits? : List Unit16 → Option (List Char)
  | [] => some []
  | .char c :: rest => (joinUnits? rest).map (c :: ·)
  | .half a :: .half b :: rest =>
    if a < 0xDC00 ∧ 0xDC00 ≤ b then
      (joinUnits? rest).map
        (Char.ofNat (0x10000 + (a - 0xD800) * 0x400 + (b - 0xDC00)) :: ·)
    else none
  | .half _ :: _ => none

/-- The character that a letter after a backslash denotes. -/
def escape? (c : Char) : Option Char :=
  match c with
  | '"' => some '"'
  | '\\' => some '\\'
  | '/' => some '/'
  | 'b' => some '\x08'
  | 'f' => some '\x0c'
  | 'n' => some '\n'
  | 'r' => some '\r'
  | 't' => some '\t'
  | _ => none

/-- The units of a string after its first quote, and what follows its last one. A control
character must be escaped. -/
def string? : List Char → Option (List Unit16 × List Char)
  | [] => none
  | '"' :: rest => some ([], rest)
  | '\\' :: 'u' :: a :: b :: c :: d :: rest => do
    let code ← Decimal.digits? 16 [a, b, c, d]
    let (units, rest) ← string? rest
    return (.ofCode code :: units, rest)
  | '\\' :: c :: rest => do
    let char ← escape? c
    let (units, rest) ← string? rest
    return (.char char :: units, rest)
  | c :: rest =>
    if c.toNat < 0x20 ∨ c = '\\' then none
    else (string? rest).map fun (units, rest) => (.char c :: units, rest)

/-- The digits at the start of a text, at least one, and the rest. -/
def digitRun? (cs : List Char) : Option (List Char × List Char) :=
  match cs.takeWhile Decimal.isDigit with
  | [] => none
  | digits => some (digits, cs.dropWhile Decimal.isDigit)

/-- The whole part of a number: one zero, or digits of which the first is none. -/
def whole? : List Char → Option (List Char × List Char)
  | '0' :: rest => some (['0'], rest)
  | cs => digitRun? cs

/-- A point and digits, if a point follows. -/
def fraction? : List Char → Option (List Char × List Char)
  | '.' :: rest => (digitRun? rest).map fun (digits, rest) => ('.' :: digits, rest)
  | cs => some ([], cs)

def exponent? : List Char → Option (List Char × List Char)
  | mark :: sign :: rest =>
    if mark = 'e' ∨ mark = 'E' then
      if sign = '+' ∨ sign = '-' then
        (digitRun? rest).map fun (digits, rest) => (mark :: sign :: digits, rest)
      else (digitRun? (sign :: rest)).map fun (digits, rest) => (mark :: digits, rest)
    else some ([], mark :: sign :: rest)
  | [mark] => if mark = 'e' ∨ mark = 'E' then none else some ([], [mark])
  | [] => some ([], [])

/-- A number without a sign, and the rest. -/
def unsigned? (cs : List Char) : Option (List Char × List Char) := do
  let (whole, rest) ← whole? cs
  let (fraction, rest) ← fraction? rest
  let (exponent, rest) ← exponent? rest
  return (whole ++ fraction ++ exponent, rest)

def number? (cs : List Char) : Option (List Char × List Char) :=
  match cs with
  | '-' :: rest => (unsigned? rest).map fun (digits, rest) => ('-' :: digits, rest)
  | _ => unsigned? cs

/-- The first token of a text that starts with none of the blanks, and the rest. -/
def first? : List Char → Option (Token × List Char)
  | '\x7b' :: rest => some (.beginObject, rest)
  | '\x7d' :: rest => some (.endObject, rest)
  | '[' :: rest => some (.beginArray, rest)
  | ']' :: rest => some (.endArray, rest)
  | ':' :: rest => some (.colon, rest)
  | ',' :: rest => some (.comma, rest)
  | 'n' :: 'u' :: 'l' :: 'l' :: rest => some (.null, rest)
  | 't' :: 'r' :: 'u' :: 'e' :: rest => some (.bool true, rest)
  | 'f' :: 'a' :: 'l' :: 's' :: 'e' :: rest => some (.bool false, rest)
  | '"' :: rest =>
    (string? rest).map fun (units, rest) =>
      (.string ((joinUnits? units).map String.ofList), rest)
  | cs => (number? cs).map fun (digits, rest) => (.number (String.ofList digits), rest)

/-- The tokens of a text, of which there are at most `limit`. -/
def tokensWithin? : (limit : Nat) → List Char → Option (List Token)
  | 0, cs => if cs.all isBlank then some [] else none
  | limit + 1, cs =>
    match cs.dropWhile isBlank with
    | [] => some []
    | cs => (first? cs).bind fun (token, rest) => (tokensWithin? limit rest).map (token :: ·)

/-- The tokens of a text. Each takes a character at least, so there are no more than those. -/
def tokens? (cs : List Char) : Option (List Token) :=
  tokensWithin? cs.length cs

def objectOf (members : List (Option String × Json)) : Json :=
  match members.mapM fun (key?, value) => key?.map fun key => (key, value) with
  | some fields => .object fields
  | none => .illegible

mutual
/-- The value at the start of a list of tokens, and the rest. The number bounds the depth of the
recursion. -/
def value? : Nat → List Token → Option (Json × List Token)
  | 0, _ => none
  | _ + 1, [] => none
  | fuel + 1, token :: rest =>
    match token with
    | .null => some (.null, rest)
    | .bool b => some (.bool b, rest)
    | .number digits => some (.number digits, rest)
    | .string text? => some (.string text?, rest)
    | .beginArray =>
      match rest with
      | .endArray :: rest => some (.array [], rest)
      | _ => (valuesFrom? fuel rest).map fun (items, rest) => (.array items, rest)
    | .beginObject =>
      match rest with
      | .endObject :: rest => some (.object [], rest)
      | _ => (membersFrom? fuel rest).map fun (fields, rest) => (objectOf fields, rest)
    | _ => none

def valuesFrom? : Nat → List Token → Option (List Json × List Token)
  | 0, _ => none
  | fuel + 1, tokens =>
    match value? fuel tokens with
    | some (item, .comma :: rest) =>
      (valuesFrom? fuel rest).map fun (items, rest) => (item :: items, rest)
    | some (item, .endArray :: rest) => some ([item], rest)
    | _ => none

def membersFrom? : Nat → List Token → Option (List (Option String × Json) × List Token)
  | 0, _ => none
  | fuel + 1, tokens =>
    match tokens with
    | .string key? :: .colon :: rest =>
      match value? fuel rest with
      | some (item, .comma :: rest) =>
        (membersFrom? fuel rest).map fun (fields, rest) => ((key?, item) :: fields, rest)
      | some (item, .endObject :: rest) => some ([(key?, item)], rest)
      | _ => none
    | _ => none
end

/-- The value that a text is, with nothing but blanks around it. -/
def parse? (s : String) : Option Json :=
  (tokens? s.toList).bind fun tokens =>
    match value? (2 * tokens.length + 1) tokens with
    | some (value, []) => some value
    | _ => none

end MutationTesting.Json
