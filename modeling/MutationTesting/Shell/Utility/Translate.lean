import MutationTesting.Shell.Builtin.Echo
import MutationTesting.Shell.Pattern
import MutationTesting.Shell.Utility.Basic
/-! A program that replaces characters by others, removes them, or keeps one of several equal ones
in a row. Its arguments describe lists of characters. -/
namespace MutationTesting.Shell.Utility

namespace Translate

inductive Part where
  | one (c : Char)
  | range (first last : Char)
  | «class» (name : String) (members : List Char)
  | same (c : Char)
  | repeated (c : Char) (count : Nat)
  deriving Repr, DecidableEq

def bytes : List Char :=
  (List.range 256).map Char.ofNat

namespace Part

def chars : Part → List Char
  | one c => [c]
  | same c => [c]
  | range first last =>
    (List.range (last.toNat + 1 - first.toNat)).map fun n => Char.ofNat (first.toNat + n)
  | «class» _ members => members
  | repeated c count => List.replicate count c

/-- Whether a part is repeated until there is enough of it. -/
def isOpen : Part → Bool
  | repeated _ count => count = 0
  | _ => false

/-- Whether a part is one of the classes of the letters of one case. -/
def isCase : Part → Bool
  | «class» name _ => name = "upper" || name = "lower"
  | _ => false

def isClass : Part → Bool
  | «class» .. => true
  | _ => false

end Part

/-- A byte as it is shown when it cannot be seen. -/
def shownChar (c : Char) : List Char :=
  if 0x20 ≤ c.toNat && c.toNat < 0x7F then [c]
  else
    let digits := Nat.toDigits 8 c.toNat
    '\\' :: List.replicate (3 - digits.length) '0' ++ digits

def shownText (cs : List Char) : String :=
  String.ofList (cs.flatMap fun c => if c = '\\' then ['\\', '\\'] else shownChar c)

/-- The characters of a description, each with whether there was a backslash before it. -/
def unescaped : (fuel : Nat) → List Char → List (Char × Bool)
  | 0, _ | _, [] => []
  | _, ['\\'] => [('\\', false)]
  | fuel + 1, '\\' :: c :: rest =>
    match control? c with
    | some control => (control, true) :: unescaped fuel rest
    | none =>
      let digits := ((c :: rest).take 3).takeWhile isOctalDigit
      let value := digits.foldl (fun value c => value * 8 + (c.toNat - '0'.toNat)) 0
      let digits := if value < 256 then digits else digits.take 2
      if digits.isEmpty then (c, true) :: unescaped fuel rest
      else (octalByte digits, true) :: unescaped fuel ((c :: rest).drop digits.length)
  | fuel + 1, c :: rest => (c, false) :: unescaped fuel rest

/-- What is said of the backslashes of a description. -/
def doubts : (fuel : Nat) → List Char → List String
  | 0, _ | _, [] => []
  | _, ['\\'] => ["warning: an unescaped backslash at end of string is not portable"]
  | fuel + 1, '\\' :: rest =>
    match rest with
    | a :: b :: c :: after =>
      if '4' ≤ a && [a, b, c].all isOctalDigit then
        ("warning: the ambiguous octal escape \\" ++ String.ofList [a, b, c] ++
          " is being\n\tinterpreted as the 2-byte sequence \\0" ++ String.ofList [a, b] ++ ", " ++
          String.singleton c) :: doubts fuel (c :: after)
      else doubts fuel (b :: c :: after)
    | _ => doubts fuel (rest.drop 1)
  | fuel + 1, _ :: rest => doubts fuel rest

/-- What stands before a sign and a closing bracket, and what follows the bracket. -/
def before? (sign : Char) : (found : List Char) → List (Char × Bool) →
    Option (List Char × List (Char × Bool))
  | found, (a, false) :: (b, false) :: rest =>
    if a = sign && b = ']' then some (found.reverse, rest)
    else before? sign (a :: found) ((b, false) :: rest)
  | found, (a, _) :: rest => before? sign (a :: found) rest
  | _, [] => none

/-- Whether the digits of a count follow a star, and then a closing bracket. -/
def isCount : List (Char × Bool) → Bool
  | ('*', false) :: rest =>
    match rest.dropWhile fun (c, isEscaped) => c.isDigit && !isEscaped with
    | (']', false) :: _ => true
    | _ => false
  | _ => false

/-- What follows an opening bracket, if that is a character, a star, a count and a bracket. An error
if the count is not a number. -/
def repeatedAt? (cs : List (Char × Bool)) : Except String (Option (Part × List (Char × Bool))) :=
  match cs with
  | (c, _) :: ('*', false) :: rest =>
    let plain := rest.takeWhile fun (c, isEscaped) => !isEscaped && c ≠ ']'
    match rest.drop plain.length with
    | (']', false) :: after =>
      let digits := plain.map Prod.fst
      let base := if digits.head? = some '0' then 8 else 10
      let isNumber := digits.all fun c => c.isDigit && c.toNat - '0'.toNat < base
      if isNumber then
        .ok (some (.repeated c (digits.foldl (fun n d => n * base + (d.toNat - '0'.toNat)) 0),
          after))
      else
        .error ("invalid repeat count '" ++ shownText digits ++ "' in [c*n] construct")
    | _ => .ok none
  | _ => .ok none

def class? (name : String) : Option Part :=
  (Pattern.classes.lookup name).map fun holds => .class name (bytes.filter holds)

/-- The parts that follow each other in a description. -/
def partsOf : (fuel : Nat) → (found : List Part) → List (Char × Bool) → Except String (List Part)
  | 0, found, _ => .ok found.reverse
  | fuel + 1, found, cs => do
    match cs with
    | [] => return found.reverse
    | [(a, _)] => return (Part.one a :: found).reverse
    | [(a, _), (b, _)] => return (Part.one b :: .one a :: found).reverse
    | ('[', false) :: (sign, false) :: rest =>
      match if sign = ':' || sign = '=' then before? sign [] rest else none with
      | some (name, after) =>
        let text := String.ofList name
        let part? := if sign = ':' then class? text else
          match name with
          | [c] => some (.same c)
          | _ => none
        match part? with
        | some part => partsOf fuel (part :: found) after
        | none =>
          if name.isEmpty then
            throw (if sign = ':' then "missing character class name '[::]'"
              else "missing equivalence class character '[==]'")
          else if isCount rest then plainly fuel found cs
          else if sign = ':' then
            throw ("invalid character class '" ++ shownText name ++ "'")
          else
            throw (shownText name ++ ": equivalence class operand must be a single character")
      | none => plainly fuel found cs
    | _ => plainly fuel found cs
where
  /-- The parts of a description that starts with a repeated character, a range or a character. -/
  plainly (fuel : Nat) (found : List Part) (cs : List (Char × Bool)) :
      Except String (List Part) := do
    let repeated? ←
      match cs with
      | ('[', false) :: rest => repeatedAt? rest
      | _ => pure none
    match repeated?, cs with
    | some (part, after), _ => partsOf fuel (part :: found) after
    | none, (first, _) :: ('-', false) :: (last, _) :: rest =>
      if last < first then
        throw ("range-endpoints of '" ++ String.ofList (shownChar first) ++ "-" ++
          String.ofList (shownChar last) ++ "' are in reverse collating sequence order")
      partsOf fuel (.range first last :: found) rest
    | none, (c, _) :: rest => partsOf fuel (.one c :: found) rest
    | none, [] => return found.reverse

def parse (text : String) : Except String (List Part) :=
  partsOf (text.length + 1) [] (unescaped (text.length + 1) text.toList)

def lengthOf (parts : List Part) : Nat :=
  parts.foldl (fun length part => length + part.chars.length) 0

structure Cell where
  char : Char
  /-- The name of the class that it comes from, if that is one of the letters of one case. -/
  case? : Option String
  /-- Whether a part starts with it. -/
  isFirst : Bool

def cells (parts : List Part) : List Cell :=
  parts.flatMap fun part =>
    let case? := match part with
      | .class name _ => if part.isCase then some name else none
      | _ => none
    part.chars.zipIdx.map fun (char, index) => { char, case?, isFirst := index = 0 }

/-- The characters of two lists that belong together. A class of the letters of one case in the
second list belongs to one in the first, or there is an error. -/
def pairs : (fuel : Nat) → (found : List (Cell × Cell)) → (firsts seconds : List Cell) →
    Except String (List (Cell × Cell))
  | 0, found, _, _ | _, found, [], _ | _, found, _, [] => .ok found.reverse
  | fuel + 1, found, first :: firsts, second :: seconds =>
    if second.case?.isNone then pairs fuel ((first, second) :: found) firsts seconds
    else if first.case?.isNone || !first.isFirst then
      .error "misaligned [:upper:] and/or [:lower:] construct"
    else
      let rest (cells : List Cell) : List Cell := cells.dropWhile fun cell => !cell.isFirst
      pairs fuel ((first, second) :: found) (rest firsts) (rest seconds)

/-- What the program is asked to do. -/
structure Task where
  isComplement : Bool
  removes : Bool
  squeezes : Bool
  truncates : Bool
  first : List Part
  second? : Option (List Part)

namespace Task

def replaces (task : Task) : Bool :=
  task.second?.isSome && !task.removes

/-- For each byte whether it is among some characters. -/
def membership (chars : List Char) : Array Bool :=
  (bytes.map chars.contains).toArray

/-- For each byte whether it is in the first list, or not if the others are meant. -/
def meaning (task : Task) : Array Bool :=
  (membership (task.first.flatMap Part.chars)).map fun isListed => isListed != task.isComplement

/-- The bytes that are meant, from the least one on. -/
def meant (task : Task) : List Char :=
  let table := task.meaning
  bytes.filter fun c => table.getD c.toNat false

/-- How many characters the first list stands for. -/
def firstLength (task : Task) : Nat :=
  if task.isComplement then task.meant.length else lengthOf task.first

/-- The second list with as much of its open part as the first list is longer. -/
def filled (task : Task) (second : List Part) : List Part :=
  second.map fun part =>
    match part with
    | .repeated c 0 => .repeated c (task.firstLength - lengthOf second)
    | part => part

/-- The second list, as long as the first one if need be, or why there cannot be such lists. -/
def checked (task : Task) (second : List Part) : Except String (List Part) := do
  let openParts := second.filter Part.isOpen
  if 1 < openParts.length then
    throw "only one [c*] repeat construct may appear in string2"
  let second := task.filled second
  if !task.replaces then
    if !openParts.isEmpty then
      throw "the [c*] construct may appear in string2 only when translating"
    return second
  if second.any fun part => match part with
      | .same _ => true
      | _ => false then
    throw "[=c=] expressions may not appear in string2 when translating"
  if second.any fun part => part.isClass && !part.isCase then
    throw ("when translating, the only character classes that may appear in\n" ++
      "string2 are 'upper' and 'lower'")
  if !task.isComplement && second.any Part.isClass then
    let _ ← pairs (256 * (task.first.length + second.length)) [] (cells task.first) (cells second)
  let missing := task.firstLength - lengthOf second
  let second ←
    if missing = 0 || task.truncates then pure second
    else
      match second.getLast? with
      | none => throw "when not truncating set1, string2 must be non-empty"
      | some (.class ..) =>
        throw ("when translating with string1 longer than string2,\n" ++
          "the latter string must not end with a character class")
      | some (.one c) | some (.range _ c) | some (.repeated c _) | some (.same c) =>
        pure (second ++ [.repeated c missing])
  if task.isComplement && task.first.any Part.isClass then
    let chars := second.flatMap Part.chars
    let isEven := chars.length = task.firstLength && chars.all fun c => some c = chars.head?
    if !isEven then
      throw ("when translating with complemented character classes,\n" ++
        "string2 must map all characters in the domain to one")
  return second

def replacement (task : Task) (second : List Part) : Array Char :=
  let assigned : List (Char × Char) :=
    if task.isComplement then task.meant.zip (second.flatMap Part.chars)
    else
      let fuel := 256 * (task.first.length + second.length) + lengthOf second
      match pairs fuel [] (cells task.first) (cells second) with
      | .error _ => []
      | .ok found => found.flatMap fun (first, second) =>
        match first.case?, second.case? with
        | some "lower", some "upper" =>
          (bytes.filter Char.isLower).map fun c => (c, c.toUpper)
        | some "upper", some "lower" =>
          (bytes.filter Char.isUpper).map fun c => (c, c.toLower)
        | _, _ => [(first.char, second.char)]
  assigned.foldl (fun (table : Array Char) (first, second) =>
    table.setIfInBounds first.toNat second) bytes.toArray

/-- A text with one of each row of equal characters that a table names. -/
def squeezed (table : Array Bool) (text : String) : String :=
  (text.foldl (fun (shown, last?) c =>
    (if some c = last? && table.getD c.toNat false then shown else shown.push c, some c))
    ("", none)).fst

def change (task : Task) (text : String) : String :=
  let second := task.second?.getD []
  let text :=
    if task.replaces then
      let table := task.replacement second
      text.map fun c => table.getD c.toNat c
    else if task.removes then
      let table := task.meaning
      text.foldl (fun shown c => if table.getD c.toNat false then shown else shown.push c) ""
    else text
  if task.squeezes then
    squeezed (if task.second?.isSome then membership (second.flatMap Part.chars) else task.meaning)
      text
  else text

end Task

end Translate

/-- Replaces, removes or squeezes the characters of the input. -/
def tr : Program := fun _ arguments => do
  let given ← Sh.takeFirst 1
    "c C,complement d,delete s,squeeze-repeats t,truncate-set1" arguments
  let removes := given.has "d"
  let squeezes := given.has "s"
  let least := if removes = squeezes then 2 else 1
  let most := if removes && !squeezes then 1 else 2
  match given.operands with
  | [] => Sh.failMissing 1
  | operands =>
    if operands.length < least then
      Sh.warn ("missing operand after " ++ quotedName (operands.getLastD ""))
      Sh.tryWrite 2 (if squeezes then
          "Two strings must be given when both deleting and squeezing repeats.\n"
        else "Two strings must be given when translating.\n")
      Sh.usage 1
    if most < operands.length then
      Sh.warn ("extra operand " ++ quotedName (operands.getD most ""))
      if operands.length = 2 then
        Sh.tryWrite 2 "Only one string may be given when deleting without squeezing repeats.\n"
      Sh.usage 1
    operands.forM fun operand =>
      (Translate.doubts (operand.length + 1) operand.toList).forM Sh.warn
    let task? : Except String Translate.Task := do
      let first ← Translate.parse (operands.headD "")
      let second? ← operands[1]?.mapM Translate.parse
      let task : Translate.Task := {
        isComplement := given.has "c" || given.has "C"
        removes
        squeezes
        truncates := given.has "t"
        first
        second? }
      if first.any Translate.Part.isOpen then
        throw "the [c*] repeat construct may not appear in string1"
      let second? ← second?.mapM task.checked
      return { task with second? }
    match task? with
    | .error message => Sh.fail 1 message
    | .ok task =>
      match ← Sh.readInput .sample "-" with
      | .error reason => Sh.fail 1 ("read error: " ++ reason)
      | .ok bytes =>
        Sh.say (task.change (textOfBytes bytes))
        Sh.endIfEndless ["-"]
        return 0

end MutationTesting.Shell.Utility
