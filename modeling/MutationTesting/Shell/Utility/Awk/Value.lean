import MutationTesting.Decimal.Layout
import MutationTesting.Shell.Number
import Std.Data.HashMap
/-! Values of scripts that work on records: numbers, texts, and texts from outside that count as
numbers. A format lays values out; what a number is as a text depends on one. -/
namespace MutationTesting.Shell.Utility.Awk

inductive Value where
  /-- What a variable has before it has been given something. -/
  | nothing
  | number (x : Float)
  | text (written : String)
  /-- A text from outside that looks like a number. -/
  | numeral (written : String) (x : Float)
  deriving Inhabited

/-- A number as one that can be shown. -/
def realOf (x : Float) : Real :=
  if x.isNaN then .nothing true
  else if x.isInf then .infinite (Decimal.isNegative x)
  else match Decimal.binary? x with
    | some binary => .finite (Decimal.isNegative x) binary.significand binary.exponent
    | none => .finite (Decimal.isNegative x) 0 0

/-- The number that has been read from a text. -/
def floatOf (number : Real) : Float :=
  let magnitude : Float := match number with
    | .finite _ mantissa exponent => (Float.ofNat mantissa).scaleB exponent
    | .infinite _ => 1.0 / 0.0
    | .nothing _ => 0.0 / 0.0
  if number.isNegative then -magnitude else magnitude

/-- The number at the start of a text, or zero. -/
def numberIn (cs : List Char) : Float :=
  match Real.at? .double cs with
  | some (number, _) => floatOf number
  | none => 0.0

def isBlank (c : Char) : Bool :=
  c = ' ' || c = '\t' || c = '\n'

/-- The number that a text from outside is, with nothing but blanks around it. -/
def numeralIn? (cs : List Char) : Option Float :=
  let inner := cs.dropWhile Pattern.isSpace
  let digits := match inner with
    | '+' :: rest | '-' :: rest => rest
    | rest => rest
  match digits with
  | c :: _ =>
    if (c.isDigit || c = '.') && (digits.getD 1 ' ').toLower ≠ 'x' then
      match Real.at? .double inner with
      | some (number, rest) => if rest.all Pattern.isSpace then some (floatOf number) else none
      | none => none
    else none
  | [] => none

def Value.ofInput (text : String) : Value :=
  match numeralIn? text.toList with
  | some x => .numeral text x
  | none => .text text

namespace Value

def ofBool (holds : Bool) : Value :=
  .number (if holds then 1.0 else 0.0)

def ofNat (n : Nat) : Value :=
  .number (Float.ofNat n)

def toFloat : Value → Float
  | .nothing => 0.0
  | .number x | .numeral _ x => x
  | .text s => numberIn s.toList

def holds : Value → Bool
  | .nothing => false
  | .number x | .numeral _ x => x != 0.0
  | .text s => !s.isEmpty

/-- Whether a value is compared as a number with numbers. -/
def isNumeric : Value → Bool
  | .text _ => false
  | _ => true

end Value

/-- The integer next to a number on the way to zero. -/
def truncated (x : Float) : Int :=
  match realOf x with
  | .finite isNegative mantissa exponent =>
    let (numerator, denominator) := Real.fraction mantissa exponent
    let n := numerator / denominator
    if isNegative then -(n : Int) else n
  | .infinite isNegative | .nothing isNegative =>
    if isNegative then -(Nat.pow 2 70) else Nat.pow 2 70

/-- The integer that a number is, if it is one. -/
def integral? (x : Float) : Option Int :=
  match realOf x with
  | .finite .. => if x == x.floor then some (truncated x) else none
  | _ => none

/-- The integer that is shown for a number: none of more than 64 bits. -/
def shownInteger (x : Float) : Int :=
  let n := truncated x
  if n < -largest then (if n = smallest then smallest else -largest) else min n (Nat.pow 2 64 - 1)

inductive FormatFault where
  /-- There are fewer values than conversions. -/
  | missing
  /-- The conversion of a number is none. -/
  | improper (number : Nat)
  deriving Repr, DecidableEq

/-- One value as a conversion lays it out. -/
def laidOut? (textOf : Value → String) (layout : Layout) (letter : Char) (value : Value) :
    Option (List Char) :=
  match letter with
  | 'd' | 'i' => some (layout.signed (shownInteger value.toFloat))
  | 'o' | 'x' | 'X' | 'u' =>
    some (layout.unsigned letter (shownInteger value.toFloat % Nat.pow 2 64).toNat)
  | 'e' | 'E' | 'f' | 'F' | 'g' | 'G' => some (layout.real letter (realOf value.toFloat))
  | 'c' =>
    let c := match value with
      | .number x | .numeral _ x => Char.ofNat (truncated x % 256).toNat
      | .nothing => '\x00'
      | .text s => s.toList.headD '\x00'
    some (layout.pad [c])
  | 's' => some (layout.text (textOf value).toList)
  | '%' => some ['%']
  | _ => none

/-- A width or a precision, and the values that are left. -/
def measured (measure? : Option Measure) (values : List Value) :
    Except FormatFault (Option Int × List Value) :=
  match measure?, values with
  | none, _ => .ok (none, values)
  | some (.fixed n), _ => .ok (some n, values)
  | some .argument, value :: rest => .ok (some (truncated value.toFloat), rest)
  | some .argument, [] => .error .missing

/-- The conversion behind a percent sign with the values that are left: its text, the format behind
it and the values behind it. -/
def converted (textOf : Value → String) (number : Nat) (cs : List Char) (values : List Value) :
    Except FormatFault (List Char × List Char × List Value) := do
  let (directive, rest) := directiveAt cs
  let (width?, values) ← measured directive.width? values
  let (precision?, values) ← measured directive.precision? values
  let layout : Layout := { flags := directive.flags, precision? := none }
  let layout := layout.withWidth (width?.getD 0)
  let layout := { layout with
    precision? := precision?.bind fun n => if n < 0 then none else some n.toNat }
  match rest.dropWhile fun c => c = 'l' || c = 'h' with
  | [] => throw (.improper number)
  | letter :: rest =>
    match laidOut? textOf layout letter (values.headD .nothing), values with
    | none, _ => throw (.improper number)
    | some _, [] => throw .missing
    | some cs, _ :: values => return (cs, rest, values)

/-- Values as a format lays them out, and what is wrong with the format behind that. `found` lists
the characters so far, the last one first. -/
def layOutAll (textOf : Value → String) : (fuel number : Nat) → (found : List Char) →
    List Char → List Value → List Char × Option FormatFault
  | 0, _, found, _, _ => (found.reverse, none)
  | _, _, found, [], _ => (found.reverse, none)
  | fuel + 1, number, found, '%' :: '%' :: rest, values =>
    layOutAll textOf fuel number ('%' :: found) rest values
  | fuel + 1, number, found, '%' :: rest, values =>
    match converted textOf number rest values with
    | .error fault => (found.reverse, some fault)
    | .ok (cs, rest, values) =>
      layOutAll textOf fuel (number + 1) (cs.reverse ++ found) rest values
  | fuel + 1, number, found, c :: rest, values =>
    layOutAll textOf fuel number (c :: found) rest values

/-- Values as a format lays them out, and what is wrong with the format. A format ends before the
byte zero. -/
def layOut (textOf : Value → String) (format : String) (values : List Value) :
    String × Option FormatFault :=
  let format := format.toList.takeWhile (· ≠ '\x00')
  let (cs, fault?) := layOutAll textOf (format.length + 1) 1 [] format values
  (String.ofList cs, fault?)

/-- A number as a text: an integer as it is, and others as a format lays them out. -/
def textOfNumber (format : String) (x : Float) : String :=
  let inWords : String := (layOut (fun _ => "") format [.number x]).1
  match integral? x with
  | some n =>
    if smallest ≤ n && n ≤ Nat.pow 2 64 then toString (min n (Nat.pow 2 64 - 1)) else inWords
  | none => inWords

def Value.toText (format : String) : Value → String
  | .nothing => ""
  | .number x => textOfNumber format x
  | .text s | .numeral s _ => s

/-! Tables: values by keys, with the order in which a loop goes through the keys. Keys are in lists
by their hash, one that has been asked for last at the front. Integers have lists of their own until
a key that is a text is asked for. -/

/-- What a value is looked for with. -/
inductive Key where
  | number (n : Int)
  | name (name : String)
  deriving Repr, DecidableEq

def Key.text : Key → String
  | .number n => toString n
  | .name s => s

def Key.ofValue (format : String) (value : Value) : Key :=
  match value with
  | .number x =>
    match integral? x with
    | some n => if smallest ≤ n && n ≤ largest then .number n else .name (value.toText format)
    | none => .name (value.toText format)
  | _ => .name (value.toText format)

/-- How many lists there are at first, and how many keys to a list there may be. -/
def firstLists : Nat := 64

def mostInList : Nat := 12

structure Table where
  values : Std.HashMap String Value := {}
  /-- The keys as texts. -/
  names : Array (List String) := Array.replicate firstLists []
  /-- The keys that have been asked for as integers. -/
  numbers : Array (List Int) := Array.replicate firstLists []
  /-- Whether all keys are in the lists of texts. -/
  hasNames : Bool := false
  hasNumbers : Bool := false
  deriving Inhabited

/-- The hash of a text: its bytes are mixed into 32 bits, one after another. -/
def hashOf (text : String) : Nat :=
  text.foldl (fun hash c => ((hash ^^^ c.toNat) * 16777619) % Nat.pow 2 32) 2166136261

namespace Table

def size (table : Table) : Nat :=
  table.values.size

def nameList (table : Table) (name : String) : Nat :=
  hashOf name % table.names.size

def numberList (table : Table) (n : Int) : Nat :=
  (n % table.numbers.size).toNat

def contains (table : Table) (key : Key) : Bool :=
  table.values.contains key.text

def get? (table : Table) (key : Key) : Option Value :=
  table.values.get? key.text

def atFront [BEq α] (lists : Array (List α)) (place : Nat) (item : α) : Array (List α) :=
  lists.modify place fun list => item :: list.filter (· != item)

/-- Twice as many lists, the items of each kept in their order. -/
def doubled (lists : Array (List α)) (placeOf : α → Nat) : Array (List α) :=
  let size := lists.size
  let kept := (List.range size).map fun place =>
    (lists.getD place []).partition fun item => placeOf item % (2 * size) = place
  ((kept.map Prod.fst) ++ (kept.map Prod.snd)).toArray

/-- The table with twice as many lists if there are too many keys for them. -/
def roomy (table : Table) : Table :=
  if table.names.size * mostInList < table.size then
    { table with
      names := doubled table.names hashOf
      numbers := doubled table.numbers fun n => (n % (2 * table.numbers.size)).toNat }
  else table

/-- Puts the keys that are integers into the lists of texts, too. -/
def named (table : Table) : Table :=
  if table.hasNames then table
  else
    let names := table.numbers.foldl (fun names list =>
      list.foldl (fun names n =>
        let name := toString n
        if (names.getD (table.nameList name) []).contains name then names
        else names.modify (table.nameList name) (name :: ·)) names) table.names
    { table with names, hasNames := table.hasNumbers }

/-- Takes note that a text has been asked for, and makes it a key if there is none. -/
def askName (table : Table) (name : String) : Table :=
  let table := table.named
  if table.values.contains name then
    { table with names := atFront table.names (table.nameList name) name }
  else
    let table := { table with values := table.values.insert name .nothing, hasNames := true }
    let table := table.roomy
    { table with names := table.names.modify (table.nameList name) (name :: ·) }

/-- Takes note that a key has been asked for, and makes it one if it is not. -/
def ask (table : Table) (key : Key) : Table :=
  match key with
  | .name name => table.askName name
  | .number n =>
    if (table.numbers.getD (table.numberList n) []).contains n then
      { table with numbers := atFront table.numbers (table.numberList n) n }
    else
      let table :=
        if table.hasNames then table.askName (toString n)
        else { table with values := table.values.insert (toString n) .nothing }.roomy
      { table with
        numbers := table.numbers.modify (table.numberList n) (n :: ·)
        hasNumbers := true }

def put (table : Table) (key : Key) (value : Value) : Table :=
  let table := table.ask key
  { table with values := table.values.insert key.text value }

def erase (table : Table) (key : Key) : Table :=
  let name := key.text
  if table.values.contains name then
    let values := table.values.erase name
    if values.isEmpty then {}
    else
      let table := match key with
        | .name _ => table.named
        | .number _ => table
      let numbers := match name.toInt? with
        | some n => table.numbers.modify (table.numberList n) (List.filter (· != n))
        | none => table.numbers
      { table with
        values
        numbers
        names := table.names.modify (table.nameList name) (List.filter (· != name)) }
  else table

/-- The keys in the order in which a loop goes through them. -/
def keys (table : Table) : List String :=
  table.named.names.toList.flatten

/-- A table of values by the numbers from one on. -/
def ofList (values : List Value) : Table :=
  (values.foldl (fun (table, n) value => (table.put (.number n) value, n + 1))
    (({} : Table), (1 : Int))).1

end Table

end MutationTesting.Shell.Utility.Awk
