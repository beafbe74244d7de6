import MutationTesting.Shell.Utility.Columns
import MutationTesting.Shell.Utility.Order
import MutationTesting.Shell.Utility.Sorted
/-! A program that puts lines in order, by all of them or by parts of them. -/
namespace MutationTesting.Shell.Utility

namespace Sorting

/-- How the texts of a key are compared. -/
structure Manner where
  skipsStart : Bool := false
  skipsEnd : Bool := false
  onlyWords : Bool := false
  foldsCase : Bool := false
  isGeneral : Bool := false
  hasUnits : Bool := false
  onlyPrinted : Bool := false
  isMonth : Bool := false
  isNumeric : Bool := false
  isRandom : Bool := false
  isReversed : Bool := false
  isVersion : Bool := false
  deriving Repr, DecidableEq

namespace Manner

/-- The manner with what a letter adds. -/
def with? (manner : Manner) (atStart atEnd : Bool) : Char → Option Manner
  | 'b' => some { manner with
      skipsStart := manner.skipsStart || atStart
      skipsEnd := manner.skipsEnd || atEnd }
  | 'd' => some { manner with onlyWords := true }
  | 'f' => some { manner with foldsCase := true }
  | 'g' => some { manner with isGeneral := true }
  | 'h' => some { manner with hasUnits := true }
  | 'i' => some { manner with onlyPrinted := true }
  | 'M' => some { manner with isMonth := true }
  | 'n' => some { manner with isNumeric := true }
  | 'R' => some { manner with isRandom := true }
  | 'r' => some { manner with isReversed := true }
  | 'V' => some { manner with isVersion := true }
  | _ => none

/-- The manner with what letters add, and what follows them. -/
def withAll (atStart atEnd : Bool) (manner : Manner) : List Char → Manner × List Char
  | [] => (manner, [])
  | c :: rest =>
    match manner.with? atStart atEnd c with
    | some manner => withAll atStart atEnd manner rest
    | none => (manner, c :: rest)

/-- Whether nothing is said of how texts are compared. -/
def isPlain (manner : Manner) : Bool :=
  { manner with isReversed := false } = {}

/-- The letters of a manner of which there are too many, if there are. -/
def clash? (manner : Manner) : Option String :=
  let ignores := manner.onlyWords || manner.onlyPrinted
  let count := [manner.isNumeric, manner.isGeneral, manner.hasUnits, manner.isMonth,
    manner.isVersion || manner.isRandom || ignores].filter id
  if count.length ≤ 1 then none
  else
    let letters : List (Bool × String) :=
      [(manner.onlyWords, "d"), (manner.foldsCase, "f"), (manner.isGeneral, "g"),
        (manner.hasUnits, "h"), (manner.onlyPrinted && !manner.onlyWords, "i"),
        (manner.isMonth, "M"), (manner.isNumeric, "n"), (manner.isRandom, "R"),
        (manner.isVersion, "V")]
    some (String.join ((letters.filter Prod.fst).map Prod.snd))

end Manner

/-- A place in a line: a number of fields to skip, and of characters in the next one. -/
structure Place where
  fields : Nat
  chars : Nat
  deriving Repr, DecidableEq

/-- A part of lines by which they are compared. -/
structure Key where
  start? : Option Place := none
  stop? : Option Place := none
  manner : Manner := {}
  deriving Repr, DecidableEq

/-- The number at a place of the description of a key. -/
def numberAt (what : String) (cs : List Char) : Except String (Nat × List Char) :=
  let digits := cs.takeWhile Char.isDigit
  if digits.isEmpty then
    .error (what ++ ": invalid count at start of " ++ quotedName (String.ofList cs))
  else .ok (numberOfDigits digits, cs.drop digits.length)

def Key.parse (text : String) : Except String Key := do
  let wrong (what : String) : Except String Unit :=
    .error (what ++ ": invalid field specification " ++ quotedName text)
  let (field, rest) ← numberAt "invalid number at field start" text.toList
  if field = 0 then wrong "field number is zero"
  let (chars, rest) ←
    match rest with
    | '.' :: rest => do
      let (chars, rest) ← numberAt "invalid number after '.'" rest
      if chars = 0 then wrong "character offset is zero"
      pure (chars - 1, rest)
    | rest => pure (0, rest)
  let start? := if field = 1 && chars = 0 then none else some (Place.mk (field - 1) chars)
  let (manner, rest) := Manner.withAll true false {} rest
  match rest with
  | ',' :: rest =>
    let (field, rest) ← numberAt "invalid number after ','" rest
    if field = 0 then wrong "field number is zero"
    let (chars, rest) ←
      match rest with
      | '.' :: rest => numberAt "invalid number after '.'" rest
      | rest => pure (0, rest)
    let (manner, rest) := Manner.withAll false true manner rest
    if !rest.isEmpty then wrong "stray character in field spec"
    return { start?, stop? := some ⟨field - 1, chars⟩, manner }
  | rest =>
    if !rest.isEmpty then wrong "stray character in field spec"
    return { start?, stop? := none, manner }

structure Settings where
  separator? : Option Char
  keys : List Key
  isReversed : Bool
  isStable : Bool
  isUnique : Bool

def afterFields (separator? : Option Char) : (count : Nat) → List Char → List Char
  | 0, cs => cs
  | count + 1, cs =>
    match separator? with
    | some separator => afterFields separator? count ((cs.dropWhile (· ≠ separator)).drop 1)
    | none =>
      afterFields separator? count ((cs.dropWhile isBlank).dropWhile fun c => !isBlank c)

/-- The place at which a key ends, as how much follows it. -/
def afterKey (separator? : Option Char) (skips : Bool) (place : Place) (cs : List Char) : Nat :=
  let whole := place.chars = 0
  match separator? with
  | some separator =>
    if whole then
      ((afterFields separator? place.fields cs).dropWhile (· ≠ separator)).length
    else
      let rest := afterFields separator? place.fields cs
      let rest := if skips then rest.dropWhile isBlank else rest
      (rest.drop place.chars).length
  | none =>
    let rest := afterFields none (if whole then place.fields + 1 else place.fields) cs
    if whole then rest.length
    else
      let rest := if skips then rest.dropWhile isBlank else rest
      (rest.drop place.chars).length

/-- The part of a line that a key names. -/
def Key.text (separator? : Option Char) (key : Key) (cs : List Char) : List Char :=
  let from' := match key.start? with
    | none => cs
    | some place => afterFields separator? place.fields cs
  let from' := if key.manner.skipsStart then from'.dropWhile isBlank else from'
  let from' := from'.drop ((key.start?.map Place.chars).getD 0)
  match key.stop? with
  | none => from'
  | some place =>
    from'.take (from'.length - afterKey separator? key.manner.skipsEnd place cs)

/-- What is compared of a line for a key. -/
inductive Value where
  | text (text : String)
  | decimal (number : Decimal)
  | units (order : Int) (number : Decimal)
  /-- A number with a fraction, if there is one. -/
  | general (number? : Option Real)
  | month (number : Nat)
  | version (text : String)

/-- What is compared of the text of a key. -/
def Manner.value (manner : Manner) (cs : List Char) : Value :=
  let cs := if manner.onlyWords then cs.filter fun c => c.isAlphanum || isBlank c
    else if manner.onlyPrinted then cs.filter fun c => 0x20 ≤ c.toNat && c.toNat < 0x7F
    else cs
  let cs := if manner.foldsCase then cs.map Char.toUpper else cs
  if manner.isNumeric then .decimal (Decimal.at' cs).fst
  else if manner.isGeneral then
    .general ((Real.at? .extended (cs.dropWhile isBlank)).map Prod.fst)
  else if manner.hasUnits then .units (Decimal.unitOrder cs) (Decimal.at' cs).fst
  else if manner.isMonth then .month (monthOf (String.ofList cs))
  else if manner.isVersion then .version (String.ofList cs)
  else .text (String.ofList cs)

def Value.order : Value → Value → Ordering
  | text a, text b => compareTexts a b
  | decimal a, decimal b => a.order b
  | units m a, units n b => (compare m n).then (a.order b)
  | month a, month b => compare a b
  | version a, version b => Version.order a b
  | general a, general b =>
    let rank (number? : Option Real) : Nat := match number? with
      | none => 0
      | some (.nothing _) => 1
      | some _ => 2
    (compare (rank a) (rank b)).then <|
      match a, b with
      | some a, some b => if rank (some a) = 2 then Real.order a b else .eq
      | _, _ => .eq
  | _, _ => .eq

structure Record where
  line : String
  values : List Value

def Settings.record (settings : Settings) (line : String) : Record :=
  { line
    values :=
      if settings.keys.isEmpty then []
      else
        let cs := line.toList
        settings.keys.map fun key => key.manner.value (key.text settings.separator? cs) }

def orderByKeys : List Key → List Value → List Value → Ordering
  | key :: keys, a :: firsts, b :: seconds =>
    match a.order b with
    | .eq => orderByKeys keys firsts seconds
    | found => if key.manner.isReversed then found.swap else found
  | _, _, _ => .eq

def Settings.order (settings : Settings) (a b : Record) : Ordering :=
  let byKeys := orderByKeys settings.keys a.values b.values
  if settings.keys.isEmpty || !(settings.isUnique || settings.isStable) then
    byKeys.then <|
      if settings.isReversed then compareTexts b.line a.line else compareTexts a.line b.line
  else byKeys

/-- Records, of equal neighbours the first one. -/
def Settings.unique (settings : Settings) (records : List Record) : List Record :=
  (records.foldl (fun (found : List Record) record =>
    match found with
    | last :: _ => if settings.order last record = .eq then found else record :: found
    | [] => [record]) []).reverse

def Settings.merged (settings : Settings) (first second : List Record) : List Record :=
  List.merge first second fun a b => settings.order a b ≠ .gt

def Settings.disorder? (settings : Settings) : (number : Nat) → List Record →
    Option (Nat × Record)
  | number, a :: b :: rest =>
    let order := settings.order a b
    if order = .gt || settings.isUnique && order = .eq then some (number + 1, b)
    else settings.disorder? (number + 1) (b :: rest)
  | _, _ => none

/-- Words that stand for the manners of comparing. -/
def words : List (String × Char) :=
  [("general-numeric", 'g'), ("human-numeric", 'h'), ("month", 'M'), ("numeric", 'n'),
    ("random", 'R'), ("version", 'V')]

/-- The word that a part of it stands for. -/
def wordOf? (words : List String) (text : String) : Option String :=
  if words.contains text then some text
  else
    match words.filter fun word => text.toList.isPrefixOf word.toList with
    | [word] => some word
    | _ => none

end Sorting

/-- Puts the lines of files in order. -/
def sort : Program := fun _ arguments => do
  let given ← Sh.takeAll 2 ("b,ignore-leading-blanks d,dictionary-order f,ignore-case " ++
    "g,general-numeric-sort i,ignore-nonprinting M,month-sort h,human-numeric-sort " ++
    "n,numeric-sort R,random-sort r,reverse V,version-sort sort: c C check:: k:,key m,merge " ++
    "o:,output s,stable S:,buffer-size t:,field-separator T:,temporary-directory u,unique " ++
    "z,zero-terminated batch-size: compress-program: debug files0-from: parallel: " ++
    "random-source:") arguments
  let letters ← given.options.filterMapM fun (key, value?) => do
    match key.toList with
    | [c] => return if (Sorting.Manner.with? {} true true c).isSome then some c else none
    | _ =>
      if key ≠ "sort" then return none
      let word := value?.getD ""
      match (Sorting.wordOf? (Sorting.words.map Prod.fst) word).bind
          fun word => Sorting.words.lookup word with
      | some c => return some c
      | none => Sh.failChoice 2 "--sort" word (Sorting.words.map fun (name, _) => [name])
  let global := (Sorting.Manner.withAll true true {} letters).fst
  let checks ← given.options.filterMapM fun (key, value?) => do
    match key, value? with
    | "c", _ | "check", none => return some 'c'
    | "C", _ => return some 'C'
    | "check", some word =>
      match Sorting.wordOf? ["quiet", "silent", "diagnose-first"] word with
      | some "diagnose-first" => return some 'c'
      | some _ => return some 'C'
      | none => Sh.failChoice 2 "--check" word [["quiet", "silent"], ["diagnose-first"]]
    | _, _ => return none
  if checks.contains 'c' && checks.contains 'C' then Sh.fail 2 "options '-cC' are incompatible"
  let keys ← (given.all "k").mapM fun text => do
    match Sorting.Key.parse text with
    | .ok key => return key
    | .error message => Sh.fail 2 message
  let separator? ← (given.last? "t").mapM fun text => do
    match text.toList with
    | [] => Sh.fail 2 "empty tab"
    | [c] => return c
    | ['\\', '0'] => return '\x00'
    | _ => Sh.fail 2 ("multi-character tab " ++ quotedName text)
  let keys := keys.map fun key =>
    if key.manner = {} then { key with manner := global } else key
  let keys :=
    if keys.isEmpty && !global.isPlain then [({ manner := global } : Sorting.Key)] else keys
  keys.forM fun key => do
    if let some letters := key.manner.clash? then
      Sh.fail 2 ("options '-" ++ letters ++ "' are incompatible")
  if !checks.isEmpty then
    if let _ :: extra :: _ := given.operands then
      Sh.fail 2 ("extra operand " ++ quotedName extra ++ " not allowed with -" ++
        String.ofList (checks.take 1))
    if given.has "o" then
      Sh.fail 2 ("options '-" ++ String.ofList (checks.take 1) ++ "o' are incompatible")
  let settings : Sorting.Settings := {
    separator?, keys
    isReversed := global.isReversed
    isStable := given.has "s"
    isUnique := given.has "u" }
  let mark := if given.has "z" then '\x00' else '\n'
  let paths := if given.operands.isEmpty then ["-"] else given.operands
  paths.forM fun path => do
    if path ≠ "-" then
      match ← Sh.openInput path with
      | .error reason =>
        let cause := if checks.isEmpty then "cannot read: " else "open failed: "
        Sh.fail 2 (cause ++ shownName path ++ ": " ++ reason)
      | .ok _ => return
  let lists ← paths.mapM fun path => do
    match ← Sh.readInput .all path with
    | .ok bytes =>
      return (linesEndedBy mark (textOfBytes bytes)).map settings.record
    | .error reason => Sh.fail 2 ("read failed: " ++ shownName path ++ ": " ++ reason)
  if let check :: _ := checks then
    match settings.disorder? 1 lists.flatten with
    | none => return 0
    | some (number, record) =>
      if check = 'c' then
        Sh.warn (paths.headD "" ++ s!":{number}: disorder: " ++ record.line)
      return 1
  let sorted :=
    if given.has "m" then lists.foldl settings.merged []
    else lists.flatten.mergeSort fun a b => settings.order a b ≠ .gt
  let sorted := if settings.isUnique then settings.unique sorted else sorted
  let shown := String.join (sorted.map fun record => record.line.push mark)
  match given.last? "o" with
  | none | some "-" => Sh.say shown
  | some path =>
    match ← Sh.openFile .write path with
    | .error reason => Sh.fail 2 ("open failed: " ++ shownName path ++ ": " ++ reason)
    | .ok opened =>
      let number ← Sh.newOpened opened
      let _ ← Sh.writeTo number opened (bytesOfText shown)
  return 0

end MutationTesting.Shell.Utility
