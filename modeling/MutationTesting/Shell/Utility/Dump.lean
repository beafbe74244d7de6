import MutationTesting.Shell.Number
import MutationTesting.Shell.Utility.Columns
import MutationTesting.Shell.Utility.Show
/-! A program that shows the bytes of files as numbers or characters. -/
namespace MutationTesting.Shell.Utility

namespace Dump

/-- What a group of bytes is shown as. -/
inductive Kind where
  | name
  | character
  | signed
  | unsigned
  | octal
  | hexadecimal
  deriving Repr, DecidableEq

/-- A way to show bytes: what they are shown as, how many together, and whether characters are shown
behind the numbers. -/
structure View where
  kind : Kind
  size : Nat
  hasTrailer : Bool := false
  deriving Repr, DecidableEq

namespace View

/-- The names of the bytes that cannot be seen. -/
def names : List String :=
  ["nul", "soh", "stx", "etx", "eot", "enq", "ack", "bel", "bs", "ht", "nl", "vt", "ff", "cr", "so",
    "si", "dle", "dc1", "dc2", "dc3", "dc4", "nak", "syn", "etb", "can", "em", "sub", "esc", "fs",
    "gs", "rs", "us", "sp"]

/-- A byte as a character or what stands for it. -/
def characterOf (c : Char) : String :=
  match c with
  | '\x00' => "\\0"
  | '\x07' => "\\a"
  | '\x08' => "\\b"
  | '\x0c' => "\\f"
  | '\n' => "\\n"
  | '\r' => "\\r"
  | '\t' => "\\t"
  | '\x0b' => "\\v"
  | c =>
    if 0x20 ≤ c.toNat && c.toNat < 0x7F then String.singleton c
    else
      let digits := Nat.toDigits 8 c.toNat
      String.ofList (List.replicate (3 - digits.length) '0' ++ digits)

def width (view : View) : Nat :=
  match view.kind with
  | .name | .character => 3
  | .octal => (8 * view.size + 2) / 3
  | .hexadecimal => 2 * view.size
  | .unsigned => (toString (Nat.pow 256 view.size - 1)).length
  | .signed => (toString (Nat.pow 256 view.size / 2)).length + 1

/-- A group of bytes, the least one first, as it is shown. -/
def shown (view : View) (group : List Char) : String :=
  let value := group.foldr (fun c value => value * 256 + c.toNat) 0
  let digits (base : Nat) : String :=
    let digits := Nat.toDigits base value
    String.ofList (List.replicate (view.width - digits.length) '0' ++ digits)
  match view.kind with
  | .name =>
    let code := (group.headD '\x00').toNat % 128
    if code = 127 then "del" else names.getD code (String.singleton (Char.ofNat code))
  | .character => characterOf (group.headD '\x00')
  | .octal => digits 8
  | .hexadecimal => digits 16
  | .unsigned => toString value
  | .signed =>
    if 2 * value < Nat.pow 256 view.size then toString value
    else toString ((value : Int) - Nat.pow 256 view.size)

/-- A block of bytes as a line without the address. `padding` is how much wider than its groups the
line is. -/
def line (view : View) (blockSize padding : Nat) (block : List Char) : String :=
  let fields := blockSize / view.size
  let blank := (blockSize - block.length) / view.size
  let padded := block ++ List.replicate (blockSize - block.length) '\x00'
  let (text, _) := (List.range (fields - blank)).foldl (fun (text, left) index =>
    let next := padding * (fields - index - 1) / fields
    let group := (padded.drop (index * view.size)).take view.size
    (text ++ padLeft (left - next + view.width) (view.shown group), next)) ("", padding)
  if view.hasTrailer then
    let shown := block.map fun c => if 0x20 ≤ c.toNat && c.toNat < 0x7F then c else '.'
    text ++ blanks (blank * (view.width + padding / fields)) ++ "  >" ++ String.ofList shown ++ "<"
  else text

end View

def viewsOf (text : String) : (fuel : Nat) → List Char → Except String (List View)
  | 0, _ | _, [] => .ok []
  | fuel + 1, c :: rest => do
    let kind ← match c with
      | 'a' => pure Kind.name
      | 'c' => pure Kind.character
      | 'd' => pure Kind.signed
      | 'u' => pure Kind.unsigned
      | 'o' => pure Kind.octal
      | 'x' => pure Kind.hexadecimal
      | _ => throw ("invalid character '" ++ String.singleton c ++ "' in type string " ++
          quotedName text)
    let (size, rest) ←
      if kind = .name || kind = .character then pure (1, rest)
      else
        match rest with
        | 'C' :: rest => pure (1, rest)
        | 'S' :: rest => pure (2, rest)
        | 'I' :: rest => pure (4, rest)
        | 'L' :: rest => pure (8, rest)
        | _ =>
          let digits := rest.takeWhile Char.isDigit
          if digits.isEmpty then pure (4, rest)
          else
            let size := numberOfDigits digits
            if [1, 2, 4, 8].contains size then pure (size, rest.drop digits.length)
            else
              throw ("invalid type string " ++ quotedName text ++
                s!";\nthis system doesn't provide a {size}-byte integral type")
    match rest with
    | 'z' :: rest => return { kind, size, hasTrailer := true } :: (← viewsOf text fuel rest)
    | _ => return { kind, size } :: (← viewsOf text fuel rest)

def address (radix : Char) (place : Nat) : String :=
  let padded (width base : Nat) : String :=
    let digits := Nat.toDigits base place
    String.ofList (List.replicate (width - digits.length) '0' ++ digits)
  match radix with
  | 'd' => padded 7 10
  | 'x' => padded 6 16
  | 'n' => ""
  | _ => padded 7 8

def lines (views : List View) (radix : Char) (blockSize : Nat) (showsAll : Bool) :
    (fuel : Nat) → (place : Nat) → (last? : Option (List Char)) → (isSame : Bool) →
    (found : List String) → List Char → List String
  | 0, _, _, _, found, _ => found.reverse
  | fuel + 1, place, last?, isSame, found, cs =>
    if cs.isEmpty then found.reverse
    else
      let block := cs.take blockSize
      let rest := cs.drop blockSize
      if !showsAll && some block = last? && block.length = blockSize then
        lines views radix blockSize showsAll fuel (place + blockSize) last? true
          (if isSame then found else "*\n" :: found) rest
      else
        let blockWidth := (views.map fun view =>
          (view.width + 1) * (blockSize / view.size)).foldl max 0
        let start := address radix place
        let shown := views.zipIdx.map fun (view, index) =>
          let padding := blockWidth - view.width * (blockSize / view.size)
          (if index = 0 then start else blanks start.length) ++
            view.line blockSize padding block ++ "\n"
        lines views radix blockSize showsAll fuel (place + block.length) (some block) false
          (String.join shown :: found) rest

def letters : List (String × String) :=
  [("a", "a"), ("b", "o1"), ("c", "c"), ("d", "u2"), ("D", "u4"), ("h", "x2"), ("x", "x2"),
    ("H", "x4"), ("X", "x4"), ("i", "d4"), ("I", "d8"), ("l", "d8"), ("L", "d8"), ("o", "o2"),
    ("B", "o2"), ("O", "o4"), ("s", "d2")]

end Dump

def od : Program := fun _ arguments => do
  let given ← Sh.takeAll 1 ("A:,address-radix endian: j:,skip-bytes N:,read-bytes S: t:,format " ++
    "v,output-duplicates w::,width traditional a b B c d D h H i I l L o O s x X") arguments
  let radix ← match given.last? "A" with
    | none => pure 'o'
    | some text =>
      match text.toList with
      | c :: _ =>
        if "doxn".toList.contains c then pure c
        else Sh.fail 1 ("invalid output address radix '" ++ String.singleton c ++
          "'; it must be one character from [doxn]")
      | [] => pure 'o'
  let number (key what : String) : Sh (Option Nat) := do
    match given.last? key with
    | none => return none
    | some text =>
      let hex? : Option Nat := match text.toList with
        | '0' :: 'x' :: digits =>
          (integerAt? 0 ('0' :: 'x' :: digits)).map fun (n, _) => Int.toNat n
        | _ => none
      match hex?.or (sized? text) with
      | some value => return some value
      | none => Sh.fail 1 (s!"invalid {what} argument " ++ quotedName text)
  let skip := (← number "j" "-j").getD 0
  let limit? ← number "N" "-N"
  let texts := given.options.filterMap fun (key, value?) =>
    if key = "t" then value? else Dump.letters.lookup key
  let views ← texts.mapM fun text => do
    match Dump.viewsOf text (text.length + 1) text.toList with
    | .ok views => return views
    | .error message => Sh.fail 1 message
  let views := if views.flatten.isEmpty then [({ kind := .octal, size := 2 } : Dump.View)]
    else views.flatten
  let multiple := (views.map Dump.View.size).foldl Nat.lcm 1
  let blockSize ← match given.options.lookup "w" with
    | none => pure 16
    | some none => pure 32
    | some (some text) =>
      match count? text with
      | some 0 | none => Sh.fail 1 ("invalid -w argument " ++ quotedName text)
      | some width =>
        if width % multiple = 0 then pure width
        else
          Sh.warn s!"warning: invalid width {width}; using {multiple} instead"
          pure multiple
  let (contents, code) ← Sh.contentsOf given.operands
  let cs := (String.join contents).toList
  if cs.length < skip then Sh.fail 1 "cannot skip past end of combined input"
  let cs := cs.drop skip
  let cs := match limit? with
    | some limit => cs.take limit
    | none => cs
  let shown :=
    Dump.lines views radix blockSize (given.has "v") (cs.length + 1) skip none false [] cs
  Sh.say (String.join shown)
  if radix ≠ 'n' then Sh.say (Dump.address radix (skip + cs.length) ++ "\n")
  if limit?.isNone then Sh.endIfEndless (if given.operands.isEmpty then ["-"] else given.operands)
  return code

end MutationTesting.Shell.Utility
