import MutationTesting.Shell.Utility.Columns
import MutationTesting.Shell.Utility.Files
import MutationTesting.Shell.Utility.Show
/-! Programs that cut files to size, copy blocks of them and take them apart. -/
namespace MutationTesting.Shell.Utility

open Files

namespace Size

inductive Sense where
  | exactly
  | more
  | less
  | atMost
  | atLeast
  | downTo
  | upTo
  deriving Repr, DecidableEq

/-- The size that a text gives, and how it is meant. -/
def parse (text : String) : Option (Sense × Nat) :=
  let cs := text.toList.dropWhile (· = ' ')
  let (sense, rest) : Sense × List Char := match cs with
    | '+' :: rest => (.more, rest)
    | '-' :: rest => (.less, rest)
    | '<' :: rest => (.atMost, rest)
    | '>' :: rest => (.atLeast, rest)
    | '/' :: rest => (.downTo, rest)
    | '%' :: rest => (.upTo, rest)
    | _ => (.exactly, cs)
  (sized? (String.ofList rest)).map fun size => (sense, size)

def Sense.apply (size old : Nat) : Sense → Nat
  | .exactly => size
  | .more => old + size
  | .less => old - size
  | .atMost => min old size
  | .atLeast => max old size
  | .downTo => if size = 0 then old else old / size * size
  | .upTo => if size = 0 then old else (old + size - 1) / size * size

end Size

/-- Bytes with zeros behind them, or only the first ones, as many as a size says. -/
def fitted (size : Nat) (bytes : ByteArray) : ByteArray :=
  if size ≤ bytes.size then bytes.extract 0 size
  else bytes ++ ⟨Array.replicate (size - bytes.size) 0⟩

/-- Makes files as long as they shall be. -/
def truncate : Program := fun _ arguments => do
  let given ← Sh.takeAll 1 "c,no-create o,io-blocks r:,reference s:,size" arguments
  let size? ← (given.last? "s").mapM fun text => do
    match Size.parse text with
    | some size => return size
    | none => Sh.fail 1 ("Invalid number: " ++ quotedName text)
  let base? ← (given.last? "r").mapM fun path => do
    match ← entry path with
    | .ok entry => return (entry.content?.getD .empty).size
    | .error reason => Sh.fail 1 ("cannot stat " ++ quotedName path ++ ": " ++ reason)
  if size?.isNone && base?.isNone then
    Sh.failUsage 1 "you must specify either '--size' or '--reference'"
  if base?.isSome && size?.any fun (sense, _) => sense = .exactly then
    Sh.failUsage 1 "you must specify a relative '--size' with '--reference'"
  if given.operands.isEmpty then
    Sh.warn "missing file operand"
    Sh.usage 1
  let codes ← given.operands.mapM fun path => do
    if given.has "c" && (← entry? path).isNone then return 0
    match ← Sh.openFile .append path with
    | .error reason =>
      Sh.warn ("cannot open " ++ quotedName path ++ " for writing: " ++ reason)
      return 1
    | .ok _ =>
      let old := (((← entry? path).bind Entry.content?).getD .empty)
      let base := base?.getD old.size
      let size := match size? with
        | some (sense, size) => sense.apply size base
        | none => base
      match (← Sh.workspace).replace (pathOf path) (fitted size old) with
      | .ok changed => Sh.setWorkspace changed
      | .error _ => pure ()
      return 0
  return codes.foldl max 0

namespace Blocks

/-- The records that bytes are: full ones and one that is not. -/
def records (size bytes : Nat) : String :=
  s!"{bytes / size}+{if bytes % size = 0 then 0 else 1}"

def convert (names : List String) (bytes : ByteArray) : ByteArray :=
  let swapped (bytes : List UInt8) : List UInt8 :=
    let rec go : List UInt8 → List UInt8
      | a :: b :: rest => b :: a :: go rest
      | rest => rest
    go bytes
  let text := textOfBytes bytes
  let text := if names.contains "ucase" then text.map Char.toUpper
    else if names.contains "lcase" then text.map Char.toLower
    else text
  let bytes := bytesOfText text
  if names.contains "swab" then ⟨(swapped bytes.toList).toArray⟩ else bytes

/-- The names of what `dd` can be told to do. -/
def conversions : List String :=
  ["ascii", "ebcdic", "ibm", "block", "unblock", "lcase", "ucase", "sparse", "swab", "sync", "excl",
    "nocreat", "notrunc", "noerror", "fdatasync", "fsync"]

end Blocks

def dd : Program := fun _ arguments => do
  let arguments := if arguments.head? = some "--" then arguments.drop 1 else arguments
  let pairs ← arguments.mapM fun argument => do
    let name := String.ofList (argument.toList.takeWhile (· ≠ '='))
    let names := ["bs", "cbs", "conv", "count", "ibs", "if", "iflag", "obs", "of", "oflag", "seek",
      "oseek", "skip", "iseek", "status"]
    if name.length = argument.length || !names.contains name then
      Sh.failUsage 1 ("unrecognized operand " ++ quotedName argument)
    return (name, String.ofList (argument.toList.drop (name.length + 1)))
  let last? (name : String) : Option String := pairs.reverse.lookup name
  let number (name : String) : Sh (Option Nat) := do
    match last? name with
    | none => return none
    | some text =>
      match sized? text with
      | some value =>
        if value = 0 && ["bs", "ibs", "obs"].contains name then
          Sh.fail 1 ("invalid number: " ++ quotedName text)
        return some value
      | none => Sh.fail 1 ("invalid number: " ++ quotedName text)
  let conversions := (piecesAt ',' ((last? "conv").getD "")).filter fun name => !name.isEmpty
  conversions.forM fun name => do
    if !Blocks.conversions.contains name then
      Sh.failUsage 1 ("invalid conversion: " ++ quotedName name)
  if let some status := last? "status" then
    if !(["none", "noxfer", "progress"].contains status) then
      Sh.failUsage 1 ("invalid status level: " ++ quotedName status)
  let block ← number "bs"
  let inSize := (block.or (← number "ibs")).getD 512
  let outSize := (block.or (← number "obs")).getD 512
  let skip := ((← number "skip").or (← number "iseek")).getD 0
  let seek := ((← number "seek").or (← number "oseek")).getD 0
  let count? ← number "count"
  let flags := piecesAt ',' ((last? "iflag").getD "")
  let source := (last? "if").getD "-"
  let (input, opened) ←
    match ← Sh.openInput source with
    | .ok found => pure found
    | .error reason => Sh.fail 1 ("failed to open " ++ quotedName source ++ ": " ++ reason)
  let target? := last? "of"
  let (output, outOpened) ←
    match target? with
    | none =>
      match ← Sh.opened? 1 with
      | some found => pure found
      | none => Sh.fail 1 "failed to open 'standard output': Bad file descriptor"
    | some path =>
      let opening := if conversions.contains "notrunc" || seek ≠ 0 then Opening.readWrite
        else Opening.write
      match ← Sh.openFile opening path with
      | .ok opened =>
        let opened := { opened with offset := seek * outSize }
        pure (← Sh.newOpened opened, opened)
      | .error reason => Sh.fail 1 ("failed to open " ++ quotedName path ++ ": " ++ reason)
  let skipped := if flags.contains "skip_bytes" then skip else skip * inSize
  let amount : Sh.Amount := match count? with
    | none => .all
    | some count =>
      .bytes (skipped + if flags.contains "count_bytes" then count else count * inSize)
  let (bytes, isWrong) ← match ← Sh.readFrom input opened amount with
    | .ok (bytes, _) => pure (bytes.extract skipped bytes.size, false)
    | .error reason =>
      Sh.warn ("error reading " ++
        quotedName (if source = "-" then "standard input" else source) ++ ": " ++ reason)
      pure (.empty, true)
  let converted := Blocks.convert conversions bytes
  if let some path := target? then
    if !conversions.contains "notrunc" && seek ≠ 0 then
      if let .ok (.file old) ← entry path then
        if let .ok changed := (← Sh.workspace).replace (pathOf path)
            (fitted (seek * outSize) old) then
          Sh.setWorkspace changed
  if converted.size ≠ 0 then
    if let some reason ← Sh.writeTo output outOpened converted then
      Sh.warn ("error writing " ++ quotedName (target?.getD "standard output") ++ ": " ++ reason)
  if last? "status" ≠ some "none" then
    let size := bytes.size
    Sh.tryWrite 2 (Blocks.records inSize size ++ " records in\n" ++
      Blocks.records outSize size ++ " records out\n")
    if last? "status" ≠ some "noxfer" then
      let unit := if size = 1 then " byte" else " bytes"
      Sh.tryWrite 2 (s!"{size}{unit} copied, 2.0e-05 s, " ++
        s!"{size * 50 / 1000}.{size * 50 % 1000 / 100} kB/s\n")
  return if isWrong then 1 else 0

namespace Parting

/-- The ending of the name of a part. -/
def ending (letters : List Char) (width number : Nat) : String :=
  let base := letters.length
  let rec go : Nat → Nat → List Char
    | 0, _ => []
    | count + 1, number => letters.getD (number % base) 'a' :: go count (number / base)
  String.ofList (go width number).reverse

def chunks (size : Nat) : (fuel : Nat) → (found : List (List α)) → List α → List (List α)
  | 0, found, _ => found.reverse
  | fuel + 1, found, parts =>
    if parts.isEmpty then found.reverse
    else chunks size fuel (parts.take size :: found) (parts.drop size)

/-- Lines in parts of at most so many bytes. -/
def lineChunks (size : Nat) (lines : List String) : List String :=
  let (last, found) := lines.foldl (fun (current, found) line =>
    if current.length + line.length ≤ size || current.isEmpty && line.length ≤ size then
      (current ++ line, found)
    else
      let found := if current.isEmpty then found else current :: found
      let pieces := (chunks size (line.length + 1) [] line.toList).map String.ofList
      (pieces.getLastD "", pieces.dropLast.reverse ++ found)) ("", ([] : List String))
  (if last.isEmpty then found else last :: found).reverse

end Parting

/-- Writes the parts of a file into files of their own. -/
def split : Program := fun self arguments => do
  let arguments := arguments.flatMap fun argument =>
    match argument.toList with
    | '-' :: c :: cs => if (c :: cs).all Char.isDigit then ["-l", String.ofList (c :: cs)]
        else [argument]
    | _ => [argument]
  let given ← Sh.takeAll 1 ("a:,suffix-length additional-suffix: b:,bytes C:,line-bytes d " ++
    "numeric-suffixes:: x hex-suffixes:: e,elide-empty-files filter: l:,lines n:,number " ++
    "t:,separator u,unbuffered verbose") arguments
  let number (what text : String) : Sh Nat := do
    match sized? text with
    | some (value + 1) => return value + 1
    | _ => Sh.fail 1 (s!"invalid number of {what}: " ++ quotedName text)
  let width? ← (given.last? "a").mapM fun text => do
    match count? text with
    | some width => return width
    | none => Sh.fail 1 ("invalid suffix length: " ++ quotedName text)
  let method := given.latest? ["b", "C", "l", "n"]
  let text := (method.bind given.last?).getD ""
  if let extra :: _ := given.operands.drop 2 then Sh.failExtra 1 extra
  let source := given.operands.headD "-"
  let start := given.operands.getD 1 "x"
  let size ← match method with
    | some "b" | some "C" => number "bytes" text
    | some "l" => number "lines" text
    | _ => pure 1000
  match ← Sh.readInput .all source with
  | .error reason =>
    if reason = "Is a directory" then Sh.fail 1 (shownName source ++ ": read error: " ++ reason)
    Sh.fail 1 ("cannot open " ++ quotedName source ++ " for reading: " ++ reason)
  | .ok bytes =>
    let content := textOfBytes bytes
    let ended := (linesOf content).map (·.push '\n')
    let lines := if endsInLine '\n' content then
        match ended.getLast? with
        | some last => ended.dropLast ++ [String.ofList last.toList.dropLast]
        | none => []
      else ended
    let joined (lists : List (List String)) : List String := lists.map String.join
    let parts ← match method with
      | some "b" =>
        pure ((Parting.chunks size (content.length + 1) [] content.toList).map String.ofList)
      | some "C" => pure (Parting.lineChunks size lines)
      | some "n" =>
        let pieces := piecesAt '/' text
        let (kind, digits) := match pieces with
          | [digits] => ("", digits)
          | kind :: digits :: _ => (kind, digits)
          | [] => ("", "")
        let count ← number "chunks" digits
        if kind = "r" then
          pure ((List.range count).map fun index => String.join
            ((lines.zipIdx.filter fun (_, place) => place % count = index).map Prod.fst))
        else
          let cs := content.toList
          let bound (index : Nat) : Nat := cs.length * index / count
          if kind = "l" then
            let places := (lines.foldl (fun (place, found) line =>
              (place + line.length, (place, line) :: found)) (0, ([] : List (Nat × String)))).snd
            pure ((List.range count).map fun index => String.join
              ((places.reverse.filter fun (place, _) =>
                bound index ≤ place && place < bound (index + 1)).map Prod.snd))
          else
            pure ((List.range count).map fun index =>
              String.ofList ((cs.drop (bound index)).take (bound (index + 1) - bound index)))
      | _ => pure (joined (Parting.chunks size (lines.length + 1) [] lines))
    let parts := if given.has "e" then parts.filter fun part => !part.isEmpty else parts
    let isDecimal := given.has "d" || given.has "numeric-suffixes"
    let isHex := given.has "x" || given.has "hex-suffixes"
    let letters := if isDecimal then "0123456789".toList
      else if isHex then "0123456789abcdef".toList
      else "abcdefghijklmnopqrstuvwxyz".toList
    let first := (((given.last? "numeric-suffixes").or (given.last? "hex-suffixes")).bind
      count?).getD 0
    let width := width?.getD 2
    let codes ← parts.zipIdx.mapM fun (part, index) => do
      let name := start ++ Parting.ending letters width (index + first) ++
        (given.last? "additional-suffix").getD ""
      if Nat.pow letters.length width ≤ index + first then
        Sh.fail 1 "output file suffixes exhausted"
      if let some command := given.last? "filter" then
        let opened ← Sh.openText part
        let channel ← Sh.newOpened opened
        let before ← Sh.process
        Sh.connect 0 (some channel)
        let fate ← Sh.launchScript self command
        Sh.setProcess fun process => { process with channels := before.channels }
        return fate.code
      if given.has "verbose" then Sh.say ("creating file " ++ quotedName name ++ "\n")
      match ← Sh.openFile .write name with
      | .ok opened =>
        let number ← Sh.newOpened opened
        let _ ← Sh.writeTo number opened (bytesOfText part)
        return 0
      | .error reason => Sh.fail 1 (shownName name ++ ": " ++ reason)
    return codes.foldl max 0

end MutationTesting.Shell.Utility
