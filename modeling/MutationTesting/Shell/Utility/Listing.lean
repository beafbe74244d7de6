import MutationTesting.Shell.Utility.Columns
import MutationTesting.Shell.Utility.Files
import MutationTesting.Shell.Utility.Order
/-! A program that lists files and directories. All of them belong to one user, and have the same
time. -/
namespace MutationTesting.Shell.Utility

namespace Listing

def directorySize : Nat := 4096

structure Item where
  name : String
  entry : Entry
  mode : Nat

namespace Item

def size (item : Item) : Nat :=
  match item.entry with
  | .file content => content.size
  | .directory _ => directorySize

/-- How many blocks of a kibibyte it takes. -/
def blocks (item : Item) : Nat :=
  (item.size + 4095) / 4096 * 4

def links (item : Item) : Nat :=
  match item.entry with
  | .file _ => 1
  | .directory entries => 2 + (entries.filter fun (_, entry) => entry.isDirectory).length

/-- The letters for its kind and its permission bits. -/
def letters (item : Item) : String :=
  (if item.entry.isDirectory then "d" else "-") ++ Mode.letters item.mode

/-- What comes behind the last point of its name, with it. -/
def ending (item : Item) : String :=
  let cs := item.name.toList.reverse
  let ending := cs.takeWhile (· ≠ '.')
  if ending.length = cs.length then "" else String.ofList ('.' :: ending.reverse)

end Item

inductive Quoting where
  | plain
  | escaped
  | quoted
  | masked
  deriving Repr, DecidableEq

/-- A name as it is shown. -/
def Quoting.shown (quoting : Quoting) (name : String) : String :=
  let code (c : Char) : List Char :=
    match c with
    | '\n' => ['\\', 'n']
    | '\t' => ['\\', 't']
    | '\r' => ['\\', 'r']
    | c =>
      let digits := Nat.toDigits 8 c.toNat
      '\\' :: List.replicate (3 - digits.length) '0' ++ digits
  let isHidden (c : Char) : Bool := c.toNat < 0x20 || 0x7F ≤ c.toNat
  match quoting with
  | .plain => name
  | .masked => name.map fun c => if isHidden c then '?' else c
  | .escaped => String.ofList (name.toList.flatMap fun c =>
      if c = ' ' || c = '\\' then ['\\', c] else if isHidden c then code c else [c])
  | .quoted => "\"" ++ String.ofList (name.toList.flatMap fun c =>
      if c = '"' || c = '\\' then ['\\', c] else if isHidden c then code c else [c]) ++ "\""

inductive Shape where
  | single
  | long
  | commas
  | columns (isAcross : Bool)
  deriving Repr, DecidableEq

structure Settings where
  shape : Shape
  quoting : Quoting
  showsHidden : Bool
  showsDots : Bool
  isRecursive : Bool
  isReversed : Bool
  /-- What things are put in order by. -/
  order : String
  directoriesFirst : Bool
  marksKinds : Bool
  marksDirectories : Bool
  showsBlocks : Bool
  showsOwner : Bool
  showsGroup : Bool
  usesNumbers : Bool
  isReadable : Bool
  width : Nat
  ignored : List String
  hasColors : Bool

namespace Settings

/-- A size in units of 1024, rounded up, as people read it. -/
def readable (size : Nat) : String :=
  if size < 1024 then toString size
  else
    let units := ["K", "M", "G", "T"]
    let rec go : List String → Nat → String
      | [], divisor => toString (size / divisor)
      | unit :: rest, divisor =>
        let tenths := (size * 10 + divisor - 1) / divisor
        if tenths < 100 then s!"{tenths / 10}.{tenths % 10}{unit}"
        else
          let whole := (size + divisor - 1) / divisor
          if whole < 1024 then s!"{whole}{unit}" else go rest (divisor * 1024)
    go units 1024

def sizeText (settings : Settings) (size : Nat) : String :=
  if settings.isReadable then readable size else toString size

def blocksText (settings : Settings) (blocks : Nat) : String :=
  if settings.isReadable then readable (blocks * 1024) else toString blocks

def sorted (settings : Settings) (items : List Item) : List Item :=
  let byName (a b : Item) : Ordering := compareTexts a.name b.name
  let order (a b : Item) : Ordering :=
    match settings.order with
    | "size" => (compare b.size a.size).then (byName a b)
    | "extension" => (compareTexts a.ending b.ending).then (byName a b)
    | "version" => (Version.order a.name b.name).then (byName a b)
    | "width" => (compare a.name.length b.name.length).then (byName a b)
    | _ => byName a b
  let order (a b : Item) : Ordering := if settings.isReversed then order b a else order a b
  let order (a b : Item) : Ordering :=
    if settings.directoriesFirst then
      (compare (if a.entry.isDirectory then 0 else 1)
        (if b.entry.isDirectory then 0 else 1 : Nat)).then (order a b)
    else order a b
  if settings.order = "none" then items else items.mergeSort fun a b => order a b ≠ .gt

/-- A name with the sign of its kind. -/
def shown (settings : Settings) (item : Item) : String :=
  let sign :=
    if item.entry.isDirectory then
      if settings.marksKinds || settings.marksDirectories then "/" else ""
    else if settings.marksKinds && item.mode &&& 0o111 ≠ 0 then "*"
    else ""
  settings.quoting.shown item.name ++ sign

/-- Blanks and tabs from a column to another one. -/
def indent (target : Nat) : (fuel : Nat) → (column : Nat) → String
  | 0, _ => ""
  | fuel + 1, column =>
    if target ≤ column then ""
    else if (column + 1) / 8 < target / 8 then
      "\t" ++ indent target fuel (column + 8 - column % 8)
    else " " ++ indent target fuel (column + 1)

def widthsOf (isAcross : Bool) (count : Nat) (lengths : List Nat) : List Nat :=
  let rows := (lengths.length + count - 1) / count
  (List.range count).map fun column =>
    let own := (lengths.zipIdx.filter fun (_, index) =>
      (if isAcross then index % count else index / rows) = column).map Prod.fst
    own.foldl max 0 + if column + 1 = count then 0 else 2

def inColumns (isAcross : Bool) (width : Nat) (names : List String) : String :=
  let lengths := names.map String.length
  let most := max 1 (min names.length (width / 3 + 1))
  let fits (count : Nat) : Bool :=
    let widths := widthsOf isAcross count lengths
    count = 1 || (widths.foldl (· + ·) 0 < width && (isAcross || widths.all (0 < ·)))
  let count := ((List.range most).reverse.map (· + 1)).find? fits |>.getD 1
  let rows := (names.length + count - 1) / count
  let widths := widthsOf isAcross count lengths
  let lines := (List.range rows).map fun row =>
    let cells := (List.range count).filterMap fun column =>
      names[if isAcross then row * count + column else column * rows + row]?
    let (line, _, _) := cells.zipIdx.foldl (fun (line, column, start) (name, index) =>
      let line := line ++ indent start (start + 1) column ++ name
      (line, start + name.length, start + widths.getD index 0)) ("", 0, 0)
    line ++ "\n"
  String.join lines

def listed (settings : Settings) (items : List Item) : String :=
  let names := items.map settings.shown
  let blocks := items.map fun item => settings.blocksText item.blocks
  let blockWidth := (blocks.map String.length).foldl max 0
  let withBlocks (item : Item) (name : String) : String :=
    if settings.showsBlocks then
      padLeft blockWidth (settings.blocksText item.blocks) ++ " " ++ name
    else name
  let names := (items.zip names).map fun (item, name) => withBlocks item name
  match settings.shape with
  | .single => String.join (names.map (· ++ "\n"))
  | .commas =>
    let (text, _) := names.zipIdx.foldl (fun (text, column) (name, index) =>
      let isLast := index + 1 = names.length
      if index = 0 then (text ++ name, name.length)
      else if settings.width ≤ column + 2 + name.length + (if isLast then 0 else 1) then
        (text ++ ",\n" ++ name, name.length)
      else (text ++ ", " ++ name, column + 2 + name.length)) ("", 0)
    if names.isEmpty then "" else text ++ "\n"
  | .columns isAcross => if names.isEmpty then "" else inColumns isAcross settings.width names
  | .long =>
    let user := if settings.usesNumbers then "0" else "root"
    let width (text : Item → String) : Nat :=
      (items.map fun item => (text item).length).foldl max 0
    let links (item : Item) : String := toString item.links
    let size (item : Item) : String := settings.sizeText item.size
    String.join (items.map fun item =>
      withBlocks item (item.letters ++ " " ++ padLeft (width links) (links item) ++
        (if settings.showsOwner then " " ++ user else "") ++
        (if settings.showsGroup then " " ++ user else "") ++ " " ++
        padLeft (width size) (size item) ++ " Jan  1 00:00 " ++ settings.shown item) ++ "\n")

def itemsOf (settings : Settings) (workspace : Workspace) (address : List String) : List Item :=
  let item (name : String) (address : List String) : Item :=
    { name
      entry := (workspace.at? address).getD default
      mode := workspace.mode address }
  let dots := if settings.showsDots then [item "." address, item ".." address.dropLast] else []
  let isIgnored (name : String) : Bool :=
    settings.ignored.any fun pattern => Pattern.fits pattern.toList name.toList
  let entries := (((workspace.at? address).map Entry.entries).getD []).filter fun (name, _) =>
    settings.showsHidden || !name.startsWith "."
  let entries := entries.filter fun (name, _) => !isIgnored (bytesOfName name)
  settings.sorted (dots ++ entries.map fun (name, _) =>
    item (bytesOfName name) (address ++ [name]))

/-- A directory with those below it, and for each of them whether it is the first one. -/
def directory (settings : Settings) (workspace : Workspace) (hasHeader : Bool) :
    (depth : Nat) → (isFirst : Bool) → String → List String → String
  | 0, _, _, _ => ""
  | depth + 1, isFirst, path, address =>
    let items := settings.itemsOf workspace address
    let header := (if isFirst then "" else "\n") ++
      if hasHeader then settings.quoting.shown path ++ ":\n" else ""
    let total := (items.map Item.blocks).foldl (· + ·) 0
    let totalLine := if settings.shape = .long || settings.showsBlocks then
        "total " ++ settings.blocksText total ++ "\n" else ""
    let below :=
      if settings.isRecursive then
        String.join ((items.filter fun item =>
          item.entry.isDirectory && item.name ≠ "." && item.name ≠ "..").map fun item =>
            settings.directory workspace true depth false (inside path item.name)
              (address ++ [(pathOf item.name).text]))
      else ""
    header ++ totalLine ++ settings.listed items ++ below

end Settings

end Listing

def ls : Program := fun _ arguments => do
  let given ← Sh.takeAll 2 ("a,all A,almost-all author b,escape block-size: B,ignore-backups " ++
    "c C color:: d,directory D,dired f F,classify:: file-type format: full-time g " ++
    "group-directories-first G,no-group h,human-readable si H L,dereference hide: hyperlink:: " ++
    "indicator-style: i,inode I:,ignore k,kibibytes l m n,numeric-uid-gid N,literal o p " ++
    "q,hide-control-chars show-control-chars Q,quote-name quoting-style: r,reverse R,recursive " ++
    "s,size S sort: t time: time-style: T:,tabsize u U v w:,width x X Z,context zero 1")
    arguments
  let words := ["none", "time", "size", "extension", "version", "width"]
  let order ← match given.latest? ["S", "t", "U", "X", "v", "f", "sort"] with
    | some "S" => pure "size"
    | some "U" | some "f" => pure "none"
    | some "X" => pure "extension"
    | some "v" => pure "version"
    | some "sort" =>
      let word := (given.last? "sort").getD ""
      if words.contains word then pure word
      else Sh.failChoice 1 "--sort" word (words.map fun word => [word])
    | _ => pure "name"
  let shape : Listing.Shape := match given.latest? ["l", "n", "g", "o", "full-time", "1", "m", "C",
      "x"] with
    | some "m" => .commas
    | some "C" => .columns false
    | some "x" => .columns true
    | some "1" =>
      if ["l", "n", "g", "o", "full-time"].any given.has then .long else .single
    | some _ => .long
    | none => .single
  let settings : Listing.Settings := {
    shape, order
    quoting := match given.latest? ["b", "Q", "q", "N"] with
      | some "b" => .escaped
      | some "Q" => .quoted
      | some "q" => .masked
      | _ => .plain
    showsHidden := given.has "a" || given.has "A" || given.has "f"
    showsDots := match given.latest? ["a", "A", "f"] with
      | some "A" => false
      | some _ => true
      | none => false
    isRecursive := given.has "R"
    isReversed := given.has "r"
    directoriesFirst := given.has "group-directories-first"
    marksKinds := given.has "F"
    marksDirectories := given.has "p" || given.has "file-type"
    showsBlocks := given.has "s"
    showsOwner := !given.has "g"
    showsGroup := !(given.has "o" || given.has "G")
    usesNumbers := given.has "n"
    isReadable := given.has "h" || given.has "si"
    width := ((given.last? "w").bind count?).getD 80
    ignored := given.all "I" ++
      (if given.has "a" || given.has "A" then [] else given.all "hide") ++
      if given.has "B" then ["*~"] else []
    hasColors := false }
  let workspace ← Sh.workspace
  let paths := if given.operands.isEmpty then ["."] else given.operands
  let found ← paths.filterMapM fun path => do
    match workspace.find (pathOf path), workspace.address (pathOf path) with
    | .ok entry, .ok address =>
      return some (address, { name := path, entry, mode := workspace.mode address : Listing.Item })
    | .error fault, _ | _, .error fault =>
      Sh.warn ("cannot access " ++ quotedName path ++ ": " ++ fault.reason)
      return none
  let code := if found.length = paths.length then 0 else 2
  let isDirectory (item : Listing.Item) : Bool := item.entry.isDirectory && !given.has "d"
  let files := settings.sorted ((found.map Prod.snd).filter fun item => !isDirectory item)
  let directories := settings.sorted ((found.map Prod.snd).filter isDirectory)
  Sh.say (settings.listed files)
  let hasHeader := 1 < paths.length || settings.isRecursive
  directories.zipIdx.forM fun (item, index) => do
    if let .ok address := workspace.address (pathOf item.name) then
      Sh.say (settings.directory workspace hasHeader pathDepth (index = 0 && files.isEmpty)
        item.name address)
  return code

end MutationTesting.Shell.Utility
