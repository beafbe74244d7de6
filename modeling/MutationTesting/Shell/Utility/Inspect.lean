import MutationTesting.Shell.Builtin.Echo
import MutationTesting.Shell.Builtin.Surroundings
import MutationTesting.Shell.Utility.Listing
/-! Programs that show what is known of files and where paths lead, and that make up names. -/
namespace MutationTesting.Shell.Utility

open Files

namespace Inspect

/-- What the directives of a format stand for. -/
def facet (path : String) (item : Listing.Item) : Char → String
  | 'n' => path
  | 'N' => quotedName path
  | 's' => toString item.size
  | 'F' =>
    match item.entry with
    | .directory _ => "directory"
    | .file content => if content.size = 0 then "regular empty file" else "regular file"
  | 'a' => Mode.octal 1 item.mode
  | 'A' => item.letters
  | 'U' | 'G' => "root"
  | 'u' | 'g' => "0"
  | 'h' => toString item.links
  | 'b' => toString (2 * item.blocks)
  | 'B' => "512"
  | 'o' => "4096"
  | 'f' => String.ofList (Nat.toDigits 16 ((if item.entry.isDirectory then 0o40000 else 0o100000) +
      item.mode))
  | 'i' => "1"
  | 'd' | 'X' | 'Y' | 'Z' | 'W' | 't' | 'T' => "0"
  | 'w' => "-"
  | 'x' | 'y' | 'z' => "1970-01-01 00:00:00.000000000 +0000"
  | _ => "?"

/-- A format with what its directives stand for. -/
def laidOut (escapes : Bool) (facet : Char → String) : (fuel : Nat) → List Char → List Char
  | 0, _ | _, [] => []
  | fuel + 1, '%' :: rest =>
    match rest with
    | '%' :: rest => '%' :: laidOut escapes facet fuel rest
    | _ =>
      match directiveAt rest with
      | (_, []) => ['%']
      | (directive, letter :: rest) =>
        let width := match directive.width? with
          | some (.fixed width) => width
          | _ => 0
        let layout : Layout := { flags := directive.flags.filter (· = '-') }
        let text := (facet letter).toList
        let text := if directive.flags.contains '0' && !directive.flags.contains '-' then
            List.replicate (width - text.length) '0' ++ text else text
        (layout.withWidth width).pad text ++ laidOut escapes facet fuel rest
  | fuel + 1, '\\' :: rest =>
    if escapes then
      let (c, rest) := escapeAt rest
      c :: laidOut escapes facet fuel rest
    else '\\' :: laidOut escapes facet fuel rest
  | fuel + 1, c :: rest => c :: laidOut escapes facet fuel rest

end Inspect

def stat : Program := fun _ arguments => do
  let given ← Sh.takeAll 1 "c:,format printf: L,dereference f,file-system t,terse cached:" arguments
  if given.operands.isEmpty then Sh.failMissing 1
  let codes ← given.operands.mapM fun path => do
    let workspace ← Sh.workspace
    match workspace.find (pathOf path), workspace.address (pathOf path) with
    | .ok entry, .ok address =>
      let item : Listing.Item := { name := path, entry, mode := workspace.mode address }
      let facet := Inspect.facet path item
      let shown (escapes : Bool) (format : String) : String :=
        String.ofList (Inspect.laidOut escapes facet (format.length + 1) format.toList)
      match given.latest? ["c", "printf"] with
      | some "printf" => Sh.say (shown true ((given.last? "printf").getD ""))
      | some _ => Sh.say (shown false ((given.last? "c").getD "") ++ "\n")
      | none =>
        Sh.say (shown false ("  File: %n\n  Size: %-10s\tBlocks: %-10b IO Block: %-6o %F\n" ++
          "Device: 0,0\tInode: %-10i  Links: %h\n" ++
          "Access: (%04a/%A)  Uid: (    0/    root)   Gid: (    0/    root)\n" ++
          "Access: %x\nModify: %y\nChange: %z\n Birth: %w\n"))
      return 0
    | .error fault, _ | _, .error fault =>
      Sh.warn ("cannot statx " ++ quotedName path ++ ": " ++ fault.reason)
      return 1
  return codes.foldl max 0

/-- What must be there of a path that is looked up. -/
inductive Demand where
  | nothing
  | parents
  | all
  deriving Repr, DecidableEq

/-- Where a path leads from the top, if what must be there is. -/
def resolved (demand : Demand) (path : String) : Sh (Except String (List String)) := do
  let workspace ← Sh.workspace
  if path = "" then return .error Fault.notFound.reason
  match demand with
  | .nothing => return .ok ((pathOf path).components.foldl Workspace.stepTo workspace.here)
  | .parents =>
    let cs := path.toList.reverse.dropWhile (· = '/')
    let plain := if cs.isEmpty then "/" else String.ofList cs.reverse
    match workspace.address (pathOf plain) with
    | .error fault => return .error fault.reason
    | .ok address =>
      if plain ≠ path && (workspace.at? address).any Entry.isFile then
        return .error Fault.notDirectory.reason
      return .ok address
  | .all =>
    match workspace.find (pathOf path), workspace.address (pathOf path) with
    | .ok _, .ok address => return .ok address
    | .error fault, _ | _, .error fault => return .error fault.reason

/-- Shows what links lead to, or where paths lead from the top. -/
def readlink : Program := fun _ arguments => do
  let given ← Sh.takeAll 1 ("f,canonicalize e,canonicalize-existing m,canonicalize-missing " ++
    "n,no-newline q,quiet,silent s v,verbose z,zero") arguments
  if given.operands.isEmpty then Sh.failMissing 1
  let mark := if given.has "n" && given.operands.length = 1 then ""
    else if given.has "z" then "\x00" else "\n"
  let codes ← given.operands.mapM fun path => do
    let wrong (reason : String) : Sh Nat := do
      if given.has "v" then Sh.warn (shownName path ++ ": " ++ reason)
      return 1
    let demand? : Option Demand := match given.latest? ["f", "e", "m"] with
      | some "f" => some .parents
      | some "e" => some .all
      | some _ => some .nothing
      | none => none
    match demand? with
    | none =>
      match ← entry path with
      | .ok _ => wrong "Invalid argument"
      | .error reason => wrong reason
    | some demand =>
      match ← resolved demand path with
      | .ok address =>
        Sh.say (bytesOfName (pathOfAddress address) ++ mark)
        return 0
      | .error reason => wrong reason
  return codes.foldl max 0

def relativePath (base address : List String) : String :=
  let shared := ((base.zip address).takeWhile fun (a, b) => a = b).length
  let steps := List.replicate (base.length - shared) ".." ++ address.drop shared
  if steps.isEmpty then "." else String.intercalate "/" steps

/-- Shows where paths lead from the top. -/
def realpath : Program := fun _ arguments => do
  let given ← Sh.takeAll 1 ("e,canonicalize-existing m,canonicalize-missing L,logical " ++
    "P,physical q,quiet relative-to: relative-base: s,strip,no-symlinks z,zero") arguments
  if given.operands.isEmpty then Sh.failMissing 1
  let demand : Demand := match given.latest? ["e", "m"] with
    | some "e" => .all
    | some _ => .nothing
    | none => .parents
  let wrong (path reason : String) : Sh Unit := do
    if !given.has "q" then Sh.warn (shownName path ++ ": " ++ reason)
  let baseOf (key : String) : Sh (Option (List String)) := do
    match given.last? key with
    | none => return none
    | some path =>
      match ← resolved demand path with
      | .ok address => return some address
      | .error reason =>
        wrong path reason
        throw (.exit 1)
  let to? ← baseOf "relative-to"
  let base? ← baseOf "relative-base"
  let codes ← given.operands.mapM fun path => do
    match ← resolved demand path with
    | .error reason =>
      wrong path reason
      return 1
    | .ok address =>
      let isInside := base?.all fun base => base.isPrefixOf address
      let shown := match to?.or base?, isInside with
        | some base, true => relativePath base address
        | _, _ => pathOfAddress address
      Sh.say (bytesOfName shown ++ if given.has "z" then "\x00" else "\n")
      return 0
  return codes.foldl max 0

/-- Letters and digits that a number stands for. -/
def madeUp (count number : Nat) : String :=
  let letters := "abcdefghijklmnopqrstuvwxyzABCDEFGHIJKLMNOPQRSTUVWXYZ0123456789".toList.toArray
  String.ofList ((List.range count).map fun index =>
    letters.getD ((number * (index + 7919) + 31 * index * index) % 62) 'a')

/-- Makes a file or a directory of a name that has not been used. -/
def mktemp : Program := fun _ arguments => do
  let given ← Sh.takeAll 1 "d,directory u,dry-run q,quiet suffix: p::,tmpdir t" arguments
  let (given, operands) := match given.options.reverse, given.operands with
    | ("p", none) :: _, directory :: rest =>
      if arguments.contains "-p" then
        (given.withOption "p" (some directory), rest) else (given, given.operands)
    | _, operands => (given, operands)
  if 1 < operands.length then Sh.failUsage 1 "too many templates"
  let isDefault := operands.isEmpty
  let template := operands.headD "tmp.XXXXXXXXXX"
  let usual := ((← Sh.environment).lookup "TMPDIR").getD "/tmp"
  let folder? := (given.all "p").getLast?.or
    (if isDefault || given.has "t" || given.has "p" then some usual else none)
  let cs := template.toList.reverse
  let ending := match given.last? "suffix" with
    | some ending => ending
    | none => String.ofList (cs.takeWhile (· ≠ 'X')).reverse
  let stem := if (given.last? "suffix").isSome then cs else cs.dropWhile (· ≠ 'X')
  let count := (stem.takeWhile (· = 'X')).length
  if count < 3 then Sh.fail 1 ("too few X's in template " ++ quotedName template)
  let stem := String.ofList (stem.drop count).reverse
  let place (name : String) : String := match folder? with
    | some folder => inside folder name
    | none => name
  let path := place (stem ++ madeUp count (← Sh.fresh) ++ ending)
  if !given.has "u" then
    let reason? ←
      if given.has "d" then makeDirectory 0o700 path
      else do
        match ← Sh.openFile .write path with
        | .ok _ =>
          if let some address ← address? path then
            Sh.setWorkspace ((← Sh.workspace).setMode address 0o600)
          pure none
        | .error reason => pure (some reason)
    if let some reason := reason? then
      if given.has "q" then throw (.exit 1)
      let kind := if given.has "d" then "directory" else "file"
      Sh.fail 1 (s!"failed to create {kind} via template " ++ quotedName (place template) ++ ": " ++
        reason)
  Sh.say (path ++ "\n")
  return 0

end MutationTesting.Shell.Utility
