import MutationTesting.FileSystem.Fault
import MutationTesting.Path
/-! Trees of files and directories, addressed from the top by lists of names. -/
namespace MutationTesting

/-- A file, or a directory with its entries in the order of their names. -/
inductive Entry where
  | file (content : ByteArray)
  | directory (entries : List (String × Entry))

namespace Entry

instance : Inhabited Entry := ⟨directory []⟩

def isDirectory : Entry → Bool
  | directory _ => true
  | file _ => false

def isFile (entry : Entry) : Bool :=
  !entry.isDirectory

def content? : Entry → Option ByteArray
  | file content => some content
  | directory _ => none

/-- The entries of a directory; a file has none. -/
def entries : Entry → List (String × Entry)
  | directory entries => entries
  | file _ => []

/-- Puts an entry under a name, in the place of the one that has it. -/
def insertNamed (name : String) (new : Entry) : List (String × Entry) → List (String × Entry)
  | [] => [(name, new)]
  | (other, entry) :: rest =>
    if other = name then (name, new) :: rest
    else if name < other then (name, new) :: (other, entry) :: rest
    else (other, entry) :: insertNamed name new rest

def eraseNamed (name : String) (entries : List (String × Entry)) : List (String × Entry) :=
  entries.filter fun (other, _) => other != name

/-- Puts an entry under a name, or takes away the one that has it. -/
def setNamed (name : String) : Option Entry → List (String × Entry) → List (String × Entry)
  | some new, entries => insertNamed name new entries
  | none, entries => eraseNamed name entries

def get? : Entry → List String → Option Entry
  | entry, [] => some entry
  | entry, name :: rest => (entry.entries.lookup name).bind fun below => below.get? rest

/-- Puts an entry at an address, or takes away the one that is there. Where the address leads
through no directory, nothing changes. -/
def set : Entry → List String → Option Entry → Entry
  | entry, [], _ => entry
  | file content, _ :: _, _ => file content
  | directory entries, [name], new => directory (setNamed name new entries)
  | directory entries, name :: rest, new =>
    match entries.lookup name with
    | some below => directory (insertNamed name (below.set rest new) entries)
    | none => directory entries

theorem lookup_cons (name key : String) (entry : Entry) (rest : List (String × Entry)) :
    ((key, entry) :: rest).lookup name = if name = key then some entry else rest.lookup name := by
  change (match name == key with | true => some entry | false => rest.lookup name) = _
  by_cases h : name = key
  · simp [h]
  · simp [beq_eq_false_iff_ne.mpr h, h]

theorem lookup_insertNamed (name other : String) (new : Entry) (entries : List (String × Entry)) :
    (insertNamed name new entries).lookup other =
      if other = name then some new else entries.lookup other := by
  induction entries with
  | nil => simp [insertNamed, lookup_cons]
  | cons first rest ih =>
    obtain ⟨key, entry⟩ := first
    unfold insertNamed
    split
    · rename_i same
      subst same
      grind [lookup_cons]
    · split
      · grind [lookup_cons]
      · grind [lookup_cons]

theorem lookup_eraseNamed (name other : String) (entries : List (String × Entry)) :
    (eraseNamed name entries).lookup other =
      if other = name then none else entries.lookup other := by
  induction entries with
  | nil => simp [eraseNamed]
  | cons first rest ih =>
    obtain ⟨key, entry⟩ := first
    unfold eraseNamed at ih ⊢
    rw [List.filter_cons]
    grind [lookup_cons]

theorem lookup_setNamed (name other : String) (new : Option Entry)
    (entries : List (String × Entry)) :
    (setNamed name new entries).lookup other =
      if other = name then new else entries.lookup other := by
  cases new with
  | some new => exact lookup_insertNamed name other new entries
  | none => exact lookup_eraseNamed name other entries

/-- What has been put at an address is there, if the address leads through directories. -/
theorem get?_set (entry below : Entry) (address : List String) (name : String)
    (new : Option Entry) (found : entry.get? address = some below)
    (isDirectory : below.isDirectory = true) :
    (entry.set (address ++ [name]) new).get? (address ++ [name]) = new := by
  induction address generalizing entry with
  | nil =>
    simp only [get?, Option.some.injEq] at found
    subst found
    cases entry with
    | file content => simp [Entry.isDirectory] at isDirectory
    | directory entries =>
      cases new <;> simp [set, get?, Entry.entries, lookup_setNamed]
  | cons first rest ih =>
    cases entry with
    | file content => simp [get?, Entry.entries] at found
    | directory entries =>
      simp only [get?, Entry.entries] at found
      cases step : entries.lookup first with
      | none => simp [step] at found
      | some inner =>
        simp only [step, Option.bind_some] at found
        have rest_ne : rest ++ [name] ≠ [] := by simp
        obtain ⟨next, others, shape⟩ := List.exists_cons_of_ne_nil rest_ne
        have inner_set := ih inner found
        rw [shape] at inner_set
        simp only [List.cons_append, shape, set, step, get?, Entry.entries, lookup_insertNamed,
          if_true, Option.bind_some]
        exact inner_set

end Entry

/-! A file system with a working directory, and the operations on it. An operation that fails
changes nothing. A file is written in two steps, first emptied and then filled; renaming and
replacing are one step. A walk goes through directories in the order of names, each directory before
what is in it. -/

/-- A file system, the address of its working directory, and the permission bits of the entries
that do not have the usual ones, by their addresses. -/
structure Workspace where
  top : Entry
  here : List String
  modes : List (List String × Nat) := []
  deriving Inhabited

namespace Workspace

/-- The result of an operation on files. -/
abbrev Result := Except Fault

def stepTo (address : List String) : Component → List String
  | .root => []
  | .current => address
  | .parent => address.dropLast
  | .name text => address ++ [text]

/-- The most bytes that a name may have. -/
def longestName : Nat := 255

/-- The most bytes that a path may have. -/
def longestPath : Nat := 4095

def isTooLong : Component → Bool
  | .name text => longestName < text.utf8ByteSize
  | _ => false

/-- Where components lead from an address. Each of them starts at a directory. -/
def follow (top : Entry) (address : List String) : List Component → Result (List String)
  | [] => .ok address
  | component :: rest =>
    match top.get? address with
    | some (.directory _) =>
      if isTooLong component then .error .tooLong
      else follow top (stepTo address component) rest
    | some (.file _) => .error .notDirectory
    | none => .error .notFound

/-- Whether a path can only name a directory, since it ends with a slash or a dot after one. -/
def namesDirectory (path : Path) : Bool :=
  path.endsWithSlash || Text.endsWith "/." path.text

/-- What a path leads through before its last piece, if that is a dot or two, so that the path
does not tell the name of what it names. -/
def beforeDots? (path : Path) : Option Path :=
  let trimmed := path.text.toList.reverse.dropWhile (· = '/')
  let last := trimmed.takeWhile (· ≠ '/')
  if last = ['.'] ∨ last = ['.', '.'] then
    some ⟨String.ofList (trimmed.drop last.length).reverse⟩
  else none

/-- The address that a path leads to. All but the last entry on the way must be there. -/
def address (workspace : Workspace) (path : Path) : Result (List String) :=
  if path.text = "" then .error .notFound
  else if path.text.toList.contains '\x00' then .error .zeroInName
  else if longestPath < path.text.utf8ByteSize then .error .tooLong
  else follow workspace.top workspace.here path.components

def at? (workspace : Workspace) (address : List String) : Option Entry :=
  workspace.top.get? address

/-- The workspace with another entry at an address, or with none. -/
def put (workspace : Workspace) (address : List String) (new : Option Entry) : Workspace :=
  { workspace with
    top := workspace.top.set address new
    modes :=
      if new.isSome then workspace.modes
      else workspace.modes.filter fun (other, _) => !address.isPrefixOf other }

def usualMode (entry : Entry) : Nat :=
  if entry.isDirectory then 0o755 else 0o644

/-- The permission bits of the entry at an address. -/
def mode (workspace : Workspace) (address : List String) : Nat :=
  (workspace.modes.lookup address).getD (usualMode ((workspace.at? address).getD default))

/-- The workspace with other permission bits of the entry at an address. -/
def setMode (workspace : Workspace) (address : List String) (mode : Nat) : Workspace :=
  let others := workspace.modes.filter fun (other, _) => other != address
  let isUsual := (workspace.at? address).any fun entry => usualMode entry = mode
  { workspace with modes := if isUsual then others else (address, mode) :: others }

def find (workspace : Workspace) (path : Path) : Result Entry := do
  match workspace.at? (← workspace.address path) with
  | none => .error .notFound
  | some entry =>
    if namesDirectory path ∧ entry.isFile then .error .notDirectory else .ok entry

/-- Whether a path names an entry. -/
def has (workspace : Workspace) (path : Path) : Bool :=
  (workspace.find path).isOk

def hasDirectory (workspace : Workspace) (path : Path) : Bool :=
  match workspace.find path with
  | .ok entry => entry.isDirectory
  | .error _ => false

def hasFile (workspace : Workspace) (path : Path) : Bool :=
  match workspace.find path with
  | .ok entry => entry.isFile
  | .error _ => false

/-- The content of a file. -/
def read (workspace : Workspace) (path : Path) : Result ByteArray := do
  match ← workspace.find path with
  | .file content => .ok content
  | .directory _ => .error .isDirectory

/-- The content of a file as a text. -/
def readText (workspace : Workspace) (path : Path) : Result String := do
  match String.fromUTF8? (← workspace.read path) with
  | some text => .ok text
  | none => .error .invalidText

/-- The address at which a file can be written. -/
def fileAddress (workspace : Workspace) (path : Path) : Result (List String) := do
  let address ← workspace.address path
  match workspace.at? address with
  | some (.directory _) => .error .isDirectory
  | some (.file _) => if namesDirectory path then .error .notDirectory else .ok address
  | none =>
    if path.endsWithSlash then .error .isDirectory
    else if namesDirectory path then .error .notFound
    else .ok address

/-- Empties a file, or makes an empty one. -/
def truncate (workspace : Workspace) (path : Path) : Result Workspace := do
  return workspace.put (← workspace.fileAddress path) (some (.file .empty))

/-- Puts a content into a file in one step. -/
def replace (workspace : Workspace) (path : Path) (content : ByteArray) : Result Workspace := do
  return workspace.put (← workspace.fileAddress path) (some (.file content))

/-- Writes a file: empties it and then fills it. -/
def write (workspace : Workspace) (path : Path) (content : ByteArray) : Result Workspace := do
  (← workspace.truncate path).replace path content

def writeText (workspace : Workspace) (path : Path) (text : String) : Result Workspace :=
  workspace.write path text.toUTF8

/-- Whether an entry may be moved to where another one is: a file over a file, and a directory
over an empty one. -/
def mayReplace (moved : Entry) : Option Entry → Result Unit
  | none => .ok ()
  | some (.file _) => if moved.isDirectory then .error .notDirectory else .ok ()
  | some (.directory entries) =>
    if moved.isFile then .error .isDirectory
    else if entries.isEmpty then .ok ()
    else .error .notEmpty

/-- The address of what a path leads through before it ends in dots, or of what it names. -/
def parentAddress (workspace : Workspace) (path : Path) : Result (List String) :=
  match beforeDots? path with
  | none => workspace.address path
  | some parent => do
    if parent.text ≠ "" then let _ ← workspace.find parent
    return []

/-- Moves an entry from an address to another one. -/
def move (workspace : Workspace) (entry : Entry) (source target : List String) : Workspace :=
  let moved := workspace.modes.filterMap fun (address, mode) =>
    if source.isPrefixOf address then some (target ++ address.drop source.length, mode) else none
  let changed := ((workspace.put target none).put source none).put target (some entry)
  { changed with modes := moved ++ changed.modes }

/-- Moves an entry to another path, over the one that is there. -/
def rename (workspace : Workspace) (old new : Path) : Result Workspace := do
  let source ← workspace.parentAddress old
  let target ← workspace.parentAddress new
  if (beforeDots? old).isSome ∨ (beforeDots? new).isSome then throw .nameless
  let entry ← workspace.find old
  if namesDirectory new ∧ entry.isFile then throw .notDirectory
  if source = target then return workspace
  if source.isPrefixOf target then throw .belowItself
  if target.isPrefixOf source then throw .notEmpty
  mayReplace entry (workspace.at? target)
  return workspace.move entry source target

/-- Copies a file with its permission bits. -/
def copy (workspace : Workspace) (old new : Path) : Result Workspace := do
  match ← workspace.find old with
  | .file content =>
    let written ← workspace.write new content
    return written.setMode (← workspace.address new) (workspace.mode (← workspace.address old))
  | .directory _ => .error .notRegular

def removeFile (workspace : Workspace) (path : Path) : Result Workspace := do
  match ← workspace.find path with
  | .file _ => return workspace.put (← workspace.address path) none
  | .directory _ => .error .isDirectory

/-- Removes an entry with all that is below it. -/
def removeAll (workspace : Workspace) (path : Path) : Result Workspace := do
  let _ ← workspace.find path
  return workspace.put (← workspace.address path) none

/-- The entries of a directory in the order of their names. -/
def list (workspace : Workspace) (path : Path) : Result (List (String × Entry)) := do
  match ← workspace.find path with
  | .directory entries => .ok entries
  | .file _ => .error .notDirectory

def makeFrom (workspace : Workspace) (address : List String) : List Component → Result Workspace
  | [] => .ok workspace
  | component :: rest => do
    if isTooLong component then throw .tooLong
    let next := stepTo address component
    match workspace.at? next with
    | some (.directory _) => makeFrom workspace next rest
    | some (.file _) => .error .notDirectory
    | none => makeFrom (workspace.put next (some (.directory []))) next rest

/-- Makes a directory and those above it, as far as they are not there. -/
def makeDirectories (workspace : Workspace) (path : Path) : Result Workspace :=
  makeFrom workspace workspace.here path.components

/-- The workspace seen from another directory. -/
def enter (workspace : Workspace) (path : Path) : Result Workspace := do
  let address ← workspace.address path
  match workspace.at? address with
  | some (.directory _) => return { workspace with here := address }
  | some (.file _) => .error .notDirectory
  | none => .error .notFound

end Workspace

structure Walked where
  path : Path
  name : String
  entry : Entry

namespace Entry

mutual
/-- The entries below an entry. One that is not kept is left out with all that is below it. -/
def walk (keep : Walked → Bool) (path : Path) : Entry → List Walked
  | file _ => []
  | directory entries => walkAll keep path entries

/-- The entries of a directory from the next one on, and those below them. -/
def walkAll (keep : Walked → Bool) (path : Path) : List (String × Entry) → List Walked
  | [] => []
  | (name, entry) :: rest =>
    let here : Walked := ⟨path.join ⟨name⟩, name, entry⟩
    (if keep here then here :: walk keep here.path entry else []) ++ walkAll keep path rest
end

end Entry

end MutationTesting
