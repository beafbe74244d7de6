import MutationTesting.Diff.Change
import MutationTesting.Error
import MutationTesting.Json.Value
import MutationTesting.Mutant.Basic
import MutationTesting.Path
import MutationTesting.Text.Lines
/-! The results of earlier runs: for each file its lines, and for each line its mutants with what is
known of them. A mutant has a number for good, and is listed under it. -/
namespace MutationTesting

/-- A mutant that the cache knows: its number, its file, its name and its status. -/
structure CacheEntry where
  number : Nat
  file : Path
  id : MutantId
  status : Status
  deriving Repr, DecidableEq

namespace CacheEntry

def toJson (entry : CacheEntry) : Json :=
  .object [
    ("id", .natural entry.number),
    ("filename", .text entry.file.text),
    ("mutation", .object [
      ("line", .text entry.id.line),
      ("index", .natural entry.id.index),
      ("line_number", .natural entry.id.row)]),
    ("status", .text entry.status.code)]

end CacheEntry

/-- A mutant that the cache knows: its number, its place on its line, its status, and the digest
of the tests that the status was found with. -/
structure CachedMutant where
  number : Nat
  index : Nat
  status : Status
  digest? : Option String
  deriving Repr, DecidableEq

structure CachedLine where
  text : String
  row : Nat
  mutants : List CachedMutant
  deriving Repr, DecidableEq

structure CachedFile where
  lines : List CachedLine
  deriving Repr, DecidableEq

/-- What a cache holds: the time of the clean run, the number that the next mutant gets, and the
files in the order of their paths. -/
structure CacheData where
  baseline? : Option Float
  nextNumber : Nat
  files : List (Path × CachedFile)

namespace CachedLine

def fresh (text : String) (row : Nat) : CachedLine :=
  ⟨text, row, []⟩

/-- Whether a line is the one that a mutant's name speaks of. -/
def isLineOf (line : CachedLine) (id : MutantId) : Bool :=
  line.row == id.row && line.text == id.line

/-- The mutant of a line that has a place on it. -/
def mutant? (line : CachedLine) (index : Nat) : Option CachedMutant :=
  line.mutants.find? (·.index == index)

def idOf (line : CachedLine) (mutant : CachedMutant) : MutantId :=
  ⟨line.text, mutant.index, line.row⟩

end CachedLine

namespace CacheData

/-- A cache without files. Numbers start with one. -/
def empty : CacheData :=
  ⟨none, 1, []⟩

def file? (data : CacheData) (path : Path) : Option CachedFile :=
  (data.files.find? fun (other, _) => other.same path).map Prod.snd

/-- Puts a file under a path; the path keeps the spelling it had. -/
def putFile (path : Path) (file : CachedFile) : List (Path × CachedFile) → List (Path × CachedFile)
  | [] => [(path, file)]
  | (other, old) :: rest =>
    match path.compare other with
    | .lt => (path, file) :: (other, old) :: rest
    | .eq => (other, file) :: rest
    | .gt => (other, old) :: putFile path file rest

def setFile (data : CacheData) (path : Path) (file : CachedFile) : CacheData :=
  { data with files := putFile path file data.files }

/-- The mutant that a name of a file names. -/
def find? (data : CacheData) (path : Path) (id : MutantId) : Option CachedMutant := do
  let file ← data.file? path
  let line ← file.lines.find? (·.isLineOf id)
  line.mutant? id.index

def number? (data : CacheData) (path : Path) (id : MutantId) : Option Nat :=
  (data.find? path id).map CachedMutant.number

def lookupIn (number : Nat) (file : CachedFile) : Option MutantId :=
  file.lines.findSome? fun line =>
    (line.mutants.find? (·.number == number)).map line.idOf

def lookup (data : CacheData) (number : Nat) : Except Error (Path × MutantId) :=
  match data.files.findSome? fun (path, file) =>
      (lookupIn number file).map fun id => (path, id) with
  | some found => .ok found
  | none => .error (.unknownMutant number)

/-- The mutants of a line in the order of their places. -/
def lineEntries (path : Path) (line : CachedLine) : List CacheEntry :=
  (line.mutants.mergeSort fun a b => a.index ≤ b.index).map fun mutant =>
    ⟨mutant.number, path, line.idOf mutant, mutant.status⟩

/-- All mutants by file, line and place. -/
def entries (data : CacheData) : List CacheEntry :=
  data.files.flatMap fun (path, file) => file.lines.flatMap (lineEntries path)

/-- The status of a mutant that can be relied on. A kill counts whatever the tests are now; any
other status only counts for the tests that it was found with. -/
def trustedStatus (data : CacheData) (path : Path) (id : MutantId) (digest : String) : Status :=
  match data.find? path id with
  | none => .untested
  | some mutant =>
    if mutant.status = .killed then .killed
    else if mutant.digest? = some digest then mutant.status
    else .untested

/-- The first line that is the one of a name, changed; `none` if there is no such line. -/
def modifyLine? (id : MutantId) (change : CachedLine → CachedLine) :
    List CachedLine → Option (List CachedLine)
  | [] => none
  | line :: rest =>
    if line.isLineOf id then some (change line :: rest)
    else (modifyLine? id change rest).map (line :: ·)

def changeLine? (data : CacheData) (path : Path) (id : MutantId)
    (change : CachedLine → CachedLine) : Option CacheData := do
  let file ← data.file? path
  let lines ← modifyLine? id change file.lines
  return data.setFile path ⟨lines⟩

/-- The error for a line that a file does not have. -/
def lineError (path : Path) (id : MutantId) : Error :=
  .unknownLine path id.line id.row

/-- Whether a mutant has to be added for a name. -/
def lacks (data : CacheData) (path : Path) (id : MutantId) : Bool :=
  (data.find? path id).isNone

/-- The data with a new mutant at the end of its line. -/
def add? (data : CacheData) (path : Path) (id : MutantId) (status : Status)
    (digest? : Option String) : Option CacheData :=
  (data.changeLine? path id fun line =>
    { line with mutants := line.mutants ++ [⟨data.nextNumber, id.index, status, digest?⟩] }).map
    fun data => { data with nextNumber := data.nextNumber + 1 }

/-- Whether a file has the line of a name. -/
def hasLine (data : CacheData) (path : Path) (id : MutantId) : Bool :=
  match data.file? path with
  | some file => file.lines.any (·.isLineOf id)
  | none => false

/-- The data in which names of a file have mutants. New ones are untested. At the first name
whose line is not there this ends, and what was added before stays. -/
def register (data : CacheData) (path : Path) : List MutantId → Except Error Unit × CacheData
  | [] => (.ok (), data)
  | id :: rest =>
    if !data.hasLine path id then (.error (lineError path id), data)
    else if data.lacks path id then
      match data.add? path id .untested none with
      | some data => data.register path rest
      | none => (.error (lineError path id), data)
    else data.register path rest

/-- A line on which the mutant at a place has another status. -/
def restate (index : Nat) (status : Status) (digest : String) (line : CachedLine) : CachedLine :=
  { line with
    mutants := line.mutants.modify (line.mutants.findIdx (·.index == index)) fun mutant =>
      { mutant with status, digest? := some digest } }

/-- The data with another status for a mutant, which is added if it is not there. -/
def setStatus (data : CacheData) (path : Path) (id : MutantId) (status : Status)
    (digest : String) : Except Error CacheData :=
  let changed? :=
    if data.lacks path id then data.add? path id status (some digest)
    else data.changeLine? path id (restate id.index status digest)
  match changed? with
  | some data => .ok data
  | none => .error (lineError path id)

end CacheData

end MutationTesting

/-! Lines of the cache brought in line with the present text of their file. A line that stays keeps
its mutants under its new row; a line that goes takes them along. -/
namespace MutationTesting.CacheData

open Diff

def alignChange (old : Array CachedLine) (current : Array String) (change : Change) :
    List CachedLine :=
  match change.kind with
  | .equal => (List.range change.oldLength).filterMap fun k =>
      old[change.old + k]?.map fun line => { line with row := change.new + k }
  | .delete => []
  | .insert | .replace => (List.range change.newLength).filterMap fun k =>
      current[change.new + k]?.map fun text => .fresh text (change.new + k)

def align (changes : List Change) (old : Array CachedLine) (current : Array String) :
    List CachedLine :=
  changes.flatMap (alignChange old current)

def freshLines (rows : List String) : List CachedLine :=
  rows.mapIdx fun row text => .fresh text row

/-- The lines of a file for its present rows, given the lines it had. -/
def realign (old : List CachedLine) (rows : List String) : List CachedLine :=
  if old.isEmpty then freshLines rows
  else
    let current := rows.toArray
    align (changes (old.map CachedLine.text).toArray current) old.toArray current

/-- The data for the present text of a file. -/
def updateLines (data : CacheData) (path : Path) (source : String) : CacheData :=
  let old :=
    match data.file? path with
    | some file => file.lines
    | none => []
  data.setFile path ⟨realign old (Text.rows source)⟩

end MutationTesting.CacheData
