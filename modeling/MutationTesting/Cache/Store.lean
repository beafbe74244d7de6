import MutationTesting.Cache.Basic
import MutationTesting.FileSystem.OnDisk
import MutationTesting.Json.Magnitude
import MutationTesting.Json.Reader
import MutationTesting.Json.Value
/-! Caches on disk. The stored form is an object of JSON with a version; a text that is none, or one
of another version, stands for an empty cache. Saving replaces the stored file in one step. -/
namespace MutationTesting

namespace CacheData

def formatVersion : Nat := 2

/-- The width in bits of stored numbers. -/
def wordWidth : Nat := 64

/-- The values of the named members. A record is an object, whose members with other names do
not count, or an array of all its members in order. -/
def members? (names : List String) : Json → Option (List (Option Json))
  | .object members =>
    if names.any fun name => 1 < (members.map Prod.fst).count name then none
    else some (names.map fun name => members.lookup name)
  | .array items => if items.length = names.length then some (items.map some) else none
  | _ => none

/-- A member that may be missing or null. -/
def optional? (read? : Json → Option α) : Option Json → Option (Option α)
  | none => some none
  | some .null => some none
  | some value => (read? value).map some

/-- A status: its word, or an object with its word and nothing under it. -/
def status? : Json → Option Status
  | .string text? => text?.bind Status.ofCode?
  | .object [(code, .null)] => Status.ofCode? code
  | _ => none

def mutant? (value : Json) : Option CachedMutant := do
  match ← members? ["id", "index", "status", "tested_against_hash"] value with
  | [some number, some index, some status, digest] =>
    return {
      number := (← number.natural? wordWidth)
      index := (← index.natural? wordWidth)
      status := (← status? status)
      digest? := (← optional? Json.text? digest) }
  | _ => none

def line? (value : Json) : Option CachedLine := do
  match ← members? ["line", "line_number", "mutants"] value with
  | [some text, some row, some mutants] =>
    return {
      text := (← text.text?)
      row := (← row.natural? wordWidth)
      mutants := (← (← mutants.items?).mapM mutant?) }
  | _ => none

def readFile? (value : Json) : Option CachedFile := do
  match ← members? ["lines"] value with
  | [some lines] => return ⟨← (← lines.items?).mapM line?⟩
  | _ => none

/-- The files of a cache. Of two with one path the later one counts, under the spelling of the
earlier one. -/
def files? : Json → Option (List (Path × CachedFile))
  | .object members =>
    members.foldlM (fun files (path, value) =>
      (readFile? value).map fun file => putFile ⟨path⟩ file files) []
  | _ => none

/-- The data that a value of the present version holds. -/
def ofJson? (value : Json) : Option CacheData := do
  match value with
  | .object _ =>
    match ← members? ["version", "baseline_time", "next_id", "files"] value with
    | [some version, baseline, some next, some files] =>
      if (← version.natural? 32) = formatVersion then
        return {
          baseline? := (← optional? Json.float? baseline)
          nextNumber := (← next.natural? wordWidth)
          files := (← files? files) }
      else none
    | _ => none
  | _ => none

def decode (text : String) : CacheData :=
  ((Json.parse? text).bind ofJson?).getD .empty

def nullable (write : α → Json) : Option α → Json
  | some value => write value
  | none => .null

def mutantJson (mutant : CachedMutant) : Json :=
  .object [
    ("id", .natural mutant.number),
    ("index", .natural mutant.index),
    ("status", .text mutant.status.code),
    ("tested_against_hash", nullable .text mutant.digest?)]

def lineJson (line : CachedLine) : Json :=
  .object [
    ("line", .text line.text),
    ("line_number", .natural line.row),
    ("mutants", .array (line.mutants.map mutantJson))]

def fileJson (file : CachedFile) : Json :=
  .object [("lines", .array (file.lines.map lineJson))]

def toJson (data : CacheData) : Json :=
  .object [
    ("version", .natural formatVersion),
    ("baseline_time", nullable .float data.baseline?),
    ("next_id", .natural data.nextNumber),
    ("files", .object (data.files.map fun (path, file) => (path.text, fileJson file)))]

/-- The stored text of the data. -/
def encode (data : CacheData) : String :=
  data.toJson.pretty

end CacheData

/-- A cache and the path of its stored form. -/
structure Cache where
  path : Path
  data : CacheData

namespace Cache

/-- The name of a stored cache in its directory. -/
def fileName : Path := ⟨".mutator-cache.json"⟩

/-- Opens the cache of a directory. Where nothing is stored, it is empty. -/
def openIn (workspace : Workspace) (directory : Path) : Except Error Cache :=
  let path := directory.join fileName
  match workspace.readText path with
  | .ok text => .ok ⟨path, .decode text⟩
  | .error .notFound => .ok ⟨path, .empty⟩
  | .error fault => .error (.fault fault)

theorem path_of_openIn {workspace : Workspace} {directory : Path} {cache : Cache}
    (opens : openIn workspace directory = .ok cache) : cache.path = directory.join fileName := by
  unfold openIn at opens
  dsimp only at opens
  split at opens
  · exact (Except.ok.inj opens ▸ rfl)
  · exact (Except.ok.inj opens ▸ rfl)
  · contradiction

def save (cache : Cache) : OnDisk Unit :=
  OnDisk.change fun workspace => workspace.replace cache.path cache.data.encode.toUTF8

end Cache

end MutationTesting
