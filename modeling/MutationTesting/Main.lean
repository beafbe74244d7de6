import MutationTesting.CommandLine.Terminal
import MutationTesting.Json.Reader
import MutationTesting.Python.Source
import MutationTesting.Shell.Executor
/-! The program. It reads the working directory, carries out the command line on what it has read,
prints what that yields and stores what it has changed. The parse trees of the sources are taken
from a file that a variable names; a source without one has a syntax error. -/
open MutationTesting

namespace MutationTesting.Program

/-- The variable that names the file with the parse trees. -/
def treesVariable : String := "MUTATOR_PARSE_TREES"

def optionVariables : List String :=
  (CommandLine.Command.all.flatMap fun command =>
    command.options.filterMap CommandLine.OptionRule.fallback?).eraseDups

/-- The values of variables, as far as they are set. -/
def readVariables (names : List String) : IO (List (String × String)) := do
  let values ← names.mapM fun name => do return (name, ← IO.getEnv name)
  return values.filterMap fun (name, value?) => value?.map fun value => (name, value)

def readTrees : IO (List (String × Python.ParseTree)) := do
  match ← IO.getEnv treesVariable with
  | none => return []
  | some path =>
    let text ← IO.FS.readFile path
    return ((Json.parse? text).bind Python.treesOfJson?).getD []

partial def readEntries (directory : IO.FS.DirEntry) : IO Entry := do
  let path := directory.path
  if ← path.isDir then
    let entries ← (← path.readDir).mapM fun entry => do return (entry.fileName, ← readEntries entry)
    return .directory (entries.toList.foldl (fun all (name, entry) =>
      Entry.insertNamed name entry all) [])
  else return .file (← IO.FS.readBinFile path)

partial def store (place : IO.FS.DirEntry) (old? new? : Option Entry) : IO Unit := do
  let below (name : String) : IO.FS.DirEntry := ⟨place.path, name⟩
  match old?, new? with
  | some (.file old), some (.file new) =>
    if old != new then IO.FS.writeBinFile place.path new
  | some (.directory old), some (.directory new) =>
    for (name, entry) in old do
      if (new.lookup name).isNone then store (below name) (some entry) none
    for (name, entry) in new do
      store (below name) (old.lookup name) (some entry)
  | none, some (.file new) => IO.FS.writeBinFile place.path new
  | none, some (.directory new) =>
    IO.FS.createDirAll place.path
    for (name, entry) in new do store (below name) none (some entry)
  | some (.file _), none => IO.FS.removeFile place.path
  | some (.directory _), none => IO.FS.removeDirAll place.path
  | none, none => return
  | some old, some new => do
    store place (some old) none
    store place none (some new)

/-- Carries out a command line on the working directory. -/
def run (arguments : List String) : IO UInt32 := do
  let here : IO.FS.DirEntry := ⟨← IO.currentDir, "."⟩
  let address := (Path.mk (toString (← IO.currentDir))).components.filterMap fun
    | .name text => some text
    | _ => none
  let before ← readEntries here
  let workspace : Workspace :=
    { top := address.foldr (fun name entry => .directory [(name, entry)]) before, here := address }
  let trees ← readTrees
  let environment ← readVariables optionVariables
  let tools : CommandLine.Tools :=
    ⟨Python.frontend fun source => trees.lookup source, Shell.executor environment⟩
  let outcome := CommandLine.perform tools environment arguments workspace
  store here (some before) (outcome.workspace.top.get? address)
  IO.print outcome.output
  IO.eprint outcome.errors
  return outcome.code.toUInt32

end MutationTesting.Program

def main (arguments : List String) : IO UInt32 :=
  MutationTesting.Program.run arguments
