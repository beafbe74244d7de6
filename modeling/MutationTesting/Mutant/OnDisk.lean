import MutationTesting.FileSystem.OnDisk
import MutationTesting.Mutant.Basic
/-! Putting a mutant in the place of its file and taking it off again. A backup of the file stands
beside it and is moved back over it, so a file is never half restored. -/
namespace MutationTesting.Backup

def pathOf (file : Path) : Path :=
  ⟨file.text ++ ".bak"⟩

/-- The backup of a file, if an interrupted run has left one. -/
def leftover? (workspace : Workspace) (file : Path) : Option Path :=
  if workspace.has (pathOf file) then some (pathOf file) else none

/-- The first of some files that has a backup, and the backup. -/
def firstLeftover? (workspace : Workspace) (files : List Path) : Option (Path × Path) :=
  files.findSome? fun file => (leftover? workspace file).map fun backup => (file, backup)

/-- Fails if one of the files has a backup, which a test would overwrite. -/
def ensureNone (files : List Path) : OnDisk Unit := do
  match ← OnDisk.ask fun workspace => firstLeftover? workspace files with
  | some (file, backup) => throw (.orphanedBackup file backup)
  | none => return

/-- The directory of the compiled forms of the files in a directory. -/
def bytecodeDirectory : Path := ⟨"__pycache__"⟩

/-- Whether a name is that of a compiled form of a file with the given stem. -/
def isBytecodeOf (stem name : String) : Bool :=
  Text.startsWith (stem ++ ".") name && Text.endsWith ".pyc" name

def removeIfFile (workspace : Workspace) (path : Path) : Workspace :=
  match workspace.removeFile path with
  | .ok changed => changed
  | .error _ => workspace

/-- Removes the compiled forms of a file. One that was made in the same second would be taken for
that of the changed file. -/
def clearBytecode (file : Path) (workspace : Workspace) : Workspace :=
  match file.directory?, file.stem? with
  | some directory, some stem =>
    let compiled := directory.join bytecodeDirectory
    match workspace.list compiled with
    | .ok entries =>
      ((entries.map Prod.fst).filter (isBytecodeOf stem)).foldl
        (fun workspace name => removeIfFile workspace (compiled.join ⟨name⟩)) workspace
    | .error _ => workspace
  | _, _ => workspace

def restore (file backup : Path) : OnDisk Unit := do
  OnDisk.change fun workspace => workspace.rename backup file
  OnDisk.adjust (clearBytecode file)

end MutationTesting.Backup

namespace MutationTesting.Mutant

/-- Writes the source beside the file as a backup and then the changed source in its place. -/
def apply (mutant : Mutant) : OnDisk Mutant := do
  if mutant.applied then throw (.alreadyApplied mutant.file)
  OnDisk.change fun workspace => workspace.writeText (Backup.pathOf mutant.file) mutant.source
  OnDisk.change fun workspace => workspace.writeText mutant.file mutant.mutated
  OnDisk.adjust (Backup.clearBytecode mutant.file)
  return { mutant with applied := true }

/-- Moves the backup back over the file. -/
def revert (mutant : Mutant) : OnDisk Mutant := do
  if !mutant.applied then throw (.notApplied mutant.file)
  Backup.restore mutant.file (Backup.pathOf mutant.file)
  return { mutant with applied := false }

/-- Writes the changed source for good, with a backup if one is wanted. -/
def writePermanently (mutant : Mutant) (backup : Bool) : OnDisk Unit := do
  if backup then
    OnDisk.change fun workspace => workspace.writeText (Backup.pathOf mutant.file) mutant.source
  OnDisk.change fun workspace => workspace.writeText mutant.file mutant.mutated
  OnDisk.adjust (Backup.clearBytecode mutant.file)

end MutationTesting.Mutant
