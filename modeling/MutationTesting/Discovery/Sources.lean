import MutationTesting.Error
import MutationTesting.FileSystem.Workspace
import MutationTesting.Glob.Pattern
import MutationTesting.Text.Lines
/-! The files to mutate: those below a path with the right extensions, but for tests, excluded
paths, and directories that hold no code of the project. Where no path is given, the directory of the
code is guessed. -/
namespace MutationTesting.Discovery

/-- Names of directories that hold no code of the project. -/
def skippedNames : List String := [
  ".git", ".hg", ".svn", "node_modules", ".venv", "venv", "__pycache__", ".tox", ".mypy_cache",
  ".pytest_cache", ".ruff_cache", "build", "dist"]

/-- What is left out: directories of tests and paths that patterns match. -/
structure SourceFilter where
  testDirectories : List Path
  excluded : List Glob.Pattern

namespace SourceFilter

/-- The filter for directories and the texts of patterns. Blank ones do not count. -/
def make (testDirectories : List Path) (patterns : List String) : Except Error SourceFilter := do
  let texts := (patterns.map Text.trim).filter (· ≠ "")
  match texts.mapM Glob.Pattern.parse with
  | .ok excluded => return ⟨testDirectories.map Path.normalize, excluded⟩
  | .error error => throw (.badPattern error)

/-- Whether a path is a directory of tests or matches a pattern, by its name or as a whole. -/
def excludes (filter : SourceFilter) (path : Path) : Bool :=
  let normal := path.normalize
  filter.testDirectories.any normal.same ||
    filter.excluded.any fun pattern =>
      path.fileName?.any pattern.isMatch || pattern.isMatch normal.text

/-- Whether an entry below the starting point is kept. -/
def keeps (filter : SourceFilter) (walked : Walked) : Bool :=
  !(walked.entry.isDirectory && skippedNames.contains walked.name) && !filter.excludes walked.path

end SourceFilter

def hasExtension (extensions : List String) (path : Path) : Bool :=
  path.extension?.any extensions.contains

/-- The files to mutate below a path, each directory in the order of its names. A path that names
a file stands for itself. -/
def sourceFiles (workspace : Workspace) (filter : SourceFilter) (extensions : List String)
    (path : Path) : Except Error (List Path) :=
  match workspace.find path with
  | .error fault => .error (.fault fault)
  | .ok (.file _) => .ok [path]
  | .ok entry =>
    .ok (((entry.walk filter.keeps path).filter fun walked =>
      walked.entry.isFile && hasExtension extensions walked.path).map Walked.path)

/-- Spellings of a project's name that its package may have. -/
def spellings (name : String) : List String :=
  [name, Text.replace "-" "_" name, Text.replace " " "_" name, Text.replace "-" "" name,
    Text.replace " " "" name]

/-- Names that the directory of the code of a project may have, the most usual ones first. -/
def codeNames (project : Path) : List String :=
  ["lib", "src"] ++ (project.fileName?.map spellings).getD []

/-- The directory of the code of a project: one of the usual names, or the name of the project. -/
def guessCode (workspace : Workspace) (project : Path) : Except Error Path :=
  match (codeNames project).find? fun name => workspace.hasDirectory (project.join ⟨name⟩) with
  | some name => .ok ⟨name⟩
  | none => .error .noPathsToMutate

end MutationTesting.Discovery
