import MutationTesting.Digest.Sha256
import MutationTesting.Discovery.Sources
import MutationTesting.Glob.Expand
/-! The directories of tests, and the digest of what is in them. -/
namespace MutationTesting.Discovery

/-- The patterns of directories of tests, divided by colons, where none are given. -/
def defaultTestDirectories : String := "tests/:test/"

/-- The patterns that a text lists, without blanks around them and slashes at their ends. -/
def patternsOf (text : String) : List String :=
  (((Text.splitAt ':' text).map Text.trim).filter (· ≠ "")).map (Text.trimEndWhile (· == '/'))

/-- The patterns to look for: a pattern itself, and the same anywhere below the paths to
mutate. -/
def candidates (paths : List Path) (pattern : String) : List String :=
  pattern :: paths.map fun path => path.text ++ "/**/" ++ pattern

def addNew (known new : List Path) : List Path :=
  new.foldl (fun known path => if known.any path.same then known else known ++ [path]) known

/-- The directories that a pattern matches. A text that is no pattern matches none. -/
def directoriesOf (workspace : Workspace) (pattern : String) : List Path :=
  match Glob.paths workspace pattern with
  | .ok paths => paths.filter fun path => workspace.hasDirectory path
  | .error _ => []

/-- The directories of tests that a text lists, by the working directory and anywhere below the
paths to mutate. -/
def testDirectories (workspace : Workspace) (text : String) (paths : List Path) : List Path :=
  ((patternsOf text).flatMap (candidates paths)).foldl
    (fun known pattern => addNew known (directoriesOf workspace pattern)) []

/-- The extension of compiled files, which do not count as tests. -/
def compiledExtension : String := "pyc"

/-- The paths and contents of the files of tests, in the order of the walk. -/
def testFiles (workspace : Workspace) : List Path → Except Error (List (Path × ByteArray))
  | [] => .ok []
  | directory :: rest => do
    let entry ←
      match workspace.find directory with
      | .ok entry => pure entry
      | .error fault => throw (.fault fault)
    let walked := ⟨directory, "", entry⟩ :: entry.walk (fun _ => true) directory
    let files := walked.filterMap fun walked =>
      if walked.path.extension? = some compiledExtension then none
      else walked.entry.content?.map fun content => (walked.path, content)
    return files ++ (← testFiles workspace rest)

/-- The bytes whose digest stands for the tests: the path and then the content of each file. -/
def testBytes (files : List (Path × ByteArray)) : List UInt8 :=
  files.flatMap fun (path, content) => path.text.toUTF8.toList ++ content.toList

def testsDigest (workspace : Workspace) (directories : List Path) : Except Error String :=
  (testFiles workspace directories).map fun files =>
    Digest.hexadecimal (Digest.sha256 (testBytes files))

end MutationTesting.Discovery
