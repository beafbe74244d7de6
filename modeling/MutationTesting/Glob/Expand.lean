import MutationTesting.FileSystem.Workspace
import MutationTesting.Glob.Pattern
/-! The paths of a workspace that match a pattern, component by component. A directory comes
before what is in it, and entries of one directory come in the order of their names. -/
namespace MutationTesting.Glob

/-- Whether a path is the working directory as such. -/
def isHere (path : Path) : Bool :=
  path.components == [.current]

/-- A path below another one; below the working directory as such it stands for itself. -/
def below (path : Path) (name : String) : Path :=
  if isHere path then ⟨name⟩ else path.join ⟨name⟩

/-- The path that a component without wildcards leads to. -/
def literalStep? (workspace : Workspace) (path : Path) (name : String) : Option Path :=
  let next := below path name
  let special := name = "." ∨ name = ".."
  if (special ∧ workspace.hasDirectory path) ∨ (¬special ∧ workspace.has next) then some next
  else none

/-- The entries of a directory with their paths. -/
def children (workspace : Workspace) (path : Path) : List Walked :=
  match workspace.list path with
  | .ok entries => entries.map fun (name, entry) => ⟨below path name, name, entry⟩
  | .error _ => []

/-- All entries below a directory with their paths. -/
def descendants (workspace : Workspace) (path : Path) : List Walked :=
  (children workspace path).flatMap fun child =>
    child :: child.entry.walk (fun _ => true) child.path

/-- The paths of the directory itself and of the one above it that a component matches. Only a
component that starts with a dot does. -/
def dotSteps (path : Path) (pattern : Pattern) : List Path :=
  if pattern.tokens.head? = some (.char '.') then
    ([".", ".."].filter pattern.isMatch).map fun name => path.join ⟨name⟩
  else []

/-- The paths below `path` that components match; `directoryOnly` says that these have to be
directories. -/
def expand (workspace : Workspace) (directoryOnly : Bool) : List Pattern → Path → List Path
  | [], _ => []
  | pattern :: rest, path =>
    let last (path : Path) : List Path :=
      if directoryOnly ∧ !workspace.hasDirectory path then [] else [path]
    match pattern.literal? with
    | some name =>
      match literalStep? workspace path name with
      | none => []
      | some next =>
        match rest with
        | [] => last next
        | _ => expand workspace directoryOnly rest next
    | none =>
      if !workspace.hasDirectory path then []
      else if pattern.isRecursive then
        (descendants workspace path).flatMap fun child =>
          match rest with
          | [] => if child.entry.isDirectory then [child.path] else []
          | next :: rest =>
            if next.isMatch child.name then
              match rest with
              | [] => last child.path
              | _ =>
                if child.entry.isDirectory then expand workspace directoryOnly rest child.path
                else []
            else []
      else
        ((dotSteps path pattern).reverse.flatMap fun next =>
          match rest with
          | [] => [next]
          | _ => expand workspace directoryOnly rest next) ++
        (children workspace path).flatMap fun child =>
          if pattern.isMatch child.name then
            match rest with
            | [] => last child.path
            | _ =>
              if child.entry.isDirectory then expand workspace directoryOnly rest child.path
              else []
          else []

/-- Patterns without those for any directories that follow another one. -/
def collapse : List Pattern → List Pattern
  | a :: b :: rest =>
    if a.isRecursive ∧ b.isRecursive then collapse (b :: rest) else a :: collapse (b :: rest)
  | patterns => patterns

/-- The components of a pattern; a slash at the end is no component. -/
def componentTexts (text : String) : List String :=
  let pieces := Text.splitAt '/' text
  if pieces.getLast? = some "" then pieces.dropLast else pieces

def paths (workspace : Workspace) (text : String) : Except PatternError (List Path) := do
  let _ ← Pattern.parse text
  let (scope, rest) : Path × String :=
    match text.toList with
    | '/' :: rest => (⟨"/"⟩, String.ofList rest)
    | _ => (⟨"."⟩, text)
  let patterns ← (componentTexts rest).mapM Pattern.parse
  let patterns := if rest = "" then [⟨[]⟩] else patterns
  return expand workspace (Text.endsWith "/" text) (collapse patterns) scope

end MutationTesting.Glob
