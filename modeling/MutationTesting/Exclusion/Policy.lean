import MutationTesting.Json.Reader
import MutationTesting.Path
import MutationTesting.Text.Lines
import MutationTesting.Text.Search
/-! Which lines of a file are not mutated: those that say so themselves, and those that a filter
leaves out. -/
namespace MutationTesting

namespace Exclusion

/-- Names of a module that describe it: between double underscores they hold metadata. -/
def metadataNames : List String := [
  "all", "version", "title", "package_name", "author", "description", "email", "license",
  "copyright"]

/-- Whether a line assigns metadata at its very start. -/
def isMetadata (line : String) : Bool :=
  match (Text.stripLead? "__" line).bind (Text.splitOnce? "__") with
  | some (name, rest) => name ∈ metadataNames && Text.startsWith "=" (Text.trimStart rest)
  | none => false

/-- A line that declares a package to be a part of a namespace. -/
def namespaceDeclaration : String :=
  "__import__('pkg_resources').declare_namespace(__name__)"

def isNamespaceDeclaration (line : String) : Bool :=
  Text.trim line == namespaceDeclaration

/-- Whether a comment of the line asks for no mutation. -/
def hasPragma (line : String) : Bool :=
  match Text.splitOnce? "# pragma:" line with
  | some (_, pragma) => Text.contains "no mutate" pragma
  | none => false

def excludesItself (line : String) : Bool :=
  isMetadata line || isNamespaceDeclaration line || hasPragma line

end Exclusion

/-- Whether a line of a file, counted from one, is of interest. -/
abbrev LineFilter := Path → Nat → Bool

/-- What excludes lines besides their own text: a filter, if there is one. -/
structure Policy where
  filter? : Option LineFilter

namespace Policy

def everyLine : Policy :=
  ⟨none⟩

def only (filter : LineFilter) : Policy :=
  ⟨some filter⟩

end Policy

structure FileLines where
  file : Path
  rows : List String
  policy : Policy

namespace FileLines

def ofSource (policy : Policy) (file : Path) (source : String) : FileLines :=
  ⟨file, Text.rows source, policy⟩

/-- The text of a row. Beyond the last one it is empty. -/
def line (lines : FileLines) (row : Nat) : String :=
  lines.rows.getD row ""

def isFiltered (lines : FileLines) (row : Nat) : Bool :=
  match lines.policy.filter? with
  | some filter => !filter lines.file (row + 1)
  | none => false

def isExcluded (lines : FileLines) (row : Nat) : Bool :=
  Exclusion.excludesItself (lines.line row) || lines.isFiltered row

end FileLines

end MutationTesting

/-! Sets of lines of files. As a filter such a set excludes every file that it does not mention. A
coverage report lists one: an object of JSON with the lines of each file. -/
namespace MutationTesting

/-- Lines of files, counted from one. The files are known by their components, and the lines of
each stand in increasing order. -/
structure CoveredLines where
  files : List (List Component × List Nat)
  deriving Repr, DecidableEq

namespace CoveredLines

def empty : CoveredLines :=
  ⟨[]⟩

/-- A number put into a list in increasing order, unless it is there. -/
def insertLine (line : Nat) : List Nat → List Nat
  | [] => [line]
  | first :: rest =>
    if line < first then line :: first :: rest
    else if line = first then first :: rest
    else first :: insertLine line rest

def insertInto (file : List Component) (line : Nat) :
    List (List Component × List Nat) → List (List Component × List Nat)
  | [] => [(file, [line])]
  | (other, lines) :: rest =>
    if other = file then (other, insertLine line lines) :: rest
    else (other, lines) :: insertInto file line rest

/-- The set with one more line of a file. -/
def insert (covered : CoveredLines) (file : List Component) (line : Nat) : CoveredLines :=
  ⟨insertInto file line covered.files⟩

/-- The lines of a file, if the set mentions it. A dot at the start of the path does not
matter. -/
def lines? (covered : CoveredLines) (file : Path) : Option (List Nat) :=
  covered.files.lookup file.plainComponents

/-- Whether a line of a file is in the set. -/
def has (covered : CoveredLines) (file : Path) (line : Nat) : Bool :=
  match covered.lines? file with
  | some lines => lines.contains line
  | none => false

/-- The policy that the set is the filter of. -/
def policy (covered : CoveredLines) : Policy :=
  .only covered.has

end CoveredLines

namespace Exclusion

/-- The width in bits of the numbers of lines. -/
def lineWidth : Nat := 64

def lineNumbers? (value : Json) : Option (List Nat) :=
  value.items?.bind fun items => items.mapM (Json.natural? lineWidth)

/-- The files of a report with their lines. Of two members for one file the later one counts. -/
def reportedFiles? : List (String × Json) → Option (List (Path × List Nat))
  | [] => some []
  | (file, value) :: rest => do
    let lines ← lineNumbers? value
    let later ← reportedFiles? rest
    return if later.any fun (other, _) => other.same ⟨file⟩ then later else (⟨file⟩, lines) :: later

end Exclusion

def CoveredLines.ofCoverage? (report : String) : Option CoveredLines := do
  match ← Json.parse? report with
  | .object members =>
    let files ← Exclusion.reportedFiles? members
    return files.foldl (fun covered (file, lines) =>
      lines.foldl (fun covered line => covered.insert file.plainComponents line) covered) .empty
  | _ => none

end MutationTesting
