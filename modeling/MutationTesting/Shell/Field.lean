import MutationTesting.FileSystem.Workspace
import MutationTesting.Shell.Pattern
import MutationTesting.Text.Utf8
/-! What words become when values have been put in: texts in which some parts are split into
fields, and fields that stand for the names of files. -/
namespace MutationTesting.Shell

/-- A character of the result of a word, or a quotation mark, which keeps an empty field from
vanishing. -/
inductive Cell where
  | char (c : Char) (isEscaped : Bool)
  | mark
  /-- The end of an argument of the shell, where all of them are put in. -/
  | gap
  deriving Repr, DecidableEq

/-- How a part of the result of a word is split. -/
inductive Splitting where
  /-- Not at all. -/
  | whole
  /-- At separators and gaps. -/
  | separators
  /-- At gaps alone. -/
  | gaps
  deriving Repr, DecidableEq

/-- A part of the result of a word. -/
structure Span where
  splitting : Splitting
  cells : List Cell
  deriving Repr, DecidableEq

def Cell.text (cells : List Cell) : String :=
  String.ofList (cells.filterMap fun
    | .char c _ => some c
    | _ => none)

/-- The pattern that cells are. `isSpoiled` holds behind a backslash of a value, which escapes what
follows it. -/
def Cell.pattern (isSpoiled inQuotes : Bool) : List Cell → List Char
  | [] => []
  | .mark :: rest => pattern isSpoiled (!inQuotes) rest
  | .gap :: rest => pattern isSpoiled inQuotes rest
  | .char '\\' false :: rest => '\\' :: pattern (!isSpoiled) inQuotes rest
  | .char c true :: rest =>
    let escapes := if !isSpoiled then ['\\'] else if inQuotes then ['\\', '\\'] else []
    escapes ++ c :: pattern false inQuotes rest
  | .char c false :: rest => c :: pattern false inQuotes rest

/-- The blanks, tabs and ends of lines, which separate fields in any number. -/
def isSpacing (c : Char) : Bool :=
  c = ' ' || c = '\t' || c = '\n'

structure Cutter where
  /-- The fields that are complete, the last one first. -/
  fields : List (List Cell) := []
  /-- The field in progress, its last cell first. -/
  current : List Cell := []
  /-- Whether the last separator was spacing. -/
  afterSpacing : Bool := false
  /-- How many fields there may be, if not any number. -/
  left? : Option Nat
  /-- The length of the last field without the separators at its end, if it has some. -/
  cut? : Option Nat := none
  /-- Whether the part before this one was split at gaps alone. -/
  afterGaps : Bool := false
  inGaps : Bool := false

namespace Cutter

/-- One more cell of the last field that there may be. -/
def addToLast (cutter : Cutter) (cell : Cell) (separates spaces : Bool) : Cutter :=
  let cutter :=
    if spaces then
      { cutter with cut? := cutter.cut?.or (some cutter.current.length) }
    else
      { cutter with
        cut? := if separates && cutter.afterSpacing then cutter.cut? else none
        afterSpacing := false }
  { cutter with current := cell :: cutter.current }

/-- One more cell behind which a field may end. -/
def separate (cutter : Cutter) (cell : Cell) (spaces : Bool) : Cutter :=
  let cutter :=
    if cutter.afterGaps || cutter.inGaps then cutter else { cutter with afterSpacing := spaces }
  if cutter.current.isEmpty && cutter.afterSpacing then { cutter with afterSpacing := false }
  else
    match cutter.left? with
    | some 1 =>
      { cutter with
        left? := some 0
        cut? := some cutter.current.length
        current := cell :: cutter.current }
    | left? =>
      { cutter with
        left? := left?.map (· - 1)
        fields := cutter.current.reverse :: cutter.fields
        current := [] }

/-- One more cell of a part that is split. -/
def add (separators : List Char) (cutter : Cutter) (cell : Cell) : Cutter :=
  let (separates, spaces) : Bool × Bool := match cell with
    | .char c _ =>
      let separates := !cutter.inGaps && separators.contains c
      (separates, separates && isSpacing c)
    | .gap => (true, true)
    | .mark => (false, false)
  if cutter.left? = some 0 then cutter.addToLast cell separates spaces
  else if cutter.afterSpacing then
    if separates then
      if spaces then { cutter with current := [] }
      else { cutter with current := [], afterSpacing := false }
    else { cutter with current := [cell], afterSpacing := false }
  else if separates then cutter.separate cell spaces
  else { cutter with current := cell :: cutter.current, afterSpacing := false }

def addSpan (separators : List Char) (cutter : Cutter) (span : Span) : Cutter :=
  match span.splitting with
  | .whole => { cutter with current := span.cells.reverse ++ cutter.current }
  | splitting =>
    let cutter :=
      { cutter with
        afterGaps := cutter.inGaps
        inGaps := splitting = .gaps
        afterSpacing := false }
    span.cells.foldl (add separators) cutter

/-- The fields, the last one of them without the separators at its end. -/
def finish (cutter : Cutter) : List (List Cell) :=
  let last := cutter.current.reverse
  let last := match cutter.cut? with
    | some length => last.take length
    | none => last
  let fields := if last.isEmpty && !cutter.inGaps then cutter.fields else last :: cutter.fields
  fields.reverse

end Cutter

/-- The fields of the result of a word, of which there may be at most `limit?`. -/
def splitFields (separators : List Char) (limit? : Option Nat) (spans : List Span) :
    List (List Cell) :=
  (spans.foldl (Cutter.addSpan separators) { left? := limit? }).finish

/-- A pattern of a path, cut at the first part that has a wildcard: what is before that part, the
part, and what follows the slash behind it. -/
structure PathPattern where
  before : List Char := []
  part : List Char := []
  hasWildcard : Bool := false
  after? : Option (List Char) := none

namespace PathPattern

def cut (before part : List Char) (hasWildcard : Bool) : List Char → PathPattern
  | [] => ⟨before.reverse, part.reverse, hasWildcard, none⟩
  | '\\' :: '/' :: rest =>
    if hasWildcard then ⟨before.reverse, part.reverse, true, some rest⟩
    else cut ('/' :: part ++ before) [] false rest
  | '\\' :: c :: rest => cut before (c :: '\\' :: part) hasWildcard rest
  | '/' :: rest =>
    if hasWildcard then ⟨before.reverse, part.reverse, true, some rest⟩
    else cut ('/' :: part ++ before) [] false rest
  | c :: rest =>
    cut before (c :: part) (hasWildcard || c = '*' || c = '?' ||
      (c = '[' && Pattern.opensClass rest)) rest

end PathPattern

def pathOf (text : String) : Path :=
  ⟨Text.widen text.toList⟩

def bytesOfName (name : String) : String :=
  String.ofList (Text.narrow name)

/-- The names in a directory, also the two that are in each, that fit a pattern. One that starts
with a dot only fits a pattern that does. -/
def namesThatFit (workspace : Workspace) (directory : List Char) (pattern : List Char) :
    List (List Char) :=
  let path := if directory.isEmpty then "." else String.ofList directory
  match workspace.list (pathOf path) with
  | .ok entries =>
    let names := ['.'] :: ['.', '.'] :: entries.map fun (name, _) => Text.narrow name
    let first := match pattern with
      | '\\' :: c :: _ => some c
      | _ => pattern.head?
    names.filter fun name =>
      (name.head? != some '.' || first == some '.') && Pattern.fits pattern name
  | .error _ => []

def pathsThatFit (workspace : Workspace) : (fuel : Nat) → (fixed pattern : List Char) →
    List (List Char)
  | 0, _, _ => []
  | fuel + 1, fixed, pattern =>
    let cut := PathPattern.cut [] [] false pattern
    if !cut.hasWildcard then
      let path := fixed ++ Pattern.unescaped pattern
      if !fixed.isEmpty && workspace.has (pathOf (String.ofList path)) then [path] else []
    else
      let directory := fixed ++ Pattern.unescaped cut.before
      let found := (namesThatFit workspace directory cut.part).map (directory ++ ·)
      match cut.after? with
      | none => found
      | some after => found.flatMap fun path => pathsThatFit workspace fuel (path ++ ['/']) after

/-- The arguments that a field stands for: the paths that it fits in the order of their bytes, or
its text. -/
def argumentsOfField (workspace : Workspace) (field : List Cell) : List String :=
  let isWild := field.any fun
    | .char c _ => c = '*' || c = '?' || c = '['
    | _ => false
  if isWild then
    let pattern := Cell.pattern false false field
    match pathsThatFit workspace (pattern.length + 1) [] pattern with
    | [] => [Cell.text field]
    | paths => (paths.map String.ofList).mergeSort fun a b => a ≤ b
  else [Cell.text field]

end MutationTesting.Shell
