import MutationTesting.Diff.Change
import MutationTesting.Text.Lines
/-! The changes between two texts as a unified diff, and the first lines that differ. -/
namespace MutationTesting.Diff

/-- The equal lines shown around a change. -/
def contextLines : Nat := 3

/-- A stretch of equal lines without the first ones, of which at most the context stays. -/
def Change.trimFront (change : Change) : Change :=
  if change.kind = .equal then
    let drop := change.oldLength - contextLines
    { change with
      old := change.old + drop
      new := change.new + drop
      oldLength := change.oldLength - drop
      newLength := change.newLength - drop }
  else change

/-- A stretch of equal lines without the last ones, of which at most the context stays. -/
def Change.trimBack (change : Change) : Change :=
  if change.kind = .equal then
    let drop := change.oldLength - contextLines
    { change with
      oldLength := change.oldLength - drop
      newLength := change.newLength - drop }
  else change

/-- The changes divided where more equal lines stand between them than both contexts show;
`group` is the group in progress. -/
def groupsFrom (group : List Change) : List Change → List (List Change)
  | [] =>
    match group with
    | [] => []
    | [only] => if only.kind = .equal then [] else [group]
    | _ => [group]
  | change :: rest =>
    if change.kind = .equal ∧ 2 * contextLines < change.oldLength then
      let behind := { change with oldLength := contextLines, newLength := contextLines }
      (group ++ [behind]) :: groupsFrom [change.trimFront] rest
    else groupsFrom (group ++ [change]) rest

def groups (changes : List Change) : List (List Change) :=
  let shown := changes.modifyHead Change.trimFront
  groupsFrom [] (shown.modify (shown.length - 1) Change.trimBack)

/-- A stretch of lines in a header. -/
def rangeText (start stop : Nat) : String :=
  if stop - start = 1 then toString (start + 1)
  else toString (if start < stop then start + 1 else start) ++ "," ++ toString (stop - start)

def groupHeader (group : List Change) : String :=
  match group.head?, group.getLast? with
  | some first, some last =>
    "@@ -" ++ rangeText first.old (last.old + last.oldLength) ++ " +" ++
      rangeText first.new (last.new + last.newLength) ++ " @@\n"
  | _, _ => ""

def noLineEnd : String := "\n\\ No newline at end of file\n"

def markedLine (mark : String) (line : String) : String :=
  let ended :=
    match line.toList.getLast? with
    | some c => c == '\n' || c == '\r'
    | none => false
  mark ++ line ++ if ended then "" else noLineEnd

/-- The lines of a stretch, each with a mark. -/
def markedLines (mark : String) (lines : Array String) (start length : Nat) : String :=
  String.join ((lines.extract start (start + length)).toList.map (markedLine mark))

def changeText (old new : Array String) (change : Change) : String :=
  match change.kind with
  | .equal => markedLines " " old change.old change.oldLength
  | _ => markedLines "-" old change.old change.oldLength ++
      markedLines "+" new change.new change.newLength

/-- The lines of a text with what ends them. -/
def linesOf (text : String) : Array String :=
  (Text.terminatedLines text).toArray

/-- The unified diff of two texts of one file; equal texts have an empty one. -/
def unified (name old new : String) : String :=
  let oldLines := linesOf old
  let newLines := linesOf new
  let body := (groups (changes oldLines newLines)).map fun group =>
    groupHeader group ++ String.join (group.map (changeText oldLines newLines))
  if body.isEmpty then ""
  else "--- " ++ name ++ "\n+++ " ++ name ++ "\n" ++ String.join body

/-- The first of some lines that is not blank, without the blanks around it. -/
def firstWords (lines : List String) : String :=
  ((lines.map Text.trim).find? (· != "")).getD ""

/-- The first line that is deleted and the first line that is inserted, blank ones left out. -/
def firstDifference (old new : String) : String × String :=
  let oldLines := linesOf old
  let newLines := linesOf new
  let changed := (changes oldLines newLines).filter (·.kind != .equal)
  (firstWords (changed.flatMap fun change =>
      (oldLines.extract change.old (change.old + change.oldLength)).toList),
    firstWords (changed.flatMap fun change =>
      (newLines.extract change.new (change.new + change.newLength)).toList))

end MutationTesting.Diff
