import MutationTesting.Decimal.Numeral
import MutationTesting.Exclusion.Policy
/-! The lines that a patch adds. A patch is read line by line; inside a hunk the first character
of a line says to which side it belongs, and the hunk ends when both sides have as many lines as
its header says. -/
namespace MutationTesting.Exclusion

/-- A hunk: the number of the next line of the new side, and the lines that either side still
lacks. -/
structure Hunk where
  newLine : UInt64
  newLeft : UInt64
  oldLeft : UInt64
  deriving Repr, DecidableEq

namespace Hunk

/-- A word of 64 bits. -/
def word? (s : String) : Option UInt64 :=
  (Decimal.word? 64 10 s.toList).map UInt64.ofNat

/-- The first line and the number of lines of a side; one line if no number is given. -/
def range? (s : String) : Option (UInt64 × UInt64) :=
  match Text.splitOnce? "," s with
  | some (first, count) => do return (← word? first, ← word? count)
  | none => do return (← word? s, 1)

/-- The hunk that a header announces, given what follows the mark of a header. -/
def ofHeader? (header : String) : Option Hunk :=
  match Text.words header with
  | old :: new :: _ => do
    let (_, oldLeft) ← (Text.stripLead? "-" old).bind range?
    let (newLine, newLeft) ← (Text.stripLead? "+" new).bind range?
    return { newLine, newLeft, oldLeft }
  | _ => none

/-- Whether both sides are complete. -/
def isDone (hunk : Hunk) : Bool :=
  hunk.newLeft == 0 && hunk.oldLeft == 0

/-- A count with one line less, or no line. -/
def less (count : UInt64) : UInt64 :=
  if count = 0 then 0 else count - 1

/-- The hunk after a line of the new side. -/
def passNew (hunk : Hunk) : Hunk :=
  { hunk with newLine := hunk.newLine + 1, newLeft := less hunk.newLeft }

/-- The hunk after a line of the old side. -/
def passOld (hunk : Hunk) : Hunk :=
  { hunk with oldLeft := less hunk.oldLeft }

end Hunk

/-- How far a patch has been read: the lines found, the file that the next hunks belong to, and
the hunk in progress. -/
structure PatchState where
  covered : CoveredLines
  file? : Option (List Component)
  hunk? : Option Hunk
  deriving Repr, DecidableEq

namespace PatchState

def start : PatchState :=
  ⟨.empty, none, none⟩

def stepInside (state : PatchState) (hunk : Hunk) (line : String) : PatchState :=
  match line.toList with
  | '+' :: _ =>
    let covered :=
      match state.file? with
      | some file => state.covered.insert file hunk.newLine.toNat
      | none => state.covered
    { state with covered, hunk? := some hunk.passNew }
  | '-' :: _ => { state with hunk? := some hunk.passOld }
  | '\\' :: _ => state
  | _ => { state with hunk? := some hunk.passNew.passOld }

/-- The file of the new side that a header names. -/
def fileOfHeader? (name : String) : Option (List Component) :=
  let path := Text.trim ((Text.splitAt '\t' name).headD "")
  if path = "/dev/null" then none
  else some (Path.mk ((Text.stripLead? "b/" path).getD path)).plainComponents

/-- A line between hunks. -/
def stepOutside (state : PatchState) (line : String) : PatchState :=
  match Text.stripLead? "+++ " line with
  | some name => { state with file? := fileOfHeader? name }
  | none =>
    match Text.stripLead? "@@ " line with
    | some header => { state with hunk? := Hunk.ofHeader? header }
    | none => state

def step (state : PatchState) (line : String) : PatchState :=
  match state.hunk? with
  | some hunk => if hunk.isDone then state.stepOutside line else state.stepInside hunk line
  | none => state.stepOutside line

end PatchState

/-! The same with checks of the counters: where a counter of a hunk would leave the 64 bits that it
has, the reading stops. -/

inductive Counter where
  | newLine
  | newLeft
  | oldLeft
  deriving Repr, DecidableEq

namespace Counter

/-- A count with one line more, if 64 bits hold it. -/
def raise (counter : Counter) (count : UInt64) : Except Counter UInt64 :=
  if UInt64.size ≤ count.toNat + 1 then .error counter else .ok (count + 1)

/-- A count with one line less, if it has one. -/
def lower (counter : Counter) (count : UInt64) : Except Counter UInt64 :=
  if count = 0 then .error counter else .ok (count - 1)

/-- A count with one line less, or no line. -/
def lowerToZero (counter : Counter) (count : UInt64) : Except Counter UInt64 :=
  if count = 0 then .ok 0 else counter.lower count

end Counter

namespace Hunk

/-- The hunk after a line of the new side. -/
def passNewChecked (hunk : Hunk) : Except Counter Hunk := do
  let newLine ← Counter.newLine.raise hunk.newLine
  let newLeft ← Counter.newLeft.lowerToZero hunk.newLeft
  return { hunk with newLine, newLeft }

/-- The hunk after a line of the old side. -/
def passOldChecked (hunk : Hunk) : Except Counter Hunk := do
  let oldLeft ← Counter.oldLeft.lowerToZero hunk.oldLeft
  return { hunk with oldLeft }

def passChecked (hunk : Hunk) (line : String) : Except Counter Hunk :=
  match line.toList with
  | '+' :: _ => hunk.passNewChecked
  | '-' :: _ => hunk.passOldChecked
  | '\\' :: _ => .ok hunk
  | _ => do (← hunk.passNewChecked).passOldChecked

end Hunk

def PatchState.stepChecked (state : PatchState) (line : String) : Except Counter PatchState :=
  match state.hunk? with
  | some hunk =>
    if hunk.isDone then .ok (state.stepOutside line)
    else do
      let next ← hunk.passChecked line
      return { state.stepInside hunk line with hunk? := some next }
  | none => .ok (state.stepOutside line)

end MutationTesting.Exclusion

namespace MutationTesting

/-- The lines that a patch adds to the files of its new side. -/
def CoveredLines.ofPatch (patch : String) : CoveredLines :=
  ((Text.lines patch).foldl Exclusion.PatchState.step .start).covered

/-- The lines that a patch adds to the files of its new side, or the counter that leaves its 64
bits. -/
def CoveredLines.ofPatchChecked (patch : String) : Except Exclusion.Counter CoveredLines :=
  ((Text.lines patch).foldlM Exclusion.PatchState.stepChecked .start).map Exclusion.PatchState.covered

end MutationTesting
