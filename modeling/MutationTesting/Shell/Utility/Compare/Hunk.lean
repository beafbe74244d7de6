import MutationTesting.Diff.Edit
import MutationTesting.Shell.Utility.Columns
/-! Which lines of two files do not belong together: a shortest edit, after lines that would only
confuse have been left out, with its runs moved to where they are easiest to read. -/
namespace MutationTesting.Shell.Utility.Compare

open Diff (commonAhead commonBehind)

/-- The lines of two files, as the numbers of their classes, and which of them have changed. -/
structure Sides where
  old : Array Nat
  new : Array Nat
  oldChanged : Array Bool
  newChanged : Array Bool

/-- How far searches from both ends have come on each diagonal. -/
structure Search where
  /-- The number of the diagonal zero in the arrays. -/
  center : Int
  ahead : Array Int
  behind : Array Int

namespace Search

def aheadAt (search : Search) (diagonal : Int) : Int :=
  search.ahead.getD (diagonal + search.center).toNat 0

def behindAt (search : Search) (diagonal : Int) : Int :=
  search.behind.getD (diagonal + search.center).toNat 0

def setAhead (search : Search) (diagonal reach : Int) : Search :=
  let place := (diagonal + search.center).toNat
  { search with ahead := search.ahead.setIfInBounds place reach }

def setBehind (search : Search) (diagonal reach : Int) : Search :=
  let place := (diagonal + search.center).toNat
  { search with behind := search.behind.setIfInBounds place reach }

end Search

/-- The least and the greatest diagonal that a search looks at. -/
structure Extent where
  least : Int
  greatest : Int

/-- The diagonals of an extent from the greatest one on, every other one. -/
def Extent.diagonals (extent : Extent) : List Int :=
  (List.range ((extent.greatest - extent.least) / 2 + 1).toNat).map fun (index : Nat) =>
    extent.greatest - 2 * (index : Int)

section

variable (old new : Array Nat) (box : Diff.Box)

/-- One more edit of the search from the start. -/
def stepAhead (isOdd : Bool) (other : Extent) (extent : Extent) (search : Search) :
    Except (Nat × Nat) Search :=
  extent.diagonals.foldlM (fun search diagonal => do
    let below := search.aheadAt (diagonal - 1)
    let above := search.aheadAt (diagonal + 1)
    let start := if below < above then above else below + 1
    let x := start.toNat
    let y := (start - diagonal).toNat
    let run := if start < 0 || start - diagonal < 0 then 0
      else commonAhead old new (min (box.b - x) (box.d - y)) x y
    let reach := start + run
    let isMet := isOdd && other.least ≤ diagonal && diagonal ≤ other.greatest &&
      search.behindAt diagonal ≤ reach
    if isMet then throw (reach.toNat, (reach - diagonal).toNat)
    return search.setAhead diagonal reach) search

/-- One more edit of the search from the end. -/
def stepBehind (isOdd : Bool) (other : Extent) (extent : Extent) (search : Search) :
    Except (Nat × Nat) Search :=
  extent.diagonals.foldlM (fun search diagonal => do
    let below := search.behindAt (diagonal - 1)
    let above := search.behindAt (diagonal + 1)
    let start := if below < above then below else above - 1
    let x := start.toNat
    let y := (start - diagonal).toNat
    let run := if start < 0 || start - diagonal < 0 then 0
      else commonBehind old new (min (x - box.a) (y - box.c)) x y
    let reach := start - run
    let isMet := !isOdd && other.least ≤ diagonal && diagonal ≤ other.greatest &&
      reach ≤ search.aheadAt diagonal
    if isMet then throw (reach.toNat, (reach - diagonal).toNat)
    return search.setBehind diagonal reach) search

def widened (bounds extent : Extent) (edge : Int) (set : Search → Int → Int → Search)
    (search : Search) : Extent × Search :=
  let (least, search) :=
    if bounds.least < extent.least then
      (extent.least - 1, set search (extent.least - 2) edge)
    else (extent.least + 1, search)
  let (greatest, search) :=
    if extent.greatest < bounds.greatest then
      (extent.greatest + 1, set search (extent.greatest + 2) edge)
    else (extent.greatest - 1, search)
  (⟨least, greatest⟩, search)

def meet (bounds : Extent) (isOdd : Bool) : (fuel : Nat) → (ahead behind : Extent) → Search →
    Except (Nat × Nat) Unit
  | 0, _, _, _ => .ok ()
  | fuel + 1, ahead, behind, search => do
    let (ahead, search) := widened bounds ahead (-1) Search.setAhead search
    let search ← stepAhead old new box isOdd behind ahead search
    let edge : Int := Nat.pow 2 62
    let (behind, search) := widened bounds behind edge Search.setBehind search
    let search ← stepBehind old new box isOdd ahead behind search
    meet bounds isOdd fuel ahead behind search

/-- A place in the middle of a shortest edit. -/
def middle? : Option (Nat × Nat) :=
  let bounds : Extent := ⟨(box.a : Int) - box.d, (box.b : Int) - box.c⟩
  let first : Int := (box.a : Int) - box.c
  let last : Int := (box.b : Int) - box.d
  let size := (bounds.greatest - bounds.least + 5).toNat
  let search : Search := ⟨2 - bounds.least, Array.replicate size 0, Array.replicate size 0⟩
  let search := (search.setAhead first box.a).setBehind last box.b
  match meet old new box bounds ((first - last) % 2 != 0) (box.size + 2) ⟨first, first⟩
      ⟨last, last⟩ search with
  | .error place => some place
  | .ok () => none

end

def mark (first last : Nat) (flags : Array Bool) : Array Bool :=
  (List.range (last - first)).foldl (fun flags index => flags.setIfInBounds (first + index) true)
    flags

/-- Marks what a shortest edit changes within a box. -/
def compareBox (old new : Array Nat) : (fuel : Nat) → Diff.Box → (oldFlags newFlags : Array Bool) →
    Array Bool × Array Bool
  | 0, _, oldFlags, newFlags => (oldFlags, newFlags)
  | fuel + 1, box, oldFlags, newFlags =>
    let ahead := commonAhead old new (min box.oldLength box.newLength) box.a box.c
    let a := box.a + ahead
    let c := box.c + ahead
    let behind := commonBehind old new (min (box.b - a) (box.d - c)) box.b box.d
    let b := box.b - behind
    let d := box.d - behind
    if b ≤ a || d ≤ c then (mark a b oldFlags, mark c d newFlags)
    else
      match middle? old new ⟨a, b, c, d⟩ with
      | none => (mark a b oldFlags, mark c d newFlags)
      | some (x, y) =>
        let (oldFlags, newFlags) := compareBox old new fuel ⟨a, x, c, y⟩ oldFlags newFlags
        compareBox old new fuel ⟨x, b, y, d⟩ oldFlags newFlags

/-- What is thought of a line: it stays, it is left out, or that depends on those around it. -/
inductive Verdict where
  | keep
  | drop
  | doubt
  deriving Repr, DecidableEq

def countsOf (classes : Nat) (lines : Array Nat) : Array Nat :=
  lines.foldl (fun counts line => counts.modify line (· + 1)) (Array.replicate classes 0)

/-- A number that grows with the square root of another one. -/
def grown (start : Nat) : (fuel : Nat) → Nat → Nat
  | 0, _ => start
  | fuel + 1, n => if n / 4 = 0 then start else grown (2 * start) fuel (n / 4)

/-- The first verdicts about the lines of a file: none in the other file equals them, or many. -/
def firstVerdicts (counts lines : Array Nat) : Array Verdict :=
  let many := grown 5 64 (lines.size / 64)
  lines.map fun line =>
    let count := counts.getD line 0
    if count = 0 then .drop else if many < count then .doubt else .keep

/-- Verdicts with those in a run that are in doubt taken back, from one of its ends on, until it is
clear that lines are left out there. -/
def cancelFromEnd (place : Nat → Nat) (length : Nat) (verdicts : Array Verdict) : Array Verdict :=
  let rec go : (fuel : Nat) → (index row : Nat) → Array Verdict → Array Verdict
    | 0, _, _, verdicts => verdicts
    | fuel + 1, index, row, verdicts =>
      if length ≤ index then verdicts
      else
        let verdict := verdicts.getD (place index) .keep
        if 8 ≤ index && verdict = .drop then verdicts
        else
          let (row, verdicts) := match verdict with
            | .doubt => (0, verdicts.setIfInBounds (place index) .keep)
            | .keep => (0, verdicts)
            | .drop => (row + 1, verdicts)
          if row = 3 then verdicts else go fuel (index + 1) row verdicts
  go length 0 0 verdicts

/-- Verdicts with long rows of those in doubt within a run taken back. -/
def cancelRows (start length least : Nat) : (fuel : Nat) → (index row : Nat) → Array Verdict →
    Array Verdict
  | 0, _, _, verdicts => verdicts
  | fuel + 1, index, row, verdicts =>
    if length ≤ index then verdicts
    else if verdicts.getD (start + index) .keep ≠ .doubt then
      cancelRows start length least fuel (index + 1) 0 verdicts
    else if row + 1 = least then
      cancelRows start length least fuel (index + 1 - (row + 1)) (row + 1) verdicts
    else if least < row + 1 then
      cancelRows start length least fuel (index + 1) (row + 1)
        (verdicts.setIfInBounds (start + index) .keep)
    else cancelRows start length least fuel (index + 1) (row + 1) verdicts

def settled : (fuel : Nat) → (place : Nat) → Array Verdict → Array Verdict
  | 0, _, verdicts => verdicts
  | fuel + 1, place, verdicts =>
    if verdicts.size ≤ place then verdicts
    else
      match verdicts.getD place .keep with
      | .keep => settled fuel (place + 1) verdicts
      | .doubt => settled fuel (place + 1) (verdicts.setIfInBounds place .keep)
      | .drop =>
        let run := (verdicts.toList.drop place).takeWhile (· ≠ .keep)
        let tail := (run.reverse.takeWhile (· = .doubt)).length
        let length := run.length - tail
        let within := run.take length
        let doubts := (within.filter (· = .doubt)).length
        let clear (places : List Nat) (verdicts : Array Verdict) : Array Verdict :=
          places.foldl (fun verdicts index =>
            if verdicts.getD index .keep = .doubt then verdicts.setIfInBounds index .keep
            else verdicts) verdicts
        let verdicts := clear ((List.range tail).map fun index => place + length + index) verdicts
        if length < 4 * doubts then
          settled fuel (place + 1) (clear ((List.range length).map (place + ·)) verdicts)
        else
          let least := grown 1 64 (length / 4) + 1
          let verdicts := cancelRows place length least (3 * length + 3) 0 0 verdicts
          let verdicts := cancelFromEnd (place + ·) length verdicts
          let verdicts := cancelFromEnd (fun index => place + length - 1 - index) length verdicts
          settled fuel (place + length) verdicts

def flagAt (flags : Array Bool) (place : Int) : Bool :=
  if place < 0 then false else flags.getD place.toNat false

/-- The place before a row of changed lines and the unchanged line before it. -/
def back (flags : Array Bool) : (fuel : Nat) → Int → Int
  | 0, place => place
  | fuel + 1, place => if flagAt flags (place - 1) then back flags fuel (place - 1) else place - 1

/-- The first place from another one on that is not changed. -/
def skip (flags : Array Bool) : (fuel : Nat) → Nat → Nat
  | 0, place => place
  | fuel + 1, place => if flagAt flags place then skip flags fuel (place + 1) else place

/-- A run of changed lines that is moved: where it starts and ends, and the place in the other
file. -/
structure Run where
  start : Nat
  stop : Nat
  other : Int
  /-- The last end at which it is beside a run of the other file. -/
  beside? : Option Nat
  flags : Array Bool

namespace Run

variable (lines : Array Nat) (others : Array Bool)

/-- Moves a run towards the start as far as that changes nothing. -/
def backward : (fuel : Nat) → Run → Run
  | 0, run => run
  | fuel + 1, run =>
    if 0 < run.start && lines[run.start - 1]? = lines[run.stop - 1]? then
      let flags := (run.flags.setIfInBounds (run.start - 1) true).setIfInBounds (run.stop - 1) false
      let before := ((flags.toList.take (run.start - 1)).reverse.takeWhile id).length
      backward fuel
        { run with
          start := run.start - 1 - before
          stop := run.stop - 1
          other := back others others.size run.other
          flags }
    else run

/-- Moves a run towards the end as far as that changes nothing. -/
def forward (size : Nat) : (fuel : Nat) → Run → Run
  | 0, run => run
  | fuel + 1, run =>
    if run.stop < size && lines[run.start]? = lines[run.stop]? then
      let flags := (run.flags.setIfInBounds run.start false).setIfInBounds run.stop true
      let stop := skip flags size (run.stop + 1)
      let next := run.other + 1
      let other := skip others others.size next.toNat
      forward size fuel
        { start := run.start + 1
          stop
          other
          beside? := if (other : Int) = next then run.beside? else some stop
          flags }
    else run

/-- Moves a run as far as it goes, until it does not grow any more. -/
def settle (size : Nat) : (fuel : Nat) → Run → Run
  | 0, run => run
  | fuel + 1, run =>
    let length := run.stop - run.start
    let run := backward lines others (size + 1) run
    let run := { run with
      beside? := if flagAt others (run.other - 1) then some run.stop else none }
    let run := forward lines others size (size + 1) run
    if run.stop - run.start = length then run else settle size fuel run

/-- Moves a run back to where it is beside a run of the other file. -/
def rejoin (target : Nat) : (fuel : Nat) → Run → Run
  | 0, run => run
  | fuel + 1, run =>
    if target < run.stop then
      let flags := (run.flags.setIfInBounds (run.start - 1) true).setIfInBounds (run.stop - 1) false
      rejoin target fuel
        { run with
          start := run.start - 1
          stop := run.stop - 1
          other := back others others.size run.other
          flags }
    else run

end Run

/-- Moves all runs of changed lines of a file to where they are easiest to read. -/
def shifted (lines : Array Nat) (others : Array Bool) : (fuel : Nat) → (place : Nat) →
    (other : Int) → Array Bool → Array Bool
  | 0, _, _, flags => flags
  | fuel + 1, place, other, flags =>
    if lines.size ≤ place then flags
    else if !flagAt flags place then
      shifted lines others fuel (place + 1) (skip others (others.size + 1) other.toNat + 1) flags
    else
      let run : Run :=
        { start := place
          stop := skip flags (flags.size + 1) (place + 1)
          other := skip others (others.size + 1) other.toNat
          beside? := none
          flags }
      let run := run.settle lines others lines.size (lines.size + 2)
      let run := match run.beside? with
        | some target => run.rejoin others target (lines.size + 1)
        | none => run
      shifted lines others fuel run.stop run.other run.flags

/-- A change: lines from a place on in the old file, and those in the new one that stand there. -/
structure Change where
  old : Nat
  new : Nat
  deleted : Nat
  inserted : Nat
  deriving Repr, DecidableEq

def changesOf (sides : Sides) : (fuel : Nat) → (old new : Nat) → List Change
  | 0, _, _ => []
  | fuel + 1, old, new =>
    if sides.old.size ≤ old && sides.new.size ≤ new then []
    else if flagAt sides.oldChanged old || flagAt sides.newChanged new then
      let oldStop := skip sides.oldChanged sides.old.size old
      let newStop := skip sides.newChanged sides.new.size new
      ⟨old, new, oldStop - old, newStop - new⟩ :: changesOf sides fuel (oldStop + 1) (newStop + 1)
    else changesOf sides fuel (old + 1) (new + 1)

/-- The numbers of texts in two lists, equal ones for equal texts. -/
def classify (old new : Array String) : Array Nat × Array Nat × Nat :=
  let sorted := (old ++ new).toList.mergeSort fun a b => a ≤ b
  let distinct := (sorted.foldl (fun (found : List String) text =>
    if found.head? = some text then found else text :: found) []).reverse.toArray
  let rec place (text : String) : (fuel : Nat) → (low high : Nat) → Nat
    | 0, low, _ => low
    | fuel + 1, low, high =>
      if high ≤ low + 1 then low
      else
        let middle := (low + high) / 2
        if distinct.getD middle "" ≤ text then place text fuel middle high
        else place text fuel low middle
  let number (text : String) : Nat := place text 64 0 distinct.size
  (old.map number, new.map number, distinct.size)

/-- The changes between two files of lines, which are equal if their keys are. So many equal lines
at each end stay in view. -/
def align (key : String → String) (horizon : Nat) (trimsEnd : Bool)
    (oldLines newLines : Array String) : List Change :=
  let (oldNumbers, newNumbers, _) := classify oldLines newLines
  let (oldClasses, newClasses, classes) := classify (oldLines.map key) (newLines.map key)
  let least := min oldNumbers.size newNumbers.size
  let head := commonAhead oldNumbers newNumbers least 0 0 - horizon
  let tail :=
    if trimsEnd then
      commonBehind oldNumbers newNumbers (least - head) oldNumbers.size newNumbers.size - horizon
    else 0
  let old := oldClasses.extract head (oldClasses.size - tail)
  let new := newClasses.extract head (newClasses.size - tail)
  let oldVerdicts := settled (old.size + 1) 0 (firstVerdicts (countsOf classes new) old)
  let newVerdicts := settled (new.size + 1) 0 (firstVerdicts (countsOf classes old) new)
  let kept (lines : Array Nat) (verdicts : Array Verdict) : Array (Nat × Nat) :=
    (lines.zipIdx.zip verdicts).filterMap fun (line, verdict) =>
      if verdict = .drop then none else some line
  let oldKept := kept old oldVerdicts
  let newKept := kept new newVerdicts
  let box : Diff.Box := ⟨0, oldKept.size, 0, newKept.size⟩
  let (oldFlags, newFlags) := compareBox (oldKept.map Prod.fst) (newKept.map Prod.fst)
    (box.size + 1) box (Array.replicate oldKept.size false) (Array.replicate newKept.size false)
  let spread (verdicts : Array Verdict) (kept : Array (Nat × Nat)) (flags : Array Bool) :
      Array Bool :=
    (kept.zip flags).foldl (fun all ((_, index), flag) => all.setIfInBounds index flag)
      (verdicts.map (· = .drop))
  let oldChanged := spread oldVerdicts oldKept oldFlags
  let newChanged := spread newVerdicts newKept newFlags
  let oldChanged := shifted old newChanged (old.size + new.size + 2) 0 0 oldChanged
  let newChanged := shifted new oldChanged (old.size + new.size + 2) 0 0 newChanged
  let changes := changesOf ⟨old, new, oldChanged, newChanged⟩ (old.size + new.size + 2) 0 0
  changes.map fun change =>
    { change with old := change.old + head, new := change.new + head }

end MutationTesting.Shell.Utility.Compare

/-! How the changes between two files are shown. -/
namespace MutationTesting.Shell.Utility.Compare

/-- The lines of two files, with their ends, the changes between them, and how they are laid
out. -/
structure Comparison where
  old : Array String
  new : Array String
  changes : List Change
  /-- Whether a change does not count. -/
  isTrivial : Change → Bool
  /-- Whether a line is the title of a part of the file. -/
  isTitle : String → Bool
  /-- Whether a tab stands between a sign and its line. -/
  startsWithTab : Bool
  expandsTabs : Bool

/-- Numbers of lines, counted from one, as changes name them. -/
def numbers (first count : Nat) : String :=
  if count = 0 then toString first
  else if count = 1 then toString (first + 1)
  else s!"{first + 1},{first + count}"

/-- A line with blanks in the place of its tabs. -/
def withoutTabs (line : String) : String :=
  (line.foldl (fun (shown, column) c =>
    if c = '\t' then (shown ++ blanks (8 - column % 8), column + 8 - column % 8)
    else if c = '\r' then (shown.push c, 0)
    else if c = '\x08' then (shown.push c, column - 1)
    else (shown.push c, if Regex.isGraph c || c = ' ' then column + 1 else column))
    ("", 0)).fst

def stretch (lines : Array String) (first count : Nat) : List String :=
  (lines.extract first (first + count)).toList

namespace Comparison

def marked (comparison : Comparison) (sign line : String) : String :=
  let between := if comparison.startsWithTab then "\t" else " "
  let sign :=
    if sign = " " then between
    else if sign.endsWith " " then (sign.dropEnd 1).toString ++ between
    else if comparison.startsWithTab then sign ++ "\t" else sign
  let line := if comparison.expandsTabs then withoutTabs line else line
  if line.endsWith "\n" then sign ++ line
  else sign ++ line ++ "\n\\ No newline at end of file\n"

def counted (comparison : Comparison) : List Change :=
  comparison.changes.filter fun change => !comparison.isTrivial change

/-- The title of the part of the file that a line stands in. -/
def titleBefore (comparison : Comparison) (line : Nat) : String :=
  match (comparison.old.extract 0 line).toList.reverse.find? comparison.isTitle with
  | none => ""
  | some title =>
    let cs := (title.toList.dropWhile fun c => c ≠ '\n' && Pattern.isSpace c).take 40
    let cs := cs.takeWhile (· ≠ '\n')
    " " ++ String.ofList (cs.reverse.dropWhile Pattern.isSpace).reverse

/-- The changes one by one, with the commands that make them. -/
def plain (comparison : Comparison) : String :=
  let marked := comparison.marked
  String.join (comparison.counted.map fun change =>
    let letter := if change.deleted = 0 then "a" else if change.inserted = 0 then "d" else "c"
    numbers change.old change.deleted ++ letter ++ numbers change.new change.inserted ++ "\n" ++
      String.join ((stretch comparison.old change.old change.deleted).map (marked "< ")) ++
      (if letter = "c" then "---\n" else "") ++
      String.join ((stretch comparison.new change.new change.inserted).map (marked "> ")))

/-- The commands that an editor needs to make the changes, the last one first. -/
def edScript (comparison : Comparison) : String :=
  String.join (comparison.counted.reverse.map fun change =>
    let letter := if change.deleted = 0 then "a" else if change.inserted = 0 then "d" else "c"
    let lines := stretch comparison.new change.new change.inserted
    let shown := lines.zipIdx.map fun (line, index) =>
      let line := if line.endsWith "\n" then line else line ++ "\n"
      if line = ".\n" then
        "..\n.\ns/.//\n" ++ if index + 1 < lines.length then "a\n" else ""
      else line
    let endsInput := !lines.isEmpty && lines.getLast? ≠ some ".\n"
    numbers change.old change.deleted ++ letter ++ "\n" ++ String.join shown ++
      if endsInput then ".\n" else "")

/-- Commands like those for an editor, the first one first. -/
def forwardScript (comparison : Comparison) : String :=
  String.join (comparison.counted.map fun change =>
    let letter := if change.deleted = 0 then "a" else if change.inserted = 0 then "d" else "c"
    let range := (numbers change.old change.deleted).map fun c => if c = ',' then ' ' else c
    let lines := stretch comparison.new change.new change.inserted
    let shown := lines.map fun line => if line.endsWith "\n" then line else line ++ "\n"
    letter ++ range ++ "\n" ++ String.join shown ++ if lines.isEmpty then "" else ".\n")

/-- The commands that a store of versions needs to make the changes. -/
def storeScript (comparison : Comparison) : String :=
  String.join (comparison.counted.map fun change =>
    (if change.deleted = 0 then "" else s!"d{change.old + 1} {change.deleted}\n") ++
      if change.inserted = 0 then ""
      else s!"a{change.old + change.deleted} {change.inserted}\n" ++
        String.join (stretch comparison.new change.new change.inserted))

/-- Changes in groups of those that are so near that their context overlaps. A group in which no
change counts is left out. -/
def groups (comparison : Comparison) (context : Nat) : List (List Change) :=
  let isTrivial := comparison.isTrivial
  let (last, found) := comparison.changes.foldl (fun (group, found) change =>
    match group with
    | [] => ([change], found)
    | previous :: _ =>
      let limit := if isTrivial change then context else 2 * context + 1
      if change.old - (previous.old + previous.deleted) < limit then (change :: group, found)
      else ([change], List.reverse group :: found)) (([] : List Change), ([] : List (List Change)))
  (if last.isEmpty then found else last.reverse :: found).reverse.filter fun group =>
    !group.all isTrivial

/-- The stretches of both files that a group of changes covers with its context: the first places
and those behind the last ones. -/
def covered (comparison : Comparison) (context : Nat) (group : List Change) : Diff.Box :=
  match group.head?, group.getLast? with
  | some first, some last =>
    ⟨first.old - context, min comparison.old.size (last.old + last.deleted + context),
      first.new - context, min comparison.new.size (last.new + last.inserted + context)⟩
  | _, _ => ⟨0, 0, 0, 0⟩

/-- Numbers of lines as a group of changes names them. -/
def rangeText (first stop : Nat) : String :=
  if stop ≤ first then s!"{first},0"
  else if stop = first + 1 then toString stop
  else s!"{first + 1},{stop - first}"

/-- The lines of a group of changes with their signs. -/
def unifiedLines (comparison : Comparison) (stop : Nat) : (place : Nat) → List Change → List String
  | place, [] => (stretch comparison.old place (stop - place)).map (comparison.marked " ")
  | place, change :: rest =>
    (stretch comparison.old place (change.old - place)).map (comparison.marked " ") ++
      (stretch comparison.old change.old change.deleted).map (comparison.marked "-") ++
      (stretch comparison.new change.new change.inserted).map (comparison.marked "+") ++
      unifiedLines comparison stop (change.old + change.deleted) rest

/-- The groups of changes, the lines of both files together. -/
def unified (comparison : Comparison) (context : Nat) (header : String) : String :=
  let groups := comparison.groups context
  if groups.isEmpty then ""
  else
    header ++ String.join (groups.map fun group =>
      let box := comparison.covered context group
      "@@ -" ++ rangeText box.a box.b ++ " +" ++ rangeText box.c box.d ++ " @@" ++
        comparison.titleBefore box.a ++ "\n" ++
        String.join (comparison.unifiedLines box.b box.a group))

/-- Numbers of lines as a group of changes of the older form names them. -/
def contextRange (first stop : Nat) : String :=
  if stop ≤ first + 1 then toString stop else s!"{first + 1},{stop}"

/-- The lines of one of the files in a group of changes. -/
def contextLines (marked : String → String → String) (lines : Array String) (stop : Nat)
    (sign : Change → String) (place count : Change → Nat) :
    (from' : Nat) → List Change → List String
  | from', [] => (stretch lines from' (stop - from')).map (marked "  ")
  | from', change :: rest =>
    (stretch lines from' (place change - from')).map (marked "  ") ++
      (stretch lines (place change) (count change)).map (marked (sign change)) ++
      contextLines marked lines stop sign place count (place change + count change) rest

/-- The groups of changes, the lines of one file before those of the other. -/
def contextual (comparison : Comparison) (context : Nat) (header : String) : String :=
  let groups := comparison.groups context
  if groups.isEmpty then ""
  else
    header ++ String.join (groups.map fun group =>
      let box := comparison.covered context group
      let contextLines := contextLines comparison.marked
      let olds :=
        if group.any fun change => change.deleted ≠ 0 then
          contextLines comparison.old box.b
            (fun change => if change.inserted = 0 then "- " else "! ") Change.old Change.deleted
            box.a group
        else []
      let news :=
        if group.any fun change => change.inserted ≠ 0 then
          contextLines comparison.new box.d
            (fun change => if change.deleted = 0 then "+ " else "! ") Change.new Change.inserted
            box.c group
        else []
      "***************" ++ comparison.titleBefore box.a ++
        "\n*** " ++ contextRange box.a box.b ++ " ****\n" ++ String.join olds ++
        "--- " ++ contextRange box.c box.d ++ " ----\n" ++ String.join news)

def tabsTo (target : Nat) : (fuel : Nat) → (column : Nat) → String
  | 0, _ => ""
  | fuel + 1, column =>
    if target ≤ column then ""
    else
      let stop := column + 8 - column % 8
      if stop ≤ target then "\t" ++ tabsTo target fuel stop
      else blanks (target - column)

/-- The start of a line, as wide as half of the page, and the column behind it. -/
def halfLine (width start : Nat) (line : String) : String × Nat :=
  let (text, column, _) := line.foldl (fun (text, column, isOpen) c =>
    if !isOpen || c = '\n' then (text, column, false)
    else if c = '\t' then
      let stop := column + 8 - column % 8
      if stop ≤ width then (text ++ tabsTo (start + stop) 9 (start + column), stop, true)
      else (text, column, false)
    else if column < width then (text.push c, column + 1, true)
    else (text, column, true)) ("", 0, true)
  (text, column)

def sideLine (half second : Nat) (left? right? : Option String) (sign : Char) : String :=
  let hasEnd (line? : Option String) : Bool := line?.any fun line => line.endsWith "\n"
  let (left, column) := match left? with
    | some line => halfLine half 0 line
    | none => ("", 0)
  let sign := if sign = '|' && hasEnd left? != hasEnd right? then
      if hasEnd left? then '/' else '\\'
    else sign
  let (middle, column) :=
    if sign = ' ' then ("", column)
    else
      let target := (half + second - 1) / 2
      (tabsTo target (target + 1) column ++ String.singleton sign, max column target + 1)
  let right := match right? with
    | some line =>
      if line = "\n" then ""
      else tabsTo second (second + 1) column ++ (halfLine half second line).fst
    | none => ""
  left ++ middle ++ right ++ if hasEnd left? || hasEnd right? then "\n" else ""

def sideBySide (comparison : Comparison) (width : Nat) (hidesCommon leftOnly : Bool) : String :=
  let around := width / 2 + 5 + (if width % 2 = 1 then 1 else 0)
  let second := around - around % 8
  let half := if second ≤ 3 || width ≤ second then 0 else min (second - 3) (width - second)
  let second := if half = 0 then width else second
  let line := sideLine half second
  let common (old new oldCount newCount : Nat) : List String :=
    if hidesCommon then []
    else
      ((List.range (min oldCount newCount)).map fun index =>
        if leftOnly then line comparison.old[old + index]? none '('
        else line comparison.old[old + index]? comparison.new[new + index]? ' ') ++
        ((List.range (newCount - oldCount)).map fun index =>
          line none comparison.new[new + oldCount + index]? ')') ++
        ((List.range (oldCount - newCount)).map fun index =>
          line comparison.old[old + newCount + index]? none '(')
  let rec go : (old new : Nat) → List Change → List String
    | old, new, [] =>
      common old new (comparison.old.size - old) (comparison.new.size - new)
    | old, new, change :: rest =>
      let shared := min change.deleted change.inserted
      common old new (change.old - old) (change.new - new) ++
        ((List.range shared).map fun index =>
          line comparison.old[change.old + index]? comparison.new[change.new + index]? '|') ++
        ((List.range (change.deleted - shared)).map fun index =>
          line comparison.old[change.old + shared + index]? none '<') ++
        ((List.range (change.inserted - shared)).map fun index =>
          line none comparison.new[change.new + shared + index]? '>') ++
        go (change.old + change.deleted) (change.new + change.inserted) rest
  String.join (go 0 0 comparison.counted)

end Comparison

end MutationTesting.Shell.Utility.Compare
