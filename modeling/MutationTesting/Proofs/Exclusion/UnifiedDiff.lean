import MutationTesting.Decimal.Numeral
import MutationTesting.Path
import MutationTesting.Proofs.Text.Rows
/-! Unified diffs as they are written. A diff has a section for each file, and a section has hunks
whose headers say where they stand and how many lines either side has. Between these there may be
lines that begin neither a file nor a hunk. What a diff adds to a file is counted along the new side
of each hunk. -/
namespace MutationTesting.UnifiedDiff

/-- The characters of a line. -/
abbrev Line := { cs : List Char // '\n' ∉ cs }

/-- What the line with the new name of a file begins with. -/
def fileMark : List Char := ['+', '+', '+', ' ']

/-- What the header of a hunk begins with. -/
def hunkMark : List Char := ['@', '@', ' ']

/-- A line that begins neither a file nor a hunk. -/
structure OtherLine where
  line : Line
  noFile : ¬ fileMark <+: line.1
  noHunk : ¬ hunkMark <+: line.1

/-- A line of the body of a hunk. -/
inductive BodyLine where
  /-- A line of both sides. -/
  | context (line : Line)
  /-- An empty line of both sides without the blank in front of it. -/
  | stripped
  | removed (line : Line)
  | added (line : Line)
  /-- A remark on the line above, such as that no line feed ends it. -/
  | remark (line : Line)

namespace BodyLine

/-- A line as it is written. -/
def chars : BodyLine → List Char
  | context line => ' ' :: line
  | stripped => []
  | removed line => '-' :: line
  | added line => '+' :: line
  | remark line => '\\' :: line

/-- Whether a line belongs to the old side. -/
def isOld : BodyLine → Bool
  | context _ | stripped | removed _ => true
  | added _ | remark _ => false

/-- Whether a line belongs to the new side. -/
def isNew : BodyLine → Bool
  | context _ | stripped | added _ => true
  | removed _ | remark _ => false

end BodyLine

/-- A number as it is written: decimal digits. -/
structure Numeral where
  digits : List Char
  written : digits ≠ []
  decimal : ∀ c ∈ digits, Decimal.isDigit c = true

def Numeral.value (numeral : Numeral) : Nat :=
  Nat.ofDigitChars 10 numeral.digits 0

theorem Numeral.not_mem_digits {c : Char} (numeral : Numeral) (other : Decimal.isDigit c = false) :
    c ∉ numeral.digits :=
  fun member => Bool.false_ne_true (other ▸ numeral.decimal c member)

/-- Where the lines of a side stand: the number of the first one, and how many there are. One line
need not be counted. -/
structure Range where
  first : Numeral
  count? : Option Numeral

namespace Range

def count (range : Range) : Nat :=
  (range.count?.map Numeral.value).getD 1

/-- A range as it is written. -/
def chars (range : Range) : List Char :=
  match range.count? with
  | some count => range.first.digits ++ ',' :: count.digits
  | none => range.first.digits

/-- Numbers of lines are below this one. -/
def bound : Nat := Nat.pow 2 63

end Range

/-- A hunk. Its header counts the lines of either side, all of which have numbers. -/
structure Hunk where
  old : Range
  new : Range
  /-- What stands behind the ranges and their closing mark. -/
  heading : Line
  body : List BodyLine
  oldCount : body.countP BodyLine.isOld = old.count
  newCount : body.countP BodyLine.isNew = new.count
  oldBound : old.first.value + old.count ≤ Range.bound
  newBound : new.first.value + new.count ≤ Range.bound

namespace Hunk

/-- The header of a hunk behind its mark. -/
def header (hunk : Hunk) : List Char :=
  '-' :: hunk.old.chars ++ ' ' :: ('+' :: hunk.new.chars ++ ' ' :: '@' :: '@' :: hunk.heading)

/-- The lines of a hunk. -/
def lines (hunk : Hunk) : List (List Char) :=
  (hunkMark ++ hunk.header) :: hunk.body.map BodyLine.chars

/-- The numbers of the added lines, where the next line of the new side has the number `next`. -/
def addedFrom (next : Nat) : List BodyLine → List Nat
  | [] => []
  | .added _ :: rest => next :: addedFrom (next + 1) rest
  | .context _ :: rest | .stripped :: rest => addedFrom (next + 1) rest
  | .removed _ :: rest | .remark _ :: rest => addedFrom next rest

/-- The numbers of the lines that a hunk adds. -/
def added (hunk : Hunk) : List Nat :=
  addedFrom hunk.new.first.value hunk.body

end Hunk

/-- What stands in front of the path of a file of the new side, if it is marked as one. -/
def sideMark : List Char := ['b', '/']

/-- The path that stands for no file. -/
def noFile : List Char := ['/', 'd', 'e', 'v', '/', 'n', 'u', 'l', 'l']

/-- A file of the new side as it is named: by its path, which may be marked. A path that is not
marked does not look like a marked one, and none looks like the one for no file. -/
structure NamedFile where
  marked : Bool
  path : Line
  noTab : '\t' ∉ path.1
  noBlank : ∀ c ∈ path.1.head?.toList ++ path.1.getLast?.toList, Text.isBlank c = false
  plain : marked = false → ¬ sideMark <+: path.1 ∧ path.1 ≠ noFile

namespace NamedFile

/-- The name of a file as it is written. -/
def chars (file : NamedFile) : List Char :=
  if file.marked then sideMark ++ file.path else file.path

/-- What a file is known by: the components of its path but for a dot at the start. -/
def components (file : NamedFile) : List Component :=
  (Path.mk (String.ofList file.path)).plainComponents

end NamedFile

/-- The section for a file, or for one that the new side does not have. -/
structure Section where
  /-- The lines in front of the two names. -/
  lead : List OtherLine
  old : Line
  file? : Option NamedFile
  /-- What stands behind the new name and a tab. -/
  stamp? : Option Line
  /-- The hunks, each with the lines in front of it. -/
  hunks : List (List OtherLine × Hunk)

namespace Section

/-- What stands behind the new name of the file. -/
def trail (part : Section) : List Char :=
  match part.stamp? with
  | some stamp => '\t' :: stamp
  | none => []

/-- The new name of the file, and what stands behind it. -/
def name (part : Section) : List Char :=
  (part.file?.map NamedFile.chars).getD noFile ++ part.trail

/-- The lines of a section. -/
def lines (part : Section) : List (List Char) :=
  part.lead.map (fun other => other.line.1) ++
    ('-' :: '-' :: '-' :: ' ' :: part.old.1) :: (fileMark ++ part.name) ::
      part.hunks.flatMap fun (lead, hunk) => lead.map (fun other => other.line.1) ++ hunk.lines

/-- The numbers of the lines that a section adds to its file. -/
def added (part : Section) : List Nat :=
  part.hunks.flatMap fun (_, hunk) => hunk.added

end Section

end MutationTesting.UnifiedDiff

namespace MutationTesting

open UnifiedDiff in
/-- A unified diff: the sections for its files, and the lines behind them. -/
structure UnifiedDiff where
  sections : List Section
  rest : List OtherLine

namespace UnifiedDiff

/-- The lines of a diff. -/
def lines (diff : UnifiedDiff) : List (List Char) :=
  diff.sections.flatMap Section.lines ++ diff.rest.map fun other => other.line.1

/-- A diff as it is written. A line feed ends each line, the last one perhaps excepted. -/
def text (diff : UnifiedDiff) (ended : Bool) : String :=
  String.ofList (List.intercalate ['\n'] (diff.lines ++ if ended then [[]] else []))

/-- The numbers of the lines that a diff adds to a file, in all sections for it. -/
def added (diff : UnifiedDiff) (file : List Component) : List Nat :=
  diff.sections.flatMap fun part =>
    if part.file?.map NamedFile.components = some file then part.added else []

/-! No line has a line feed in it, so the lines can be told apart again. -/

theorem BodyLine.noFeed (line : BodyLine) : '\n' ∉ line.chars := by
  cases line with
  | stripped => exact List.not_mem_nil
  | context line => simpa [chars] using line.2
  | removed line => simpa [chars] using line.2
  | added line => simpa [chars] using line.2
  | remark line => simpa [chars] using line.2

theorem Range.noFeed (range : Range) : '\n' ∉ range.chars := by
  have noFeed (numeral : Numeral) := numeral.not_mem_digits (c := '\n') (by decide)
  unfold chars
  split
  · simp [noFeed]
  · exact noFeed range.first

theorem Hunk.noFeed (hunk : Hunk) {line : List Char} (member : line ∈ hunk.lines) :
    '\n' ∉ line := by
  obtain rfl | member := List.mem_cons.mp member
  · simp [hunkMark, header, hunk.old.noFeed, hunk.new.noFeed, hunk.heading.2]
  · obtain ⟨inBody, -, rfl⟩ := List.mem_map.mp member
    exact inBody.noFeed

theorem Section.noFeed_name (part : Section) : '\n' ∉ part.name := by
  have noFeed (file : NamedFile) : '\n' ∉ file.chars := by
    unfold NamedFile.chars
    split
    · simpa [sideMark] using file.path.2
    · exact file.path.2
  refine List.not_mem_append ?_ ?_
  · cases part.file? with
    | none => decide
    | some file => exact noFeed file
  · unfold trail
    split
    · rename_i stamp _
      simpa using stamp.2
    · exact List.not_mem_nil

theorem noFeed_others {others : List OtherLine} {line : List Char}
    (member : line ∈ others.map fun other => other.line.1) : '\n' ∉ line := by
  obtain ⟨other, -, rfl⟩ := List.mem_map.mp member
  exact other.line.2

theorem Section.noFeed (part : Section) {line : List Char} (member : line ∈ part.lines) :
    '\n' ∉ line := by
  simp only [lines, List.mem_append, List.mem_cons, List.mem_flatMap] at member
  obtain lead | rfl | rfl | ⟨⟨others, hunk⟩, -, other | inHunk⟩ := member
  · exact noFeed_others lead
  · simpa using part.old.2
  · exact List.not_mem_append (by decide) part.noFeed_name
  · exact noFeed_others other
  · exact hunk.noFeed inHunk

theorem noFeed (diff : UnifiedDiff) {line : List Char} (member : line ∈ diff.lines) :
    '\n' ∉ line := by
  obtain inSection | behind := List.mem_append.mp member
  · obtain ⟨part, -, inPart⟩ := List.mem_flatMap.mp inSection
    exact part.noFeed inPart
  · exact noFeed_others behind

/-- What the line feeds of a diff separate are its lines, behind which there may be an empty one. -/
theorem pieces_text (diff : UnifiedDiff) (ended : Bool) :
    Text.pieces '\n' (diff.text ended).toList = diff.lines ∨
      Text.pieces '\n' (diff.text ended).toList = diff.lines ++ [[]] := by
  rw [text, String.toList_ofList]
  cases ended with
  | true =>
    refine .inr (Text.pieces_intercalate (by simp) fun line member => ?_)
    obtain inDiff | isEnd := List.mem_append.mp member
    · exact diff.noFeed inDiff
    · exact List.mem_singleton.mp isEnd ▸ List.not_mem_nil
  | false =>
    rw [if_neg Bool.false_ne_true, List.append_nil]
    by_cases none : diff.lines = []
    · exact .inr (by rw [none]; rfl)
    · exact .inl (Text.pieces_intercalate none fun line => diff.noFeed)

end UnifiedDiff

end MutationTesting
