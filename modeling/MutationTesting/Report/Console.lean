import MutationTesting.Cache.Basic
import MutationTesting.Suite.Event
import MutationTesting.Text.Lines
import MutationTesting.Text.Search
/-! What is printed, with styles where a terminal shows them: messages, the progress of a run, its
summary, the mutants that were not killed, and diffs. -/
namespace MutationTesting.Report

/-- The colours that reports use. -/
inductive Color where
  | red
  | green
  | yellow
  | magenta
  | cyan
  deriving Repr, DecidableEq

/-- The digit of a colour in an escape sequence. -/
def Color.digit : Color → String
  | red => "1"
  | green => "2"
  | yellow => "3"
  | magenta => "5"
  | cyan => "6"

/-- The weights that reports use. -/
inductive Weight where
  | bold
  | dim
  deriving Repr, DecidableEq

/-- The digit of a weight in an escape sequence. -/
def Weight.digit : Weight → String
  | bold => "1"
  | dim => "2"

structure Style where
  color? : Option Color
  weight? : Option Weight
  deriving Repr, DecidableEq

/-- A text in a style: escape sequences for colour and weight in front, one that ends them
behind. Without colours, and in the plain style, it is the text alone. -/
def Style.apply (style : Style) (colors : Bool) (text : String) : String :=
  let lead :=
    (match style.color? with
      | some color => "\x1b[3" ++ color.digit ++ "m"
      | none => "") ++
    (match style.weight? with
      | some weight => "\x1b[" ++ weight.digit ++ "m"
      | none => "")
  if colors ∧ lead ≠ "" then lead ++ text ++ "\x1b[0m" else text

def line (text : String) : String :=
  text ++ "\n"

def failure (colors : Bool) (message : String) : String :=
  line ((Style.mk (some .red) (some .bold)).apply colors "✗" ++ " " ++ message)

def success (colors : Bool) (message : String) : String :=
  line ((Style.mk (some .green) (some .bold)).apply colors "✓" ++ " " ++ message)

/-- The lines in front of a run. -/
def legendText : String :=
  "\n- Mutation testing starting -\n\n" ++
  "These are the steps:\n" ++
  "1. A full test suite run will be made to make sure we\n" ++
  "   can run the tests successfully and we know how long\n" ++
  "   it takes (to detect infinite loops for example)\n" ++
  "2. Mutants will be generated and checked\n\n" ++
  "Results are stored in .mutator-cache.json.\n" ++
  "Print found mutants with \x60mutator results\x60.\n\n" ++
  "Legend for output:\n" ++
  "🎉 Killed mutants.   The goal is for everything to end up in this bucket.\n" ++
  "⏰ Timeout.          Test suite took 10 times as long as the baseline so were killed.\n" ++
  "🤔 Suspicious.       Tests took a long time, but not long enough to be fatal.\n" ++
  "🙁 Survived.         This means your tests need to be expanded.\n" ++
  "🔇 Skipped.          Skipped.\n"

/-- The lines in front of a run, and its command. -/
def legend (colors : Bool) (command : String) : String :=
  line legendText ++
    line ((Style.mk none (some .dim)).apply colors "Test command:" ++ " " ++ command)

/-- The signs that take turns in front of the counts. -/
def spinner : List String :=
  ["⠋", "⠙", "⠹", "⠸", "⠼", "⠴", "⠦", "⠧", "⠇", "⠏"]

/-- The counts of a run on one line. -/
def progressLine (tally : Tally) (spin : Nat) : String :=
  spinner.getD (spin % spinner.length) "" ++ " " ++ toString tally.progress ++ "/" ++
    toString tally.total ++ "  🎉 " ++ toString tally.killed ++ "  ⏰ " ++
    toString tally.timedOut ++ "  🤔 " ++ toString tally.suspicious ++ "  🙁 " ++
    toString tally.survived ++ "  🔇 " ++ toString tally.skipped

/-- What is printed for events, `spin` of which changed the counts before. Where nothing is
redrawn, the counts are printed when all mutants are done. -/
def eventsFrom (spin : Nat) : List Event → String
  | [] => ""
  | .progress tally :: rest =>
    (if tally.progress = tally.total then line (progressLine tally (spin + 1)) else "") ++
      eventsFrom (spin + 1) rest
  | .started _ _ _ :: rest => eventsFrom spin rest
  | .finished _ _ _ :: rest => eventsFrom spin rest
  | .output text :: rest => line text ++ eventsFrom spin rest
  | .echo text :: rest => line text ++ eventsFrom spin rest

/-- What is printed for the events of a run. -/
def events (all : List Event) : String :=
  eventsFrom 0 all

/-- The counts of a finished run. -/
def summary (colors : Bool) (tally : Tally) : String :=
  let color :=
    if tally.survived + tally.timedOut + tally.suspicious = 0 then Color.green else .yellow
  let mark := if tally.survived = 0 then "✓" else "!"
  line ((Style.mk (some color) (some .bold)).apply colors mark ++ " " ++ toString tally.total ++
    " mutants: " ++ toString tally.killed ++ " killed, " ++ toString tally.survived ++
    " survived, " ++ toString tally.timedOut ++ " timeout, " ++ toString tally.suspicious ++
    " suspicious, " ++ toString tally.skipped ++ " skipped")

def statusStyle : Status → Style
  | .killed => ⟨some .green, none⟩
  | .suspicious => ⟨some .yellow, none⟩
  | .timedOut => ⟨some .magenta, none⟩
  | .survived => ⟨some .red, some .bold⟩
  | .untested => ⟨none, some .dim⟩

/-- The sorts of mutants that are listed, with their titles. -/
def listedStatuses : List (Status × String) := [
  (.timedOut, "Timed out ⏰"), (.suspicious, "Suspicious 🤔"), (.survived, "Survived 🙁"),
  (.untested, "Untested/skipped")]

/-- A mutant of a list. -/
def entryLine (colors : Bool) (entry : CacheEntry) : String :=
  line ("  " ++ (Style.mk (some .cyan) (some .bold)).apply colors (toString entry.number) ++ " " ++
    (Style.mk none (some .dim)).apply colors
      ("line " ++ toString (entry.id.row + 1) ++ ": " ++ Text.trim entry.id.line))

/-- Mutants with the name of their file in front of the first one of each. -/
def entryLines (colors : Bool) (file? : Option Path) : List CacheEntry → String
  | [] => ""
  | entry :: rest =>
    (if file?.any entry.file.same then "" else line ("---- " ++ entry.file.text ++ " ----\n")) ++
      entryLine colors entry ++ entryLines colors (some entry.file) rest

def sortLines (colors : Bool) (status : Status) (title : String) (entries : List CacheEntry) :
    String :=
  let matching := entries.filter (·.status = status)
  if matching.isEmpty then ""
  else
    line ((statusStyle status).apply colors title ++ " (" ++ toString matching.length ++ ")\n") ++
      entryLines colors none matching ++ line ""

/-- The lines in front of a list of mutants. -/
def resultsHeader : String :=
  "To apply a mutant on disk:\n    mutator apply <id>\n\n" ++
  "To show a mutant:\n    mutator show <id>\n\n"

/-- The mutants that were not killed, by their status and then by file. -/
def results (colors : Bool) (entries : List CacheEntry) : String :=
  resultsHeader ++ String.join (listedStatuses.map fun (status, title) =>
    sortLines colors status title entries)

def diffStyle (text : String) : Style :=
  if Text.startsWith "+++" text ∨ Text.startsWith "---" text then ⟨none, some .bold⟩
  else if Text.startsWith "-" text then ⟨some .red, none⟩
  else if Text.startsWith "+" text then ⟨some .green, none⟩
  else if Text.startsWith "@@" text then ⟨some .cyan, none⟩
  else ⟨none, none⟩

def diff (colors : Bool) (text : String) : String :=
  String.join ((Text.lines text).map fun row => line ((diffStyle row).apply colors row))

end MutationTesting.Report
