import MutationTesting.Path
import MutationTesting.Text.Lines
import MutationTesting.Text.Quoted
/-! Mutants: changed copies of a file, their names, and what is known of them. A name says on which
line a mutant stands and which one of that line's mutants it is, so that edits elsewhere in the file
leave the name alone. -/
namespace MutationTesting

/-- The name of a mutant: the text of its line, its place among the mutants of the line, and the
row of the line, counted from zero. -/
structure MutantId where
  line : String
  index : Nat
  row : Nat
  deriving Repr, DecidableEq, Inhabited

/-- The name as messages show it, with rows counted from one. -/
def MutantId.describe (id : MutantId) : String :=
  s!"#{id.index} on line {id.row + 1} (" ++ Text.quoted (Text.trim id.line) ++ ")"

/-- The outcome of testing a mutant. -/
inductive Status where
  | untested
  | killed
  | suspicious
  | timedOut
  | survived
  deriving Repr, DecidableEq, Inhabited

namespace Status

/-- The word for a status in reports. -/
def label : Status → String
  | untested => "untested"
  | killed => "killed"
  | suspicious => "suspicious"
  | timedOut => "timeout"
  | survived => "survived"

/-- The word for a status in stored results. -/
def code : Status → String
  | untested => "UNTESTED"
  | killed => "OK_KILLED"
  | suspicious => "OK_SUSPICIOUS"
  | timedOut => "BAD_TIMEOUT"
  | survived => "BAD_SURVIVED"

def all : List Status :=
  [untested, killed, suspicious, timedOut, survived]

/-- The status that a stored word stands for. -/
def ofCode? (code : String) : Option Status :=
  all.find? fun status => status.code == code

theorem ofCode?_code (status : Status) : ofCode? status.code = some status := by
  cases status <;> decide

def isTested (status : Status) : Bool :=
  status != untested

end Status

/-- A changed copy of a file: its name, the source it was made from and the changed source, what
is known of it, and whether it stands on disk in place of the file. -/
structure Mutant where
  file : Path
  id : MutantId
  source : String
  mutated : String
  status : Status := .untested
  applied : Bool := false
  deriving Repr, DecidableEq

end MutationTesting
