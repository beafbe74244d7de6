import MutationTesting.Shell.Number
/-! Signals: their numbers, their names, and what is said of a command that one of them ends. -/
namespace MutationTesting.Shell

structure Signal where
  number : Nat
  name : String
  /-- What is said of a command that it ends. -/
  message : String
  deriving Repr, DecidableEq

/-- The signals in the order of their numbers. -/
def signals : List Signal :=
  [⟨1, "HUP", "Hangup"⟩, ⟨2, "INT", "Interrupt"⟩, ⟨3, "QUIT", "Quit"⟩,
    ⟨4, "ILL", "Illegal instruction"⟩, ⟨5, "TRAP", "Trace/breakpoint trap"⟩,
    ⟨6, "ABRT", "Aborted"⟩, ⟨7, "BUS", "Bus error"⟩, ⟨8, "FPE", "Floating point exception"⟩,
    ⟨9, "KILL", "Killed"⟩, ⟨10, "USR1", "User defined signal 1"⟩,
    ⟨11, "SEGV", "Segmentation fault"⟩, ⟨12, "USR2", "User defined signal 2"⟩,
    ⟨13, "PIPE", "Broken pipe"⟩, ⟨14, "ALRM", "Alarm clock"⟩, ⟨15, "TERM", "Terminated"⟩,
    ⟨16, "16", "Stack fault"⟩, ⟨17, "CHLD", "Child exited"⟩, ⟨18, "CONT", "Continued"⟩,
    ⟨19, "STOP", "Stopped (signal)"⟩, ⟨20, "TSTP", "Stopped"⟩, ⟨21, "TTIN", "Stopped (tty input)"⟩,
    ⟨22, "TTOU", "Stopped (tty output)"⟩, ⟨23, "URG", "Urgent I/O condition"⟩,
    ⟨24, "XCPU", "CPU time limit exceeded"⟩, ⟨25, "XFSZ", "File size limit exceeded"⟩,
    ⟨26, "VTALRM", "Virtual timer expired"⟩, ⟨27, "PROF", "Profiling timer expired"⟩,
    ⟨28, "WINCH", "Window changed"⟩, ⟨29, "IO", "I/O possible"⟩, ⟨30, "PWR", "Power failure"⟩,
    ⟨31, "SYS", "Bad system call"⟩]

namespace Signal

/-- The signal that nothing can be done about. -/
def kill : Nat := 9

/-- The signals that are not sent to end a command. -/
def harmless : List Nat := [17, 18, 23, 28]

/-- The signals that stop a command for a time. -/
def stopping : List Nat := [19, 20, 21, 22]

/-- The largest number of a signal, and the first and the last of those without names. -/
def largest : Nat := 64

def firstReal : Nat := 34

def nameOf (number : Nat) : String :=
  if number = 0 then "EXIT"
  else
    match signals.find? fun signal => signal.number = number with
    | some signal => signal.name
    | none =>
      if number = firstReal then "RTMIN"
      else if number = largest then "RTMAX"
      else if firstReal < number && number ≤ 49 then s!"RTMIN+{number - firstReal}"
      else if 50 ≤ number && number < largest then s!"RTMAX-{largest - number}"
      else toString number

/-- What is said of a command that the signal of a number ended. -/
def messageOf (number : Nat) : String :=
  match signals.find? fun signal => signal.number = number with
  | some signal => signal.message
  | none => s!"Real-time signal {number - firstReal}"

/-- The exit code of a command that the signal of a number ended. -/
def code (number : Nat) : Nat :=
  128 + number

/-- A number that is written with digits. -/
def decimal? (text : String) : Option Nat :=
  if text ≠ "" ∧ text.all Char.isDigit then
    some (text.toList.foldl (fun n c => 10 * n + (c.toNat - '0'.toNat)) 0)
  else none

/-- The number of a signal that is named by its number or its name, in letters of either case. The
smallest number that is named is `first`. -/
def ofText? (first : Nat) (text : String) : Option Nat :=
  match decimal? text with
  | some number => if number ≤ largest then some number else none
  | none =>
    let name := text.map Char.toUpper
    (List.range (largest + 1)).find? fun number => first ≤ number && nameOf number == name &&
      decimal? (nameOf number) == none

end Signal

end MutationTesting.Shell
