/-! Why an operation on files fails. -/
namespace MutationTesting

/-- The causes for which an operation on files fails. -/
inductive Fault where
  /-- There is no such entry. -/
  | notFound
  /-- A path leads through an entry that is no directory. -/
  | notDirectory
  /-- A directory stands where a file is needed. -/
  | isDirectory
  /-- A directory that has to be empty is not. -/
  | notEmpty
  /-- The bytes of a file are not UTF-8. -/
  | invalidText
  /-- What is to be copied is no regular file. -/
  | notRegular
  /-- A directory is to be moved below itself. -/
  | belowItself
  /-- An entry is named by a dot or two, where its own name is needed. -/
  | nameless
  /-- A name or a path is longer than it may be. -/
  | tooLong
  /-- A path has a character with the code zero in it. -/
  | zeroInName
  deriving Repr, DecidableEq

/-- What is said of a cause. -/
def Fault.reason : Fault → String
  | notFound => "No such file or directory"
  | notDirectory => "Not a directory"
  | isDirectory => "Is a directory"
  | notEmpty => "Directory not empty"
  | invalidText => "stream did not contain valid UTF-8"
  | notRegular => "the source path is neither a regular file nor a symlink to a regular file"
  | belowItself => "Invalid argument"
  | nameless => "Device or resource busy"
  | tooLong => "File name too long"
  | zeroInName => "file name contained an unexpected NUL byte"

/-- The number of a cause that the operating system reports. -/
def Fault.number? : Fault → Option Nat
  | notFound => some 2
  | notDirectory => some 20
  | isDirectory => some 21
  | belowItself => some 22
  | nameless => some 16
  | tooLong => some 36
  | notEmpty => some 39
  | invalidText | notRegular | zeroInName => none

def Fault.message (fault : Fault) : String :=
  match fault.number? with
  | some number => s!"{fault.reason} (os error {number})"
  | none => fault.reason

end MutationTesting
