import MutationTesting.Shell.Builtin.Condition
import MutationTesting.Shell.Builtin.Echo
import MutationTesting.Shell.Utility.Basic
/-! Programs that write their arguments, or parts of them. -/
namespace MutationTesting.Shell.Utility

def always (code : Nat) : Program := fun _ _ =>
  return code

/-- A text in which backslashes count, and whether it says that nothing may follow. Codes are
written in base eight behind a zero, and in base sixteen behind an x. -/
def expanded : (fuel : Nat) → (found cs : List Char) → List Char × Bool
  | 0, found, _ => (found.reverse, false)
  | _, found, [] => (found.reverse, false)
  | fuel + 1, found, '\\' :: rest =>
    match rest with
    | 'c' :: _ => (found.reverse, true)
    | 'e' :: rest => expanded fuel ('\x1b' :: found) rest
    | '0' :: digits =>
      let digits := (digits.take 3).takeWhile isOctalDigit
      expanded fuel (octalByte digits :: found) (rest.drop (digits.length + 1))
    | 'x' :: digits =>
      let taken := (digits.take 2).takeWhile Pattern.isHexDigit
      if taken.isEmpty then expanded fuel ('x' :: '\\' :: found) digits
      else
        let (value, _, _) := digitsIn 16 0 0 taken
        expanded fuel (Char.ofNat value :: found) (digits.drop taken.length)
    | _ =>
      let (c, rest) := escapeAt rest
      expanded fuel (c :: found) rest
  | fuel + 1, found, c :: rest => expanded fuel (c :: found) rest

/-- The letters of the options in front of what is echoed, and what follows them. -/
def echoOptions : List String → List Char × List String
  | argument :: rest =>
    match argument.toList with
    | '-' :: c :: cs =>
      if (c :: cs).all fun c => c = 'n' || c = 'e' || c = 'E' then
        let (letters, rest) := echoOptions rest
        (c :: cs ++ letters, rest)
      else ([], argument :: rest)
    | _ => ([], argument :: rest)
  | [] => ([], [])

/-- Writes its arguments with blanks between them. -/
def echo : Program := fun _ arguments => do
  let (letters, arguments) := echoOptions arguments
  let text := String.intercalate " " arguments
  let escapes := (letters.reverse.find? fun c => c ≠ 'n') = some 'e'
  let (cs, isLast) := if escapes then expanded (text.length + 1) [] text.toList
    else (text.toList, false)
  Sh.say (String.ofList cs ++ if isLast || letters.contains 'n' then "" else "\n")
  return 0

/-- Does what a command of the shell does, with messages of a program. -/
def asProgram (command : List String → Sh Nat) (code : Nat) : Program := fun _ arguments => do
  match ← Sh.attempt (command arguments) with
  | .error (.failed _) => throw (.exit code)
  | result => Sh.resume result

/-- Lays out its arguments after a format. -/
def printf : Program := fun self arguments => do
  match arguments with
  | [] => Sh.failMissing 1
  | "--" :: rest => asProgram Shell.printf 1 self rest
  | _ => asProgram Shell.printf 1 self arguments

def test (name : String) : Program := asProgram (Sh.condition name) 2

/-- A path without slashes at its end, and without what comes before its last name. -/
def baseOf (path : String) : String :=
  let trimmed := path.toList.reverse.dropWhile (· = '/')
  if path ≠ "" && trimmed.isEmpty then "/"
  else String.ofList (trimmed.takeWhile (· ≠ '/')).reverse

def folderOf (path : String) : String :=
  let trimmed := path.toList.reverse.dropWhile (· = '/')
  let before := trimmed.dropWhile (· ≠ '/')
  let folder := before.dropWhile (· = '/')
  if trimmed.isEmpty then if path = "" then "." else "/"
  else if before.isEmpty then "."
  else if folder.isEmpty then "/"
  else String.ofList folder.reverse

/-- A name without an ending, unless that is all of it. -/
def withoutEnding (ending name : String) : String :=
  if ending ≠ "" && ending ≠ name && Text.endsWith ending name then
    String.ofList (name.toList.take (name.length - ending.length))
  else name

def basename : Program := fun _ arguments => do
  let given ← Sh.takeFirst 1 "a,multiple s:,suffix z,zero" arguments
  let mark := if given.has "z" then "\x00" else "\n"
  match given.operands with
  | [] => Sh.failMissing 1
  | first :: rest =>
    if given.has "a" || given.has "s" then
      let ending := (given.last? "s").getD ""
      (first :: rest).forM fun path => Sh.say (withoutEnding ending (baseOf path) ++ mark)
      return 0
    else match rest with
      | [] =>
        Sh.say (baseOf first ++ mark)
        return 0
      | [ending] =>
        Sh.say (withoutEnding ending (baseOf first) ++ mark)
        return 0
      | _ :: extra :: _ => Sh.failExtra 1 extra

def dirname : Program := fun _ arguments => do
  let given ← Sh.takeAll 1 "z,zero" arguments
  if given.operands.isEmpty then Sh.failMissing 1
  given.operands.forM fun path =>
    Sh.say (folderOf path ++ if given.has "z" then "\x00" else "\n")
  return 0

end MutationTesting.Shell.Utility
