/-! Scripts: the words of a shell, as they are written, and the commands that they make up. The
text of a script is a text of bytes: each of its characters stands for one. -/
namespace MutationTesting.Shell

/-- What is done with the value of a parameter. -/
inductive Adjustment where
  /-- It is put in as it is. -/
  | plain
  /-- A word stands for it if it is missing. -/
  | orElse
  /-- A word stands for it if it is there. -/
  | ifThere
  /-- A word is assigned and stands for it if it is missing. -/
  | orAssign
  /-- A word says what is wrong if it is missing. -/
  | orFail
  /-- Its length is put in. -/
  | length
  /-- The shortest or the longest part at its start that fits a pattern is left out. -/
  | withoutStart (longest : Bool)
  /-- The shortest or the longest part at its end that fits a pattern is left out. -/
  | withoutEnd (longest : Bool)
  /-- Nothing that the shell knows. -/
  | unknown
  deriving Repr, DecidableEq

inductive Opening where
  | read
  | write
  /-- To write, even where files must not be overwritten. -/
  | overwrite
  | append
  | readWrite
  deriving Repr, DecidableEq

mutual

inductive Piece where
  /-- A character; one that is escaped stands for itself. -/
  | char (c : Char) (isEscaped : Bool)
  /-- A quotation mark, at the start or the end of a quoted part. -/
  | mark
  /-- The value of a parameter. With `checksEmpty`, a value that is empty is a missing one. -/
  | parameter (name : String) (adjustment : Adjustment) (checksEmpty : Bool)
    (operand : List Piece)
  /-- What a script writes. -/
  | output (script : Script)
  /-- The value of an arithmetic expression. -/
  | value (expression : List Piece)

inductive Redirection where
  | file (opening : Opening) (descriptor : Nat) (target : List Piece)
  /-- Makes it the same as another one, or closes it. -/
  | duplicate (isOutput : Bool) (descriptor : Nat) (target : List Piece)
  /-- Lets it read the document of a number. -/
  | document (descriptor number : Nat) (isLiteral : Bool)

inductive Script where
  | nothing
  | simple (line : Nat) (assignments words : List (List Piece)) (redirections : List Redirection)
  | pipeline (stages : List Script) (isBackground : Bool)
  | redirected (line : Nat) (body : Script) (redirections : List Redirection)
  | background (line : Nat) (body : Script) (redirections : List Redirection)
  | subshell (line : Nat) (body : Script) (redirections : List Redirection)
  | both (first second : Script)
  | either (first second : Script)
  | sequence (first second : Script)
  | negation (body : Script)
  | branch (condition yes no : Script)
  /-- A loop that runs while its condition succeeds, or until it does. -/
  | loop (isUntil : Bool) (condition body : Script)
  | each (line : Nat) (name : String) (words : List (List Piece)) (body : Script)
  | choice (line : Nat) (word : List Piece) (cases : List (List (List Piece) × Script))
  | function (line : Nat) (name : String) (body : Script)

end

instance : Inhabited Script := ⟨.nothing⟩

abbrev Word := List Piece

namespace Script

def isNothing : Script → Bool
  | nothing => true
  | _ => false

end Script

/-- A piece for each character of a text. -/
def plainWord (text : String) : Word :=
  text.toList.map fun c => Piece.char c false

/-- The text of a word as it is written, without its quotes. -/
def Word.text (word : Word) : String :=
  String.ofList (word.filterMap fun
    | Piece.char c _ => some c
    | _ => none)

/-- The text of a word in which nothing is quoted and nothing is put in. -/
def Word.literal? (word : Word) : Option String :=
  (word.mapM fun
    | Piece.char c false => some c
    | _ => none).map String.ofList

def isNameStart (c : Char) : Bool :=
  c.isAlpha || c = '_'

def isNamePart (c : Char) : Bool :=
  c.isAlphanum || c = '_'

def isName (text : String) : Bool :=
  match text.toList with
  | [] => false
  | c :: rest => isNameStart c && rest.all isNamePart

/-- Whether a character names a parameter of its own. -/
def isSpecial (c : Char) : Bool :=
  "@*#?-$!".toList.contains c || c.isDigit

/-- The name that a word starts with, if an assignment sign follows it. -/
def assignedName? (word : Word) : Option String :=
  let name := word.takeWhile fun
    | Piece.char c false => isNamePart c
    | _ => false
  match word.drop name.length with
  | Piece.char '=' false :: _ =>
    let text := Word.text name
    if isName text then some text else none
  | _ => none

end MutationTesting.Shell
