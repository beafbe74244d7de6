import MutationTesting.Shell.Utility.Grep
import MutationTesting.Shell.Utility.Mode
/-! What is asked of files below a directory, and what is done with them. -/
namespace MutationTesting.Shell.Utility.Find

/-- How a number is compared to another one. -/
inductive Bound where
  | exactly
  | more
  | less
  deriving Repr, DecidableEq

/-- Whether a number is within a bound. -/
def Bound.holds (bound : Bound) (limit n : Nat) : Bool :=
  match bound with
  | .exactly => n = limit
  | .more => limit < n
  | .less => n < limit

/-- The bound that a sign before a number means, and what follows it. -/
def Bound.ofText (text : String) : Bound × String :=
  match text.toList with
  | '+' :: rest => (.more, String.ofList rest)
  | '-' :: rest => (.less, String.ofList rest)
  | _ => (.exactly, text)

/-- A piece of the text that is shown for a file: a text as it is, or something that is known of the
file. -/
inductive Piece where
  | text (text : String)
  | field (directive : Directive) (letter : Char)
  deriving Repr, DecidableEq

/-- Something that holds of a file or not. -/
inductive Test where
  | always (holds : Bool)
  | name (pattern : String) (foldsCase : Bool)
  | path (pattern : String) (foldsCase : Bool)
  | fits (expression : Regex.Expression)
  | kinds (letters : List Char)
  | size (bound : Bound) (count unit : Nat)
  | isEmpty
  | bits (bound : Bound) (bits : Nat)
  | links (bound : Bound) (count : Nat)
  | isAt (address : List String)
  | isExecutable

/-- Something that is done with a file. -/
inductive Action where
  | print (mark : String) (target? : Option Nat)
  | lay (pieces : List Piece) (target? : Option Nat)
  | list (target? : Option Nat)
  | delete
  | prune
  | quit
  /-- Runs a program with the path in the place of a mark. -/
  | run (words : List String) (isInside asks : Bool)
  /-- Runs a program with the paths of many files, which it gathers. -/
  | gather (number : Nat)

inductive Expression where
  | test (test : Test)
  | action (action : Action)
  | not (inner : Expression)
  | both (first second : Expression)
  | either (first second : Expression)
  | last (first second : Expression)

inductive Connective where
  | list
  | or
  | and
  deriving Repr, DecidableEq

namespace Connective

def strength : Connective → Nat
  | .list => 1
  | .or => 2
  | .and => 3

def join : Connective → Expression → Expression → Expression
  | .list => .last
  | .or => .either
  | .and => .both

end Connective

inductive Word where
  | primary (expression : Expression)
  | negation (name : String)
  | connective (connective : Connective) (name : String)
  | opening (name : String)
  | closing
  /-- The end of what is asked when the paths are shown in the end. -/
  | ending

namespace Reader

abbrev Reading := Except String

def wrong (message : String) : Reading α :=
  throw ("invalid expression; " ++ message)

mutual

/-- The first expression of some words and those that follow it. `before?` is the name of the sign
before them. -/
def firstOf (fuel : Nat) (before? : Option String) (words : List Word) :
    Reading (Expression × List Word) := do
  match fuel with
  | 0 => throw "invalid expression"
  | fuel + 1 =>
    match words with
    | [] => throw "invalid expression"
    | .connective _ name :: _ =>
      wrong s!"you have used a binary operator '{name}' with nothing before it."
    | .closing :: _ =>
      match before? with
      | some name => throw s!"expected an expression between '{name}' and ')'"
      | none => throw "you have too many ')'"
    | .ending :: _ =>
      match before? with
      | some name => throw s!"expected an expression after '{name}'"
      | none => throw "invalid expression"
    | .primary expression :: rest => return (expression, rest)
    | .negation name :: rest =>
      let (inner, rest) ← firstOf fuel (some name) rest
      return (.not inner, rest)
    | .opening name :: rest =>
      let isLast := match rest with
        | [] | .ending :: _ => true
        | _ => false
      if isLast then
        wrong ("expected to find a ')' but didn't see one. Perhaps you need an extra predicate " ++
          s!"after '{name}'")
      else if rest matches .closing :: _ then wrong "empty parentheses are not allowed."
      else
        let (inner, rest) ← chainOf fuel 0 none rest
        match rest with
        | .closing :: rest => return (inner, rest)
        | _ => wrong "I was expecting to find a ')' somewhere but did not see one."

/-- Expressions with signs between them that bind more strongly than a limit. -/
def chainOf (fuel : Nat) (limit : Nat) (before? : Option String) (words : List Word) :
    Reading (Expression × List Word) := do
  match fuel with
  | 0 => throw "invalid expression"
  | fuel + 1 =>
    let (first, rest) ← firstOf fuel before? words
    continueChain fuel limit first rest

def continueChain (fuel : Nat) (limit : Nat) (first : Expression) (words : List Word) :
    Reading (Expression × List Word) := do
  match fuel with
  | 0 => throw "invalid expression"
  | fuel + 1 =>
    match words with
    | .connective connective name :: rest =>
      if connective.strength ≤ limit then return (first, words)
      else
        let (second, rest) ← chainOf fuel connective.strength (some name) rest
        continueChain fuel limit (connective.join first second) rest
    | .primary _ :: _ | .negation _ :: _ | .opening _ :: _ =>
      -- Nothing between two expressions asks for both.
      if Connective.and.strength ≤ limit then return (first, words)
      else
        let (second, rest) ← chainOf fuel Connective.and.strength none words
        continueChain fuel limit (.both first second) rest
    | _ => return (first, words)

end

def expressionOf (words : List Word) : Reading Expression := do
  if words.isEmpty then return .test (.always true)
  if words matches [.ending] then return .test (.always true)
  let (found, rest) ← chainOf (4 * words.length + 8) 0 none words
  match rest with
  | [] | [.ending] => return found
  | _ => throw "you have too many ')'"

end Reader

/-- An expression of the editor whose name is the usual form, in the extended form: parentheses and
bars have backslashes if they are operators. -/
def extendedForm : (fuel : Nat) → List Char → List Char
  | 0, cs => cs
  | _, [] => []
  | fuel + 1, '\\' :: c :: rest =>
    (if "()|".toList.contains c then [c] else ['\\', c]) ++ extendedForm fuel rest
  | fuel + 1, '[' :: rest =>
    let lead := match rest with
      | '^' :: ']' :: _ => 2
      | '^' :: _ | ']' :: _ => 1
      | _ => 0
    let inner := rest.take lead ++ (rest.drop lead).takeWhile (· ≠ ']')
    ('[' :: inner) ++ extendedForm fuel (rest.drop inner.length)
  | fuel + 1, c :: rest =>
    (if "()|\x7b\x7d".toList.contains c then ['\\', c] else [c]) ++ extendedForm fuel rest

/-- The forms of expressions by their names: whether they are extended, or none for the usual
form. -/
def forms : List (String × Option Bool) :=
  [("findutils-default", none), ("ed", some false), ("emacs", none), ("gnu-awk", some true),
    ("grep", some false), ("posix-awk", some true), ("awk", some true),
    ("posix-basic", some false), ("posix-egrep", some true), ("egrep", some true),
    ("posix-extended", some true), ("posix-minimal-basic", some false), ("sed", some false)]

def regexOf (form : Option Bool) (foldsCase : Bool) (text : String) :
    Except Regex.Refusal Regex.Expression :=
  match form with
  | some isExtended => Regex.Expression.ofText { isExtended, foldsCase } text.toList
  | none =>
    Regex.Expression.ofText { isExtended := true, foldsCase }
      (extendedForm (text.length + 1) text.toList)

/-- What an escape in a layout of files stands for, and what follows it. -/
def escapeAt (cs : List Char) : Option (String × List Char) :=
  match cs with
  | [] => none
  | c :: rest =>
    let digits := (cs.takeWhile fun c => '0' ≤ c && c ≤ '7').take 3
    if !digits.isEmpty then
      some (String.singleton (Char.ofNat (Mode.numberOf digits % 256)), cs.drop digits.length)
    else
      (match c with
        | 'a' => some "\x07"
        | 'b' => some "\x08"
        | 'f' => some "\x0c"
        | 'n' => some "\n"
        | 'r' => some "\r"
        | 't' => some "\t"
        | 'v' => some "\x0b"
        | '\\' => some "\\"
        | _ => none).map fun text => (text, rest)

/-- The letters of what may be shown of a file. -/
def fieldLetters : List Char :=
  "abcdDfFgGhHiklmMnpPsStuUyYZ".toList

/-- The pieces of a layout of files, and the warnings that it deserves. -/
def piecesOf : (fuel : Nat) → (found : List Piece) → (warnings : List String) → List Char →
    Except String (List Piece × List String)
  | 0, found, warnings, _ | _, found, warnings, [] => .ok (found.reverse, warnings.reverse)
  | fuel + 1, found, warnings, '\\' :: rest =>
    match rest with
    | 'c' :: _ => .ok (found.reverse, warnings.reverse)
    | _ =>
      match escapeAt rest, rest with
      | some (text, rest), _ => piecesOf fuel (.text text :: found) warnings rest
      | none, c :: rest =>
        piecesOf fuel (.text ("\\" ++ String.singleton c) :: found)
          (("unrecognized escape \x60\\" ++ String.singleton c ++ "'") :: warnings) rest
      | none, [] =>
        piecesOf fuel (.text "\\" :: found)
          ("escape \x60\\' followed by nothing at all" :: warnings) []
  | fuel + 1, found, warnings, '%' :: rest =>
    match directiveAt rest with
    | (_, []) => .error "error: % at end of format string"
    | (_, '%' :: rest) => piecesOf fuel (.text "%" :: found) warnings rest
    | (directive, letter :: rest) =>
      let rest := if "ABCT".toList.contains letter then rest.drop 1 else rest
      if fieldLetters.contains letter || "ABCT".toList.contains letter then
        piecesOf fuel (.field directive letter :: found) warnings rest
      else
        let shown := "%" ++ String.singleton letter
        piecesOf fuel (.text shown :: found)
          (s!"unrecognized format directive \x60{shown}'" :: warnings) rest
  | fuel + 1, found, warnings, c :: rest =>
    piecesOf fuel (.text (String.singleton c) :: found) warnings rest

end MutationTesting.Shell.Utility.Find
