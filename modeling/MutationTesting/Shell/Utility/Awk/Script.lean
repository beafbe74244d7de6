import MutationTesting.Regex.Reader
import MutationTesting.Shell.Utility.Awk.Value
/-! Scripts that work on records: what is done with a record when something holds of it. -/
namespace MutationTesting.Shell.Utility.Awk

inductive Operation where
  | plus
  | minus
  | times
  | over
  | modulo
  | power
  /-- One text behind the other. -/
  | join
  | less
  | atMost
  | same
  | other
  | atLeast
  | greater
  deriving Repr, DecidableEq

/-- What there is to be called by its name. -/
inductive Function where
  | length
  | part
  | index
  | split
  | sub
  | gsub
  | locate
  | layOut
  | sin
  | cos
  | arctangent
  | exponential
  | logarithm
  | root
  | integer
  | random
  | seed
  | lower
  | upper
  | system
  | close
  | flush
  deriving Repr, DecidableEq

namespace Function

/-- The functions with their names, and how many arguments they have, at least and at most. -/
def all : List (String × Function × Nat × Nat) :=
  [("length", length, 0, 1), ("substr", part, 2, 3), ("index", index, 2, 2), ("split", split, 2, 3),
    ("sub", sub, 2, 3), ("gsub", gsub, 2, 3), ("match", locate, 2, 2),
    ("sprintf", layOut, 1, 1000), ("sin", sin, 1, 1), ("cos", cos, 1, 1),
    ("atan2", arctangent, 2, 2), ("exp", exponential, 1, 1), ("log", logarithm, 1, 1),
    ("sqrt", root, 1, 1), ("int", integer, 1, 1), ("rand", random, 0, 0), ("srand", seed, 0, 1),
    ("tolower", lower, 1, 1), ("toupper", upper, 1, 1), ("system", system, 1, 1),
    ("close", close, 1, 1), ("fflush", flush, 0, 1)]

end Function

inductive Term where
  | number (x : Float)
  | text (written : String)
  /-- Whether the record fits. -/
  | pattern (expression : Regex.Expression)
  | named (name : String)
  | element (table : String) (keys : List Term)
  | field (number : Term)
  /-- A term in parentheses. -/
  | enclosed (inner : Term)
  /-- Gives a value to a place, after something has been done with the one there. -/
  | assigned (operation? : Option Operation) (place value : Term)
  /-- Makes the number at a place larger or smaller by one. -/
  | stepped (isUp isBefore : Bool) (place : Term)
  | negated (inner : Term)
  | signed (isNegative : Bool) (inner : Term)
  | binary (operation : Operation) (first second : Term)
  | fits (isNegated : Bool) (subject pattern : Term)
  | both (first second : Term)
  | either (first second : Term)
  | choice (condition first second : Term)
  | holds (keys : List Term) (table : String)
  | call (name : String) (arguments : List Term)
  | apply (function : Function) (arguments : List Term)
  /-- Reads a record from the input, from a file or from what a command writes. -/
  | read (source? : Option (Bool × Term)) (place? : Option Term)
  deriving Inhabited

namespace Term

/-- Whether a value can be given to what the term stands for. -/
def isPlace : Term → Bool
  | named _ | element _ _ | field _ => true
  | _ => false

end Term

/-- Where something is written to: to a file, behind what it holds, or to a command. -/
inductive Outlet where
  | file
  | behind
  | command
  deriving Repr, DecidableEq

inductive Statement where
  | term (term : Term)
  | print (items : List Term) (target? : Option (Outlet × Term))
  | layOut (items : List Term) (target? : Option (Outlet × Term))
  | block (inner : List Statement)
  | branch (condition : Term) (first : Statement) (second? : Option Statement)
  | while_ (condition : Term) (body : Statement)
  | repeat_ (body : Statement) (condition : Term)
  | for_ (start? condition? step? : Option Statement) (body : Statement)
  | forKeys (name table : String) (body : Statement)
  | delete (table : String) (keys : List Term)
  | next
  | nextFile
  | exit (code? : Option Term)
  | back (value? : Option Term)
  | leave
  | again
  deriving Inhabited

inductive Trigger where
  | start
  | finish
  | always
  | when (condition : Term)
  /-- From a record of which the first condition holds to one of which the second one holds. -/
  | between (number : Nat) (first last : Term)

/-- What is done, and when. Without a body the record is printed. -/
structure Rule where
  trigger : Trigger
  body? : Option (List Statement)

/-- A part of a script with a name. -/
structure Routine where
  parameters : List String
  body : List Statement

structure Script where
  rules : List Rule := []
  routines : List (String × Routine) := []

/-- What is wrong with a script, and in which line. -/
structure Fault where
  line : Nat
  reason : String
  /-- Whether the script cannot be read at all. -/
  isFatal : Bool := false
  deriving Repr, DecidableEq

def Fault.message (fault : Fault) : String :=
  (if fault.isFatal then "" else "line ") ++ toString fault.line ++ ": " ++ fault.reason

/-- How texts of regular expressions are read. -/
def dialect : Regex.Dialect where
  isExtended := true
  leading := .refused
  allowsNoInterval := true
  allowsClosing := true
  escapesChars := true
  refusesEmpty := true

/-- What is said of an expression that cannot be read. -/
def refusalText (refusal : Regex.Refusal) (written : String) : String :=
  let reason := match refusal with
    | .openGroup | .large => "missing ')'"
    | .interval | .openInterval => "bad interval expression"
    | .openBracket | .bareBracket | .className | .range | .collation | .classSyntax =>
      "bad class -- [], [^] or ["
    | _ => "missing operand"
  "regular expression compile failed (" ++ reason ++ ")\n" ++ written

/-- The regular expression that a text is. -/
def expressionOf (written : List Char) : Except Regex.Refusal Regex.Expression :=
  if written.isEmpty then .ok { node := .empty } else Regex.Expression.ofText dialect written

/-! Texts and their parts: fields between separators, records before them, parts that are replaced.
-/

/-- What stands between the parts of a text. -/
inductive Separator where
  /-- Blanks, also before the first and behind the last part. -/
  | blanks
  /-- Nothing: each character is a part. -/
  | nothing
  | char (c : Char)
  | expression (expression : Regex.Expression)

namespace Separator

def ofText (written : List Char) : Except Regex.Refusal Separator :=
  match written with
  | [] => .ok .nothing
  | [' '] => .ok .blanks
  | [c] => .ok (.char c)
  | _ => (expressionOf written).map .expression

end Separator

/-- The parts of a text between characters of some kind. -/
def pieces (isMark : Char → Bool) : (found : List Char) → List Char → List (List Char)
  | found, [] => [found.reverse]
  | found, c :: rest =>
    if isMark c then found.reverse :: pieces isMark [] rest
    else pieces isMark (c :: found) rest

/-- The parts of a text from a place on, between what fits an expression. -/
def piecesBetween (expression : Regex.Expression) (cs : Array Char) : (fuel start : Nat) →
    List (List Char)
  | 0, start => [(cs.extract start cs.size).toList]
  | fuel + 1, start =>
    let rest := (cs.extract start cs.size).toList
    match searchFilled? cs.size start with
    | some found =>
      (cs.extract start found.start).toList :: piecesBetween expression cs fuel found.stop
    | none => [rest]
where
  /-- The first match that is not empty. -/
  searchFilled? : (places start : Nat) → Option Regex.Match
    | 0, _ => none
    | places + 1, start =>
      match expression.search? cs start with
      | none => none
      | some found =>
        if found.start = found.stop then searchFilled? places (found.start + 1) else some found

def partsOf (separator : Separator) (cs : List Char) : List (List Char) :=
  if cs.isEmpty then []
  else match separator with
    | .blanks => (pieces isBlank [] cs).filter (!·.isEmpty)
    | .nothing => cs.map fun c => [c]
    | .char c => pieces (· = c) [] cs
    | .expression expression => piecesBetween expression cs.toArray (cs.length + 1) 0

/-- The paragraph at the start of a text, which lines without anything end, and what follows it. -/
def paragraphAt : (found : List Char) → List Char → List Char × List Char
  | found, '\n' :: '\n' :: rest => (found.reverse, rest.dropWhile (· = '\n'))
  | found, ['\n'] => (found.reverse, [])
  | found, c :: rest => paragraphAt (c :: found) rest
  | found, [] => (found.reverse, [])

/-- The record at the start of a text and what follows it. `separator` is what ends it; without
anything records are paragraphs. -/
def recordAt? (separator : Separator) (cs : List Char) : Option (List Char × List Char) :=
  match separator with
  | .nothing =>
    match cs.dropWhile (· = '\n') with
    | [] => none
    | rest => some (paragraphAt [] rest)
  | .blanks => ended (· = ' ')
  | .char c => ended (· = c)
  | .expression expression =>
    if cs.isEmpty then none
    else
      let all := cs.toArray
      match expression.search? all 0 with
      | some found =>
        if found.start < found.stop then
          some (cs.take found.start, cs.drop found.stop)
        else some (cs, [])
      | none => some (cs, [])
where
  ended (isMark : Char → Bool) : Option (List Char × List Char) :=
    if cs.isEmpty then none
    else
      let record := cs.takeWhile fun c => !isMark c
      some (record, cs.drop (record.length + 1))

/-- What a match is replaced by: `&` stands for the match, and a backslash before it takes that
away. Of backslashes before that sign, each two are one. `slashes` counts those that have come
up. -/
def replacementFrom (found : List Char) : (slashes : Nat) → List Char → List Char
  | slashes, '\\' :: rest => replacementFrom found (slashes + 1) rest
  | slashes, '&' :: rest =>
    List.replicate (slashes / 2) '\\' ++ (if slashes % 2 = 1 then ['&'] else found) ++
      replacementFrom found 0 rest
  | slashes, c :: rest => List.replicate slashes '\\' ++ c :: replacementFrom found 0 rest
  | slashes, [] => List.replicate slashes '\\'

def replacement (found by_ : List Char) : List Char :=
  replacementFrom found 0 by_

/-- A text from a place on in which what fits is replaced, and how often. `mayBeEmpty` tells whether
nothing may be replaced at the place. -/
def replacedAll (expression : Regex.Expression) (cs : Array Char) (by_ : List Char) :
    (fuel start : Nat) → (mayBeEmpty : Bool) → List Char × Nat
  | 0, start, _ => ((cs.extract start cs.size).toList, 0)
  | fuel + 1, start, mayBeEmpty =>
    match expression.search? cs start with
    | none => ((cs.extract start cs.size).toList, 0)
    | some found =>
      let before := (cs.extract start found.start).toList
      if found.start = found.stop then
        let isHere := mayBeEmpty || start < found.start
        let new := if isHere then replacement [] by_ else []
        let next := (cs.extract found.start (found.start + 1)).toList
        if cs.size ≤ found.start then (before ++ new, if isHere then 1 else 0)
        else
          let (rest, count) := replacedAll expression cs by_ fuel (found.start + 1) true
          (before ++ new ++ next ++ rest, count + if isHere then 1 else 0)
      else
        let new := replacement (cs.extract found.start found.stop).toList by_
        if cs.size ≤ found.stop then
          (before ++ new, 1)
        else
          let (rest, count) := replacedAll expression cs by_ fuel found.stop false
          (before ++ new ++ rest, count + 1)

/-- A text in which what fits is replaced, everywhere or once, and how often. -/
def replaced (expression : Regex.Expression) (isGlobal : Bool) (by_ cs : List Char) :
    List Char × Nat :=
  let all := cs.toArray
  if isGlobal then replacedAll expression all by_ (all.size + 2) 0 true
  else match expression.search? all 0 with
    | none => (cs, 0)
    | some found =>
      let new := replacement (all.extract found.start found.stop).toList by_
      (cs.take found.start ++ new ++ cs.drop found.stop, 1)

/-- The part of a text from a place on, of a length if one is given. Places before the first one
count as the first one, and as more characters. -/
def partOf (cs : List Char) (start : Int) (length? : Option Int) : List Char :=
  let shift := if start < 1 then start else 0
  let rest := cs.drop (max start 1 - 1).toNat
  match length? with
  | none => rest
  | some length => rest.take (length - shift).toNat

/-- Where a text is in another one, counted from one, or zero. -/
def placeOf (mark cs : List Char) : Nat :=
  match (List.range (cs.length + 1)).find? fun n => mark.isPrefixOf (cs.drop n) with
  | some n => n + 1
  | none => 0

end MutationTesting.Shell.Utility.Awk
