import MutationTesting.Shell.Variable
/-! The command of the shell that finds out whether a condition holds. -/
namespace MutationTesting.Shell

/-- The sort of an operator of conditions. -/
inductive OperatorKind where
  | unary
  | binary
  | negation
  | connective
  | parenthesis
  deriving Repr, DecidableEq

namespace Condition

def unaryOperators : List String :=
  ["-r", "-w", "-x", "-e", "-f", "-d", "-c", "-b", "-p", "-u", "-g", "-k", "-s", "-t", "-z", "-n",
    "-h", "-O", "-G", "-L", "-S"]

def binaryOperators : List String :=
  ["=", "!=", "<", ">", "-eq", "-ne", "-ge", "-gt", "-le", "-lt", "-nt", "-ot", "-ef"]

def kind? (word : String) : Option OperatorKind :=
  if unaryOperators.contains word then some .unary
  else if binaryOperators.contains word then some .binary
  else if word = "!" then some .negation
  else if word = "-a" ∨ word = "-o" then some .connective
  else if word = "(" ∨ word = ")" then some .parenthesis
  else none

/-- What is asked of files and numbers. -/
structure Questions where
  /-- Whether an operator before the name of a file or a descriptor holds. -/
  holds : String → String → Bool
  /-- Whether two names name the same file. -/
  isSame : String → String → Bool

/-- What is read next in a word: the operator that it is, an operand, or the end. -/
inductive Lexeme where
  | operator (word : String) (kind : OperatorKind)
  | operand
  | ended
  deriving Repr, DecidableEq

/-- The words of a condition and the number of the one that is looked at. -/
structure State where
  words : Array String
  place : Nat
  questions : Questions

abbrev Reading := StateT State (Except String)

/-- What a word is: an operator where operands could follow, or an operand. -/
def lexeme (words : Array String) (place : Nat) : Lexeme :=
  match words[place]? with
  | none => .ended
  | some word =>
    match kind? word with
    | none => .operand
    | some kind =>
      let isOperand : Bool := match kind with
        | .unary =>
          match words[place + 1]?, words[place + 2]? with
          | none, _ => true
          | some _, none => false
          | some next, some _ => kind? next = some .binary
        | .parenthesis => word = "(" && words[place + 1]?.isNone
        | _ => false
      if isOperand then .operand else .operator word kind

/-- Goes on by some words and yields what is there. -/
def advance (count : Nat) : Reading Lexeme := do
  let state ← get
  set { state with place := state.place + count }
  return lexeme state.words (state.place + count)

def ahead (count : Nat) : Reading Lexeme := do
  let state ← get
  return lexeme state.words (state.place + count)

def word : Reading String := do
  let state ← get
  return state.words[state.place]?.getD ""

def numberOf (word : String) : Reading Int :=
  match integerIn? 10 word with
  | some value => return value
  | none => throw ("Illegal number: " ++ word)

def compare (operator first second : String) : Reading Bool := do
  let numbers (holds : Int → Int → Bool) : Reading Bool := do
    let a ← numberOf first
    return holds a (← numberOf second)
  match operator with
  | "=" => return first = second
  | "!=" => return first ≠ second
  | "<" => return first < second
  | ">" => return second < first
  | "-eq" => numbers fun a b => a = b
  | "-ne" => numbers fun a b => a ≠ b
  | "-ge" => numbers fun a b => a ≥ b
  | "-gt" => numbers fun a b => a > b
  | "-le" => numbers fun a b => a ≤ b
  | "-lt" => numbers fun a b => a < b
  | "-ef" => return (← get).questions.isSame first second
  | _ => return false

mutual

/-- Conditions of which one has to hold. -/
def disjunction (fuel : Nat) (next : Lexeme) (found : Bool) : Reading Bool := do
  match fuel with
  | 0 => return found
  | fuel + 1 =>
    let found := (← conjunction fuel next true) || found
    if (← ahead 1) = .operator "-o" .connective then
      disjunction fuel (← advance 2) found
    else return found

def conjunction (fuel : Nat) (next : Lexeme) (found : Bool) : Reading Bool := do
  match fuel with
  | 0 => return found
  | fuel + 1 =>
    let found := (← negation fuel next) && found
    if (← ahead 1) = .operator "-a" .connective then
      conjunction fuel (← advance 2) found
    else return found

/-- A condition that perhaps must not hold. -/
def negation (fuel : Nat) (next : Lexeme) : Reading Bool := do
  match fuel with
  | 0 => return false
  | fuel + 1 =>
    match next with
    | .operator _ .negation =>
      let following ← ahead 1
      if following ≠ .ended then let _ ← advance 1
      return !(← negation fuel following)
    | _ => primary fuel next

def primary (fuel : Nat) (next : Lexeme) : Reading Bool := do
  match fuel with
  | 0 => return false
  | fuel + 1 =>
    match next with
    | .ended => return false
    | .operator "(" _ =>
      let inner ← advance 1
      if inner = .operator ")" .parenthesis then return false
      let found ← disjunction fuel inner false
      if (← advance 1) ≠ .operator ")" .parenthesis then throw "closing paren expected"
      return found
    | .operator operator .unary =>
      if (← advance 1) = .ended then throw (operator ++ ": argument expected")
      let operand ← word
      match operator with
      | "-z" => return operand = ""
      | "-n" => return operand ≠ ""
      | "-t" =>
        let _ ← numberOf operand
        return false
      | _ => return (← get).questions.holds operator operand
    | _ =>
      match ← ahead 1 with
      | .operator operator .binary =>
        let first ← word
        if (← advance 2) = .ended then throw (operator ++ ": argument expected")
        compare operator first (← word)
      | _ => return (← word) ≠ ""

end

/-- Whether words are a condition that holds. -/
def evaluate (questions : Questions) : (fuel : Nat) → (isNegated : Bool) → List String →
    Except String Bool
  | 0, isNegated, _ => .ok isNegated
  | _, isNegated, [] => .ok isNegated
  | fuel + 1, isNegated, words => do
    let run (words : List String) (first? : Option Lexeme) : Except String Bool := do
      let state : State := ⟨words.toArray, 0, questions⟩
      let first := first?.getD (lexeme state.words 0)
      let (holds, state) ← disjunction (4 * words.length + 8) first false state
      match state.words[state.place]?, state.words[state.place + 1]? with
      | some last, some _ =>
        throw (if last = "" then "unexpected operator" else last ++ ": unexpected operator")
      | _, _ => return holds != isNegated
    let isBetween : Bool := match words with
      | [_, operator, _] => kind? operator = some .binary
      | _ => false
    if isBetween then run words (some .operand)
    else
      let few : Bool := words.length = 3 || words.length = 4
      if few && words.head? = some "(" && words.getLast? = some ")" then
        run (words.drop 1).dropLast none
      else if few && words.head? = some "!" then
        evaluate questions fuel (!isNegated) (words.drop 1)
      else run words none

end Condition

namespace Sh

/-- What can be asked of the files that there are. -/
def questions : Sh Condition.Questions := do
  let workspace ← workspace
  let address? (path : String) : Option (List String) :=
    match workspace.find (pathOf path), workspace.address (pathOf path) with
    | .ok _, .ok address => some address
    | _, _ => none
  let isDevice (address : List String) : Bool := (deviceOf? address).isSome
  return {
    holds := fun operator path =>
      match address? path with
      | none => false
      | some address =>
        let entry := (workspace.at? address).getD default
        match operator with
        | "-f" => entry.isFile && !isDevice address
        | "-d" => entry.isDirectory
        | "-c" => entry.isFile && isDevice address
        | "-s" => entry.isDirectory || (entry.content?.getD .empty).size ≠ 0
        | "-x" => entry.isDirectory || workspace.mode address &&& 0o111 ≠ 0
        | "-e" | "-r" | "-w" | "-O" | "-G" => true
        | "-u" => workspace.mode address &&& 0o4000 ≠ 0
        | "-g" => workspace.mode address &&& 0o2000 ≠ 0
        | "-k" => workspace.mode address &&& 0o1000 ≠ 0
        | _ => false
    isSame := fun first second =>
      match address? first, address? second with
      | some a, some b => a = b
      | _, _ => false }

def condition (name : String) (arguments : List String) : Sh Nat := do
  let arguments ←
    if name = "[" then
      if arguments.getLast? ≠ some "]" then refuse "missing ]"
      pure arguments.dropLast
    else pure arguments
  match Condition.evaluate (← questions) (arguments.length + 1) false arguments with
  | .ok holds => return if holds then 0 else 1
  | .error message => refuse message

end Sh

end MutationTesting.Shell
