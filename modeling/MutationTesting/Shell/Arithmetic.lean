import MutationTesting.Shell.Number
import MutationTesting.Shell.Script
/-! Arithmetic expressions. They are evaluated while they are read; a part that does not count is
read without being evaluated. -/
namespace MutationTesting.Shell.Arithmetic

inductive Operation where
  | multiply | divide | remainder | add | subtract | shiftLeft | shiftRight
  | less | lessEqual | greater | greaterEqual | equal | notEqual | and | xor | or
  deriving Repr, DecidableEq

inductive Sign where
  | number (value : Int)
  | name (text : String)
  | operation (operation : Operation)
  /-- An assignment, perhaps after an operation. -/
  | assign (operation? : Option Operation)
  | both
  | either
  | not
  | complement
  | question
  | colon
  | openParenthesis
  | closeParenthesis
  | ended
  | unknown
  deriving Repr, DecidableEq

/-- How tightly an operation binds; a smaller number binds more tightly. -/
def Operation.level : Operation → Nat
  | multiply | divide | remainder => 0
  | add | subtract => 1
  | shiftLeft | shiftRight => 2
  | less | lessEqual | greater | greaterEqual => 3
  | equal | notEqual => 4
  | and => 5
  | xor => 6
  | or => 7

def loosest : Nat := 8

/-- The bits of a number as a natural one. -/
def bits (n : Int) : Nat :=
  (n % Nat.pow 2 64).toNat

def ofBits (n : Nat) : Int :=
  wrapped n

inductive Fault where
  | wrong (reason : String)
  | notANumber (text : String)
  /-- A quotient is larger than any number. -/
  | overflow
  deriving Repr, DecidableEq

/-- One for what holds, and zero for what does not. -/
def truth (holds : Bool) : Int :=
  if holds then 1 else 0

def Operation.apply (operation : Operation) (a b : Int) : Except Fault Int :=
  match operation with
  | multiply => .ok (wrapped (a * b))
  | divide =>
    if b = 0 then .error (.wrong "division by zero")
    else if a = smallest ∧ b = -1 then .error .overflow
    else .ok (a.tdiv b)
  | remainder =>
    if b = 0 then .error (.wrong "division by zero")
    else if a = smallest ∧ b = -1 then .error .overflow
    else .ok (a.tmod b)
  | add => .ok (wrapped (a + b))
  | subtract => .ok (wrapped (a - b))
  | shiftLeft => .ok (ofBits (bits a <<< (bits b % 64) % Nat.pow 2 64))
  | shiftRight => .ok (a >>> (bits b % 64))
  | less => .ok (truth (a < b))
  | lessEqual => .ok (truth (a ≤ b))
  | greater => .ok (truth (a > b))
  | greaterEqual => .ok (truth (a ≥ b))
  | equal => .ok (truth (a = b))
  | notEqual => .ok (truth (a ≠ b))
  | and => .ok (ofBits (bits a &&& bits b))
  | xor => .ok (ofBits (bits a ^^^ bits b))
  | or => .ok (ofBits (bits a ||| bits b))

/-- The signs of more than one character and of one; a longer one comes before its start. -/
def signs : List (String × Sign) :=
  [("<<=", .assign (some .shiftLeft)), (">>=", .assign (some .shiftRight)),
    ("<<", .operation .shiftLeft), (">>", .operation .shiftRight),
    ("<=", .operation .lessEqual), (">=", .operation .greaterEqual),
    ("==", .operation .equal), ("!=", .operation .notEqual), ("||", .either), ("&&", .both),
    ("|=", .assign (some .or)), ("&=", .assign (some .and)), ("^=", .assign (some .xor)),
    ("*=", .assign (some .multiply)), ("/=", .assign (some .divide)),
    ("%=", .assign (some .remainder)), ("+=", .assign (some .add)),
    ("-=", .assign (some .subtract)), ("<", .operation .less), (">", .operation .greater),
    ("|", .operation .or), ("&", .operation .and), ("^", .operation .xor),
    ("*", .operation .multiply), ("/", .operation .divide), ("%", .operation .remainder),
    ("+", .operation .add), ("-", .operation .subtract), ("=", .assign none), ("!", .not),
    ("~", .complement), ("?", .question), (":", .colon), ("(", .openParenthesis),
    (")", .closeParenthesis)]

/-- The signs of a text. Nothing is read behind one that is not known. -/
def signsOf : (fuel : Nat) → List Char → List Sign
  | 0, _ => []
  | fuel + 1, cs =>
    match cs with
    | [] => []
    | c :: rest =>
      if isSpacing c then signsOf fuel rest
      else if c.isDigit then
        match magnitudeAt? 0 cs with
        | some (value, rest) => .number (saturated value) :: signsOf fuel rest
        | none => [.unknown]
      else if isNameStart c then
        .name (String.ofList (cs.takeWhile isNamePart)) :: signsOf fuel (cs.dropWhile isNamePart)
      else
        match signs.find? fun (text, _) => text.toList.isPrefixOf cs with
        | some (text, sign) => sign :: signsOf fuel (cs.drop text.length)
        | none => [.unknown]
where
  isSpacing (c : Char) : Bool := c = ' ' || c = '\t' || c = '\n'

/-- The state of an evaluation: the signs that are left, the last one that has been looked at, and
what has been assigned, the latest first. -/
structure State where
  left : List Sign
  last : Sign := .ended
  assigned : List (String × Int) := []
  lookup : String → String

abbrev Evaluation := StateT State (Except Fault)

def next : Evaluation Sign := fun state =>
  match state.left with
  | sign :: left => .ok (sign, { state with left })
  | [] => .ok (.ended, state)

def note (sign : Sign) : Evaluation Unit :=
  modify fun state => { state with last := sign }

def wrong (reason : String) : Evaluation α :=
  throw (.wrong reason)

def valueOf (name : String) : Evaluation Int := do
  let state ← get
  match state.assigned.lookup name with
  | some value => return value
  | none =>
    let text := state.lookup name
    match integerIn? 0 text with
    | some value => return value
    | none => throw (.notANumber text)

mutual

/-- Evaluates what starts with `sign`, behind which `following` has been taken. Notes the sign
behind it. `counts` is false in a part that does not count. -/
def primary (fuel : Nat) (sign following : Sign) (counts : Bool) : Evaluation Int := do
  match fuel with
  | 0 => wrong "expecting primary"
  | fuel + 1 =>
    match sign with
    | .openParenthesis =>
      let value ← assignment fuel following counts
      if (← get).last ≠ .closeParenthesis then wrong "expecting ')'"
      note (← next)
      return value
    | .number value =>
      note following
      return value
    | .name text =>
      note following
      if counts then valueOf text else return 0
    | .operation .add => do primary fuel following (← next) counts
    | .operation .subtract => return wrapped (-(← primary fuel following (← next) counts))
    | .not => return truth ((← primary fuel following (← next) counts) = 0)
    | .complement => return -(← primary fuel following (← next) counts) - 1
    | _ => wrong "expecting primary"

/-- Evaluates on behind a first number and an operation, as long as operations bind more tightly
than `level`. -/
def operations (fuel : Nat) (a : Int) (operation : Operation) (level : Nat) (counts : Bool) :
    Evaluation Int := do
  match fuel with
  | 0 => wrong "expecting primary"
  | fuel + 1 =>
    let sign ← next
    let b ← primary fuel sign (← next) counts
    let b ← match (← get).last with
      | .operation other =>
        if other.level < operation.level then operations fuel b other operation.level counts
        else pure b
      | _ => pure b
    let value ← if counts then liftExcept (operation.apply a b) else pure b
    match (← get).last with
    | .operation other =>
      if other.level < level then operations fuel value other level counts else return value
    | _ => return value

def binary (fuel : Nat) (sign following : Sign) (counts : Bool) : Evaluation Int := do
  match fuel with
  | 0 => wrong "expecting primary"
  | fuel + 1 =>
    let value ← primary fuel sign following counts
    match (← get).last with
    | .operation operation => operations fuel value operation loosest counts
    | _ => return value

def conjunction (fuel : Nat) (sign following : Sign) (counts : Bool) : Evaluation Int := do
  match fuel with
  | 0 => wrong "expecting primary"
  | fuel + 1 =>
    let a ← binary fuel sign following counts
    if (← get).last ≠ .both then return a
    let sign ← next
    let b ← conjunction fuel sign (← next) (counts && a ≠ 0)
    return truth (a ≠ 0 && b ≠ 0)

def disjunction (fuel : Nat) (sign following : Sign) (counts : Bool) : Evaluation Int := do
  match fuel with
  | 0 => wrong "expecting primary"
  | fuel + 1 =>
    let a ← conjunction fuel sign following counts
    if (← get).last ≠ .either then return a
    let sign ← next
    let b ← disjunction fuel sign (← next) (counts && a = 0)
    return truth (a ≠ 0 || b ≠ 0)

def conditional (fuel : Nat) (sign following : Sign) (counts : Bool) : Evaluation Int := do
  match fuel with
  | 0 => wrong "expecting primary"
  | fuel + 1 =>
    let a ← disjunction fuel sign following counts
    if (← get).last ≠ .question then return a
    let b ← assignment fuel (← next) (counts && a ≠ 0)
    if (← get).last ≠ .colon then wrong "expecting ':'"
    let sign ← next
    let c ← conditional fuel sign (← next) (counts && a = 0)
    return if a ≠ 0 then b else c

def assignment (fuel : Nat) (sign : Sign) (counts : Bool) : Evaluation Int := do
  match fuel with
  | 0 => wrong "expecting primary"
  | fuel + 1 =>
    let following ← next
    match sign, following with
    | .name text, .assign operation? =>
      let value ← assignment fuel (← next) counts
      if !counts then return value
      let value ← match operation? with
        | some operation => do liftExcept (operation.apply (← valueOf text) value)
        | none => pure value
      modify fun state => { state with assigned := (text, value) :: state.assigned }
      return value
    | _, _ => conditional fuel sign following counts

end

/-- The value of an expression and what it assigns, the latest first. `lookup` gives the values of
variables. -/
def evaluate (lookup : String → String) (text : String) :
    Except Fault (Int × List (String × Int)) := do
  let cs := text.toList
  let signs := signsOf (cs.length + 1) cs
  let evaluation : Evaluation Int := do
    let value ← assignment (8 * signs.length + 16) (← next) true
    if (← get).last ≠ .ended then wrong "expecting EOF"
    return value
  let (value, state) ← evaluation { left := signs, lookup }
  return (value, state.assigned)

end MutationTesting.Shell.Arithmetic
