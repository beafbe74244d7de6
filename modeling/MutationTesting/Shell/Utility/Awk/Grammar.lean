import MutationTesting.Shell.Utility.Awk.Token
/-! The grammar of a script: terms by how strongly their signs bind, statements, and rules. -/
namespace MutationTesting.Shell.Utility.Awk

/-- How far the tokens of a script have been read, and what is known of names. -/
structure Reading where
  rest : List Lexeme
  /-- What is wrong so far, the last one first. -/
  faults : List Fault := []
  /-- Whether a name stands for a table. -/
  kinds : List (String × Bool) := []
  /-- The parameters of the routine that is being read. -/
  parameters? : Option (List String) := none
  loops : Nat := 0
  /-- Whether there is a record to go on from. -/
  hasRecord : Bool := false
  ranges : Nat := 0
  /-- The routines that are called, with the number of arguments and the line. -/
  calls : List (String × Nat × Nat) := []
  script : Script := {}

/-- What reads a part of a script. -/
abbrev Reader := StateT Reading (Except (List Fault))

namespace Reader

def passFaults (state : Reading) : List Lexeme → Reading
  | [] => { state with rest := [] }
  | lexeme :: rest =>
    match lexeme.token with
    | .fault reason =>
      passFaults { state with faults := ⟨lexeme.line, reason, false⟩ :: state.faults } rest
    | _ => { state with rest := lexeme :: rest }

def peek : Reader Lexeme := do
  let state ← get
  let state := passFaults state state.rest
  set state
  return state.rest.headD { token := .stop, line := 0, parentheses := 0, braces := 0 }

def skip : Reader Unit :=
  modify fun state => { state with rest := state.rest.drop 1 }

/-- Ends reading since something is wrong. -/
def refuse (reason : String) : Reader α := do
  let line := (← peek).line
  throw (⟨line, reason, false⟩ :: (← get).faults).reverse

/-- Ends reading since the next token does not belong here. -/
def refuseToken : Reader α := do
  let lexeme ← peek
  let rest := (← get).rest
  let last := rest.getLastD lexeme
  let missing : Fault := ⟨last.line, "missing \x7d near end of file", false⟩
  match lexeme.token with
  | .stop =>
    if 0 < lexeme.braces then throw (missing :: (← get).faults).reverse
    else refuse "syntax error at or near end of file"
  | _ =>
    let isEnd := match lexeme.token with
      | .newline => true
      | .sign s => s = ";" || s = "\x7d"
      | _ => false
    let reason := if isEnd && 0 < lexeme.parentheses then "missing ) near " ++ lexeme.shown
      else "syntax error at or near " ++ lexeme.shown
    let here : Fault := ⟨lexeme.line, reason, false⟩
    let later := rest.filterMap fun other =>
      match other.token with
      | .fault reason => some (⟨other.line, reason, false⟩ : Fault)
      | _ => none
    let faults := later.reverse ++ here :: (← get).faults
    throw (if 0 < last.braces then missing :: faults else faults).reverse

def isSign (s : String) : Reader Bool := do
  match (← peek).token with
  | .sign other => return s = other
  | _ => return false

/-- Goes past a sign if it comes next. -/
def takeSign (s : String) : Reader Bool := do
  let isNext ← isSign s
  if isNext then skip
  return isNext

/-- Goes past a sign, which has to come next. -/
def need (s : String) : Reader Unit := do
  unless ← takeSign s do refuseToken

/-- Goes past a word if it comes next. -/
def takeWord (word : String) : Reader Bool := do
  match (← peek).token with
  | .word other =>
    if word = other then skip
    return word = other
  | _ => return false

def skipLines : (fuel : Nat) → Reader Unit
  | 0 => return
  | fuel + 1 => do
    if (← peek).token matches .newline then
      skip
      skipLines fuel

/-- Goes past the end of a statement if it comes next. -/
def takeEnd : Reader Bool := do
  match (← peek).token with
  | .newline | .sign ";" =>
    skip
    return true
  | _ => return false

def isEnd : Reader Bool := do
  match (← peek).token with
  | .newline | .sign ";" | .outlet _ => return true
  | _ => return false

/-- Notes that a name stands for a table or for something else. -/
def note (name : String) (isTable : Bool) : Reader Unit := do
  let state ← get
  if (state.parameters?.getD []).contains name then return
  match state.kinds.lookup name with
  | some known =>
    if known ≠ isTable then
      refuse ("illegal reference to " ++ (if known then "array " else "variable ") ++ name)
  | none => set { state with kinds := (name, isTable) :: state.kinds }

def name : Reader String := do
  match (← peek).token with
  | .name name =>
    skip
    return name
  | _ => refuseToken

/-- The name of a table, which comes next. -/
def table : Reader String := do
  let name ← name
  note name true
  return name

/-- The operation that a sign stands for at a level of terms. -/
def operation? (level : Nat) (s : String) : Option Operation :=
  match level with
  | 5 => [("<", .less), ("<=", .atMost), ("==", .same), ("!=", .other), (">=", .atLeast),
      (">", .greater)].lookup s
  | 7 => [("+", .plus), ("-", .minus)].lookup s
  | 8 => [("*", .times), ("/", .over), ("%", .modulo)].lookup s
  | _ => none

/-- What a sign does with a place before it takes a value. -/
def assignment? (s : String) : Option (Option Operation) :=
  [("=", none), ("+=", some .plus), ("-=", some .minus), ("*=", some .times), ("/=", some .over),
    ("%=", some .modulo), ("^=", some .power)].lookup s

def startsTerm : Token → Bool
  | .number _ | .text _ | .pattern _ | .name _ | .call _ | .function _ _ _ => true
  | .word s => s = "getline"
  | .sign s => ["$", "!", "(", "++", "--"].contains s
  | _ => false

def expression (written : List Char) : Reader Regex.Expression := do
  match expressionOf written with
  | .ok expression => return expression
  | .error refusal => refuse (refusalText refusal (String.ofList written))

mutual

/-- A term at a level: 0 for a choice, then either, both, a key, what fits, comparisons, texts in a
row, sums and products at 8. -/
def term : (fuel : Nat) → (level : Nat) → Reader Term
  | 0, _ => refuse "too deep"
  | fuel + 1, 0 => do
    let condition ← term fuel 1
    if ← takeSign "?" then
      let first ← term fuel 0
      need ":"
      return .choice condition first (← term fuel 0)
    return condition
  | fuel + 1, level => do
    if 8 < level then unary fuel
    else
      let first ← term fuel (level + 1)
      if level = 6 && first.isPlace then
        if let .sign s := (← peek).token then
          if let some operation? := assignment? s then
            skip
            return .assigned operation? first (← term fuel 0)
      further fuel level first

def further : (fuel : Nat) → (level : Nat) → Term → Reader Term
  | 0, _, _ => refuse "too deep"
  | fuel + 1, level, first => do
    let token := (← peek).token
    match level, token with
    | 1, .sign "||" =>
      skip
      further fuel level (.either first (← term fuel 2))
    | 2, .sign "&&" =>
      skip
      further fuel level (.both first (← term fuel 3))
    | 3, .word "in" =>
      skip
      further fuel level (.holds [first] (← table))
    | 4, .sign "~" =>
      skip
      further fuel level (.fits false first (← term fuel 5))
    | 4, .sign "!~" =>
      skip
      further fuel level (.fits true first (← term fuel 5))
    | 6, token =>
      if startsTerm token then further fuel level (.binary .join first (← term fuel 7))
      else return first
    | _, .sign s =>
      match operation? level s with
      | some operation =>
        skip
        further fuel level (.binary operation first (← term fuel (level + 1)))
      | none => return first
    | _, _ => return first

def unary : (fuel : Nat) → Reader Term
  | 0 => refuse "too deep"
  | fuel + 1 => do
    if ← takeSign "!" then return .negated (← unary fuel)
    if ← takeSign "-" then return .signed true (← unary fuel)
    if ← takeSign "+" then return .signed false (← unary fuel)
    piped fuel (← power fuel)

def piped : (fuel : Nat) → Term → Reader Term
  | 0, _ => refuse "too deep"
  | fuel + 1, command => do
    if ← takeSign "|" then
      unless ← takeWord "getline" do refuseToken
      piped fuel (.read (some (true, command)) (← place? fuel))
    else return command

/-- A power, the exponent of which may be another one. -/
def power : (fuel : Nat) → Reader Term
  | 0 => refuse "too deep"
  | fuel + 1 => do
    let base ← stepped fuel
    if ← takeSign "^" then
      let token := (← peek).token
      let hasSign := match token with
        | .sign s => ["-", "+", "!"].contains s
        | _ => false
      return .binary .power base (← if hasSign then unary fuel else power fuel)
    return base

/-- A term with signs that make the number at a place larger or smaller. -/
def stepped : (fuel : Nat) → Reader Term
  | 0 => refuse "too deep"
  | fuel + 1 => do
    let (isUp, isDown) := (← takeSign "++", ← takeSign "--")
    if isUp || isDown then
      let place ← single fuel
      unless place.isPlace do refuseToken
      return .stepped isUp true place
    let term ← single fuel
    if !term.isPlace then return term
    if ← takeSign "++" then return .stepped true false term
    if ← takeSign "--" then return .stepped false false term
    return term

/-- The place that a record is read into, if there is one. -/
def place? : (fuel : Nat) → Reader (Option Term)
  | 0 => refuse "too deep"
  | fuel + 1 => do
    match (← peek).token with
    | .name _ | .sign "$" => return some (← single fuel)
    | _ => return none

def single : (fuel : Nat) → Reader Term
  | 0 => refuse "too deep"
  | fuel + 1 => do
    match (← peek).token with
    | .number x =>
      skip
      return .number x
    | .text s =>
      skip
      return .text s
    | .pattern written =>
      let expression ← expression written
      skip
      return .pattern expression
    | .sign "(" =>
      skip
      let items ← list fuel
      need ")"
      match items with
      | [item] =>
        -- A place in parentheses is a value.
        return if item.isPlace then .enclosed item else item
      | _ =>
        unless ← takeWord "in" do refuseToken
        return .holds items (← table)
    | .sign "$" =>
      skip
      match (← peek).token with
      | .sign s =>
        if ["++", "--"].contains s then return .field (← stepped fuel)
        if ["-", "+", "!"].contains s then return .field (← unary fuel)
        return .field (← single fuel)
      | _ => return .field (← single fuel)
    | .name name =>
      skip
      if ← takeSign "[" then
        note name true
        let keys ← list fuel
        need "]"
        return .element name keys
      note name false
      return .named name
    | .call name =>
      let line := (← peek).line
      skip
      need "("
      let arguments ← if ← isSign ")" then pure [] else callArguments fuel
      need ")"
      modify fun state => { state with calls := (name, arguments.length, line) :: state.calls }
      return .call name arguments
    | .function function least most =>
      let shown := (← peek).shown
      skip
      let isOpen ← takeSign "("
      if !isOpen then
        if function = .length then return .apply function []
        else refuseToken
      let arguments ← if ← isSign ")" then pure [] else functionArguments fuel function 0
      unless ← isSign ")" do refuseToken
      if arguments.length < least || most < arguments.length then
        refuse ("wrong number of arguments in call to " ++ shown)
      skip
      return .apply function arguments
    | .word "getline" =>
      skip
      let place? ← place? fuel
      if ← takeSign "<" then return .read (some (false, ← power fuel)) place?
      return .read none place?
    | _ => refuseToken

/-- The arguments of a routine. A name by itself may stand for anything. -/
def callArguments : (fuel : Nat) → Reader (List Term)
  | 0 => refuse "too deep"
  | fuel + 1 => do
    let state ← get
    let first ← match state.rest with
      | { token := .name name, .. } :: { token := .sign s, .. } :: _ =>
        if s = "," || s = ")" then
          skip
          pure (Term.named name)
        else term fuel 0
      | _ => term fuel 0
    if ← takeSign "," then return first :: (← callArguments fuel)
    return [first]

/-- The arguments of a function. The second one of `split` is a table, and that of `length` may be
one. -/
def functionArguments : (fuel : Nat) → Function → (index : Nat) → Reader (List Term)
  | 0, _, _ => refuse "too deep"
  | fuel + 1, function, index => do
    let state ← get
    let first ← match function, index, state.rest with
      | .split, 1, _ => pure (Term.named (← table))
      | .length, 0, { token := .name name, .. } :: { token := .sign ")", .. } :: _ =>
        skip
        pure (Term.named name)
      | _, _, _ => term fuel 0
    if function ≠ .length then
      if ← takeSign "," then return first :: (← functionArguments fuel function (index + 1))
    return [first]

def list : (fuel : Nat) → Reader (List Term)
  | 0 => refuse "too deep"
  | fuel + 1 => do
    let first ← term fuel 0
    if ← takeSign "," then return first :: (← list fuel)
    return [first]

end

/-- What is printed: terms between commas, with or without parentheses around them. -/
def items (fuel : Nat) : Reader (List Term) := do
  if ← isEnd then return []
  let before ← get
  if ← takeSign "(" then
    let found ← list fuel
    if ← takeSign ")" then
      if ← isEnd then return found
    set before
  list fuel

/-- Where something is written to, if that is said. -/
def target? (fuel : Nat) : Reader (Option (Outlet × Term)) := do
  match (← peek).token with
  | .outlet outlet =>
    skip
    return some (outlet, ← term fuel 0)
  | _ => return none

/-- A statement that has its end behind it. -/
def ended (statement : Statement) : Reader Statement := do
  unless ← takeEnd do refuseToken
  return statement

def term? (fuel : Nat) : Reader (Option Term) := do
  if ← isEnd then return none
  return some (← term fuel 0)

def simple (fuel : Nat) : Reader Statement := do
  match (← peek).token with
  | .word "print" =>
    skip
    let items ← items fuel
    return .print items (← target? fuel)
  | .word "printf" =>
    skip
    let items ← items fuel
    if items.isEmpty then refuse "no arguments in call to printf"
    return .layOut items (← target? fuel)
  | .word "delete" =>
    skip
    let table ← table
    if ← takeSign "[" then
      let keys ← list fuel
      need "]"
      return .delete table keys
    return .delete table []
  | _ => return .term (← term fuel 0)

def loopPart? (fuel : Nat) (mark : String) : Reader (Option Statement) := do
  if ← takeSign mark then return none
  let statement ← simple fuel
  need mark
  return some statement

mutual

def statement : (fuel : Nat) → Reader Statement
  | 0 => refuse "too deep"
  | fuel + 1 => do
    match (← peek).token with
    | .newline | .sign ";" =>
      skip
      return .block []
    | .sign "\x7b" =>
      skip
      return .block (← statements fuel)
    | .word "if" =>
      skip
      need "("
      let condition ← term fuel 0
      need ")"
      skipLines fuel
      let first ← statement fuel
      if ← takeWord "else" then return .branch condition first (some (← statement fuel))
      return .branch condition first none
    | .word "while" =>
      skip
      need "("
      let condition ← term fuel 0
      need ")"
      skipLines fuel
      return .while_ condition (← body fuel)
    | .word "do" =>
      skip
      let body ← body fuel
      unless ← takeWord "while" do refuseToken
      need "("
      let condition ← term fuel 0
      need ")"
      ended (.repeat_ body condition)
    | .word "for" =>
      skip
      need "("
      match (← get).rest with
      | { token := .name name, .. } :: { token := .word "in", .. } ::
          { token := .name key, .. } :: { token := .sign ")", .. } :: _ =>
        skip
        skip
        note name false
        let _ ← table
        need ")"
        skipLines fuel
        return .forKeys name key (← body fuel)
      | _ =>
        let start? ← loopPart? fuel ";"
        let condition? ← loopPart? fuel ";"
        let step? ← loopPart? fuel ")"
        skipLines fuel
        return .for_ start? condition? step? (← body fuel)
    | .word "break" =>
      skip
      if (← get).loops = 0 then refuse "break statement outside of loop"
      ended .leave
    | .word "continue" =>
      skip
      if (← get).loops = 0 then refuse "continue statement outside of loop"
      ended .again
    | .word "next" =>
      unless (← get).hasRecord do refuse "improper use of next"
      skip
      ended .next
    | .word "nextfile" =>
      unless (← get).hasRecord do refuse "improper use of nextfile"
      skip
      ended .nextFile
    | .word "exit" =>
      skip
      ended (.exit (← term? fuel))
    | .word "return" =>
      if (← get).parameters?.isNone then refuse "return outside function body"
      skip
      ended (.back (← term? fuel))
    | _ => ended (← simple fuel)

def body : (fuel : Nat) → Reader Statement
  | 0 => refuse "too deep"
  | fuel + 1 => do
    modify fun state => { state with loops := state.loops + 1 }
    let statement ← statement fuel
    modify fun state => { state with loops := state.loops - 1 }
    return statement

def statements : (fuel : Nat) → Reader (List Statement)
  | 0 => refuse "too deep"
  | fuel + 1 => do
    if ← takeSign "\x7d" then return []
    let first ← statement fuel
    return first :: (← statements fuel)

end

def braced (fuel : Nat) : Reader (List Statement) := do
  need "\x7b"
  statements fuel

/-- The parameters of a routine up to the closing parenthesis. -/
def parameters : (fuel : Nat) → Reader (List String)
  | 0 => refuse "too deep"
  | fuel + 1 => do
    if ← takeSign ")" then return []
    let first ← name
    if ← takeSign "," then
      let others ← parameters fuel
      if others.contains first then refuse (first ++ " is duplicated in argument list")
      return first :: others
    need ")"
    return [first]

def routine (fuel : Nat) : Reader Unit := do
  match (← peek).token with
  | .call name =>
    if ((← get).script.routines.lookup name).isSome then refuse ("redefinition of " ++ name)
    skip
    need "("
    let parameters ← parameters fuel
    if parameters.contains name then refuse "function parameter cannot be the function"
    skipLines fuel
    modify fun state => { state with parameters? := some parameters }
    let body ← braced fuel
    modify fun state =>
      { state with
        parameters? := none
        script := { state.script with
          routines := state.script.routines ++ [(name, ⟨parameters, body⟩)] } }
  | _ => refuseToken

def addRule (trigger : Trigger) (body? : Option (List Statement)) : Reader Unit :=
  modify fun state =>
    { state with
      hasRecord := false
      script := { state.script with rules := state.script.rules ++ [⟨trigger, body?⟩] } }

def part (fuel : Nat) : Reader Unit := do
  if ← takeWord "function" then routine fuel
  else if ← takeWord "BEGIN" then addRule .start (some (← braced fuel))
  else if ← takeWord "END" then addRule .finish (some (← braced fuel))
  else
    modify fun state => { state with hasRecord := true }
    if ← isSign "\x7b" then addRule .always (some (← braced fuel))
    else
      let first ← term fuel 0
      let trigger ←
        if ← takeSign "," then
          let last ← term fuel 0
          let number := (← get).ranges
          modify fun state => { state with ranges := number + 1 }
          pure (Trigger.between number first last)
        else pure (Trigger.when first)
      if ← isSign "\x7b" then addRule trigger (some (← braced fuel))
      else
        unless ← takeEnd do refuseToken
        addRule trigger none

def parts (depth : Nat) : (fuel : Nat) → Reader Unit
  | 0 => return
  | fuel + 1 => do
    match (← peek).token with
    | .stop => return
    | _ =>
      part depth
      parts depth fuel

end Reader

/-- The routines that are called without being there, the last ones first. -/
def missingRoutines (calls : List String) (script : Script) : List String :=
  (calls.filter fun name => (script.routines.lookup name).isNone).foldr
    (fun name found => if found.contains name then found else name :: found) []

def Script.ofText (text : String) : Except (List Fault) Script := do
  let found ← (lexemes text).mapError fun fault => [fault]
  let depth := 20 * found.length + 40
  let ((), state) ← (Reader.parts depth (found.length + 1)).run { rest := found }
  let line := (found.getLast?.map Lexeme.line).getD 1
  let missing := (missingRoutines (state.calls.map Prod.fst) state.script).map fun name =>
    (⟨line, "function " ++ name ++ " never defined", false⟩ : Fault)
  let wrong := state.calls.reverse.filterMap fun (name, count, line) =>
    match state.script.routines.lookup name with
    | some routine =>
      if routine.parameters.length < count then
        some (⟨line, "too many arguments in call to " ++ name, false⟩ : Fault)
      else none
    | none => none
  let faults := state.faults.reverse ++ wrong ++ missing
  if faults.isEmpty then return state.script else throw faults

end MutationTesting.Shell.Utility.Awk
