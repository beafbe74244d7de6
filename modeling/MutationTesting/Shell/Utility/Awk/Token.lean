import MutationTesting.Shell.Utility.Awk.Script
/-! The tokens of a script. A slash starts an expression where a value may start; behind a word that
prints, a sign for more is one for a file; ends of lines are left out where they mean nothing. -/
namespace MutationTesting.Shell.Utility.Awk

inductive Token where
  | number (x : Float)
  | text (written : String)
  | pattern (written : List Char)
  | name (name : String)
  /-- The name of a routine before its arguments. -/
  | call (name : String)
  | function (function : Function) (least most : Nat)
  | word (word : String)
  | sign (sign : String)
  /-- A sign for where something is written to. -/
  | outlet (outlet : Outlet)
  | newline
  | stop
  /-- Something that is wrong, behind which the script can still be read. -/
  | fault (reason : String)
  deriving Inhabited

structure Lexeme where
  token : Token
  shown : String := ""
  line : Nat
  /-- How many parentheses and braces are open behind it. -/
  parentheses : Nat
  braces : Nat
  deriving Inhabited

/-- How far a script has been read. -/
structure Lexing where
  line : Nat := 1
  parentheses : Nat := 0
  braces : Nat := 0
  /-- Whether what is printed has started, so that it may go to a file. -/
  prints : Bool := false
  /-- The names of routines that are known. -/
  routines : List String := []
  /-- The tokens so far, the last one first. -/
  found : List Lexeme := []

/-- The words that mean something by themselves. -/
def words : List String :=
  ["BEGIN", "END", "function", "if", "else", "while", "for", "do", "break", "continue", "next",
    "nextfile", "exit", "return", "delete", "in", "getline", "print", "printf"]

/-- Leaves out blanks, comments and joined lines, and with `breaks` the ends of lines. Yields how
many lines end in that. -/
def skipped (breaks : Bool) : (fuel : Nat) → List Char → Nat × List Char
  | 0, cs => (0, cs)
  | _, [] => (0, [])
  | fuel + 1, c :: rest =>
    let more (lines : Nat) (rest : List Char) : Nat × List Char :=
      let (others, rest) := skipped breaks fuel rest
      (lines + others, rest)
    match c, rest with
    | '\\', '\n' :: rest => more 1 rest
    | '\n', _ => if breaks then more 1 rest else (0, c :: rest)
    | '#', _ => more 0 (rest.dropWhile (· ≠ '\n'))
    | _, _ => if c = ' ' || c = '\t' || c = '\r' then more 0 rest else (0, c :: rest)

/-- The characters that a text stands for, with letters behind a backslash. -/
def unescaped : (fuel : Nat) → List Char → List Char
  | 0, cs => cs
  | _, [] => []
  | fuel + 1, '\\' :: c :: rest =>
    match c with
    | 'n' => '\n' :: unescaped fuel rest
    | 't' => '\t' :: unescaped fuel rest
    | 'r' => '\r' :: unescaped fuel rest
    | 'a' => '\x07' :: unescaped fuel rest
    | 'b' => '\x08' :: unescaped fuel rest
    | 'f' => '\x0c' :: unescaped fuel rest
    | 'v' => '\x0b' :: unescaped fuel rest
    | '\\' | '"' => c :: unescaped fuel rest
    | '\n' => unescaped fuel rest
    | 'x' =>
      let digits := (rest.take 2).takeWhile Pattern.isHexDigit
      if digits.isEmpty then '\\' :: 'x' :: unescaped fuel rest
      else
        let (value, _, _) := digitsIn 16 0 0 digits
        Char.ofNat (value % 256) :: unescaped fuel (rest.drop digits.length)
    | _ =>
      let digits := ((c :: rest).take 3).takeWhile fun d => '0' ≤ d && d ≤ '7'
      if digits.isEmpty then '\\' :: c :: unescaped fuel rest
      else
        let (value, _, _) := digitsIn 8 0 0 digits
        Char.ofNat (value % 256) :: unescaped fuel ((c :: rest).drop digits.length)
  | fuel + 1, c :: rest => c :: unescaped fuel rest

/-- The inner part of a text up to its mark, and what follows the mark, if it comes before the end
of the line. `found` lists the characters so far, the last one first. -/
def enclosed? : (found : List Char) → List Char → Option (List Char × List Char)
  | found, '\\' :: c :: rest => enclosed? (c :: '\\' :: found) rest
  | found, c :: rest =>
    if c = '"' then some (found.reverse, rest)
    else if c = '\n' then none
    else enclosed? (c :: found) rest
  | _, [] => none

/-- The inner part of an expression up to its slash, and what follows the slash, if it comes before
the end of the line. A slash in brackets is no end, nor is a bracket at their start. -/
def pattern? : (isInside mayClose : Bool) → (found : List Char) → List Char →
    Option (List Char × List Char)
  | isInside, _, found, '\\' :: c :: rest =>
    if c = '/' then pattern? isInside true ('/' :: found) rest
    else pattern? isInside true (c :: '\\' :: found) rest
  | false, _, found, '[' :: '^' :: rest => pattern? true false ('^' :: '[' :: found) rest
  | false, _, found, '[' :: rest => pattern? true false ('[' :: found) rest
  | isInside, mayClose, found, c :: rest =>
    if c = '\n' then none
    else if !isInside && c = '/' then some (found.reverse, rest)
    else pattern? (isInside && !(mayClose && c = ']')) true (c :: found) rest
  | _, _, _, [] => none

def signs : List String :=
  ["&&", "||", "==", "<=", ">=", "!=", "!~", "++", "--", "+=", "-=", "*=", "/=", "%=", "^=", "=",
    "<", ">", "!", "~", "+", "-", "*", "/", "%", "^", "?", ":", ",", ";", "$", "(", ")", "[", "]",
    "\x7b", "\x7d", "|"]

namespace Lexing

def add (state : Lexing) (token : Token) (shown : String) : Lexing :=
  { state with
    found := { token, shown, line := state.line, parentheses := state.parentheses,
               braces := state.braces } :: state.found }

/-- The state in a later line, and what is left. -/
def after (state : Lexing) (found : Nat × List Char) : Lexing × List Char :=
  ({ state with line := state.line + found.1 }, found.2)

/-- Leaves out the ends of lines, too. -/
def skipBreaks (state : Lexing) (cs : List Char) : Lexing × List Char :=
  state.after (skipped true (cs.length + 1) cs)

/-- Whether a slash is a sign for a quotient here. -/
def mayDivide (state : Lexing) : Bool :=
  match state.found.head?.map Lexeme.token with
  | some (.number _) | some (.text _) | some (.name _) | some (.pattern _) => true
  | some (.sign s) => [")", "]", "++", "--"].contains s
  | some (.word s) => s = "getline"
  | _ => false

def isBetween (state : Lexing) : Bool :=
  match state.found.head?.map Lexeme.token with
  | some .newline => true
  | some (.sign s) => [";", "\x7d"].contains s
  | _ => false

def takeSign (state : Lexing) (s : String) (rest : List Char) : Lexing × List Char :=
  let isOutside := state.prints && state.parentheses = 0
  match s with
  | "(" => ({ state with parentheses := state.parentheses + 1 }.add (.sign s) s, rest)
  | ")" =>
    if state.parentheses = 0 then (state.add (.fault "extra ')'") s, rest)
    else ({ state with parentheses := state.parentheses - 1 }.add (.sign s) s, rest)
  | "\x7b" => ({ state with braces := state.braces + 1 }.add (.sign s) s).skipBreaks rest
  | "\x7d" =>
    if state.braces = 0 then
      let (_, rest) := skipped false (rest.length + 1) rest
      (state.add (.fault "extra '\x7d'") s, if rest.head? = some ';' then rest.drop 1 else rest)
    else
      -- What comes before a closing brace is complete without a semicolon.
      let state := { state with prints := false }
      let state := if state.isBetween then state else state.add (.sign ";") s
      let state := { state with braces := state.braces - 1 }.add (.sign s) s
      let (state, rest) := state.after (skipped false (rest.length + 1) rest)
      let rest := if state.braces = 0 && rest.head? = some ';' then rest.drop 1 else rest
      state.skipBreaks rest
  | ";" => ({ state with prints := false }.add (.sign s) s).skipBreaks rest
  | "," | "&&" | "||" => (state.add (.sign s) s).skipBreaks rest
  | ">" =>
    if isOutside then
      match rest with
      | '>' :: rest => ({ state with prints := false }.add (.outlet .behind) ">>", rest)
      | _ => ({ state with prints := false }.add (.outlet .file) s, rest)
    else (state.add (.sign s) s, rest)
  | "|" =>
    if isOutside then ({ state with prints := false }.add (.outlet .command) s, rest)
    else (state.add (.sign s) s, rest)
  | _ => (state.add (.sign s) s, rest)

def takeName (state : Lexing) (name : String) (rest : List Char) : Lexing × List Char :=
  if words.contains name then
    let prints := state.prints || name = "print" || name = "printf"
    let state := { state with prints }.add (.word name) name
    if name = "else" || name = "do" then state.skipBreaks rest else (state, rest)
  else
    match Function.all.lookup name with
    | some (function, least, most) => (state.add (.function function least most) name, rest)
    | none =>
      let isNamed := match state.found.head?.map Lexeme.token with
        | some (.word s) => s = "function"
        | _ => false
      if isNamed || rest.head? = some '(' || state.routines.contains name then
        ({ state with routines := name :: state.routines }.add (.call name) name, rest)
      else (state.add (.name name) name, rest)

def step (state : Lexing) (c : Char) (rest : List Char) : Except Fault (Lexing × List Char) :=
  let cs := c :: rest
  if c = '\n' then
    let state := state.add .newline "end of line"
    .ok ({ state with line := state.line + 1, prints := false }.skipBreaks rest)
  else if c.isAlpha || c = '_' then
    let name := cs.takeWhile Regex.isWordChar
    .ok (state.takeName (String.ofList name) (cs.drop name.length))
  else if c.isDigit || (c = '.' && (rest.head?.any Char.isDigit)) then
    -- A number is decimal here, whatever letters follow its digits.
    let isPlain (c : Char) : Bool := c.isDigit || c = '.' || c = 'e' || c = 'E'
    let start := cs.takeWhile isPlain
    let size := match Real.at? .double cs, start.getLast? with
      | _, none => 1
      | some (_, after), _ =>
        if (cs.getD 1 ' ').toLower = 'x' then 1 else cs.length - after.length
      | none, _ => 1
    let written := cs.take size
    .ok (state.add (.number (numberIn written)) (String.ofList written), cs.drop size)
  else if c = '"' then
    match enclosed? [] rest with
    | some (inner, rest) =>
      let lines := (inner.filter (· = '\n')).length
      let state := state.add (.text (String.ofList (unescaped (inner.length + 1) inner)))
        ("\"" ++ String.ofList inner ++ "\"")
      .ok ({ state with line := state.line + lines }, rest)
    | none =>
      let shown := (cs.takeWhile (· ≠ '\n')).take 11
      .error ⟨state.line, "runaway string constant " ++ String.ofList shown ++ " ...", false⟩
  else if c = '/' && !state.mayDivide then
    match pattern? false true [] rest with
    | some (inner, rest) =>
      .ok (state.add (.pattern inner) ("/" ++ String.ofList inner ++ "/"), rest)
    | none =>
      let shown := (cs.takeWhile (· ≠ '\n')).take 11
      .error
        ⟨state.line, "runaway regular expression " ++ String.ofList shown ++ " ...", false⟩
  else
    match signs.find? fun s => s.toList.isPrefixOf cs with
    | some s => .ok (state.takeSign s (cs.drop s.length))
    | none =>
      let shown :=
        if 0x20 < c.toNat && c.toNat < 0x7F then "'" ++ String.singleton c ++ "'"
        else "0x" ++ String.ofList (Nat.toDigits 16 c.toNat)
      .error ⟨state.line, "unexpected character " ++ shown, true⟩

def run : (fuel : Nat) → Lexing → List Char → Except Fault Lexing
  | 0, state, _ => .ok state
  | fuel + 1, state, cs =>
    match state.after (skipped false (cs.length + 1) cs) with
    | (state, []) => .ok state
    | (state, c :: rest) => do
      let (state, rest) ← state.step c rest
      run fuel state rest

end Lexing

/-- The tokens of a script, the last one being its end. -/
def lexemes (text : String) : Except Fault (List Lexeme) := do
  let cs := text.toList ++ ['\n']
  let (start, cs) := ({} : Lexing).skipBreaks cs
  let state ← start.run (cs.length + 1) cs
  return (state.add .stop "end of file").found.reverse

end MutationTesting.Shell.Utility.Awk
