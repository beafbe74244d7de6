import MutationTesting.Shell.Script
/-! The tokens of a script, and what is wrong with one. -/
namespace MutationTesting.Shell

/-- The words that are tokens of their own where a command may start. -/
inductive Keyword where
  | not | case | do | done | elif | else | esac | fi | for | if | in | then | until | while
  | leftBrace | rightBrace
  deriving Repr, DecidableEq

namespace Keyword

def text : Keyword → String
  | not => "!"
  | case => "case"
  | «do» => "do"
  | done => "done"
  | elif => "elif"
  | «else» => "else"
  | esac => "esac"
  | fi => "fi"
  | «for» => "for"
  | «if» => "if"
  | «in» => "in"
  | «then» => "then"
  | «until» => "until"
  | «while» => "while"
  | leftBrace => "\x7b"
  | rightBrace => "\x7d"

def all : List Keyword :=
  [not, case, «do», done, elif, «else», esac, fi, «for», «if», «in», «then», «until», «while»,
    leftBrace, rightBrace]

def ofText? (text : String) : Option Keyword :=
  all.find? fun keyword => keyword.text = text

def endsList : Keyword → Bool
  | «do» | done | elif | «else» | esac | fi | «then» | rightBrace => true
  | _ => false

end Keyword

inductive Token where
  | endOfFile | newline | semicolon | background | both | either | pipe
  | leftParenthesis | rightParenthesis | endCase
  | redirection | word
  | keyword (keyword : Keyword)
  deriving Repr, DecidableEq

namespace Token

def name : Token → String
  | endOfFile => "end of file"
  | newline => "newline"
  | semicolon => "\";\""
  | background => "\"&\""
  | both => "\"&&\""
  | either => "\"||\""
  | pipe => "\"|\""
  | leftParenthesis => "\"(\""
  | rightParenthesis => "\")\""
  | endCase => "\";;\""
  | redirection => "redirection"
  | word => "word"
  | keyword k => "\"" ++ k.text ++ "\""

def endsList : Token → Bool
  | endOfFile | rightParenthesis | endCase => true
  | keyword k => k.endsList
  | _ => false

end Token

/-- What is wrong with a script, and the line on which it is. -/
structure SyntaxFault where
  line : Nat
  reason : String
  deriving Repr, DecidableEq

/-! The state in which a script is read: the characters that are left, the token that was read last,
and what is looked for in the next one. -/

/-- The text of an alias that is being read in the place of its name. -/
structure Inserted where
  name : String
  /-- What follows the name. -/
  outer : List Char
  /-- Whether the word after the name may be an alias, too. -/
  endsInBlank : Bool

/-- What is looked for in the next token. -/
structure Expected where
  /-- The ends of lines before it are passed over. -/
  skipsNewlines : Bool := false
  keywords : Bool := false
  aliases : Bool := false
  /-- It is the line that ends a document, in which nothing is put in. -/
  endMark : Bool := false

/-- What a redirection does whose target has not been read yet. -/
inductive RedirectionKind where
  | file (opening : Opening)
  | duplicate (isOutput : Bool)
  | document (dropsTabs : Bool)

/-- A document that follows the end of the line: its number, the line that ends it, whether the
tabs at the start of its lines are dropped, and whether nothing is put in. -/
structure Awaited where
  number : Nat
  endMark : List Char
  dropsTabs : Bool
  isLiteral : Bool

/-- The state in which a script is read. -/
structure Reading where
  rest : List Char
  inserted : List Inserted := []
  line : Nat := 1
  aliases : List (String × String) := []
  /-- Whether the last token is to be read again. -/
  isPutBack : Bool := false
  token : Token := .newline
  word : Word := []
  isQuoted : Bool := false
  redirection : Nat × RedirectionKind := (0, .file .read)
  expected : Expected := {}
  awaited : List Awaited := []
  documents : List (Nat × Word) := []
  nextDocument : Nat := 0

/-- What reads a part of a script. -/
abbrev Reader := StateT Reading (Except SyntaxFault)

namespace Reader

/-- Ends reading since something is wrong. -/
def refuse (reason : String) : Reader α := do
  throw ⟨(← get).line, reason⟩

/-- Ends reading since the last token does not belong here. -/
def refuseToken (needed? : Option Token) : Reader α := do
  let found := (← get).token.name ++ " unexpected"
  match needed? with
  | some needed => refuse (found ++ " (expecting " ++ needed.name ++ ")")
  | none => refuse found

/-- Goes back to what follows the names of aliases, until there is something left. -/
def resume (state : Reading) : List Inserted → Reading
  | [] => { state with rest := [], inserted := [] }
  | ended :: inserted =>
    let expected :=
      if ended.endsInBlank then { state.expected with aliases := true } else state.expected
    if ended.outer.isEmpty then resume { state with expected } inserted
    else { state with rest := ended.outer, inserted, expected }

def next : Reader (Option Char) := fun state =>
  match state.rest with
  | c :: rest => .ok (some c, { state with rest })
  | [] =>
    let state := resume state state.inserted
    match state.rest with
    | c :: rest => .ok (some c, { state with rest })
    | [] => .ok (none, state)

def putBack (c? : Option Char) : Reader Unit :=
  match c? with
  | some c => modify fun state => { state with rest := c :: state.rest }
  | none => pure ()

def countLine : Reader Unit :=
  modify fun state => { state with line := state.line + 1 }

/-- The next character after lines that are joined by a backslash at their end. -/
def nextJoined : (fuel : Nat) → Reader (Option Char)
  | 0 => next
  | fuel + 1 => do
    match ← next with
    | some '\\' =>
      match ← next with
      | some '\n' => do
        countLine
        nextJoined fuel
      | other => do
        putBack other
        return some '\\'
    | other => return other

/-- The next character in joined lines; there are no more of them than characters. -/
def joined : Reader (Option Char) := do
  nextJoined ((← get).rest.length + 1)

def putTokenBack : Reader Unit :=
  modify fun state => { state with isPutBack := true }

/-- Sets what is looked for in the next token. -/
def expect (expected : Expected) : Reader Unit :=
  modify fun state => { state with expected }

end Reader

end MutationTesting.Shell
