import MutationTesting.Regex.Expression
/-! Regular expressions as texts, in their basic and in their extended form. The operators of one
form are written with a backslash in the other one. -/
namespace MutationTesting.Regex

/-- What an operator means where there is nothing to repeat. -/
inductive Leading where
  /-- It is a character like others. -/
  | plain
  | refused
  | skipped
  deriving Repr, DecidableEq

structure Dialect where
  isExtended : Bool := false
  leading : Leading := .plain
  /-- Whether a star or an interval behind another one is refused. -/
  refusesTwice : Bool := false
  /-- Whether an interval may start the expression, as a text or nothing; else it is refused. -/
  refusesLeadingInterval : Bool := false
  /-- Whether what is no interval stands for itself. -/
  allowsNoInterval : Bool := false
  /-- Whether a parenthesis that closes nothing stands for itself. -/
  allowsClosing : Bool := false
  foldsCase : Bool := false
  /-- Whether a text consists of lines, so that anchors are at line breaks too. -/
  splitsLines : Bool := false
  /-- Whether a backslash stands for a character with what follows it, also in brackets. -/
  escapesChars : Bool := false
  /-- Whether there may be nothing beside a sign for a choice or in a group. -/
  refusesEmpty : Bool := false
  deriving Repr

inductive Token where
  | stop
  | char (c : Char)
  | any
  | bracket
  | opening
  | closing
  | or
  | star
  | plus
  | question
  | openInterval
  | closeInterval
  | anchor (anchor : Anchor)
  | kind (holds : Char → Bool)
  | again (number : Nat)
  | backslash

namespace Token

/-- The token that an operator is in the extended form without a backslash, and in the basic one
with a backslash. -/
def operator? : Char → Option Token
  | '(' => some opening
  | ')' => some closing
  | '\x7b' => some openInterval
  | '\x7d' => some closeInterval
  | '|' => some or
  | '+' => some plus
  | '?' => some question
  | _ => none

/-- The token that a letter behind a backslash is in both forms. -/
def escaped? : Char → Option Token
  | '<' => some (anchor .wordStart)
  | '>' => some (anchor .wordEnd)
  | 'b' => some (anchor .wordEdge)
  | 'B' => some (anchor .noWordEdge)
  | '\x60' => some (anchor .textStart)
  | '\'' => some (anchor .textEnd)
  | 'w' => some (kind isWordChar)
  | 'W' => some (kind fun c => !isWordChar c)
  | 's' => some (kind isSpace)
  | 'S' => some (kind fun c => !isSpace c)
  | c => if '1' ≤ c && c ≤ '9' then some (again (c.toNat - '0'.toNat)) else none

/-- The character that a backslash stands for with what follows it, and what follows that. -/
def character? : List Char → Option (Char × List Char)
  | '\\' :: c :: rest =>
    let known := [('n', '\n'), ('t', '\t'), ('r', '\r'), ('f', '\x0c'), ('v', '\x0b'),
      ('a', '\x07'), ('b', '\x08')]
    match known.lookup c with
    | some d => some (d, rest)
    | none =>
      let digits := ((c :: rest).take 3).takeWhile fun d => '0' ≤ d && d ≤ '7'
      if digits.isEmpty then some (c, rest)
      else
        let value := digits.foldl (fun value d => value * 8 + (d.toNat - '0'.toNat)) 0
        some (Char.ofNat (value % 256), (c :: rest).drop digits.length)
  | _ => none

/-- Whether a dollar sign before a text is at the end of an expression. -/
def endsThere (isExtended : Bool) (rest : List Char) : Bool :=
  match rest with
  | [] => true
  | '\\' :: c :: _ => !isExtended && (c = ')' || c = '|')
  | c :: _ => isExtended && (c = ')' || c = '|')

/-- The token at the start of a text, and what follows it. `mayStart` tells whether an expression
starts there. -/
def at_ (dialect : Dialect) (mayStart : Bool) : List Char → Token × List Char
  | [] => (stop, [])
  | ['\\'] => (backslash, [])
  | '\\' :: c :: rest =>
    if dialect.escapesChars then
      let (c, rest) := (character? ('\\' :: c :: rest)).getD (c, rest)
      (char c, rest)
    else
      match escaped? c, operator? c with
      | some token, _ => (token, rest)
      | none, some token => if dialect.isExtended then (char c, rest) else (token, rest)
      | none, none => (char c, rest)
  | '*' :: rest => (star, rest)
  | '.' :: rest => (any, rest)
  | '[' :: rest => (bracket, rest)
  | '^' :: rest =>
    if dialect.isExtended || mayStart then
      (anchor (if dialect.splitsLines then .lineStart else .textStart), rest)
    else (char '^', rest)
  | '$' :: rest =>
    if dialect.isExtended || endsThere false rest then
      (anchor (if dialect.splitsLines then .lineEnd else .textEnd), rest)
    else (char '$', rest)
  | c :: rest =>
    match operator? c with
    | some token => if dialect.isExtended then (token, rest) else (char c, rest)
    | none => (char c, rest)

/-- The character that an operator is when it stands for itself. -/
def sign : Token → Char
  | star => '*'
  | plus => '+'
  | question => '?'
  | openInterval => '\x7b'
  | closeInterval => '\x7d'
  | closing => ')'
  | char c => c
  | _ => '\\'

def isOperator : Token → Bool
  | star | plus | question | openInterval => true
  | _ => false

end Token

/-- What is left of a text while it is read, and the groups so far. -/
structure Cursor where
  rest : List Char
  /-- Whether an expression may start here. -/
  mayStart : Bool := true
  groups : Nat := 0
  /-- The groups that are complete. -/
  closed : List Nat := []

namespace Cursor

def next (dialect : Dialect) (cursor : Cursor) : Token × Cursor :=
  let (token, rest) := Token.at_ dialect cursor.mayStart cursor.rest
  (token, { cursor with rest, mayStart := false })

end Cursor

/-- The number in an interval up to a comma or its end, the token there, and what follows it. There
may be no digits. -/
def countAt (dialect : Dialect) : (fuel : Nat) → (found? : Option Nat) → Cursor →
    Option (Option Nat × Token × Cursor)
  | 0, _, _ => none
  | fuel + 1, found?, cursor =>
    match cursor.next dialect with
    | (.closeInterval, next) => some (found?, .closeInterval, next)
    | (.char c, next) =>
      if c = ',' then some (found?, .char ',', next)
      else if c.isDigit then
        countAt dialect fuel
          (some (min 40000 (found?.getD 0 * 10 + (c.toNat - '0'.toNat)))) next
      else none
    | _ => none

/-- The most repetitions that an interval may name. -/
def mostRepeats : Nat := 32767

/-- Whether no closing sign of an interval follows before the end. -/
def staysOpen (dialect : Dialect) : (fuel : Nat) → Cursor → Bool
  | 0, _ => true
  | fuel + 1, cursor =>
    match cursor.next dialect with
    | (.stop, _) => true
    | (.char c, next) => if c.isDigit || c = ',' then staysOpen dialect fuel next else false
    | _ => false

/-- The bounds of an interval from behind its opening sign, and what follows it. Without a result
the sign stands for itself. -/
def intervalAt (dialect : Dialect) (cursor : Cursor) :
    Except Refusal (Option (Nat × Option Nat × Cursor)) := do
  let fuel := cursor.rest.length + 1
  let bad : Except Refusal (Option (Nat × Option Nat × Cursor)) :=
    if dialect.allowsNoInterval then .ok none
    else if staysOpen dialect fuel cursor then .error .openInterval
    else .error .interval
  match countAt dialect fuel none cursor with
  | none => bad
  | some (none, .closeInterval, _) => throw .interval
  | some (least?, .closeInterval, next) =>
    let least := least?.getD 0
    if mostRepeats < least then throw .large
    return some (least, some least, next)
  | some (least?, _, next) =>
    match countAt dialect fuel none next with
    | none => bad
    | some (most?, .closeInterval, next) =>
      let least := least?.getD 0
      if most?.any (· < least) then throw .interval
      if mostRepeats < most?.getD least then throw .large
      return some (least, most?, next)
    | some _ => throw .interval

def charNode (foldsCase : Bool) (c : Char) : Node :=
  if foldsCase && c.isAlpha then
    let lower := c.toLower
    .one fun other => other.toLower = lower
  else .one fun other => other = c

/-- The repetitions of an expression that follow it. -/
def repeatsAt (dialect : Dialect) : (fuel : Nat) → Node → Cursor →
    Except Refusal (Node × Cursor)
  | 0, node, cursor => .ok (node, cursor)
  | fuel + 1, node, cursor => do
    let finish (least : Nat) (most? : Option Nat) (next : Cursor) :
        Except Refusal (Node × Cursor) := do
      if dialect.refusesTwice then
        match next.next dialect with
        | (.star, _) | (.openInterval, _) => throw .leadingOperator
        | _ => pure ()
      repeatsAt dialect fuel (.repeated node least most? .most) next
    match cursor.next dialect with
    | (.star, next) => finish 0 none next
    | (.plus, next) => finish 1 none next
    | (.question, next) => finish 0 (some 1) next
    | (.openInterval, next) =>
      match ← intervalAt dialect next with
      | some (least, most?, next) => finish least most? next
      | none => return (node, cursor)
    | _ => return (node, cursor)

mutual

/-- Expressions with signs for a choice between them. -/
def choiceAt (dialect : Dialect) : (fuel : Nat) → (depth : Nat) → Cursor →
    Except Refusal (Node × Cursor)
  | 0, _, _ => .error .large
  | fuel + 1, depth, cursor => do
    let before := cursor.closed
    let (node, next) ← sequenceAt dialect fuel depth [] cursor
    match next.next dialect with
    | (.or, behind) =>
      let (other, last) ← choiceAt dialect fuel depth
        { behind with mayStart := true, closed := before }
      return (.either node other, { last with closed := last.closed ++ next.closed })
    | _ => return (node, next)

/-- Expressions one after another. `found` lists those before, the last one first. -/
def sequenceAt (dialect : Dialect) : (fuel : Nat) → (depth : Nat) → (found : List Node) → Cursor →
    Except Refusal (Node × Cursor)
  | 0, _, _, _ => .error .large
  | fuel + 1, depth, found, cursor => do
    let done : Except Refusal (Node × Cursor) := .ok (Node.all found.reverse, cursor)
    let go (node : Node) (next : Cursor) : Except Refusal (Node × Cursor) := do
      let (node, next) ← repeatsAt dialect (next.rest.length + 1) node next
      sequenceAt dialect fuel depth (node :: found) next
    let (token, next) := cursor.next dialect
    match token with
    | .stop | .or =>
      let isOpen := (token matches .stop) && 0 < depth
      if dialect.refusesEmpty && found.isEmpty && !isOpen then throw .leadingOperator
      done
    | .backslash =>
      if dialect.escapesChars then go (charNode dialect.foldsCase '\\') next
      else throw .finalBackslash
    | .closing =>
      if 0 < depth then
        if dialect.refusesEmpty && found.isEmpty then throw .leadingOperator
        done
      else if dialect.allowsClosing then go (charNode dialect.foldsCase ')') next
      else throw .closedGroup
    | .opening =>
      let number := next.groups + 1
      let inside := { next with groups := number, mayStart := true }
      let (node, last) ← choiceAt dialect fuel (depth + 1) inside
      match last.next dialect with
      | (.closing, behind) =>
        go (.group number node) { behind with closed := number :: behind.closed }
      | _ => throw .openGroup
    | .again number =>
      if !next.closed.contains number then throw .group
      go (.again number dialect.foldsCase) next
    | .anchor condition =>
      sequenceAt dialect fuel depth (.anchor condition :: found) { next with mayStart := true }
    | .bracket =>
      let escapes (cs : List Char) : Option (Char × List Char) :=
        if dialect.escapesChars then Token.character? cs else none
      let (holds, rest) ← bracketAt dialect.foldsCase dialect.splitsLines
        (!dialect.escapesChars) escapes next.rest
      go (.one holds) { next with rest }
    | .any => go (.one (if dialect.splitsLines then fun c => c ≠ '\n' else fun _ => true)) next
    | .kind holds => go (.one holds) next
    | .char c => go (charNode dialect.foldsCase c) next
    | token =>
      let isInterval := token matches .openInterval
      let isRefused := isInterval && dialect.refusesLeadingInterval
      if isRefused && token.isOperator then throw .leadingOperator
      else if token.isOperator && dialect.leading = .refused &&
          !(isInterval && dialect.allowsNoInterval) then throw .leadingOperator
      else if token.isOperator && dialect.leading = .skipped then
        if isInterval then
          match ← intervalAt dialect next with
          | some (_, _, next) =>
            sequenceAt dialect fuel depth found { next with mayStart := cursor.mayStart }
          | none => go (charNode dialect.foldsCase token.sign) next
        else sequenceAt dialect fuel depth found { next with mayStart := cursor.mayStart }
      else go (charNode dialect.foldsCase token.sign) next

end

namespace Expression

def ofText (dialect : Dialect) (text : List Char) : Except Refusal Expression := do
  let fuel := 3 * text.length + 8
  let (node, cursor) ← choiceAt dialect fuel 0 { rest := text }
  match cursor.rest with
  | [] => return { node, groups := cursor.groups }
  | _ => throw .closedGroup

end Expression

end MutationTesting.Regex
