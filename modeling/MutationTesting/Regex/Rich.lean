import MutationTesting.Regex.Reader
/-! Regular expressions in their rich form: repetitions that prefer few, groups with names, and
conditions on what comes before and behind. The first way in which a text fits is taken. -/
namespace MutationTesting.Regex.Rich

/-- How the rest of an expression is read. -/
structure Mode where
  foldsCase : Bool := false
  /-- Whether a point fits line breaks too. -/
  fitsBreaks : Bool := false
  splitsLines : Bool := false
  /-- Whether blanks and comments are left out. -/
  skipsBlanks : Bool := false
  deriving Repr, DecidableEq

/-- What is left of a text while it is read, and the groups so far. -/
structure Cursor where
  rest : List Char
  mode : Mode := {}
  groups : Nat := 0
  names : List (String × Nat) := []
  /-- The highest number of a group that is asked for. -/
  asked : Nat := 0

/-- The characters that a letter behind a backslash stands for. -/
def kind? : Char → Option (Char → Bool)
  | 'd' => some Char.isDigit
  | 'D' => some fun c => !c.isDigit
  | 'w' => some isWordChar
  | 'W' => some fun c => !isWordChar c
  | 's' => some isSpace
  | 'S' => some fun c => !isSpace c
  | 'h' => some fun c => c = ' ' || c = '\t' || c.toNat = 0xA0
  | 'H' => some fun c => c ≠ ' ' && c ≠ '\t' && c.toNat ≠ 0xA0
  | 'v' => some fun c => (0x0A ≤ c.toNat && c.toNat ≤ 0x0D) || c.toNat = 0x85
  | 'V' => some fun c => !((0x0A ≤ c.toNat && c.toNat ≤ 0x0D) || c.toNat = 0x85)
  | 'N' => some fun c => c ≠ '\n'
  | _ => none

def isOctal (c : Char) : Bool :=
  '0' ≤ c && c ≤ '7'

def isHex (c : Char) : Bool :=
  c.isDigit || ('a' ≤ c && c ≤ 'f') || ('A' ≤ c && c ≤ 'F')

def digitOf (c : Char) : Nat :=
  if c.isDigit then c.toNat - '0'.toNat else c.toLower.toNat - 'a'.toNat + 10

def numberOf (base : Nat) (digits : List Char) : Nat :=
  digits.foldl (fun value c => value * base + digitOf c) 0

/-- The text up to a sign, and what follows it. -/
def upTo? (sign : Char) (cs : List Char) : Option (List Char × List Char) :=
  let inner := cs.takeWhile (· ≠ sign)
  if inner.length < cs.length then some (inner, cs.drop (inner.length + 1)) else none

/-- The character behind a backslash, and what follows it. -/
def escapedChar? (cs : List Char) : Except Refusal (Char × List Char) := do
  match cs with
  | [] => throw (.other "\\ at end of pattern")
  | 't' :: rest => return ('\t', rest)
  | 'n' :: rest => return ('\n', rest)
  | 'r' :: rest => return ('\r', rest)
  | 'f' :: rest => return ('\x0c', rest)
  | 'e' :: rest => return ('\x1b', rest)
  | 'a' :: rest => return ('\x07', rest)
  | 'c' :: c :: rest => return (Char.ofNat ((c.toUpper.toNat) ^^^ 64), rest)
  | 'x' :: '\x7b' :: rest =>
    match upTo? '\x7d' rest with
    | some (digits, rest) => return (Char.ofNat (numberOf 16 digits), rest)
    | none => throw (.other "non-hex character in \\x\x7b\x7d (closing brace missing?)")
  | 'x' :: rest =>
    let digits := (rest.take 2).takeWhile isHex
    return (Char.ofNat (numberOf 16 digits), rest.drop digits.length)
  | 'o' :: '\x7b' :: rest =>
    match upTo? '\x7d' rest with
    | some (digits, rest) => return (Char.ofNat (numberOf 8 digits), rest)
    | none => throw (.other "non-octal character in \\o\x7b\x7d (closing brace missing?)")
  | c :: rest =>
    if isOctal c then
      let digits := (cs.take 3).takeWhile isOctal
      return (Char.ofNat (numberOf 8 digits % 256), cs.drop digits.length)
    else if "LlUuF".toList.contains c then
      throw (.other "PCRE2 does not support \\F, \\L, \\l, \\N\x7bname\x7d, \\U, or \\u")
    else if c.isAlphanum then throw (.other "unrecognized character follows \\")
    else return (c, rest)

/-- The members of brackets up to the closing one, and what follows it. -/
def membersAt : (fuel : Nat) → (isFirst : Bool) → (found : List Member) → List Char →
    Except Refusal (List Member × List Char)
  | 0, _, _, _ => .error (.other "missing terminating ] for character class")
  | _, _, _, [] => .error (.other "missing terminating ] for character class")
  | _, false, found, ']' :: rest => .ok (found.reverse, rest)
  | fuel + 1, _, found, cs => do
    let (member, rest) ← memberAt cs
    match member, isRangeAhead rest with
    | .one lower, true =>
      let (other, behind) ← memberAt (rest.drop 1)
      match other with
      | .one upper =>
        if upper < lower then throw (.other "range out of order in character class")
        else membersAt fuel false (.range lower upper :: found) behind
      | other => membersAt fuel false (other :: .one '-' :: member :: found) behind
    | _, _ => membersAt fuel false (member :: found) rest
where
  isRangeAhead (rest : List Char) : Bool :=
    match rest with
    | '-' :: c :: _ => c ≠ ']'
    | _ => false
  memberAt (cs : List Char) : Except Refusal (Member × List Char) := do
    match cs with
    | '[' :: ':' :: '^' :: rest =>
      match nameBefore? ':' [] rest with
      | some (name, rest) =>
        match classes.lookup name with
        | some holds => return (.kind fun c => !holds c, rest)
        | none => throw (.other "unknown POSIX class name")
      | none => return (.one '[', cs.drop 1)
    | '[' :: ':' :: rest =>
      match nameBefore? ':' [] rest with
      | some (name, rest) =>
        match (("word", isWordChar) :: classes).lookup name with
        | some holds => return (.kind holds, rest)
        | none => throw (.other "unknown POSIX class name")
      | none => return (.one '[', cs.drop 1)
    | '\\' :: 'b' :: rest => return (.one '\x08', rest)
    | '\\' :: c :: rest =>
      match kind? c with
      | some holds => return (.kind holds, rest)
      | none =>
        let (c, rest) ← escapedChar? (c :: rest)
        return (.one c, rest)
    | ['\\'] => throw (.other "\\ at end of pattern")
    | c :: rest => return (.one c, rest)
    | [] => throw (.other "missing terminating ] for character class")

/-- How long all that fits is, if that is fixed. -/
def length? : Node → Option Nat
  | .empty | .anchor _ | .look _ _ _ | .startHere => some 0
  | .one _ => some 1
  | .group _ inner | .first inner => length? inner
  | .both a b => return (← length? a) + (← length? b)
  | .either a b => do
    let n ← length? a
    if (← length? b) = n then some n else none
  | .repeated inner least most? _ => do
    let n ← length? inner
    if most? = some least then some (n * least) else none
  | .again _ _ | .never => none

def areFixed : Node → Bool
  | .either a b => (length? a).isSome && areFixed b
  | node => (length? node).isSome

/-- The bounds of an interval from behind its brace, and what follows it. -/
def interval? (cs : List Char) : Option (Nat × Option Nat × List Char) :=
  let least := cs.takeWhile Char.isDigit
  let rest := cs.drop least.length
  if least.isEmpty then none
  else match rest with
    | '\x7d' :: rest => some (numberOf 10 least, some (numberOf 10 least), rest)
    | ',' :: rest =>
      let most := rest.takeWhile Char.isDigit
      match rest.drop most.length with
      | '\x7d' :: rest =>
        some (numberOf 10 least, if most.isEmpty then none else some (numberOf 10 most), rest)
      | _ => none
    | _ => none

/-- Leaves out blanks and comments, if the mode says so. -/
def skipBlanks (mode : Mode) : (fuel : Nat) → List Char → List Char
  | 0, cs => cs
  | fuel + 1, cs =>
    if !mode.skipsBlanks then cs
    else match cs with
      | '#' :: rest => skipBlanks mode fuel ((rest.dropWhile (· ≠ '\n')).drop 1)
      | c :: rest => if isSpace c then skipBlanks mode fuel rest else cs
      | [] => []

/-- The repetitions of an expression that follow it. -/
def repeatsAt (node : Node) (cursor : Cursor) : Except Refusal (Node × Cursor) := do
  let rest := skipBlanks cursor.mode (cursor.rest.length + 1) cursor.rest
  let found? : Option (Nat × Option Nat × List Char) := match rest with
    | '*' :: rest => some (0, none, rest)
    | '+' :: rest => some (1, none, rest)
    | '?' :: rest => some (0, some 1, rest)
    | '\x7b' :: rest => interval? rest
    | _ => none
  match found? with
  | none => return (node, cursor)
  | some (least, most?, rest) =>
    if most?.any (· < least) then throw (.other "numbers out of order in \x7b\x7d quantifier")
    if 65535 < max least (most?.getD 0) then
      throw (.other "number too big in \x7b\x7d quantifier")
    let (preference, rest) : Preference × List Char := match rest with
      | '?' :: rest => (.least, rest)
      | '+' :: rest => (.onlyMost, rest)
      | rest => (.most, rest)
    return (.repeated node least most? preference, { cursor with rest })

def modeOf (mode : Mode) (turnsOn : Bool) : List Char → Option Mode
  | [] => some mode
  | '-' :: rest => modeOf mode false rest
  | 'i' :: rest => modeOf { mode with foldsCase := turnsOn } turnsOn rest
  | 's' :: rest => modeOf { mode with fitsBreaks := turnsOn } turnsOn rest
  | 'm' :: rest => modeOf { mode with splitsLines := turnsOn } turnsOn rest
  | 'x' :: rest => modeOf { mode with skipsBlanks := turnsOn } turnsOn rest
  | _ => none

inductive Purpose where
  | numbered (name? : Option String)
  | plain (mode : Mode)
  | look (isAhead isNegated : Bool)
  | first

/-- What the text behind an opening parenthesis says of its group, and what follows that. A mode
alone has no group. -/
def purposeAt (mode : Mode) (cs : List Char) : Except Refusal (Sum Purpose Mode × List Char) := do
  let named (sign : Char) (cs : List Char) : Except Refusal (Sum Purpose Mode × List Char) :=
    match upTo? sign cs with
    | some (name, rest) => .ok (.inl (.numbered (some (String.ofList name))), rest)
    | none => .error (.other "syntax error in subpattern name (missing terminator?)")
  match cs with
  | '?' :: ':' :: rest | '?' :: '|' :: rest => return (.inl (.plain mode), rest)
  | '?' :: '=' :: rest => return (.inl (.look true false), rest)
  | '?' :: '!' :: rest => return (.inl (.look true true), rest)
  | '?' :: '<' :: '=' :: rest => return (.inl (.look false false), rest)
  | '?' :: '<' :: '!' :: rest => return (.inl (.look false true), rest)
  | '?' :: '>' :: rest => return (.inl .first, rest)
  | '?' :: '#' :: rest =>
    match upTo? ')' rest with
    | some (_, rest) => return (.inr mode, rest)
    | none => throw (.other "missing ) after (?# comment")
  | '?' :: 'P' :: '<' :: rest | '?' :: '<' :: rest => named '>' rest
  | '?' :: '\'' :: rest => named '\'' rest
  | '?' :: rest =>
    let letters := rest.takeWhile fun c => c ≠ ')' && c ≠ ':'
    match modeOf mode true letters, rest.drop letters.length with
    | some mode, ')' :: rest => return (.inr mode, rest)
    | some mode, ':' :: rest => return (.inl (.plain mode), rest)
    | _, _ => throw (.other "unrecognized character after (? or (?-")
  | _ => return (.inl (.numbered none), cs)

def groupOf (cursor : Cursor) (name : List Char) : Except Refusal Nat :=
  match name with
  | '-' :: digits => .ok (cursor.groups + 1 - numberOf 10 digits)
  | '+' :: digits => .ok (cursor.groups + numberOf 10 digits)
  | _ =>
    if !name.isEmpty && name.all Char.isDigit then .ok (numberOf 10 name)
    else match cursor.names.lookup (String.ofList name) with
      | some number => .ok number
      | none => .error (.other "reference to non-existent subpattern")

/-- The reference to a group behind a backslash, and what follows it. -/
def reference? (cursor : Cursor) (cs : List Char) :
    Option (Except Refusal Nat × List Char) :=
  let between (sign : Char) (rest : List Char) : Option (Except Refusal Nat × List Char) :=
    (upTo? sign rest).map fun (name, rest) => (groupOf cursor name, rest)
  match cs with
  | 'g' :: '\x7b' :: rest | 'k' :: '\x7b' :: rest => between '\x7d' rest
  | 'k' :: '<' :: rest => between '>' rest
  | 'k' :: '\'' :: rest => between '\'' rest
  | 'g' :: rest =>
    let sign := rest.takeWhile (· = '-')
    let digits := (rest.drop sign.length).takeWhile Char.isDigit
    if digits.isEmpty then none
    else some (groupOf cursor (sign ++ digits), rest.drop (sign.length + digits.length))
  | c :: _ =>
    if '1' ≤ c && c ≤ '9' then
      let digits := cs.takeWhile Char.isDigit
      if digits.length = 1 || numberOf 10 digits ≤ cursor.groups then
        some (.ok (numberOf 10 digits), cs.drop digits.length)
      else none
    else none
  | [] => none

mutual

/-- Expressions with signs for a choice between them. -/
def choiceAt : (fuel : Nat) → (depth : Nat) → Cursor → Except Refusal (Node × Cursor)
  | 0, _, _ => .error .large
  | fuel + 1, depth, cursor => do
    let (node, next) ← sequenceAt fuel depth [] cursor
    match next.rest with
    | '|' :: rest =>
      let (other, last) ← choiceAt fuel depth { next with rest }
      return (.either node other, last)
    | _ => return (node, next)

def sequenceAt : (fuel : Nat) → (depth : Nat) → (found : List Node) → Cursor →
    Except Refusal (Node × Cursor)
  | 0, _, _, _ => .error .large
  | fuel + 1, depth, found, cursor => do
    let cursor :=
      { cursor with rest := skipBlanks cursor.mode (cursor.rest.length + 1) cursor.rest }
    let mode := cursor.mode
    let at_ (rest : List Char) : Cursor := { cursor with rest }
    let go (node : Node) (next : Cursor) : Except Refusal (Node × Cursor) := do
      let (node, next) ← repeatsAt node next
      sequenceAt fuel depth (node :: found) next
    let still (node : Node) (rest : List Char) : Except Refusal (Node × Cursor) :=
      sequenceAt fuel depth (node :: found) (at_ rest)
    match cursor.rest with
    | [] | '|' :: _ => return (Node.all found.reverse, cursor)
    | ')' :: _ =>
      if 0 < depth then return (Node.all found.reverse, cursor)
      else throw (.other "unmatched closing parenthesis")
    | '(' :: '?' :: 'P' :: '=' :: rest =>
      match upTo? ')' rest with
      | none => throw (.other "missing closing parenthesis")
      | some (name, rest) =>
        let number ← groupOf cursor name
        go (.again number mode.foldsCase) { (at_ rest) with asked := max cursor.asked number }
    | '(' :: rest =>
      let (purpose, rest) ← purposeAt mode rest
      match purpose with
      | .inr mode => sequenceAt fuel depth found { (at_ rest) with mode }
      | .inl purpose =>
        let number := cursor.groups + 1
        let inside : Cursor := match purpose with
          | .numbered name? =>
            { (at_ rest) with
              groups := number
              names := match name? with
                | some name => (name, number) :: cursor.names
                | none => cursor.names }
          | .plain mode => { (at_ rest) with mode }
          | _ => at_ rest
        let (node, last) ← choiceAt fuel (depth + 1) inside
        match last.rest with
        | ')' :: rest =>
          let behind := { last with rest, mode }
          match purpose with
          | .numbered _ => go (.group number node) behind
          | .plain _ => go node behind
          | .first => go (.first node) behind
          | .look isAhead isNegated =>
            if !isAhead && !areFixed node then
              throw (.other "lookbehind assertion is not fixed length")
            go (.look isAhead isNegated node) behind
        | _ => throw (.other "missing closing parenthesis")
    | '[' :: rest =>
      let isNegated := rest.head? = some '^'
      let inner := if isNegated then rest.drop 1 else rest
      let (members, rest) ← membersAt (inner.length + 1) true [] inner
      go (.one (membersHold mode.foldsCase isNegated members)) (at_ rest)
    | '.' :: rest =>
      go (.one (if mode.fitsBreaks then fun _ => true else fun c => c ≠ '\n')) (at_ rest)
    | '^' :: rest => go (.anchor (if mode.splitsLines then .lineStart else .textStart)) (at_ rest)
    | '$' :: rest => go (.anchor (if mode.splitsLines then .lineEnd else .textEnd)) (at_ rest)
    | '\\' :: 'Q' :: rest =>
      let (quoted, rest) := quotedAt [] rest
      let nodes := quoted.map (charNode mode.foldsCase)
      match nodes.reverse with
      | [] => sequenceAt fuel depth found (at_ rest)
      | last :: before =>
        let (node, next) ← repeatsAt last (at_ rest)
        sequenceAt fuel depth (node :: before ++ found) next
    | '\\' :: 'E' :: rest => sequenceAt fuel depth found (at_ rest)
    | '\\' :: 'b' :: rest => still (.anchor .wordEdge) rest
    | '\\' :: 'B' :: rest => still (.anchor .noWordEdge) rest
    | '\\' :: 'A' :: rest | '\\' :: 'G' :: rest => still (.anchor .textStart) rest
    | '\\' :: 'Z' :: rest => still (.anchor .textEndOrBreak) rest
    | '\\' :: 'z' :: rest => still (.anchor .textEnd) rest
    | '\\' :: 'K' :: rest => still .startHere rest
    | '\\' :: 'X' :: rest => go (.one fun _ => true) (at_ rest)
    | '\\' :: 'R' :: rest =>
      let pair := Node.both (charNode false '\r') (charNode false '\n')
      go (.first (.either pair (.one ((kind? 'v').getD fun _ => false)))) (at_ rest)
    | '\\' :: rest =>
      match rest.head?.bind kind?, reference? cursor rest with
      | some holds, _ => go (.one holds) (at_ (rest.drop 1))
      | none, some (number, rest) =>
        let number ← number
        go (.again number mode.foldsCase) { (at_ rest) with asked := max cursor.asked number }
      | none, none =>
        let (c, rest) ← escapedChar? rest
        go (charNode mode.foldsCase c) (at_ rest)
    | c :: rest =>
      let isRepeat := c = '*' || c = '+' || c = '?' || (c = '\x7b' && (interval? rest).isSome)
      if isRepeat then throw (.other "quantifier does not follow a repeatable item")
      go (charNode mode.foldsCase c) (at_ rest)
where
  /-- The text up to the end of a quotation, and what follows it. -/
  quotedAt (found : List Char) : List Char → List Char × List Char
    | '\\' :: 'E' :: rest => (found.reverse, rest)
    | c :: rest => quotedAt (c :: found) rest
    | [] => (found.reverse, [])

end

end MutationTesting.Regex.Rich

namespace MutationTesting.Regex.Expression

def ofRichText (foldsCase : Bool) (text : List Char) : Except Refusal Expression := do
  let fuel := 3 * text.length + 8
  let (node, cursor) ← Rich.choiceAt fuel 0 { rest := text, mode := { foldsCase } }
  if cursor.groups < cursor.asked then throw (.other "reference to non-existent subpattern")
  return { node, prefersLongest := false, groups := cursor.groups }

end MutationTesting.Regex.Expression
