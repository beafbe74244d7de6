import MutationTesting.Shell.Reading
/-! Reading the tokens of a script. What stands in a command substitution is a script of its own;
`nested` reads it. -/
namespace MutationTesting.Shell

/-- How the characters at a place in a word are read. -/
inductive Mode where
  | base
  | double
  | single
  | arithmetic
  deriving Repr, DecidableEq

/-- A place in a word: how it is read, and what is open there. -/
structure Level where
  mode : Mode
  /-- Whether double quotes are open inside the braces. -/
  innerQuotes : Bool := false
  /-- Whether the level ends with its last brace. -/
  isNested : Bool := false
  isDouble : Bool := false
  braces : Nat := 0
  /-- The open braces that are in double quotes. -/
  doubleBraces : Nat := 0
  parentheses : Nat := 0

/-- A word in progress. Pieces are listed from the last one on. -/
structure Builder where
  level : Level
  outer : List Level := []
  pieces : List Piece := []
  /-- What the pieces will become when the braces or parentheses around them are closed, with the
  pieces before that. -/
  suspended : List ((List Piece → Piece) × List Piece) := []
  isQuoted : Bool := false

namespace Builder

def push (builder : Builder) (piece : Piece) : Builder :=
  { builder with pieces := piece :: builder.pieces }

def pushChar (builder : Builder) (c : Char) : Builder :=
  builder.push (.char c false)

def pushEscaped (builder : Builder) (c : Char) : Builder :=
  builder.push (.char c true)

def begin (builder : Builder) (wrap : List Piece → Piece) : Builder :=
  { builder with pieces := [], suspended := (wrap, builder.pieces) :: builder.suspended }

def finish (builder : Builder) : Builder :=
  match builder.suspended with
  | (wrap, pieces) :: suspended =>
    { builder with pieces := wrap builder.pieces.reverse :: pieces, suspended }
  | [] => builder

def enter (builder : Builder) (level : Level) : Builder :=
  { builder with level, outer := builder.level :: builder.outer }

def leave (builder : Builder) : Builder :=
  match builder.outer with
  | level :: outer => { builder with level, outer }
  | [] => builder

def setLevel (builder : Builder) (change : Level → Level) : Builder :=
  { builder with level := change builder.level }

def pushMark (builder : Builder) (inDocument : Bool) : Builder :=
  if inDocument then builder else builder.push .mark

/-- A double quote that opens or closes. -/
def toggleDouble (builder : Builder) (inDocument : Bool) : Builder :=
  (builder.setLevel fun level =>
    if 0 < level.braces then { level with innerQuotes := !level.innerQuotes } else level)
    |>.pushMark inDocument

def closeQuote (builder : Builder) (c : Char) (inDocument : Bool) : Builder :=
  if inDocument && builder.level.braces = 0 then builder.pushChar c
  else
    let builder := builder.setLevel fun level =>
      if level.doubleBraces = 0 then { level with mode := .base, isDouble := false } else level
    let builder := { builder with isQuoted := true }
    if c = '"' then builder.toggleDouble inDocument else builder.pushMark inDocument

def closeBrace (builder : Builder) : Builder :=
  let level := builder.level
  if !level.innerQuotes && 0 < level.braces then
    let level := { level with braces := level.braces - 1 }
    let builder := { builder with level }
    let builder :=
      if level.braces = 0 && level.isNested then builder.leave
      else builder.setLevel fun level => { level with doubleBraces := level.doubleBraces - 1 }
    builder.finish
  else builder.pushChar '\x7d'

/-- A parameter with an operand, which the next brace ends. `mode` is how the operand is read. -/
def beginOperand (builder : Builder) (name : String) (adjustment : Adjustment)
    (checksEmpty : Bool) (mode : Mode) : Builder :=
  let mode := if mode = .arithmetic then .double else mode
  let builder :=
    if mode ≠ builder.level.mode || builder.level.innerQuotes then
      builder.enter { mode, isNested := true, isDouble := mode ≠ .base }
    else builder
  let builder := builder.setLevel fun level =>
    { level with
      braces := level.braces + 1
      doubleBraces := if level.isDouble then level.doubleBraces + 1 else level.doubleBraces }
  builder.begin (.parameter name adjustment checksEmpty)

/-- An arithmetic expression, which two parentheses end. -/
def beginValue (builder : Builder) : Builder :=
  (builder.enter { mode := .arithmetic, isDouble := true }).begin .value

end Builder

/-- The characters that mean something in the result of a word when they are not quoted. -/
def hasMeaning (c : Char) : Bool :=
  "!*?[=~:/-]".toList.contains c

def endsWord (c : Char) : Bool :=
  "\n<>();&| \t".toList.contains c

namespace Reader

/-- Characters that belong together, of which the first one is given, and the one behind them. -/
def span (belongs : Char → Bool) : (fuel : Nat) → List Char → Option Char →
    Reader (List Char × Option Char)
  | 0, found, c? => return (found.reverse, c?)
  | fuel + 1, found, c? =>
    match c? with
    | some c =>
      if belongs c then do
        let c? ← joined
        span belongs fuel (c :: found) c?
      else return (found.reverse, c?)
    | none => return (found.reverse, none)

def charactersLeft : Reader Nat := do
  let state ← get
  return state.inserted.foldl (fun sum inserted => sum + inserted.outer.length)
    (state.rest.length + 1)

def nameFrom (c : Char) : Reader (String × Option Char) := do
  let belongs := if c.isDigit then Char.isDigit else isNamePart
  let (name, c?) ← span belongs (← charactersLeft) [] (some c)
  return (String.ofList name, c?)

def adjustment (builder : Builder) (name : String) (c? : Option Char) : Reader Builder := do
  let mode := builder.level.mode
  let cut (sign : Char) (make : Bool → Adjustment) : Reader Builder := do
    let other ← joined
    if other = some sign then return builder.beginOperand name (make true) false .base
    else
      putBack other
      return builder.beginOperand name (make false) false .base
  let simple (checksEmpty : Bool) (c? : Option Char) : Reader Builder := do
    match c? with
    | some '\x7d' =>
      if checksEmpty then return builder.beginOperand name .plain true mode
      else return builder.push (.parameter name .plain false [])
    | some '-' => return builder.beginOperand name .orElse checksEmpty mode
    | some '+' => return builder.beginOperand name .ifThere checksEmpty mode
    | some '?' => return builder.beginOperand name .orFail checksEmpty mode
    | some '=' => return builder.beginOperand name .orAssign checksEmpty mode
    | _ => return builder.beginOperand name .unknown checksEmpty mode
  match c? with
  | some ':' => do simple true (← joined)
  | some '%' => cut '%' .withoutEnd
  | some '#' => cut '#' .withoutStart
  | _ => simple false c?

/-- What follows an opening brace after a dollar. -/
def afterBrace (builder : Builder) : Reader Builder := do
  let unknown (c? : Option Char) : Reader Builder := do
    putBack c?
    return builder.beginOperand "" .unknown false builder.level.mode
  let length (name : String) (c? : Option Char) : Reader Builder := do
    putBack c?
    return builder.beginOperand name .length false builder.level.mode
  let special (c? following? : Option Char) : Reader Builder := do
    match c? with
    | some c =>
      if isSpecial c then adjustment builder (String.singleton c) following?
      else unknown following?
    | none => unknown following?
  match ← joined with
  | none => unknown none
  | some c =>
    if isNameStart c || c.isDigit then
      let (name, c?) ← nameFrom c
      adjustment builder name c?
    else if c = '\x7d' then unknown (some c)
    else
      let second? ← joined
      if c ≠ '#' then special (some c) second?
      else
        match second? with
        | some second =>
          if isNamePart second then
            let (name, c?) ← nameFrom second
            length name c?
          else
            let third? ← joined
            if second = '\x7d' || third? ≠ some '\x7d' then
              putBack third?
              special (some '#') second?
            else if isSpecial second then length (String.singleton second) third?
            else unknown third?
        | none => special (some '#') none

def afterDollar (nested : Bool → Reader Script) (builder : Builder) : Reader Builder := do
  let c? ← joined
  let starts := c?.any fun c => c = '(' || c = '\x7b' || isNameStart c || isSpecial c
  if (← get).expected.endMark || !starts then
    putBack c?
    return builder.pushChar '$'
  match c? with
  | some '(' =>
    let second? ← joined
    if second? = some '(' then return builder.beginValue
    putBack second?
    return builder.push (.output (← nested false))
  | some '\x7b' => afterBrace builder
  | some c =>
    if isNameStart c then
      let (name, c?) ← nameFrom c
      putBack c?
      return builder.push (.parameter name .plain false [])
    else return builder.push (.parameter (String.singleton c) .plain false [])
  | none => return builder

/-- The text of a script up to the backquote that ends it. -/
def backquoted (isDouble : Bool) : (fuel : Nat) → List Char → Reader (List Char)
  | 0, text => return text.reverse
  | fuel + 1, text => do
    match ← joined with
    | none => refuse "EOF in backquote substitution"
    | some '\x60' => return text.reverse
    | some '\\' =>
      match ← next with
      | none => backquoted isDouble fuel text
      | some c =>
        if c = '\\' || c = '\x60' || c = '$' || (isDouble && c = '"') then
          backquoted isDouble fuel (c :: text)
        else backquoted isDouble fuel (c :: '\\' :: text)
    | some c => do
      if c = '\n' then countLine
      backquoted isDouble fuel (c :: text)

def afterBackquote (nested : Bool → Reader Script) (builder : Builder) : Reader Builder := do
  let text ← backquoted builder.level.isDouble (← charactersLeft) []
  let before ← get
  set { before with rest := text, inserted := [], line := 1 }
  let script ← nested true
  modify fun state =>
    { state with
      rest := before.rest
      inserted := before.inserted
      line := before.line
      isPutBack := false }
  return builder.push (.output script)

def afterBackslash (builder : Builder) (inDocument : Bool) : Reader Builder := do
  match ← next with
  | none => return builder.pushEscaped '\\'
  | some c =>
    let level := builder.level
    let isKept : Bool := level.isDouble && c ≠ '\\' && c ≠ '\x60' && c ≠ '$' &&
      (c ≠ '"' || (inDocument && level.braces = 0)) && (c ≠ '\x7d' || level.braces = 0)
    let builder := if isKept then builder.pushEscaped '\\' else builder
    return { builder.pushEscaped c with isQuoted := true }

/-- Takes a character into a word, or says that the word ends before it. -/
def take (nested : Bool → Reader Script) (inDocument : Bool) (builder : Builder) (c : Char) :
    Reader (Option Builder) := do
  let level := builder.level
  let open_ (mode : Mode) : Builder :=
    builder.setLevel fun level => { level with mode, isDouble := level.isDouble || mode = .double }
  let marked : Builder :=
    if !inDocument || level.isDouble || 0 < level.braces then builder.pushEscaped c
    else builder.pushChar c
  if c = '\n' then
    if level.mode = .base && level.braces = 0 then return none
    countLine
    return some (builder.pushChar c)
  match level.mode with
  | .single =>
    if c = '\'' then return some (builder.closeQuote c inDocument)
    else if hasMeaning c || c = '\\' then return some marked
    else return some (builder.pushChar c)
  | mode =>
    match c with
    | '\\' => some <$> afterBackslash builder inDocument
    | '$' => some <$> afterDollar nested builder
    | '\x60' =>
      if (← get).expected.endMark then return some (builder.pushChar c)
      else some <$> afterBackquote nested builder
    | '\x7d' => return some builder.closeBrace
    | _ =>
      match mode with
      | .double =>
        if c = '"' then return some (builder.closeQuote c inDocument)
        else if hasMeaning c then return some marked
        else return some (builder.pushChar c)
      | .arithmetic =>
        if c = '(' then
          return some ((builder.setLevel fun level =>
            { level with parentheses := level.parentheses + 1 }).pushChar c)
        else if c = ')' then
          if 0 < level.parentheses then
            return some ((builder.setLevel fun level =>
              { level with parentheses := level.parentheses - 1 }).pushChar c)
          else
            let other ← joined
            if other = some ')' then return some builder.finish.leave
            putBack other
            return some (builder.pushChar c)
        else return some (builder.pushChar c)
      | _ =>
        if c = '\'' then return some ((open_ .single).pushMark inDocument)
        else if c = '"' then return some ((open_ .double).toggleDouble inDocument)
        else if endsWord c && level.braces = 0 then return none
        else return some (builder.pushChar c)

/-- At the start of a line of a document: nothing if the document ends there, and else its first
character. -/
def lineOfDocument (awaited : Awaited) (c? : Option Char) : Reader (Option Char) := do
  let cs := c?.toList ++ (← get).rest
  let cs := if awaited.dropsTabs then cs.dropWhile (· = '\t') else cs
  if awaited.endMark.isPrefixOf cs then
    match cs.drop awaited.endMark.length with
    | [] =>
      modify fun state => { state with rest := [], line := state.line + 1 }
      return none
    | '\n' :: rest =>
      modify fun state => { state with rest, line := state.line + 1 }
      return none
    | _ => pure ()
  modify fun state => { state with rest := cs.drop 1 }
  return cs.head?

/-- Reads on in a word or in a document. Yields the character that ends it. -/
def readOn (nested : Bool → Reader Script) (document? : Option Awaited) : (fuel : Nat) →
    (isLineStart : Bool) → Builder → Option Char → Reader (Option Char × Builder)
  | 0, _, builder, c? => return (c?, builder)
  | fuel + 1, isLineStart, builder, c? => do
    let c? ← match document?, isLineStart with
      | some awaited, true => lineOfDocument awaited c?
      | _, _ => pure c?
    match c? with
    | none => return (none, builder)
    | some c =>
      match ← take nested document?.isSome builder c with
      | none => return (c?, builder)
      | some builder =>
        let following? ← if builder.level.mode = .single then next else joined
        readOn nested document? fuel (c = '\n') builder following?

/-- Reads the documents that follow the end of a line. -/
def readDocuments (nested : Bool → Reader Script) : Reader Unit := do
  let awaited := (← get).awaited
  modify fun state => { state with awaited := [] }
  awaited.forM fun awaited => do
    let (mode, c?) ←
      if awaited.isLiteral then do pure (Mode.single, ← next) else do pure (Mode.double, ← joined)
    let (_, builder) ← readOn nested (some awaited) (← charactersLeft) true
      { level := { mode, isDouble := mode = .double } } c?
    modify fun state =>
      { state with documents := (awaited.number, builder.pieces.reverse) :: state.documents }

def redirectionKind (sign : Char) : Reader RedirectionKind := do
  let other (kind : RedirectionKind) (c? : Option Char) : Reader RedirectionKind := do
    putBack c?
    return kind
  match sign, ← joined with
  | '>', some '>' => return .file .append
  | '>', some '|' => return .file .overwrite
  | '>', some '&' => return .duplicate true
  | '>', c? => other (.file .write) c?
  | _, some '<' =>
    match ← joined with
    | some '-' => return .document true
    | c? => other (.document false) c?
  | _, some '&' => return .duplicate false
  | _, some '>' => return .file .readWrite
  | _, c? => other (.file .read) c?

def note (token : Token) : Reader Token := do
  modify fun state => { state with token }
  return token

/-- Reads a word, of which the first character is given. A digit right before a redirection belongs
to that. -/
def readWord (nested : Bool → Reader Script) (first? : Option Char) : Reader Token := do
  let (c?, builder) ←
    readOn nested none ((← charactersLeft) + 1) false { level := { mode := .base } } first?
  if builder.level.mode = .arithmetic then refuse "Missing '))'"
  if builder.level.mode ≠ .base then refuse "Unterminated quoted string"
  if builder.level.braces ≠ 0 then refuse "Missing '\x7d'"
  let pieces := builder.pieces.reverse
  let descriptor? := match pieces with
    | [] => some none
    | [.char d false] => if d.isDigit then some (some (d.toNat - '0'.toNat)) else none
    | _ => none
  let isRedirection := (c? = some '>' || c? = some '<') && !builder.isQuoted
  match descriptor?, c?, isRedirection with
  | some digit?, some sign, true =>
    let kind ← redirectionKind sign
    let descriptor := digit?.getD (if sign = '>' then 1 else 0)
    modify fun state => { state with redirection := (descriptor, kind) }
    note .redirection
  | _, _, _ =>
    putBack c?
    modify fun state => { state with word := pieces, isQuoted := builder.isQuoted }
    note .word

def skipComment : (fuel : Nat) → Reader Unit
  | 0 => return
  | fuel + 1 => do
    match ← next with
    | none => return
    | some '\n' => putBack (some '\n')
    | some _ => skipComment fuel

def once (sign : Char) (single double : Token) : Reader Token := do
  let c? ← joined
  if c? = some sign then note double
  else
    putBack c?
    note single

/-- Reads a token; a keyword or an alias is a word. -/
def plainToken (nested : Bool → Reader Script) : (fuel : Nat) → Reader Token
  | 0 => note .endOfFile
  | fuel + 1 => do
    let state ← get
    if state.isPutBack then
      set { state with isPutBack := false }
      return state.token
    match ← joined with
    | none => note .endOfFile
    | some c =>
      match c with
      | ' ' | '\t' => plainToken nested fuel
      | '#' =>
        skipComment (← charactersLeft)
        plainToken nested fuel
      | '\n' =>
        countLine
        note .newline
      | '&' => once '&' .background .both
      | '|' => once '|' .pipe .either
      | ';' => once ';' .semicolon .endCase
      | '(' => note .leftParenthesis
      | ')' => note .rightParenthesis
      | _ => readWord nested (some c)

def afterLines (nested : Bool → Reader Script) : (fuel : Nat) → Token → Reader Token
  | 0, token => return token
  | fuel + 1, token =>
    if token = .newline then do
      readDocuments nested
      expect {}
      let token ← plainToken nested (← charactersLeft)
      afterLines nested fuel token
    else return token

/-- Reads a token. What is looked for in it is looked for in this one alone. -/
def tokenWith (nested : Bool → Reader Script) : (fuel : Nat) → Expected → Reader Token
  | 0, _ => note .endOfFile
  | fuel + 1, expected => do
    let token ← plainToken nested (← charactersLeft)
    let token ← if expected.skipsNewlines then afterLines nested (← charactersLeft) token
      else pure token
    let state ← get
    let expected :=
      { expected with
        keywords := expected.keywords || state.expected.keywords
        aliases := expected.aliases || state.expected.aliases }
    set { state with expected := {} }
    match token, state.isQuoted, state.word.literal? with
    | .word, false, some text =>
      let keyword? := if expected.keywords then Keyword.ofText? text else none
      let alias? :=
        if expected.aliases && !(state.inserted.any fun inserted => inserted.name = text) then
          state.aliases.lookup text
        else none
      match keyword?, alias? with
      | some keyword, _ => note (.keyword keyword)
      | none, some replacement =>
        let cs := replacement.toList
        let endsInBlank := cs.getLast?.any fun c => c = ' ' || c = '\t'
        if !cs.isEmpty then
          modify fun state =>
            { state with
              rest := cs
              inserted := ⟨text, state.rest, endsInBlank⟩ :: state.inserted }
        tokenWith nested fuel expected
      | none, none => return token
    | _, _, _ => return token

/-- How many aliases may follow one another in the place of one word. -/
def aliasLimit : Nat := 1000000

def token (nested : Bool → Reader Script) : Reader Token := do
  tokenWith nested aliasLimit (← get).expected

end Reader

end MutationTesting.Shell
