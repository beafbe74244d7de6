import MutationTesting.Regex.Reader
/-! Scripts for editing lines: steps with the lines to which they apply. -/
namespace MutationTesting.Shell.Utility.Sed

inductive Address where
  | line (number : Nat)
  /-- Every so many lines, from one on. -/
  | every (first step : Nat)
  | last
  /-- The lines that fit an expression; without one it is the last one that was used. -/
  | fits (expression? : Option Regex.Expression)

/-- What tells the last line of a range. -/
inductive Bound where
  | address (address : Address)
  /-- So many lines behind the first one. -/
  | more (count : Nat)
  /-- The next line with a number that is a multiple. -/
  | multiple (factor : Nat)

/-- How the letters of a replacement are changed. -/
inductive Casing where
  | plain
  | upper
  | lower
  deriving Repr, DecidableEq

inductive Part where
  | text (cs : List Char)
  | group (number : Nat)
  /-- The letters that follow are changed. -/
  | casing (casing : Casing)
  /-- The next letter is changed. -/
  | nextCasing (casing : Casing)
  deriving Repr, DecidableEq

/-- What takes the place of what fits an expression. -/
structure Substitution where
  expression? : Option Regex.Expression
  parts : List Part
  /-- The number of the first match that is replaced. -/
  first : Nat := 1
  isGlobal : Bool := false
  prints : Bool := false
  evaluates : Bool := false
  file? : Option String := none

inductive Action where
  /-- The steps up to the one of a number belong together. -/
  | opening (stop : Nat)
  | closing
  | label (name : String)
  | append (text : String)
  | insert (text : String)
  | change (text : String)
  | delete
  | deleteFirst
  | execute (command : String)
  | showName
  | get
  | getMore
  | hold
  | holdMore
  | list (width? : Option Nat)
  | next
  | nextMore
  | print
  | printFirst
  | quit (code : Nat)
  | quitSilently (code : Nat)
  | readFile (path : String)
  | readLine (path : String)
  | substitute (substitution : Substitution)
  | branch (label : String)
  | branchIf (label : String)
  | branchUnless (label : String)
  | write (path : String)
  | writeFirst (path : String)
  | exchange
  | translate (table : List (Char × Char))
  | zap
  | showNumber
  | nothing

/-- A step with the lines to which it applies. -/
structure Step where
  first? : Option Address := none
  bound? : Option Bound := none
  isNegated : Bool := false
  action : Action

instance : Inhabited Step := ⟨{ action := .nothing }⟩

structure Script where
  steps : Array Step := #[]
  /-- Whether its text says that lines are not shown by themselves. -/
  isSilent : Bool := false

def Script.labelAt? (script : Script) (name : String) : Option Nat :=
  script.steps.findIdx? fun step =>
    match step.action with
    | .label other => other = name
    | _ => false

/-- The characters that escapes in a text stand for: control characters and codes. With `isText`
a line break can be written as well, and other escaped characters stand for themselves. -/
def unescaped (isText : Bool) : (fuel : Nat) → List Char → List Char
  | 0, cs => cs
  | _, [] => []
  | _, ['\\'] => ['\\']
  | fuel + 1, '\\' :: c :: rest =>
    let one (c : Char) (rest : List Char) : List Char := c :: unescaped isText fuel rest
    let code (base most : Nat) (isDigit : Char → Bool) : List Char :=
      let digits := (rest.take most).takeWhile isDigit
      if digits.isEmpty then '\\' :: one c rest
      else
        let value := digits.foldl (fun value c =>
          value * base + (if c.isDigit then c.toNat - '0'.toNat
            else c.toLower.toNat - 'a'.toNat + 10)) 0
        one (Char.ofNat (value % 256)) (rest.drop digits.length)
    match c with
    | 'a' => one '\x07' rest
    | 'f' => one '\x0c' rest
    | 'r' => one '\r' rest
    | 't' => one '\t' rest
    | 'v' => one '\x0b' rest
    | 'n' => if isText then one '\n' rest else '\\' :: one 'n' rest
    | 'c' =>
      match rest with
      | d :: rest => one (Char.ofNat (d.toUpper.toNat ^^^ 64)) rest
      | [] => ['\\', 'c']
    | 'd' => code 10 3 Char.isDigit
    | 'o' => code 8 3 fun c => '0' ≤ c && c ≤ '7'
    | 'x' => code 16 2 fun c => c.isDigit || ('a' ≤ c.toLower && c.toLower ≤ 'f')
    | c => if isText then one c rest else '\\' :: one c rest
  | fuel + 1, c :: rest => c :: unescaped isText fuel rest

/-! The texts of scripts for editing lines. -/

/-- What is left of a text, and how much of it has been taken. -/
structure Cursor where
  rest : List Char
  taken : Nat := 0
  lines : Nat := 1
  isExtended : Bool := false
  /-- The steps so far, the last one first. -/
  steps : List Step := []
  /-- The numbers of the steps whose braces are open. -/
  opened : List Nat := []
  /-- The command for which a text is still to come. -/
  waiting? : Option Char := none
  isSilent : Bool := false
  isFirst : Bool := true

/-- What is wrong with a script, and whether that is at a place. -/
inductive Fault where
  | here (message : String)
  | nowhere (message : String)
  | whole (message : String)

/-- Reading of scripts; the cursor tells where something is wrong. -/
abbrev Read := ExceptT Fault (StateM Cursor)

namespace Read

def bad (message : String) : Read α :=
  throw (.here message)

def next : Read (Option Char) := do
  let cursor ← get
  match cursor.rest with
  | [] => return none
  | c :: rest =>
    set { cursor with
      rest, taken := cursor.taken + 1
      lines := if c = '\n' then cursor.lines + 1 else cursor.lines }
    return some c

def peek : Read (Option Char) := do
  return (← get).rest.head?

/-- Takes characters as long as they are of some kind. -/
def takeWhile (holds : Char → Bool) : Read (List Char) := do
  let cursor ← get
  let taken := cursor.rest.takeWhile holds
  set { cursor with
    rest := cursor.rest.drop taken.length
    taken := cursor.taken + taken.length
    lines := cursor.lines + taken.count '\n' }
  return taken

def isBlank (c : Char) : Bool :=
  c = ' ' || c = '\t'

/-- Takes the next character that is not blank. -/
def nextVisible : Read (Option Char) := do
  let _ ← takeWhile isBlank
  next

/-- Looks at the next character that is not blank. -/
def peekVisible : Read (Option Char) := do
  let _ ← takeWhile isBlank
  peek

def number : Read Nat := do
  let digits ← takeWhile Char.isDigit
  return digits.foldl (fun value c => value * 10 + (c.toNat - '0'.toNat)) 0

/-- Takes brackets behind their opening sign, for which `found` are the characters so far, the last
one first. Yields them unless the text ends before. -/
def brackets : (fuel : Nat) → (isFirst : Bool) → (found : List Char) → Read (Option (List Char))
  | 0, _, _ => return none
  | fuel + 1, isFirst, found => do
    match ← next with
    | none | some '\n' => return none
    | some ']' =>
      if isFirst then brackets fuel false (']' :: found) else return some (']' :: found)
    | some '^' => brackets fuel (isFirst && found.head? = some '[') ('^' :: found)
    | some '\\' =>
      if (← peek) = some 'n' then
        let _ ← next
        brackets fuel false ('\n' :: found)
      else brackets fuel false ('\\' :: found)
    | some '[' =>
      match ← peek with
      | some sign =>
        if sign = ':' || sign = '.' || sign = '=' then
          let _ ← next
          match ← named fuel sign (sign :: '[' :: found) with
          | some found => brackets fuel false found
          | none => return none
        else brackets fuel false ('[' :: found)
      | none => return none
    | some c => brackets fuel false (c :: found)
where
  /-- Takes a name in brackets up to its end. -/
  named : (fuel : Nat) → (sign : Char) → (found : List Char) → Read (Option (List Char))
    | 0, _, _ => return none
    | fuel + 1, sign, found => do
      match ← next with
      | none | some '\n' => return none
      | some c =>
        if c = sign && (← peek) = some ']' then
          let _ ← next
          return some (']' :: c :: found)
        else named fuel sign (c :: found)

/-- Takes a text up to a sign. Yields it unless the script or its line ends before. -/
def upTo (sign : Char) (isExpression : Bool) : (fuel : Nat) → (found : List Char) →
    Read (Option (List Char))
  | 0, _ => return none
  | fuel + 1, found => do
    if (← peek) = some '\n' then return none
    match ← next with
    | none => return none
    | some c =>
      if c = sign then return some found.reverse
      else if c = '\\' then
        match ← next with
        | none => return none
        | some d =>
          if d = 'n' && isExpression then upTo sign isExpression fuel ('\n' :: found)
          else if d = '\n' || (d = sign && (isExpression || d ≠ '&')) then
            upTo sign isExpression fuel (d :: found)
          else upTo sign isExpression fuel (d :: '\\' :: found)
      else if c = '[' && isExpression then
        match ← brackets (← get).rest.length true ('[' :: found) with
        | some found => upTo sign isExpression fuel found
        | none => return none
      else upTo sign isExpression fuel (c :: found)

def text (sign : Char) (isExpression : Bool) : Read (Option (List Char)) := do
  upTo sign isExpression ((← get).rest.length + 1) []

def expression (text : List Char) (foldsCase splitsLines : Bool) :
    Read (Option Regex.Expression) := do
  if text.isEmpty then
    if foldsCase || splitsLines then bad "cannot specify modifiers on empty regexp"
    return none
  let isExtended := (← get).isExtended
  let dialect : Regex.Dialect := {
    isExtended, foldsCase, splitsLines
    leading := if isExtended then .refused else .plain
    refusesTwice := !isExtended
    refusesLeadingInterval := !isExtended }
  match Regex.Expression.ofText dialect (unescaped false (text.length + 1) text) with
  | .ok expression => return some expression
  | .error .classSyntax => throw (.whole Regex.Refusal.classSyntax.message)
  | .error refusal => bad refusal.message

def expressionFlags : (fuel : Nat) → (foldsCase splitsLines : Bool) → Read (Bool × Bool)
  | 0, foldsCase, splitsLines => return (foldsCase, splitsLines)
  | fuel + 1, foldsCase, splitsLines => do
    match ← peekVisible with
    | some 'I' =>
      let _ ← next
      expressionFlags fuel true splitsLines
    | some 'M' =>
      let _ ← next
      expressionFlags fuel foldsCase true
    | _ => return (foldsCase, splitsLines)

/-- What tells a line, or the last one of a range, if that comes next. -/
def bound? : Read (Option Bound) := do
  let fits (sign : Char) : Read (Option Bound) := do
    match ← text sign true with
    | none => bad "unterminated address regex"
    | some text =>
      let (foldsCase, splitsLines) ← expressionFlags (text.length + 1) false false
      return some (.address (.fits (← expression text foldsCase splitsLines)))
  match ← peek with
  | some '/' =>
    let _ ← next
    fits '/'
  | some '\\' =>
    let _ ← next
    match ← next with
    | some sign => fits sign
    | none => bad "unterminated address regex"
  | some '$' =>
    let _ ← next
    return some (.address .last)
  | some '+' =>
    let _ ← next
    let _ ← takeWhile isBlank
    return some (.more (← number))
  | some '~' =>
    let _ ← next
    let _ ← takeWhile isBlank
    return some (.multiple (← number))
  | some c =>
    if !c.isDigit then return none
    let first ← number
    match ← peekVisible with
    | some '~' =>
      let _ ← next
      let _ ← takeWhile isBlank
      let step ← number
      return some (.address (if step = 0 then .line first else .every first step))
    | _ => return some (.address (.line first))
  | none => return none

def endOfCommand : Read Unit := do
  match ← peekVisible with
  | none | some '\x7d' | some '#' => return
  | some c =>
    let _ ← next
    if c ≠ '\n' && c ≠ ';' then bad "extra characters after command"

/-- The lines of a text that is added, up to one that does not end with a backslash. -/
def lines : (fuel : Nat) → (found : List Char) → Read (List Char)
  | 0, found => return found.reverse
  | fuel + 1, found => do
    match ← next with
    | none | some '\n' => return found.reverse
    | some '\\' =>
      match ← next with
      | none => return found.reverse
      | some c => lines fuel (c :: '\\' :: found)
    | some c => lines fuel (c :: found)

def addedText : Read String := do
  let found ← lines ((← get).rest.length + 1) []
  return String.ofList (unescaped true (found.length + 1) found ++ ['\n'])

def addition (letter : Char) (text : String) : Action :=
  match letter with
  | 'a' => .append text
  | 'i' => .insert text
  | _ => .change text

/-- Takes the text of a command that adds one. Without a result it comes with the next part of the
script. -/
def addedAction (letter : Char) : Read (Option Action) := do
  match ← peekVisible with
  | none => bad "expected \\ after \x60a', \x60c' or \x60i'"
  | some '\\' =>
    let _ ← next
    match ← peek with
    | none => return none
    | some c =>
      if c = '\n' then
        let _ ← next
      return some (addition letter (← addedText))
  | some _ => return some (addition letter (← addedText))

def labelName : Read String := do
  let _ ← takeWhile isBlank
  return String.ofList (← takeWhile fun c => !Regex.isSpace c && c ≠ ';' && c ≠ '\x7d')

/-- The name of a file up to the end of the line. -/
def fileName : Read String := do
  let _ ← takeWhile isBlank
  let name ← takeWhile (· ≠ '\n')
  let _ ← next
  if name.isEmpty then bad "missing filename in r/R/w/W commands"
  return String.ofList name

def parts : (fuel : Nat) → (found : List Char) → List Char → List Part
  | 0, _, _ => []
  | fuel + 1, found, cs =>
    let done : List Part := if found.isEmpty then [] else [.text found.reverse]
    match cs with
    | [] => done
    | '&' :: rest => done ++ .group 0 :: parts fuel [] rest
    | '\\' :: 'L' :: rest => done ++ .casing .lower :: parts fuel [] rest
    | '\\' :: 'U' :: rest => done ++ .casing .upper :: parts fuel [] rest
    | '\\' :: 'E' :: rest => done ++ .casing .plain :: parts fuel [] rest
    | '\\' :: 'l' :: rest => done ++ .nextCasing .lower :: parts fuel [] rest
    | '\\' :: 'u' :: rest => done ++ .nextCasing .upper :: parts fuel [] rest
    | '\\' :: c :: rest =>
      if c.isDigit then done ++ .group (c.toNat - '0'.toNat) :: parts fuel [] rest
      else
        match unescaped true 2 ['\\', c] with
        | [d] =>
          if c = 'c' || c = 'd' || c = 'o' || c = 'x' then
            match unescaped true ((rest.take 3).length + 2) ('\\' :: c :: rest.take 3) with
            | e :: left => parts fuel (e :: found) (left ++ rest.drop 3)
            | [] => done
          else parts fuel (d :: found) rest
        | _ =>
          match unescaped true 1 ('\\' :: c :: rest.take 3) with
          | '\\' :: _ => parts fuel (c :: found) rest
          | e :: left => parts fuel (e :: found) (left ++ rest.drop 3)
          | [] => done
    | c :: rest => parts fuel (c :: found) rest

def highestGroup (parts : List Part) : Nat :=
  parts.foldl (fun highest part =>
    match part with
    | .group number => max highest number
    | _ => highest) 0

structure Flags where
  first? : Option Nat := none
  isGlobal : Bool := false
  prints : Bool := false
  evaluates : Bool := false
  foldsCase : Bool := false
  splitsLines : Bool := false
  file? : Option String := none

def substitutionFlags : (fuel : Nat) → Flags → Read Flags
  | 0, flags => return flags
  | fuel + 1, flags => do
    match ← peek with
    | none | some '\x7d' | some '#' => return flags
    | some c =>
      if c.isDigit then
        if c = '0' then
          let _ ← next
          if flags.first?.isSome then bad "multiple number options to \x60s' command"
          let n ← number
          if n = 0 then bad "number option to \x60s' command may not be zero"
          substitutionFlags fuel { flags with first? := some n }
        else
          if flags.first?.isSome then
            let _ ← next
            bad "multiple number options to \x60s' command"
          substitutionFlags fuel { flags with first? := some (← number) }
      else
        let _ ← next
        match c with
        | '\n' | ';' => return flags
        | ' ' | '\t' => substitutionFlags fuel flags
        | 'i' | 'I' => substitutionFlags fuel { flags with foldsCase := true }
        | 'm' | 'M' => substitutionFlags fuel { flags with splitsLines := true }
        | 'e' => substitutionFlags fuel { flags with evaluates := true }
        | 'p' =>
          if flags.prints then bad "multiple \x60p' options to \x60s' command"
          substitutionFlags fuel { flags with prints := true }
        | 'g' =>
          if flags.isGlobal then bad "multiple \x60g' options to \x60s' command"
          substitutionFlags fuel { flags with isGlobal := true }
        | 'w' => return { flags with file? := some (← fileName) }
        | _ => bad "unknown option to \x60s'"

def substitution : Read Action := do
  let unterminated : Read Action := bad "unterminated \x60s' command"
  match ← next with
  | none => unterminated
  | some sign =>
    match ← text sign true with
    | none => unterminated
    | some pattern =>
      match ← text sign false with
      | none => unterminated
      | some replacement =>
        let flags ← substitutionFlags ((← get).rest.length + 1) {}
        let expression? ← expression pattern flags.foldsCase flags.splitsLines
        let parts := parts (replacement.length + 1) [] replacement
        match expression? with
        | some expression =>
          if expression.groups < highestGroup parts then
            bad s!"invalid reference \\{highestGroup parts} on \x60s' command's RHS"
        | none => pure ()
        return .substitute {
          expression?, parts
          first := flags.first?.getD 1
          isGlobal := flags.isGlobal
          prints := flags.prints
          evaluates := flags.evaluates
          file? := flags.file? }

def letters : List Char → List Char
  | '\\' :: 'n' :: rest => '\n' :: letters rest
  | '\\' :: c :: rest => c :: letters rest
  | c :: rest => c :: letters rest
  | [] => []

def letterExchange : Read Action := do
  let unterminated : Read Action := bad "unterminated \x60y' command"
  match ← next with
  | none => unterminated
  | some sign =>
    match ← text sign false with
    | none => unterminated
    | some old =>
      match ← text sign false with
      | none => unterminated
      | some new =>
        let read (cs : List Char) : List Char := letters (unescaped false (cs.length + 1) cs)
        let (old, new) := (read old, read new)
        if old.length ≠ new.length then
          bad "strings for \x60y' command are different lengths"
        endOfCommand
        return .translate (old.zip new)

def action (letter : Char) (hasBound : Bool) : Read (Option Action) := do
  let plain (action : Action) : Read (Option Action) := do
    endOfCommand
    return some action
  let counted : Read (Option Nat) := do
    match ← peekVisible with
    | some c => if c.isDigit then return some (← number) else return none
    | none => return none
  let one : Read Unit := do
    if hasBound then bad "command only uses one address"
  match letter with
  | '=' => plain .showNumber
  | 'd' => plain .delete
  | 'D' => plain .deleteFirst
  | 'F' => plain .showName
  | 'g' => plain .get
  | 'G' => plain .getMore
  | 'h' => plain .hold
  | 'H' => plain .holdMore
  | 'n' => plain .next
  | 'N' => plain .nextMore
  | 'p' => plain .print
  | 'P' => plain .printFirst
  | 'x' => plain .exchange
  | 'z' => plain .zap
  | 'l' =>
    let width? ← counted
    plain (.list width?)
  | 'q' =>
    one
    let code? ← counted
    plain (.quit (code?.getD 0))
  | 'Q' =>
    one
    let code? ← counted
    plain (.quitSilently (code?.getD 0))
  | 'a' | 'i' | 'c' => addedAction letter
  | 'e' =>
    let _ ← takeWhile isBlank
    let command ← takeWhile (· ≠ '\n')
    let _ ← next
    return some (.execute (String.ofList command))
  | 'r' => return some (.readFile (← fileName))
  | 'R' => return some (.readLine (← fileName))
  | 'w' => return some (.write (← fileName))
  | 'W' => return some (.writeFirst (← fileName))
  | 's' => return some (← substitution)
  | 'y' => return some (← letterExchange)
  | 'b' =>
    let name ← labelName
    plain (.branch name)
  | 't' =>
    let name ← labelName
    plain (.branchIf name)
  | 'T' =>
    let name ← labelName
    plain (.branchUnless name)
  | 'v' =>
    let _ ← labelName
    plain .nothing
  | c => bad s!"unknown command: \x60{c}'"

def addStep (step : Step) : Read Unit :=
  modify fun cursor => { cursor with steps := step :: cursor.steps }

/-- Takes the text of a command that has begun in the part before. -/
def waitingText : Read Unit := do
  match (← get).waiting? with
  | none => return
  | some letter =>
    modify fun cursor => { cursor with waiting? := none }
    if (← get).rest.isEmpty then return
    let action := addition letter (← addedText)
    modify fun cursor =>
      { cursor with
        steps := match cursor.steps with
          | step :: rest => { step with action } :: rest
          | [] => [] }

/-- The lines to which a command applies. -/
def addresses : Read (Option Address × Option Bound) := do
  match ← bound? with
  | none => return (none, none)
  | some (.more _) | some (.multiple _) => bad "invalid usage of +N or ~N as first address"
  | some (.address first) =>
    let bound? ← do
      if (← peekVisible) = some ',' then
        let _ ← next
        let _ ← takeWhile isBlank
        match ← bound? with
        | none =>
          let _ ← next
          bad "unexpected \x60,'"
        | found => pure found
      else pure none
    let fitsFirst := match bound? with
      | some (.address (.fits _)) => true
      | _ => false
    match first, fitsFirst with
    | .line 0, false =>
      let _ ← nextVisible
      bad "invalid usage of line address 0"
    | _, _ => return (some first, bound?)

def steps : (fuel : Nat) → Read Unit
  | 0 => return
  | fuel + 1 => do
    let _ ← takeWhile fun c => c = ';' || Regex.isSpace c
    if (← get).rest.isEmpty then return
    let (first?, bound?) ← addresses
    let letter? ← nextVisible
    let (isNegated, letter?) ← do
      if letter? = some '!' then
        let letter? ← nextVisible
        if letter? = some '!' then bad "multiple \x60!'s"
        pure (true, letter?)
      else pure (false, letter?)
    match letter? with
    | none => bad "missing command"
    | some '#' =>
      if first?.isSome then bad "comments don't accept any addresses"
      let cursor ← get
      let comment ← takeWhile (· ≠ '\n')
      if cursor.isFirst && cursor.taken = 1 && comment = ['n'] then
        modify fun cursor => { cursor with isSilent := true }
    | some ':' =>
      if first?.isSome then bad ": doesn't want any addresses"
      let name ← labelName
      if name = "" then bad "\":\" lacks a label"
      addStep { action := .label name }
    | some '\x7b' =>
      let number := (← get).steps.length
      modify fun cursor => { cursor with opened := number :: cursor.opened }
      addStep { first?, bound?, isNegated, action := .opening 0 }
    | some '\x7d' =>
      match (← get).opened with
      | [] => bad "unexpected \x60\x7d'"
      | number :: opened =>
        if first?.isSome then bad "\x7d doesn't want any addresses"
        endOfCommand
        modify fun cursor =>
          let count := cursor.steps.length
          { cursor with
            opened
            steps := { action := .closing : Step } ::
              cursor.steps.modify (count - 1 - number) fun step =>
                { step with action := .opening count } }
    | some letter =>
      match ← action letter bound?.isSome with
      | some action => addStep { first?, bound?, isNegated, action }
      | none =>
        modify fun cursor => { cursor with waiting? := some letter }
        addStep { first?, bound?, isNegated, action := addition letter "" }
    steps fuel

end Read

/-- A part of a script: a text, with what names it. -/
structure Portion where
  text : List Char
  /-- The number of the expression, or the name of the file. -/
  source : Nat ⊕ String

def Fault.message (source : Nat ⊕ String) (cursor : Cursor) : Fault → String
  | .here text =>
    match source with
    | .inl number => s!"-e expression #{number}, char {cursor.taken}: {text}"
    | .inr name => s!"file {name} line {cursor.lines}: {text}"
  | .nowhere text => s!"-e expression #1, char 0: {text}"
  | .whole text => text

def Fault.code : Fault → Nat
  | .whole _ => 4
  | _ => 1

/-- The labels to which steps go that are not there. -/
def missingLabel? (script : Script) : Option String :=
  script.steps.toList.findSome? fun step =>
    match step.action with
    | .branch name | .branchIf name | .branchUnless name =>
      if name = "" || (script.labelAt? name).isSome then none else some name
    | _ => none

/-- The script that portions are, or what is wrong with it and the exit code. -/
def Script.ofPortions (isExtended : Bool) (portions : List Portion) :
    Except (String × Nat) Script := do
  let cursor ← portions.foldlM (fun cursor portion =>
    let start : Cursor := { cursor with rest := portion.text, taken := 0, lines := 1 }
    let read : Read Unit := do
      Read.waitingText
      Read.steps (portion.text.length + 1)
    match read.run start with
    | (.ok (), cursor) => .ok { cursor with isFirst := false }
    | (.error fault, cursor) => .error (fault.message portion.source cursor, fault.code))
    ({ rest := [], isExtended } : Cursor)
  if !cursor.opened.isEmpty then
    throw ((Fault.nowhere "unmatched \x60\x7b'").message (.inl 1) cursor, 1)
  let script : Script := { steps := cursor.steps.reverse.toArray, isSilent := cursor.isSilent }
  match missingLabel? script with
  | some name => throw (s!"can't find label for jump to \x60{name}'", 4)
  | none => return script

end MutationTesting.Shell.Utility.Sed
