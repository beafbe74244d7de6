import MutationTesting.Regex.Rich
import MutationTesting.Shell.Number
import MutationTesting.Shell.Utility.Basic
/-! Lines that fit an expression. -/
namespace MutationTesting.Shell.Utility

inductive Wording where
  | basic
  | extended
  | fixed
  | rich
  deriving Repr, DecidableEq

namespace Grep

def dialect (isExtended foldsCase : Bool) : Regex.Dialect :=
  { isExtended, foldsCase
    leading := if isExtended then .skipped else .plain
    allowsNoInterval := isExtended
    allowsClosing := isExtended }

def fixedExpression (foldsCase : Bool) (text : List Char) : Regex.Expression :=
  { node := Regex.Node.all (text.map (Regex.charNode foldsCase)) }

/-- The texts of warnings that an extended expression deserves: operators where there is nothing
to repeat. -/
def warnings (text : List Char) : List String :=
  go true (text.length + 1) text
where
  go (mayStart : Bool) : (fuel : Nat) → List Char → List String
    | 0, _ => []
    | fuel + 1, text =>
      let dialect := Grep.dialect true false
      let (token, rest) := Regex.Token.at_ dialect mayStart text
      match token with
      | .stop => []
      | .bracket =>
        match Regex.bracketAt false false false (fun _ => none) rest with
        | .ok (_, rest) => go false fuel rest
        | .error _ => []
      | .opening | .or | .anchor _ => go true fuel rest
      | .star | .plus | .question =>
        let more := go mayStart fuel rest
        if mayStart then (String.singleton token.sign ++ " at start of expression") :: more
        else more
      | .openInterval =>
        match Regex.intervalAt dialect { rest } with
        | .ok (some (_, _, next)) =>
          let more := go mayStart fuel next.rest
          if mayStart then "\x7b...\x7d at start of expression" :: more else more
        | _ => go false fuel rest
      | _ => go false fuel rest

structure Style where
  wording : Wording := .basic
  foldsCase : Bool := false
  isNegated : Bool := false
  asWords : Bool := false
  asLines : Bool := false
  counts : Bool := false
  /-- Whether only the names of files with a match are shown, or of those without. -/
  names? : Option Bool := none
  isQuiet : Bool := false
  onlyMatches : Bool := false
  numbers : Bool := false
  offsets : Bool := false
  named : Bool := false
  tabs : Bool := false
  before : Nat := 0
  behind : Nat := 0
  /-- Whether stretches of lines have a separator between them. -/
  isSeparated : Bool := false
  limit? : Option Nat := none
  mark : Char := '\n'
  isText : Bool := false
  skipsBinary : Bool := false
  colors : Bool := false
  nameEnd : Char := '\n'
  separator? : Option String := some "--"
  label : String := "(standard input)"
  isSilent : Bool := false

/-- The expressions of patterns. All that is wrong with them is said. -/
def expressionsOf (style : Style) (patterns : List (List Char)) : Sh (List Regex.Expression) := do
  let read (pattern : List Char) : Except Regex.Refusal Regex.Expression :=
    match style.wording with
    | .fixed => .ok (fixedExpression style.foldsCase pattern)
    | .rich =>
      let pattern :=
        if style.asLines then "^(?:".toList ++ pattern ++ ")$".toList
        else if style.asWords then "(?<!\\w)(?:".toList ++ pattern ++ ")(?!\\w)".toList
        else pattern
      Regex.Expression.ofRichText style.foldsCase pattern
    | .basic => Regex.Expression.ofText (dialect false style.foldsCase) pattern
    | .extended => Regex.Expression.ofText (dialect true style.foldsCase) pattern
  let found := patterns.map read
  let refusals := found.filterMap fun result =>
    match result with
    | .error refusal => some refusal
    | .ok _ => none
  let early := refusals.filter (· ≠ .classSyntax)
  early.forM fun refusal => Sh.warn refusal.message
  if !early.isEmpty then throw (.exit 2)
  if style.wording = .extended then
    patterns.forM fun pattern => (warnings pattern).forM fun text => Sh.warn ("warning: " ++ text)
  if !refusals.isEmpty then Sh.fail 2 Regex.Refusal.classSyntax.message
  return found.filterMap Except.toOption

/-- Whether a stretch of a line has no part of a word beside it. -/
def standsAlone (characters : Array Char) (start stop : Nat) : Bool :=
  !(0 < start && (characters[start - 1]?).any Regex.isWordChar) &&
    !(characters[stop]?).any Regex.isWordChar

/-- The end of the match from a place on that the style asks for. -/
def stopAt? (style : Style) (expressions : List Regex.Expression) (line : Array Char)
    (place : Nat) : Option (Nat × Nat) :=
  let found := expressions.flatMap fun expression =>
    let all := (expression.matchesAt line place).map fun found => (found.start, found.stop)
    if expression.prefersLongest then all else all.take 1
  let longer (best? : Option (Nat × Nat)) (next : Nat × Nat) : Option (Nat × Nat) :=
    match best? with
    | some best => if best.2 < next.2 then some next else some best
    | none => some next
  if style.wording = .rich then found.head?
  else if style.asLines then found.find? fun (start, stop) => start = 0 && stop = line.size
  else if style.asWords then
    let longest? := found.foldl longer none
    (found.filter fun (start, stop) =>
      standsAlone line start stop && (start < stop || longest? = some (start, stop))).foldl
        longer none
  else found.foldl longer none

structure Finder where
  next? : Array Char → Nat → Option (Nat × Nat)

def Finder.ofExpressions (style : Style) (expressions : List Regex.Expression) : Finder :=
  let starts := expressions.map fun expression => expression.node.start
  let isEmpty := starts.any Prod.snd
  { next? := fun characters place =>
      let mayStart (place : Nat) : Bool :=
        isEmpty || (characters[place]?).any fun c => starts.any fun (holds, _) => holds c
      let rec go : (places place : Nat) → Option (Nat × Nat)
        | 0, _ => none
        | places + 1, place =>
          match if mayStart place then stopAt? style expressions characters place else none with
          | some found => some found
          | none => go places (place + 1)
      go (characters.size + 1 - place) place }

def Finder.all (finder : Finder) (line : Array Char) : (fuel place : Nat) → List (Nat × Nat)
  | 0, _ => []
  | fuel + 1, place =>
    match finder.next? line place with
    | none => []
    | some (start, stop) =>
      if stop ≤ start then finder.all line fuel (max place start + 1)
      else (start, stop) :: finder.all line fuel stop

def Style.paint (style : Style) (color text : String) : String :=
  if style.colors then
    "\x1b[" ++ color ++ "m\x1b[K" ++ text ++ "\x1b[m\x1b[K"
  else text

def Style.head (style : Style) (name : String) (number offset : Nat) (sign : String) : String :=
  let sign := style.paint "36" sign
  let wide (n width : Nat) : String :=
    let digits := toString n
    if style.tabs then String.ofList (List.replicate (width - digits.length) ' ') ++ digits
    else digits
  let fields :=
    (if style.named then
      [style.paint "35" name ++ if style.nameEnd = '\x00' then "\x00" else sign] else []) ++
    (if style.numbers then [style.paint "32" (wide number 2) ++ sign] else []) ++
    (if style.offsets then [style.paint "32" (wide offset 2) ++ sign] else [])
  String.join fields ++ if style.tabs && !fields.isEmpty then "\t" else ""

/-- A line with its matches in color. -/
def Style.body (style : Style) (finder : Finder) (line : Array Char) : String :=
  if !style.colors || style.isNegated then String.ofList line.toList
  else
    let matches_ := finder.all line (line.size + 1) 0
    let (shown, place) := matches_.foldl (fun (shown, place) (start, stop) =>
      (shown ++ String.ofList (line.extract place start).toList ++
        style.paint "01;31" (String.ofList (line.extract start stop).toList), stop)) ("", 0)
    shown ++ String.ofList (line.extract place line.size).toList

structure Line where
  text : Array Char
  number : Nat
  offset : Nat

/-- Where the showing of a file has come to. -/
structure Progress where
  shown : List String := []
  /-- The lines before this one that have not been shown, the last one first. -/
  waiting : List Line := []
  /-- How many lines are still to be shown behind a match. -/
  behind : Nat := 0
  /-- The number of the last line that has been shown. -/
  last? : Option Nat := none
  /-- Whether a line of this file or of one before has been shown. -/
  hasShown : Bool := false
  found : Nat := 0

/-- Shows lines of a file, up to so many matches. -/
def walk (style : Style) (finder : Finder) (name : String) : List Line → Progress → Progress
  | [], progress => progress
  | line :: rest, progress =>
    let isDone := style.limit? = some progress.found
    if isDone && progress.behind = 0 then progress
    else
      let isFound := !isDone && (finder.next? line.text 0).isSome != style.isNegated
      let mark := String.singleton style.mark
      let showPlain (line : Line) : String :=
        if style.onlyMatches then ""
        else style.head name line.number line.offset "-" ++ String.ofList line.text.toList ++ mark
      let isSeparated (number : Nat) : Bool :=
        style.isSeparated && progress.hasShown && progress.last?.all fun last => last + 1 < number
      let separator : List String := match style.separator? with
        | some text => [style.paint "36" text ++ "\n"]
        | none => []
      if isFound then
        let first := (progress.waiting.getLast?.map Line.number).getD line.number
        let shownMatches :=
          if style.onlyMatches then
            if style.isNegated then ""
            else String.join ((finder.all line.text (line.text.size + 1) 0).map fun (start, stop) =>
              style.head name line.number (line.offset + start) ":" ++
                style.paint "01;31" (String.ofList (line.text.extract start stop).toList) ++ mark)
          else
            style.head name line.number line.offset ":" ++ style.body finder line.text ++ mark
        let shown := (if isSeparated first then separator else []) ++
          progress.waiting.reverse.map showPlain ++ [shownMatches]
        walk style finder name rest
          { shown := shown.reverse ++ progress.shown, waiting := [], behind := style.behind
            last? := some line.number, hasShown := true, found := progress.found + 1 }
      else if 0 < progress.behind then
        walk style finder name rest
          { progress with
            shown := showPlain line :: progress.shown, behind := progress.behind - 1
            last? := some line.number }
      else
        walk style finder name rest
          { progress with waiting := (line :: progress.waiting).take style.before }

def countFound (style : Style) (finder : Finder) (limit? : Option Nat) : List Line →
    (found : Nat) → Nat
  | [], found => found
  | line :: rest, found =>
    if limit?.any (· ≤ found) then found
    else
      let isFound := (finder.next? line.text 0).isSome != style.isNegated
      countFound style finder limit? rest (if isFound then found + 1 else found)

def numbered (mark : Char) (text : String) : List Line :=
  let (lines, _, _) := (linesEndedBy mark text).foldl (fun (lines, number, offset) line =>
    let text := line.toList.toArray
    (⟨text, number, offset⟩ :: lines, number + 1, offset + text.size + 1))
      (([] : List Line), 1, 0)
  lines.reverse

/-- Looks for lines in a content. Yields whether there are some. -/
def searchIn (style : Style) (finder : Finder) (name : String) (hasShown : Bool)
    (content : String) : Sh Bool := do
  let isBinary := !style.isText && style.mark = '\n' && content.toList.contains '\x00'
  if isBinary && style.skipsBinary then return false
  let content :=
    if isBinary then content.map fun c => if c = '\x00' then '\n' else c else content
  let lines := numbered style.mark content
  if style.isQuiet then
    return 0 < countFound style finder (some (min 1 (style.limit?.getD 1))) lines 0
  if style.counts || style.names?.isSome then
    let limit? := if style.counts then style.limit? else some (min 1 (style.limit?.getD 1))
    let found := countFound style finder limit? lines 0
    if style.counts && style.names?.isNone then
      let sign := if style.nameEnd = '\x00' then "\x00" else style.paint "36" ":"
      let lead := if style.named then style.paint "35" name ++ sign else ""
      Sh.say (lead ++ toString found ++ "\n")
    match style.names? with
    | some wanted =>
      if wanted = decide (0 < found) then
        Sh.say ((style.paint "35" name).push style.nameEnd)
    | none => pure ()
    return 0 < found
  if isBinary then
    let found := countFound style finder (some (min 1 (style.limit?.getD 1))) lines 0
    if 0 < found then Sh.warn (name ++ ": binary file matches")
    return 0 < found
  let progress := walk style finder name lines { hasShown }
  Sh.say (String.join progress.shown.reverse)
  return 0 < progress.found

inductive OnDirectory where
  | read
  | skip
  | enter
  deriving Repr, DecidableEq

/-- Which files are looked at on the way through directories. -/
structure Selection where
  onDirectory : OnDirectory := .read
  included : List String := []
  excluded : List String := []
  excludedDirectories : List String := []

def fitsAny (patterns : List String) (name : String) : Bool :=
  patterns.any fun pattern => Pattern.fits pattern.toList name.toList

/-- Whether a file of a name is looked at. -/
def Selection.takes (selection : Selection) (name : String) : Bool :=
  let base := ((piecesAt '/' name).getLast?).getD name
  if fitsAny selection.excluded base || fitsAny selection.excluded name then false
  else selection.included.isEmpty || fitsAny selection.included base ||
    fitsAny selection.included name

def filesBelow (selection : Selection) : (fuel : Nat) → (path : String) → Entry → List String
  | 0, _, _ => []
  | fuel + 1, path, entry =>
    match entry with
    | .file _ => [path]
    | .directory entries => entries.flatMap fun (name, inner) =>
      let name := String.ofList (Text.narrow name)
      let below := if path = "" then name
        else if path.back = '/' then path ++ name else path ++ "/" ++ name
      if inner.isDirectory then
        if fitsAny selection.excludedDirectories name then []
        else filesBelow selection fuel below inner
      else if selection.takes name then [below] else []

/-- How deep directories may lie in each other. -/
def depthLimit : Nat := 2000

end Grep

open Grep in
/-- Shows the lines of files that fit an expression. -/
def grepAs (wording : Wording) : Program := fun _ arguments => do
  let given ← Sh.takeAll 2 ("E,extended-regexp F,fixed-strings,fixed-regexp G,basic-regexp " ++
    "P,perl-regexp e:,regexp f:,file i,y,ignore-case no-ignore-case w,word-regexp x,line-regexp " ++
    "z,null-data s,no-messages v,invert-match V,version help m:,max-count b,byte-offset " ++
    "n,line-number line-buffered H,with-filename h,no-filename label: o,only-matching q,quiet," ++
    "silent binary-files: a,text I d:,directories D:,devices r,recursive R," ++
    "dereference-recursive include: exclude: exclude-from: exclude-dir: L,files-without-match " ++
    "l,files-with-matches c,count T,initial-tab Z,null A:,after-context B:,before-context " ++
    "C:,context color::,colour U,binary 0 1 2 3 4 5 6 7 8 9 u,unix-byte-offsets " ++
    "group-separator: no-group-separator") arguments
  let context (key : String) : Sh (Option Nat) := do
    match given.last? key with
    | none => return none
    | some text =>
      match text.toNat? with
      | some n => return some n
      | none => Sh.fail 2 (text ++ ": invalid context length argument")
  let digits := given.options.filterMap fun (key, _) =>
    match key.toList with
    | [c] => if c.isDigit then some c else none
    | _ => none
  let around ← context "C"
  let around := if digits.isEmpty then around else some (numberOfDigits digits)
  let behind ← context "A"
  let before ← context "B"
  let limit? ← match given.last? "m" with
    | none => pure none
    | some text =>
      match text.toList, text.toNat? with
      | _, some n => pure (some n)
      | '-' :: rest, none =>
        if rest.isEmpty || !rest.all Char.isDigit then Sh.fail 2 "invalid max count" else pure none
      | _, none => Sh.fail 2 "invalid max count"
  let given := match wording with
    | .extended => given.withOption "E" none
    | .fixed => given.withOption "F" none
    | _ => given
  let wordings := ["E", "F", "G", "P"]
  let asked : List String := (given.options.map Prod.fst).filter wordings.contains
  if 1 < asked.eraseDups.length then Sh.fail 2 "conflicting matchers specified"
  let wording := match given.latest? wordings with
    | some "E" => .extended
    | some "F" => .fixed
    | some "G" => .basic
    | some _ => .rich
    | none => wording
  let texts ← given.options.mapM fun (key, value?) => do
    match key, value? with
    | "e", some text => return [piecesAt '\n' text]
    | "f", some path =>
      match ← Sh.readInput .sample path with
      | .ok bytes => return [linesOf (textOfBytes bytes)]
      | .error reason => Sh.fail 2 (path ++ ": " ++ reason)
    | _, _ => return ([] : List (List String))
  let (patterns, paths) ← match texts.flatten, given.operands with
    | [], [] => Sh.usage 2
    | [], pattern :: paths => pure (piecesAt '\n' pattern, paths)
    | lists, paths => pure (lists.flatten, paths)
  if wording = .rich && 1 < patterns.length then
    Sh.fail 2 "the -P option only supports a single pattern"
  let recursive := given.has "r" || given.has "R" ||
    (given.last? "d").any fun text => text = "recurse"
  let onDirectory : OnDirectory :=
    if recursive then .enter
    else if given.last? "d" = some "skip" then .skip else .read
  let style : Style := {
    wording
    foldsCase := given.latest? ["i", "no-ignore-case"] = some "i"
    isNegated := given.has "v"
    asWords := given.has "w" && !given.has "x"
    asLines := given.has "x"
    counts := given.has "c"
    names? := (given.latest? ["l", "L"]).map fun key => decide (key = "l")
    isQuiet := given.has "q"
    onlyMatches := given.has "o"
    numbers := given.has "n"
    offsets := given.has "b"
    tabs := given.has "T"
    before := (before.or around).getD 0
    behind := (behind.or around).getD 0
    isSeparated := before.isSome || behind.isSome || around.isSome
    limit?
    mark := if given.has "z" then '\x00' else '\n'
    isText := given.has "a" || given.last? "binary-files" = some "text"
    skipsBinary := given.has "I" || given.last? "binary-files" = some "without-match"
    colors := given.last? "color" = some "always"
    nameEnd := if given.has "Z" then '\x00' else '\n'
    separator? := match given.latest? ["group-separator", "no-group-separator"] with
      | some "group-separator" => given.last? "group-separator"
      | some _ => none
      | none => some "--"
    label := (given.last? "label").getD "(standard input)"
    isSilent := given.has "s" }
  let selection : Selection := {
    onDirectory
    included := given.all "include"
    excluded := given.all "exclude"
    excludedDirectories := given.all "exclude-dir" }
  let expressions ← expressionsOf style (patterns.map String.toList)
  let fitsNothing :=
    if patterns.isEmpty then !style.isNegated
    else patterns.all String.isEmpty && style.isNegated && !style.asLines && !style.asWords
  if (limit? = some 0 || fitsNothing) && style.names? ≠ some false then return 1
  let finder := Finder.ofExpressions style expressions
  let given' := if paths.isEmpty then [if recursive then "" else "-"] else paths
  let named := match given.latest? ["H", "h"] with
    | some key => decide (key = "H")
    | none => recursive || 1 < given'.length
  let style := { style with named }
  let target? : Option Target := (← Sh.opened? 1).map fun (_, opened) => opened.target
  let one (hasShown : Bool) (path : String) : Sh (Option Bool) := do
    let name := if path = "-" then style.label else path
    match ← Sh.openInput path with
    | .error reason =>
      if !style.isSilent then Sh.warn (name ++ ": " ++ reason)
      return none
    | .ok (number, opened) =>
      let isOutput : Bool := match opened.target, target? with
        | .file a, some (.file b) => a = b && !style.isQuiet && style.names?.isNone && path ≠ "-"
        | _, _ => false
      if isOutput then
        if !style.isSilent then Sh.warn (name ++ ": input file is also the output")
        return none
      match ← Sh.readFrom number opened .sample with
      | .error reason =>
        if reason = "Is a directory" && onDirectory ≠ .read then return some false
        if !style.isSilent then Sh.warn (name ++ ": " ++ reason)
        return none
      | .ok (bytes, _) =>
        return some (← searchIn style finder name hasShown (textOfBytes bytes))
  let workspace ← Sh.workspace
  let files := given'.flatMap fun path =>
    if path ≠ "-" && onDirectory = .enter then
      match workspace.find (pathOf (if path = "" then "." else path)) with
      | .ok entry => filesBelow selection depthLimit path entry
      | .error _ => [path]
    else if path ≠ "-" && !selection.takes path then []
    else [path]
  let results ← files.foldlM (fun results path => do
    if style.isQuiet && results.contains (some true) then return results
    return results ++ [← one (results.contains (some true)) path]) ([] : List (Option Bool))
  let found := results.any fun result => result = some true
  let endsEarly := style.isQuiet || style.names?.isSome || style.limit?.isSome
  if !(endsEarly && found) then Sh.endIfEndless (given'.filter (· ≠ ""))
  return if results.any Option.isNone && !(style.isQuiet && found) then 2
    else if found then 0 else 1

def grep : Program := grepAs .basic

/-- The same program under another name, which fixes the wording; in messages it has its own. -/
def grepInOtherWords (wording : Wording) : Program := fun self arguments => do
  Sh.setProcess fun process => { process with command? := some "grep" }
  grepAs wording self arguments

/-- Shows lines that fit an extended expression. -/
def egrep : Program := grepInOtherWords .extended

def fgrep : Program := grepInOtherWords .fixed

end MutationTesting.Shell.Utility
