import MutationTesting.Shell.Command
import MutationTesting.Shell.Utility.Basic
import MutationTesting.Shell.Utility.Sed.Reader
/-! Editing lines with a script. -/
namespace MutationTesting.Shell.Utility.Sed

/-- A text that is edited, and whether the end of its line is missing. -/
structure Space where
  text : List Char := []
  lacksEnd : Bool := false

/-- What is written when a line is done. -/
inductive Queued where
  | text (text : String)
  | file (path : String)

inductive RangeState where
  /-- It goes on up to a line of a number, if that is known. -/
  | going (stop? : Option Nat)
  deriving Repr, DecidableEq

structure Editor where
  script : Script
  isSilent : Bool
  isSeparate : Bool
  /-- The ending of the copies that are kept of files that are changed in place. -/
  inPlace? : Option String
  mark : Char
  width : Nat
  /-- The files that have not been opened. -/
  files : List String
  /-- The name of the file that is read. -/
  name : String := "-"
  lines : List String := []
  /-- Whether the last one of the lines has no end. -/
  lastLacksEnd : Bool := false
  number : Nat := 0
  space : Space := {}
  held : Space := {}
  hasReplaced : Bool := false
  queue : List Queued := []
  ranges : List (Nat × RangeState) := []
  last? : Option Regex.Expression := none
  /-- The outputs whose last line has no end yet. The output of the program has no name. -/
  unfinished : List (Option String) := []
  /-- What has been written in place of the file that is read, the last part first. -/
  written : List String := []
  isEditing : Bool := false
  /-- The files that are written, with their numbers. -/
  outputs : List (String × Nat) := []
  /-- The lines that are left of files that are read line by line. -/
  sources : List (String × List String) := []
  /-- Whether the next round starts without another line. -/
  keepsSpace : Bool := false
  code : Nat := 0

namespace Editor

/-- Writes to an output, behind the missing end of its last line. -/
def emit (editor : Editor) (output? : Option String) (text : String) (lacksEnd : Bool) :
    Sh Editor := do
  let end_ := if editor.unfinished.contains output? then String.singleton editor.mark else ""
  let others := editor.unfinished.filter (· ≠ output?)
  let editor := { editor with unfinished := if lacksEnd then output? :: others else others }
  let text := end_ ++ text
  match output? with
  | none =>
    if editor.isEditing then return { editor with written := text :: editor.written }
    Sh.say text
    return editor
  | some "/dev/stdout" =>
    Sh.say text
    return editor
  | some "/dev/stderr" =>
    Sh.tryWrite 2 text
    return editor
  | some path =>
    if let some number := editor.outputs.lookup path then
      if let some opened := (← get).opened.lookup number then
        if text ≠ "" then
          let _ ← Sh.writeTo number opened (bytesOfText text)
    return editor

def emitSpace (editor : Editor) (output? : Option String) (space : Space) : Sh Editor :=
  let text := String.ofList space.text
  editor.emit output? (if space.lacksEnd then text else text.push editor.mark) space.lacksEnd

/-- Writes what has been kept for the end of the line. -/
def dumpQueue (editor : Editor) : Sh Editor := do
  let queue := editor.queue
  queue.foldlM (fun (editor : Editor) queued => do
    match queued with
    | .text text => editor.emit none text false
    | .file path =>
      match ← Sh.readInput .all (if path = "/dev/stdin" then "-" else path) with
      | .ok bytes => editor.emit none (textOfBytes bytes) false
      | .error _ => editor.emit none "" false) { editor with queue := [] }

/-- Ends the file that is changed in place. -/
def closeFile (editor : Editor) : Sh Editor := do
  if !editor.isEditing then return editor
  let workspace ← Sh.workspace
  let path := pathOf editor.name
  match editor.inPlace? with
  | some suffix =>
    if suffix ≠ "" then
      let folder := String.ofList ((editor.name.toList.reverse.dropWhile (· ≠ '/')).reverse)
      let base := String.ofList (editor.name.toList.reverse.takeWhile (· ≠ '/')).reverse
      let copyName := if suffix.toList.contains '*' then
          String.join ((piecesAt '*' suffix).intersperse base)
        else base ++ suffix
      let copyPath := if copyName.toList.contains '/' then copyName else folder ++ copyName
      match workspace.copy path (pathOf copyPath) with
      | .ok workspace => Sh.setWorkspace workspace
      | .error _ => pure ()
  | none => pure ()
  let text := String.join editor.written.reverse
  match (← Sh.workspace).replace path (bytesOfText text) with
  | .ok workspace => Sh.setWorkspace workspace
  | .error _ => pure ()
  return { editor with isEditing := false, written := [], unfinished := [] }

def openFile (editor : Editor) (path : String) : Sh Editor := do
  let refuse (code : Nat) (message : String) (editor : Editor) : Sh Editor := do
    Sh.tryWrite 2 ((← Sh.programName) ++ ": " ++ message ++ "\n")
    return { editor with code := max editor.code code }
  let isInPlace := editor.inPlace?.isSome && path ≠ "-"
  if isInPlace && (← Sh.workspace).hasDirectory (pathOf path) then
    refuse 4 s!"couldn't edit {path}: not a regular file" editor
  else
    match ← Sh.readInput .sample path with
    | .error "Is a directory" =>
      let _ ← refuse 4 s!"read error on {path}: Is a directory" editor
      let _ ← Sh.flush
      throw (.exit 4)
    | .error reason => refuse 2 s!"can't read {path}: {reason}" editor
    | .ok bytes =>
      let text := textOfBytes bytes
      return { editor with
        name := path
        lines := linesEndedBy editor.mark text
        lastLacksEnd := endsInLine editor.mark text
        number := if editor.isSeparate then 0 else editor.number
        isEditing := isInPlace
        written := [] }

def openFiles : List String → Editor → Sh Editor
  | [], editor => return { editor with files := [] }
  | path :: rest, editor => do
    let editor ← editor.closeFile
    let editor ← openFile { editor with files := rest } path
    if editor.lines.isEmpty then openFiles rest editor else return { editor with files := rest }

/-- Whether the line that is edited is the last one. -/
def isLast (editor : Editor) : Sh (Bool × Editor) := do
  if !editor.lines.isEmpty then return (false, editor)
  if editor.isSeparate then return (true, editor)
  let editor ← openFiles editor.files editor
  return (editor.lines.isEmpty, editor)

/-- Takes the next line, if there is one. With `isMore` it comes behind what is there. -/
def readLine (isMore : Bool) (editor : Editor) : Sh (Bool × Editor) := do
  let editor ← editor.dumpQueue
  let editor ← if editor.lines.isEmpty then openFiles editor.files editor else pure editor
  match editor.lines with
  | [] => return (false, editor)
  | line :: rest =>
    let lacksEnd := rest.isEmpty && editor.lastLacksEnd
    let before := if isMore then editor.space.text ++ [editor.mark] else []
    return (true, { editor with
      lines := rest
      number := editor.number + 1
      hasReplaced := false
      space := ⟨before ++ line.toList, lacksEnd⟩ })

/-- The expression that is meant, which is remembered. -/
def expression (editor : Editor) (expression? : Option Regex.Expression) :
    Sh (Regex.Expression × Editor) := do
  match expression?.or editor.last? with
  | some expression => return (expression, { editor with last? := some expression })
  | none =>
    let _ ← Sh.flush
    Sh.fail 1 "-e expression #1, char 0: no previous regular expression"

def isAt (editor : Editor) (address : Address) : Sh (Bool × Editor) := do
  match address with
  | .line number => return (editor.number = number, editor)
  | .every first step =>
    return (first ≤ editor.number && (editor.number - first) % step = 0, editor)
  | .last => editor.isLast
  | .fits expression? =>
    let (expression, editor) ← editor.expression expression?
    return (expression.fits editor.space.text.toArray, editor)

def setRange (editor : Editor) (index : Nat) (state? : Option RangeState) : Editor :=
  let others := editor.ranges.filter fun (other, _) => other ≠ index
  { editor with
    ranges := match state? with
      | some state => (index, state) :: others
      | none => others }

def applies (editor : Editor) (index : Nat) (step : Step) : Sh (Bool × Editor) := do
  match step.first?, step.bound? with
  | none, _ => return (true, editor)
  | some first, none => editor.isAt first
  | some first, some bound =>
    match editor.ranges.lookup index with
    | some (.going (some stop)) =>
      let editor := if stop ≤ editor.number then editor.setRange index none else editor
      return (editor.number ≤ stop, editor)
    | some (.going none) =>
      match bound with
      | .address address =>
        let (isEnd, editor) ← editor.isAt address
        return (true, if isEnd then editor.setRange index none else editor)
      | _ => return (true, editor)
    | none =>
      let (isStart, editor) ← editor.isAt first
      if !isStart then return (false, editor)
      let number := editor.number
      let stop? : Option (Option Nat) := match bound with
        | .address (.line stop) => if stop ≤ number then none else some (some stop)
        | .address _ => some none
        | .more count => if count = 0 then none else some (some (number + count))
        | .multiple factor =>
          if factor = 0 then none
          else some (some ((number / factor + 1) * factor))
      return (true, match stop? with
        | some stop? => editor.setRange index (some (.going stop?))
        | none => editor)

end Editor

/-- A text with its letters changed: the first one by `next?`, and the others by a casing. -/
def cased (casing : Casing) (next? : Option Casing) (cs : List Char) : List Char :=
  let change (casing : Casing) (c : Char) : Char := match casing with
    | .plain => c
    | .upper => c.toUpper
    | .lower => c.toLower
  match next?, cs with
  | some next, c :: rest => change next c :: rest.map (change casing)
  | _, cs => cs.map (change casing)

/-- What takes the place of a match. -/
def replacementFor (parts : List Part) (text : Array Char) (found : Regex.Match) : List Char :=
  let (out, _, _) := parts.foldl (fun (out, casing, next?) part =>
    let add (cs : List Char) : List Char × Casing × Option Casing :=
      (out ++ cased casing next? cs, casing, if cs.isEmpty then next? else none)
    match part with
    | .text cs => add cs
    | .group number => add (found.part text number)
    | .casing casing => (out, casing, next?)
    | .nextCasing next => (out, casing, some next)) (([] : List Char), Casing.plain, none)
  out

/-- Replaces matches from a place on. `previous?` is the end of the last match. Yields the parts of
the text, the last one first, if something has been replaced. -/
def replaceFrom (expression : Regex.Expression) (substitution : Substitution) (text : Array Char) :
    (fuel : Nat) → (place count : Nat) → (previous? : Option Nat) → (hasReplaced : Bool) →
    List (List Char) → List (List Char) × Bool
  | 0, _, _, _, hasReplaced, out => (out, hasReplaced)
  | fuel + 1, place, count, previous?, hasReplaced, out =>
    let rest := (text.extract place text.size).toList
    match if place ≤ text.size then expression.search? text place else none with
    | none => (rest :: out, hasReplaced)
    | some found =>
      let before := (text.extract place found.start).toList
      let isEmpty := found.start = found.stop
      if isEmpty && previous? = some found.start then
        let skipped := (text.extract place (found.start + 1)).toList
        if text.size ≤ found.start then (rest :: out, hasReplaced)
        else replaceFrom expression substitution text fuel (found.start + 1) count none hasReplaced
          (skipped :: out)
      else
        let count := count + 1
        let isReplaced := substitution.first ≤ count
        let new := if isReplaced then replacementFor substitution.parts text found
          else (text.extract found.start found.stop).toList
        let out := new :: before :: out
        let hasReplaced := hasReplaced || isReplaced
        if isReplaced && !substitution.isGlobal then
          ((text.extract found.stop text.size).toList :: out, hasReplaced)
        else if isEmpty then
          let skipped := (text.extract found.stop (found.stop + 1)).toList
          if text.size ≤ found.stop then (out, hasReplaced)
          else replaceFrom expression substitution text fuel (found.stop + 1) count none hasReplaced
            (skipped :: out)
        else replaceFrom expression substitution text fuel found.stop count (some found.stop)
          hasReplaced out

/-- The text with matches replaced, if there are some. -/
def replaced? (expression : Regex.Expression) (substitution : Substitution) (cs : List Char) :
    Option (List Char) :=
  let text := cs.toArray
  let (parts, hasReplaced) :=
    replaceFrom expression substitution text (2 * text.size + 3) 0 0 none false []
  if hasReplaced then some parts.reverse.flatten else none

/-- A character as it is listed. -/
def listed (c : Char) : List Char :=
  match c with
  | '\\' => ['\\', '\\']
  | '\x07' => ['\\', 'a']
  | '\x08' => ['\\', 'b']
  | '\x0c' => ['\\', 'f']
  | '\n' => ['\\', 'n']
  | '\r' => ['\\', 'r']
  | '\t' => ['\\', 't']
  | '\x0b' => ['\\', 'v']
  | c =>
    if 0x20 ≤ c.toNat && c.toNat < 0x7F then [c]
    else
      let digits := Nat.toDigits 8 c.toNat
      '\\' :: List.replicate (3 - digits.length) '0' ++ digits

/-- A text in lines of some width without doubt about its characters. -/
def listing (width : Nat) (cs : List Char) : String :=
  let (out, _) := cs.foldl (fun (out, column) c =>
    let shown := listed c
    if 0 < width && width - 1 < column + shown.length then
      (out ++ "\\\n" ++ String.ofList shown, shown.length)
    else (out ++ String.ofList shown, column + shown.length)) ("", 0)
  out ++ "$\n"

/-- How a script goes on behind a step. -/
inductive Move where
  | on
  | to (index : Nat)
  /-- The line is done, and shown unless lines are not shown. -/
  | done
  /-- The line is done without being shown. -/
  | dropped
  /-- The script ends. -/
  | quit (code : Nat)

/-- A text as one that is edited, without the end of its last line. -/
def Space.ofOutput (text : String) (lacksEnd : Bool) : Space :=
  let cs := text.toList
  ⟨if cs.getLast? = some '\n' then cs.dropLast else cs, lacksEnd⟩

def perform (self : Actor) (editor : Editor) (index : Nat) (step : Step) : Sh (Editor × Move) := do
  let mark := editor.mark
  let space := editor.space
  let go (name : String) : Move :=
    if name = "" then .done else match editor.script.labelAt? name with
      | some place => .to place
      | none => .done
  match step.action with
  | .opening _ | .closing | .label _ | .nothing => return (editor, .on)
  | .append text => return ({ editor with queue := editor.queue ++ [.text text] }, .on)
  | .insert text => return (← editor.emit none text false, .on)
  | .change text =>
    let isInRange := (editor.ranges.lookup index).isSome && !step.isNegated
    let editor ← if isInRange then pure editor else editor.emit none text false
    return (editor, .dropped)
  | .delete => return (editor, .dropped)
  | .deleteFirst =>
    let rest := space.text.dropWhile (· ≠ mark)
    if rest.isEmpty then return (editor, .dropped)
    return ({ editor with space := { space with text := rest.drop 1 }, keepsSpace := true },
      .dropped)
  | .execute command =>
    if command = "" then
      let (output, _) ← Sh.textFrom self "sh" (String.ofList space.text)
      return ({ editor with space := Space.ofOutput output space.lacksEnd }, .on)
    else
      let (output, _) ← Sh.textFrom self "sh" command
      return (← editor.emit none output false, .on)
  | .showName => return (← editor.emit none (editor.name ++ "\n") false, .on)
  | .get => return ({ editor with space := editor.held }, .on)
  | .getMore =>
    let text := space.text ++ mark :: editor.held.text
    return ({ editor with space := ⟨text, editor.held.lacksEnd⟩ }, .on)
  | .hold => return ({ editor with held := space }, .on)
  | .holdMore =>
    let text := editor.held.text ++ mark :: space.text
    return ({ editor with held := ⟨text, space.lacksEnd⟩ }, .on)
  | .exchange => return ({ editor with space := editor.held, held := space }, .on)
  | .list width? =>
    let width := width?.getD editor.width
    return (← editor.emit none (listing width space.text) false, .on)
  | .next =>
    let (isLast, editor) ← editor.isLast
    if isLast then return (editor, .done)
    let editor ← if editor.isSilent then pure editor else editor.emitSpace none editor.space
    let (_, editor) ← editor.readLine false
    return (editor, .on)
  | .nextMore =>
    let (isLast, editor) ← editor.isLast
    if isLast then return (editor, .done)
    let (_, editor) ← editor.readLine true
    return (editor, .on)
  | .print => return (← editor.emitSpace none space, .on)
  | .printFirst =>
    let first := space.text.takeWhile (· ≠ mark)
    let isWhole := first.length = space.text.length
    return (← editor.emitSpace none ⟨first, isWhole && space.lacksEnd⟩, .on)
  | .quit code =>
    let editor ← if editor.isSilent then pure editor else editor.emitSpace none space
    return (← editor.dumpQueue, .quit code)
  | .quitSilently code => return (editor, .quit code)
  | .readFile path => return ({ editor with queue := editor.queue ++ [.file path] }, .on)
  | .readLine path =>
    let lines ← match editor.sources.lookup path with
      | some lines => pure lines
      | none =>
        match ← Sh.readInput .all (if path = "/dev/stdin" then "-" else path) with
        | .ok bytes =>
          let text := textOfBytes bytes
          let lines := linesEndedBy mark text
          if endsInLine mark text then
            match lines.getLast? with
            | some last => pure ((lines.dropLast.map (·.push mark)) ++ [last])
            | none => pure []
          else pure (lines.map (·.push mark))
        | .error _ => pure []
    let others := editor.sources.filter fun (other, _) => other ≠ path
    return ({ editor with
      sources := (path, lines.drop 1) :: others
      queue := editor.queue ++ (lines.take 1).map .text }, .on)
  | .substitute substitution =>
    let (expression, editor) ← editor.expression substitution.expression?
    match replaced? expression substitution space.text with
    | none => return (editor, .on)
    | some text =>
      let editor := { editor with space := { space with text }, hasReplaced := true }
      let editor ←
        if substitution.evaluates then
          let (output, _) ← Sh.textFrom self "sh" (String.ofList text)
          pure { editor with space := Space.ofOutput output space.lacksEnd }
        else pure editor
      let editor ← if substitution.prints then editor.emitSpace none editor.space else pure editor
      let editor ← match substitution.file? with
        | some path => editor.emitSpace (some path) editor.space
        | none => pure editor
      return (editor, .on)
  | .branch name => return (editor, go name)
  | .branchIf name =>
    if editor.hasReplaced then return ({ editor with hasReplaced := false }, go name)
    return (editor, .on)
  | .branchUnless name =>
    if editor.hasReplaced then return ({ editor with hasReplaced := false }, .on)
    return (editor, go name)
  | .write path => return (← editor.emitSpace (some path) space, .on)
  | .writeFirst path =>
    let first := space.text.takeWhile (· ≠ mark)
    let isWhole := first.length = space.text.length
    return (← editor.emitSpace (some path) ⟨first, isWhole && space.lacksEnd⟩, .on)
  | .translate table =>
    let text := space.text.map fun c => (table.lookup c).getD c
    return ({ editor with space := { space with text } }, .on)
  | .zap => return ({ editor with space := { space with text := [] } }, .on)
  | .showNumber => return (← editor.emit none (toString editor.number ++ "\n") false, .on)

def stepLimit : Nat := 5000000

/-- Carries out the script for the line that is edited. -/
def round (self : Actor) (editor : Editor) : Sh (Editor × Move) := do
  let (editor, move, _) ← Sh.iterate (fun ((editor, _, index) : Editor × Move × Nat) => do
    match editor.script.steps[index]? with
    | none => return ((editor, .done, index), false)
    | some step =>
      let (fits, editor) ← editor.applies index step
      if fits = step.isNegated then
        let next := match step.action with
          | .opening stop => stop
          | _ => index + 1
        return ((editor, .on, next), true)
      let (editor, move) ← perform self editor index step
      match move with
      | .on => return ((editor, .on, index + 1), true)
      | .to place => return ((editor, .on, place), true)
      | move => return ((editor, move, index), false)) stepLimit (editor, .on, 0)
  return (editor, move)

/-- Ends the editing. What has not been read of the input can still be read. -/
def finish (editor : Editor) : Sh Editor := do
  if editor.name = "-" && !editor.lines.isEmpty then
    if let some (number, opened) := ← Sh.opened? 0 then
      if let .file _ := opened.target then
        let size := editor.lines.foldl (fun size line => size + line.length + 1) 0
        let left := if editor.lastLacksEnd then size - 1 else size
        Sh.setOpened number { opened with offset := opened.offset - left }
  editor.closeFile

/-- Edits all lines. Yields the exit code. -/
def editAll (self : Actor) (editor : Editor) : Sh Nat := do
  let (_, code) ← Sh.iterate (fun ((editor, _) : Editor × Nat) => do
    let (hasLine, editor) ←
      if editor.keepsSpace then pure (true, ← editor.dumpQueue) else editor.readLine false
    if !hasLine then
      let editor ← finish editor
      return ((editor, editor.code), false)
    let (editor, move) ← round self { editor with keepsSpace := false }
    match move with
    | .quit code =>
      let editor ← finish editor
      return ((editor, if code = 0 then editor.code else code), false)
    | .dropped => return ((editor, 0), true)
    | _ =>
      let editor ← if editor.isSilent then pure editor else editor.emitSpace none editor.space
      return ((editor, 0), true)) stepLimit (editor, 0)
  return code

def outputsOf (script : Script) : List String :=
  script.steps.toList.filterMap fun step =>
    match step.action with
    | .write path | .writeFirst path => some path
    | .substitute substitution => substitution.file?
    | _ => none

end Sed

open Sed in
def sed : Program := fun self arguments => do
  let given ← Sh.takeAll 1 ("n,quiet,silent e:,expression f:,file E,regexp-extended,r " ++
    "i::,in-place l:,line-length s,separate u,unbuffered z,null-data posix debug sandbox " ++
    "follow-symlinks b,binary") arguments
  let complain (code : Nat) (message : String) : Sh Nat := do
    Sh.tryWrite 2 ("sed: " ++ message ++ "\n")
    throw (.exit code)
  let (portions, _) ← given.options.foldlM (fun (portions, number) (key, value?) => do
    match key, value? with
    | "e", some text =>
      return (portions ++ [(⟨text.toList, .inl number⟩ : Portion)], number + 1)
    | "f", some path =>
      match ← Sh.readInput .all path with
      | .ok bytes => return (portions ++ [⟨(textOfBytes bytes).toList, .inr path⟩], number)
      | .error reason =>
        let _ ← complain 4 s!"couldn't open file {path}: {reason}"
        return (portions, number)
    | _, _ => return (portions, number)) (([] : List Portion), 1)
  let (portions, paths) ← match portions, given.operands with
    | [], [] => Sh.usage 1
    | [], text :: paths => pure ([(⟨text.toList, .inl 1⟩ : Portion)], paths)
    | portions, paths => pure (portions, paths)
  match Script.ofPortions (given.has "E") portions with
  | .error (message, code) => complain code message
  | .ok script =>
    let inPlace? := if given.has "i" then some ((given.last? "i").getD "") else none
    if inPlace?.isSome && paths.isEmpty then
      let _ ← complain 4 "no input files"
    let names := (outputsOf script).eraseDups.filter fun path =>
      path ≠ "/dev/stdout" && path ≠ "/dev/stderr"
    let outputs ← names.mapM fun path => do
      match ← Sh.openFile .write path with
      | .ok opened => return (path, ← Sh.newOpened opened)
      | .error reason =>
        let _ ← complain 4 s!"couldn't open file {path}: {reason}"
        return (path, 0)
    let ranges := script.steps.toList.zipIdx.filterMap fun (step, index) =>
      match step.first? with
      | some (.line 0) => some (index, RangeState.going none)
      | _ => none
    let files := if paths.isEmpty then ["-"] else paths
    let code ← editAll self {
      script
      isSilent := given.has "n" || script.isSilent
      isSeparate := given.has "s" || inPlace?.isSome
      inPlace?
      mark := if given.has "z" then '\x00' else '\n'
      width := ((given.last? "l").bind String.toNat?).getD 70
      files, ranges, outputs }
    return code

end MutationTesting.Shell.Utility
