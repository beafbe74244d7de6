import MutationTesting.Shell.Utility.Mode
import MutationTesting.Shell.Utility.Word
/-! Programs that make, move, copy and remove files and directories. -/
namespace MutationTesting.Shell.Utility

def inside (directory name : String) : String :=
  if directory.endsWith "/" then directory ++ name else directory ++ "/" ++ name

namespace Files

/-- The entry that a path names, or why there is none. -/
def entry (path : String) : Sh (Except String Entry) := do
  match (← Sh.workspace).find (pathOf path) with
  | .ok entry => return .ok entry
  | .error fault => return .error fault.reason

/-- The entry that a path names, if there is one. -/
def entry? (path : String) : Sh (Option Entry) := do
  return (← entry path).toOption

/-- The address that a path leads to, if there is one. -/
def address? (path : String) : Sh (Option (List String)) := do
  return ((← Sh.workspace).address (pathOf path)).toOption

def isDirectory (path : String) : Sh Bool := do
  return (← Sh.workspace).hasDirectory (pathOf path)

def ask (question : String) : Sh Bool := do
  let _ ← Sh.flush
  Sh.tryWrite 2 (question ++ "? ")
  match ← Sh.read 0 (.line lineFeed) with
  | .ok (bytes, _) =>
    let first? := (textOfBytes bytes).toList.head?
    return first? = some 'y' || first? = some 'Y'
  | .error _ => return false

def drop (path : String) : Sh Unit := do
  if let some address ← address? path then
    Sh.setWorkspace ((← Sh.workspace).put address none)

/-- How a file is named in questions. -/
def kindOf (entry : Entry) : String :=
  match entry with
  | .directory _ => "directory"
  | .file content => if content.size = 0 then "regular empty file" else "regular file"

end Files

open Files

structure Removal where
  isForced : Bool
  isRecursive : Bool
  takesEmpty : Bool
  asks : Bool
  isVerbose : Bool

/-- Removes what a path names. Yields whether that has been possible. -/
def Removal.run (removal : Removal) : (depth : Nat) → String → Sh Bool
  | 0, _ => return false
  | depth + 1, path => do
    let wrong (reason : String) : Sh Bool := do
      Sh.warn ("cannot remove " ++ quotedName path ++ ": " ++ reason)
      return false
    match ← entry path with
    | .error reason =>
      if removal.isForced && (reason = Fault.notFound.reason || reason = Fault.notDirectory.reason)
      then return true
      wrong reason
    | .ok (.file content) =>
      let question := "rm: remove " ++ kindOf (.file content) ++ " " ++ quotedName path
      if removal.asks then
        if !(← ask question) then return true
      drop path
      if removal.isVerbose then Sh.say ("removed " ++ quotedName path ++ "\n")
      return true
    | .ok (.directory entries) =>
      if !removal.isRecursive && !removal.takesEmpty then wrong "Is a directory"
      else if !removal.isRecursive && !entries.isEmpty then wrong "Directory not empty"
      else
        if removal.asks && !entries.isEmpty then
          if !(← ask ("rm: descend into directory " ++ quotedName path)) then return true
        let found ← entries.mapM fun (name, _) =>
          removal.run depth (inside path (bytesOfName name))
        if !found.all id then return false
        if removal.asks then
          if !(← ask ("rm: remove directory " ++ quotedName path)) then return true
        match ← entry path with
        | .ok (.directory []) =>
          drop path
          if removal.isVerbose then Sh.say ("removed directory " ++ quotedName path ++ "\n")
          return true
        | _ =>
          if removal.asks then wrong "Directory not empty" else return true

def rm : Program := fun _ arguments => do
  let given ← Sh.takeAll 1 ("f,force i I interactive:: one-file-system no-preserve-root " ++
    "preserve-root:: r R,recursive d,dir v,verbose") arguments
  let choices := [["never", "no", "none"], ["once"], ["always", "yes"]]
  let asks ← match given.latest? ["f", "i", "I", "interactive"] with
    | some "i" => pure true
    | some "interactive" =>
      match given.last? "interactive" with
      | none | some "always" | some "yes" => pure true
      | some "never" | some "no" | some "none" | some "once" => pure false
      | some other => Sh.failChoice 1 "--interactive" other choices
    | _ => pure false
  let isForced := given.has "f"
  if given.operands.isEmpty then
    if isForced then return 0 else Sh.failMissing 1
  let isRecursive := given.has "r" || given.has "R"
  let removal : Removal :=
    { isForced, isRecursive, asks
      takesEmpty := given.has "d"
      isVerbose := given.has "v" }
  let found ← given.operands.mapM fun path => do
    let last := baseOf path
    if isRecursive && (last = "." || last = "..") then
      Sh.warn ("refusing to remove '.' or '..' directory: skipping " ++ quotedName path)
      return false
    if isRecursive && (← address? path) = some [] && !given.has "no-preserve-root" then
      Sh.warn ("it is dangerous to operate recursively on " ++ quotedName path ++
        (if path = "/" then "" else " (same as '/')"))
      Sh.warn "use --no-preserve-root to override this failsafe"
      return false
    removal.run pathDepth path
  return if found.all id then 0 else 1

namespace Files

/-- Makes a directory with permission bits. Yields why that is not possible. -/
def makeDirectory (mode : Nat) (path : String) : Sh (Option String) := do
  let workspace ← Sh.workspace
  match workspace.address (pathOf path) with
  | .error fault => return some fault.reason
  | .ok address =>
    if (workspace.at? address).isSome then return some "File exists"
    Sh.setWorkspace ((workspace.put address (some (.directory []))).setMode address mode)
    return none

/-- The beginnings of a path that end with each of its names, and all of it. -/
def beginnings (path : String) : List String :=
  let cs := path.toList
  let stops := (List.range cs.length).filter fun index =>
    cs[index]? ≠ some '/' && (cs[index + 1]? = some '/' || cs[index + 1]? = none)
  stops.map fun index => String.ofList (cs.take (index + 1))

end Files

def mkdir : Program := fun _ arguments => do
  let given ← Sh.takeAll 1 "m:,mode p,parents v,verbose Z,context::" arguments
  if given.operands.isEmpty then Sh.failMissing 1
  let mask := (← Sh.process).mask
  let usual := 0o777 &&& (0o777 - mask)
  let mode ← match given.last? "m" with
    | none => pure usual
    | some text =>
      match Mode.parse text with
      | some changes => pure (Mode.applyAll changes true mask 0o777)
      | none => Sh.fail 1 ("invalid mode " ++ quotedName text)
  let wrong (path reason : String) : Sh Nat := do
    Sh.warn ("cannot create directory " ++ quotedName path ++ ": " ++ reason)
    return 1
  let told (path : String) : Sh Unit := do
    if given.has "v" then Sh.say ("mkdir: created directory " ++ quotedName path ++ "\n")
  let codes ← given.operands.mapM fun path => do
    if !given.has "p" then
      match ← makeDirectory mode path with
      | some reason => wrong path reason
      | none =>
        told path
        return 0
    else
      let parts := beginnings path
      if path = "" then wrong path "No such file or directory"
      else
        let fault? ← parts.zipIdx.foldlM (fun (fault? : Option (String × String)) (part, n) => do
          if fault?.isSome then return fault?
          match ← entry part with
          | .ok (.directory _) => return none
          | .ok (.file _) =>
            return some (part,
              if n + 1 = parts.length then "File exists" else "Not a directory")
          | .error _ =>
            match ← makeDirectory (if n + 1 = parts.length then mode else usual) part with
            | some reason => return some (part, reason)
            | none =>
              told part
              return none) none
        match fault? with
        | some (part, reason) => wrong part reason
        | none => return 0
  return codes.foldl max 0

def rmdir : Program := fun _ arguments => do
  let given ← Sh.takeAll 1 "p,parents v,verbose ignore-fail-on-non-empty" arguments
  if given.operands.isEmpty then Sh.failMissing 1
  let remove (lead path : String) : Sh Bool := do
    if given.has "v" then Sh.say ("rmdir: removing directory, " ++ quotedName path ++ "\n")
    let reason? ← match ← entry path with
      | .error reason => pure (some reason)
      | .ok (.file _) => pure (some "Not a directory")
      | .ok (.directory entries) =>
        pure (if baseOf path = "." then some "Invalid argument"
          else if entries.isEmpty then none
          else some "Directory not empty")
    match reason? with
    | none =>
      drop path
      return true
    | some reason =>
      let isExcused := given.has "ignore-fail-on-non-empty" && reason = "Directory not empty"
      if !isExcused then Sh.warn (lead ++ quotedName path ++ ": " ++ reason)
      return isExcused
  let found ← given.operands.mapM fun path => do
    if !(← remove "failed to remove " path) then return false
    if !given.has "p" then return true
    let parents := ((beginnings path).dropLast).reverse
    parents.foldlM (fun goesOn parent => do
      if !goesOn then return false
      if parent = "." then return true
      remove "failed to remove directory " parent) true
  return if found.all id then 0 else 1

/-- Whether a text looks like a date that can be understood. -/
def isDate (text : String) : Bool :=
  let words := ["now", "today", "yesterday", "tomorrow", "ago", "next", "last", "day", "days",
    "hour", "hours", "minute", "minutes", "week", "weeks", "month", "months", "year", "years",
    "second", "seconds", "utc", "sec", "min", "z"]
  let pieces := (piecesAt ' ' text).filter fun piece => !piece.isEmpty
  pieces.all fun piece =>
    words.contains (piece.map Char.toLower) || piece.toList.any Char.isDigit

def touch : Program := fun _ arguments => do
  let given ← Sh.takeAll 1
    "a c,no-create d:,date f h,no-dereference m r:,reference t: time:" arguments
  if let some text := given.last? "d" then
    if !isDate text then Sh.fail 1 ("invalid date format " ++ quotedName text)
  if let some text := given.last? "t" then
    let digits := text.toList.filter Char.isDigit
    if digits.length < 8 then Sh.fail 1 ("invalid date format " ++ quotedName text)
  if let some path := given.last? "r" then
    if let .error reason ← entry path then
      Sh.fail 1 ("failed to get attributes of " ++ quotedName path ++ ": " ++ reason)
  if given.operands.isEmpty then
    Sh.warn "missing file operand"
    Sh.usage 1
  let codes ← given.operands.mapM fun path => do
    if path = "-" then return 0
    match ← entry path with
    | .ok _ => return 0
    | .error reason =>
      if given.has "c" && reason = "No such file or directory" then return 0
      if path.endsWith "/" then
        Sh.warn ("setting times of " ++ quotedName path ++ ": " ++ reason)
        return 1
      match ← Sh.openFile .append path with
      | .ok _ => return 0
      | .error reason =>
        Sh.warn ("cannot touch " ++ quotedName path ++ ": " ++ reason)
        return 1
  return codes.foldl max 0

/-- What files are moved or copied to, and how. -/
structure Transfer where
  /-- Whether files that are there stay. -/
  keeps : Bool
  /-- Whether they stay unless they are older. No file counts as older than another one. -/
  onlyNewer : Bool
  asks : Bool
  isVerbose : Bool
  /-- What is put behind the names of files that would be lost. -/
  ending? : Option String
  isRecursive : Bool := false
  /-- Whether copies have the permission bits of what is copied. -/
  keepsMode : Bool := false
  isForced : Bool := false

namespace Transfer

/-- The sources, and for each of them the path that it gets. -/
def plan (given : Given) : Sh (List (String × String)) := do
  let strip (path : String) : String :=
    if path.length = 1 then path
    else String.ofList (path.toList.reverse.dropWhile (· = '/')).reverse
  let into (directory : String) (sources : List String) : List (String × String) :=
    sources.map fun source => (source, inside directory (baseOf (strip source)))
  let reasonOf (path : String) : Sh (Option String) := do
    match ← entry path with
    | .error reason => return some reason
    | .ok (.file _) => return some "Not a directory"
    | .ok (.directory _) => return none
  match given.last? "t", given.operands with
  | _, [] => Sh.failUsage 1 "missing file operand"
  | some directory, sources =>
    if let some reason ← reasonOf directory then
      Sh.fail 1 ("target directory " ++ quotedName directory ++ ": " ++ reason)
    return into directory sources
  | none, [source] =>
    Sh.failUsage 1 ("missing destination file operand after " ++ quotedName source)
  | none, [source, target] =>
    if given.has "T" then return [(source, target)]
    if ← isDirectory target then return into target [source]
    return [(source, target)]
  | none, operands =>
    if given.has "T" then
      Sh.failUsage 1 ("extra operand " ++ quotedName (operands.getD 2 ""))
    let target := operands.getLastD ""
    if let some reason ← reasonOf target then
      Sh.fail 1 ("target " ++ quotedName target ++ ": " ++ reason)
    return into target operands.dropLast

/-- Puts what a path names aside, if its content would be lost. -/
def setAside (transfer : Transfer) (path : String) : Sh Unit := do
  if let some ending := transfer.ending? then
    let workspace ← Sh.workspace
    if let .ok changed := workspace.rename (pathOf path) (pathOf (path ++ ending)) then
      Sh.setWorkspace changed

/-- Whether a file may be put where a path leads, after a question if need be. -/
def mayReplace (transfer : Transfer) (name target : String) : Sh Bool := do
  if transfer.asks then ask (name ++ ": overwrite " ++ quotedName target) else return true

end Transfer

/-- What is put behind the names of files that would be lost, if the options ask for it. -/
def backupEnding? (given : Given) : Option String :=
  if given.has "b" || given.has "backup" || given.has "S" then
    some ((given.last? "S").getD "~")
  else none

/-- Moves what a path names. Yields whether that has been possible. -/
def Transfer.move (transfer : Transfer) (source target : String) : Sh Bool := do
  let wrong (message : String) : Sh Bool := do
    Sh.warn message
    return false
  match ← entry source with
  | .error reason => wrong ("cannot stat " ++ quotedName source ++ ": " ++ reason)
  | .ok moved =>
    let there ← entry target
    let sourceAddress? ← address? source
    let targetAddress? ← address? target
    let isSame := sourceAddress? = targetAddress? && sourceAddress?.isSome
    let isNamed := baseOf source ≠ "." && baseOf source ≠ ".."
    let isBelow := match sourceAddress?, targetAddress? with
      | some source, some target => isNamed && source.isPrefixOf target && source ≠ target
      | _, _ => false
    let fault? : Option String := match there with
      | .error reason =>
        if target.endsWith "/" && reason = "Not a directory" then
          some ("cannot stat " ++ quotedName target ++ ": " ++ reason)
        else none
      | .ok old =>
        if isSame then
          some (quotedName source ++ " and " ++ quotedName target ++ " are the same file")
        else
          match moved, old with
          | .file _, .directory _ =>
            some ("cannot overwrite directory " ++ quotedName target ++ " with non-directory")
          | .directory _, .file _ =>
            some ("cannot overwrite non-directory " ++ quotedName target ++ " with directory " ++
              quotedName source)
          | _, _ => none
    if let some message := fault? then return ← wrong message
    if there.isOk then
      if transfer.onlyNewer then return true
      if transfer.keeps then return ← wrong ("not replacing " ++ quotedName target)
      if !(← transfer.mayReplace "mv" target) then return false
      if !isBelow then transfer.setAside target
    if isBelow then
      return ← wrong ("cannot move " ++ quotedName source ++ " to a subdirectory of itself, " ++
        quotedName target)
    let workspace ← Sh.workspace
    match workspace.rename (pathOf source) (pathOf target) with
    | .ok changed =>
      Sh.setWorkspace changed
      if transfer.isVerbose then
        Sh.say ("renamed " ++ quotedName source ++ " -> " ++ quotedName target ++ "\n")
      return true
    | .error fault =>
      if fault = .notEmpty then
        wrong ("cannot overwrite " ++ quotedName target ++ ": " ++ fault.reason)
      else
        wrong ("cannot move " ++ quotedName source ++ " to " ++ quotedName target ++ ": " ++
          fault.reason)

def mv : Program := fun _ arguments => do
  let given ← Sh.takeAll 1 ("b backup:: f,force i,interactive n,no-clobber S:,suffix " ++
    "t:,target-directory T,no-target-directory u,update:: v,verbose strip-trailing-slashes " ++
    "no-copy Z,context debug") arguments
  let last? := given.latest? ["f", "i", "n"]
  let transfer : Transfer :=
    { keeps := last? = some "n"
      onlyNewer := given.has "u"
      asks := last? = some "i"
      isVerbose := given.has "v"
      ending? := backupEnding? given }
  let plan ← Transfer.plan given
  let (found, _) ← plan.foldlM (fun (found, made) (source, target) => do
    if made.contains target && (← entry? source).isSome then
      Sh.warn ("will not overwrite just-created " ++ quotedName target ++ " with " ++
        quotedName source)
      return (false, made)
    let isMoved ← transfer.move source target
    return (found && isMoved, if isMoved then target :: made else made)) (true, ([] : List String))
  return if found then 0 else 1

inductive Copied where
  | done
  | failed
  /-- A directory has been found in itself. -/
  | endless
  deriving Repr, DecidableEq

/-- Copies a file to a path. Yields why that is not possible. -/
def Transfer.copyFile (transfer : Transfer) (source target : String) (mode : Nat) :
    Sh (Option String) := do
  match ← Sh.openInput source with
  | .error reason =>
    return some ("cannot open " ++ quotedName source ++ " for reading: " ++ reason)
  | .ok (number, opened) =>
    match ← Sh.readFrom number opened .all with
    | .error reason => return some ("error reading " ++ quotedName source ++ ": " ++ reason)
    | .ok (bytes, _) =>
      let isNew := (← entry? target).isNone
      match ← Sh.openFile .write target with
      | .error reason =>
        let reason := if target.endsWith "/" && reason = "Is a directory" then "Not a directory"
          else reason
        return some ("cannot create regular file " ++ quotedName target ++ ": " ++ reason)
      | .ok opened =>
        let number ← Sh.newOpened opened
        if bytes.size ≠ 0 then
          if let some reason ← Sh.writeTo number opened bytes then
            return some ("error writing " ++ quotedName target ++ ": " ++ reason)
        if isNew || transfer.keepsMode then
          let mask := (← Sh.process).mask
          if let some address ← address? target then
            let workspace ← Sh.workspace
            if (workspace.at? address).any Entry.isFile then
              Sh.setWorkspace (workspace.setMode address
                (if transfer.keepsMode then mode else mode &&& (0o777 - mask)))
        return none

/-- Copies what a path names. `top?` is the address of the copy as a whole. -/
def Transfer.copy (transfer : Transfer) (top? : Option (List String)) :
    (depth : Nat) → (source target : String) → Sh Copied
  | 0, _, _ => return .failed
  | depth + 1, source, target => do
    let wrong (message : String) : Sh Copied := do
      Sh.warn message
      return .failed
    let told : Sh Unit := do
      if transfer.isVerbose then
        Sh.say (quotedName source ++ " -> " ++ quotedName target ++ "\n")
    match ← entry source with
    | .error reason => wrong ("cannot stat " ++ quotedName source ++ ": " ++ reason)
    | .ok copied =>
      let workspace ← Sh.workspace
      let sourceAddress? ← address? source
      let mode := (sourceAddress?.map workspace.mode).getD 0o644
      let there ← entry target
      match copied with
      | .file _ =>
        let isSame := sourceAddress?.isSome && sourceAddress? = (← address? target)
        match there with
        | .ok (.directory _) =>
          return ← wrong ("cannot overwrite directory " ++ quotedName target ++
            " with non-directory")
        | .ok (.file _) =>
          if transfer.keeps || transfer.onlyNewer then return .done
          if isSame then
            return ← wrong (quotedName source ++ " and " ++ quotedName target ++
              " are the same file")
          if !(← transfer.mayReplace "cp" target) then return .failed
          transfer.setAside target
        | .error reason =>
          if target.endsWith "/" && reason = "Not a directory" then
            return ← wrong ("cannot stat " ++ quotedName target ++ ": " ++ reason)
        match ← transfer.copyFile source target mode with
        | some message => wrong message
        | none =>
          told
          return .done
      | .directory _ =>
        if !transfer.isRecursive then
          return ← wrong ("-r not specified; omitting directory " ++ quotedName source)
        if top?.isSome && sourceAddress? = top? then return .endless
        match there with
        | .ok (.file _) =>
          return ← wrong ("cannot overwrite non-directory " ++ quotedName target ++
            " with directory " ++ quotedName source)
        | .ok (.directory _) => pure ()
        | .error _ =>
          let mask := (← Sh.process).mask
          match ← makeDirectory (if transfer.keepsMode then mode else mode &&& (0o777 - mask))
              target with
          | some reason =>
            return ← wrong ("cannot create directory " ++ quotedName target ++ ": " ++ reason)
          | none => told
        let top? ← if top?.isSome then pure top? else address? target
        let isTop (name : String) : Bool :=
          top?.isSome && top? = sourceAddress?.map fun address => address ++ [name]
        let entries := ((← entry? source).map Entry.entries).getD []
        let entries := entries.filter (fun (name, _) => !isTop name) ++
          entries.filter fun (name, _) => isTop name
        entries.foldlM (fun result (name, _) => do
          if result = .endless then return .endless
          let name := bytesOfName name
          match ← transfer.copy top? depth (inside source name) (inside target name) with
          | .done => return result
          | other => return other) Copied.done

def cp : Program := fun _ arguments => do
  let given ← Sh.takeAll 1 ("a,archive attributes-only b backup:: copy-contents d f,force " ++
    "i,interactive H l,link L,dereference n,no-clobber P,no-dereference p preserve:: " ++
    "no-preserve: parents R,r,recursive reflink:: remove-destination sparse: " ++
    "strip-trailing-slashes s,symbolic-link S:,suffix t:,target-directory " ++
    "T,no-target-directory u,update:: v,verbose x,one-file-system Z debug") arguments
  let last? := given.latest? ["i", "n"]
  if given.has "n" then
    Sh.warn ("warning: behavior of -n is non-portable and may change in future; " ++
      "use --update=none instead")
  let transfer : Transfer :=
    { keeps := last? = some "n"
      onlyNewer := given.has "u"
      asks := last? = some "i"
      isVerbose := given.has "v"
      ending? := backupEnding? given
      isRecursive := given.has "R" || given.has "a"
      keepsMode := given.has "a" || given.has "p" || given.has "preserve"
      isForced := given.has "f" }
  let plan ← Transfer.plan given
  let plan ←
    if !given.has "parents" then pure plan
    else
      plan.mapM fun (source, target) => do
        let directory := folderOf target
        let _ ← (beginnings (inside directory (folderOf source))).mapM fun part => do
          if !(← isDirectory part) then
            let _ ← makeDirectory 0o755 part
        return (source, inside directory source)
  let (found, _, _) ← plan.foldlM (fun (found, made, seen) (source, target) => do
    let address? ← address? source
    let isFile := (← entry? source).any Entry.isFile
    if isFile && address?.any seen.contains && 1 < plan.length then
      Sh.warn ("warning: source file " ++ quotedName source ++ " specified more than once")
      return (found, made, seen)
    if made.contains target && isFile then
      Sh.warn ("will not overwrite just-created " ++ quotedName target ++ " with " ++
        quotedName source)
      return (false, made, seen)
    let result ← transfer.copy none pathDepth source target
    if result = .endless then
      Sh.warn ("cannot copy a directory, " ++ quotedName source ++ ", into itself, " ++
        quotedName target)
    return (found && result = .done, target :: made, address?.toList ++ seen))
    (true, ([] : List String), ([] : List (List String)))
  return if found then 0 else 1

/-- Makes files that are the same as others under further names. -/
def ln : Program := fun _ arguments => do
  let given ← Sh.takeAll 1 ("b backup:: d,F,directory f,force i,interactive L,logical " ++
    "n,no-dereference P,physical r,relative s,symbolic S:,suffix t:,target-directory " ++
    "T,no-target-directory v,verbose") arguments
  let isSymbolic := given.has "s"
  let plan ← match given.last? "t", given.operands with
    | none, [source] => pure [(source, inside "." (baseOf source))]
    | _, _ => Transfer.plan given
  let found ← plan.mapM fun (source, target) => do
    let shown (arrow : String) : String := quotedName target ++ arrow ++ quotedName source
    let kind := if isSymbolic then "symbolic link " else "hard link "
    let origin := if isSymbolic && !source.startsWith "/" && folderOf target ≠ "." then
        inside (folderOf target) source else source
    let wrong (message : String) : Sh Bool := do
      Sh.warn message
      return false
    let there ← entry? target
    match ← entry origin with
    | .error reason =>
      if !isSymbolic then wrong ("failed to access " ++ quotedName source ++ ": " ++ reason)
      else if source = "" then
        wrong ("failed to create symbolic link " ++ shown " -> " ++ ": " ++ reason)
      else if there.isSome && !given.has "f" then
        wrong ("failed to create symbolic link " ++ quotedName target ++ ": File exists")
      else return true
    | .ok copied =>
      if copied.isDirectory && !isSymbolic then
        return ← wrong (shownName source ++ ": hard link not allowed for directory")
      if there.isSome && !given.has "f" then
        return ← wrong ("failed to create " ++ kind ++ quotedName target ++ ": File exists")
      if there.isSome && (← address? origin) = (← address? target) then
        return ← wrong (quotedName source ++ " and " ++ quotedName target ++ " are the same file")
      let workspace ← Sh.workspace
      match workspace.address (pathOf target) with
      | .error fault =>
        wrong ("failed to create " ++ kind ++ shown (if isSymbolic then " -> " else " => ") ++
          ": " ++ fault.reason)
      | .ok address =>
        let mode := ((← address? origin).map workspace.mode).getD 0o644
        Sh.setWorkspace ((workspace.put address (some copied)).setMode address mode)
        if given.has "v" then
          Sh.say (shown (if isSymbolic then " -> " else " => ") ++ "\n")
        return true
  return if found.all id then 0 else 1

end MutationTesting.Shell.Utility
