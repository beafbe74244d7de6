import MutationTesting.Shell.Utility.Files
import MutationTesting.Shell.Utility.Mode
/-! Programs that put a file into its place, take one away, or give files to users. There is one
user only, to whom everything belongs. -/
namespace MutationTesting.Shell.Utility

open Files

def unlink : Program := fun _ arguments => do
  let given ← Sh.takeAll 1 "" arguments
  match given.operands with
  | [] => Sh.failMissing 1
  | _ :: extra :: _ => Sh.failExtra 1 extra
  | [path] =>
    let wrong (reason : String) : Sh Nat :=
      Sh.fail 1 ("cannot unlink " ++ quotedName path ++ ": " ++ reason)
    match ← entry path with
    | .error reason => wrong reason
    | .ok (.directory _) => wrong "Is a directory"
    | .ok (.file _) =>
      drop path
      return 0

/-- Makes a file that is the same as another one. -/
def link : Program := fun _ arguments => do
  let given ← Sh.takeAll 1 "" arguments
  match given.operands with
  | [] => Sh.failMissing 1
  | [path] => Sh.failUsage 1 ("missing operand after " ++ quotedName path)
  | _ :: _ :: extra :: _ => Sh.failExtra 1 extra
  | [source, target] =>
    let wrong (reason : String) : Sh Nat :=
      Sh.fail 1 ("cannot create link " ++ quotedName target ++ " to " ++ quotedName source ++
        ": " ++ reason)
    match ← entry source with
    | .error reason => wrong reason
    | .ok (.directory _) => wrong "Operation not permitted"
    | .ok (.file content) =>
      if (← entry? target).isSome then return ← wrong "File exists"
      let workspace ← Sh.workspace
      match workspace.address (pathOf target) with
      | .error fault => wrong fault.reason
      | .ok address =>
        let mode := ((← address? source).map workspace.mode).getD 0o644
        Sh.setWorkspace ((workspace.put address (some (.file content))).setMode address mode)
        return 0

/-- Whether a text names the one user, or nobody in particular. -/
def isKnownUser (text : String) : Bool :=
  text = "root" || (!text.isEmpty && text.toList.all Char.isDigit)

/-- Gives files to users. `isGroup` tells whether only a group is named. -/
def owned (isGroup : Bool) : Program := fun _ arguments => do
  let given ← Sh.takeAll 1 ("R,recursive v,verbose c,changes f,silent,quiet reference: " ++
    "h,no-dereference dereference H L P preserve-root no-preserve-root from:") arguments
  let (owner?, paths) := match given.last? "reference", given.operands with
    | some _, paths => (some "root", paths)
    | none, owner :: paths => (some owner, paths)
    | none, [] => (none, [])
  match owner?, paths with
  | none, _ => Sh.failMissing 1
  | some owner, [] => Sh.failUsage 1 ("missing operand after " ++ quotedName owner)
  | some owner, paths =>
    let (user, group) := match piecesAt ':' owner with
      | [user, group] => (user, group)
      | _ => if isGroup then ("", owner) else (owner, "")
    if user ≠ "" && !isKnownUser user then
      Sh.fail 1 ("invalid user: " ++ quotedName owner)
    if group ≠ "" && !isKnownUser group then
      Sh.fail 1 ("invalid group: " ++ quotedName owner)
    let codes ← paths.mapM fun path => do
      match ← entry path with
      | .error reason =>
        if !given.has "f" then Sh.warn ("cannot access " ++ quotedName path ++ ": " ++ reason)
        return 1
      | .ok entry =>
        if given.has "v" then
          let all := if given.has "R" then pathsBelow pathDepth path entry else [path]
          for path in all do
            Sh.say ((if isGroup then "group" else "ownership") ++ " of " ++ quotedName path ++
              " retained as " ++ (if isGroup then group else if group = "" then user
                else user ++ ":" ++ group) ++ "\n")
        return 0
    return codes.foldl max 0

/-- Makes a directory with those above it, if it is not there. -/
def makeDirectories (name : String) (mode : Nat) (isVerbose : Bool) (path : String) : Sh Nat := do
  let codes ← (beginnings path).mapM fun part => do
    match ← entry? part with
    | some (.directory _) => return 0
    | some (.file _) =>
      if part = path then
        Sh.warn ("cannot create directory " ++ quotedName part ++ ": File exists")
      else Sh.warn ("cannot create directory " ++ quotedName part ++ ": Not a directory")
      return 1
    | none =>
      match ← makeDirectory 0o755 part with
      | some reason =>
        Sh.warn ("cannot create directory " ++ quotedName part ++ ": " ++ reason)
        return 1
      | none =>
        if isVerbose then Sh.say (name ++ ": creating directory " ++ quotedName part ++ "\n")
        return 0
  if let some address ← address? path then
    if ← isDirectory path then
      Sh.setWorkspace ((← Sh.workspace).setMode address mode)
  return codes.foldl max 0

/-- Copies files to where they belong, with permission bits of their own, or makes directories. -/
def install : Program := fun _ arguments => do
  let given ← Sh.takeAll 1 ("d,directory m:,mode D v,verbose t:,target-directory " ++
    "T,no-target-directory o:,owner g:,group p,preserve-timestamps s,strip C,compare c b " ++
    "backup:: S:,suffix") arguments
  let name ← Sh.programName
  let mode ← match given.last? "m" with
    | none => pure 0o755
    | some text =>
      match Mode.parse text with
      | some changes => pure (Mode.applyAll changes false 0 0)
      | none => Sh.fail 1 ("invalid mode " ++ quotedName text)
  if given.has "d" then
    if given.operands.isEmpty then Sh.failUsage 1 "missing file operand"
    let codes ← given.operands.mapM (makeDirectories name mode (given.has "v"))
    return codes.foldl max 0
  if given.has "D" then
    let folder := match given.last? "t", given.operands with
      | some directory, _ => directory
      | none, [_, target] => folderOf target
      | none, _ => "."
    let _ ← makeDirectories name 0o755 (given.has "v") folder
  let plan ← Transfer.plan given
  let codes ← plan.mapM fun (source, target) => do
    match ← entry source with
    | .error reason =>
      Sh.warn ("cannot stat " ++ quotedName source ++ ": " ++ reason)
      return 1
    | .ok (.directory _) =>
      Sh.warn ("omitting directory " ++ quotedName source)
      return 1
    | .ok (.file content) =>
      let before ← entry? target
      if before.isSome && (← address? source) = (← address? target) then
        Sh.warn (quotedName source ++ " and " ++ quotedName target ++ " are the same file")
        return 1
      if before.any Entry.isDirectory then
        Sh.warn ("cannot overwrite directory " ++ quotedName target ++ " with non-directory")
        return 1
      match (← Sh.workspace).address (pathOf target) with
      | .error fault =>
        Sh.warn ("cannot create regular file " ++ quotedName target ++ ": " ++ fault.reason)
        return 1
      | .ok address =>
        let workspace := (← Sh.workspace).put address (some (.file content))
        Sh.setWorkspace (workspace.setMode address mode)
        if given.has "v" then
          if before.isSome then Sh.say ("removed " ++ quotedName target ++ "\n")
          Sh.say (quotedName source ++ " -> " ++ quotedName target ++ "\n")
        return 0
  return codes.foldl max 0

end MutationTesting.Shell.Utility
