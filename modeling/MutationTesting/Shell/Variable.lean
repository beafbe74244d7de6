import MutationTesting.Shell.Channel
import MutationTesting.Shell.Signal
/-! The variables of a shell. -/
namespace MutationTesting.Shell

/-- The variables with another one, or the same one with another value. -/
def putVariable (name : String) (new : Variable) :
    List (String × Variable) → List (String × Variable)
  | [] => [(name, new)]
  | (other, old) :: rest =>
    if other = name then (name, new) :: rest else (other, old) :: putVariable name new rest

/-- The place of a name among the variables that programs see. -/
def bucketOf (name : String) : Nat :=
  match name.toList with
  | [] => 0
  | c :: rest => ((c :: rest).foldl (fun sum c => sum + c.toNat) (c.toNat * 16)) % 39

/-- The text that reads as a text again: single quotes around what has none, and double quotes
around single quotes. -/
def quoted (text : String) : String :=
  String.ofList (go (text.length + 1) text.toList)
where
  go : (fuel : Nat) → List Char → List Char
    | 0, _ => []
    | fuel + 1, cs =>
      let plain := cs.takeWhile (· ≠ '\'')
      let rest := cs.drop plain.length
      let quotes := rest.takeWhile (· = '\'')
      let after := rest.drop quotes.length
      ['\''] ++ plain ++ ['\''] ++
        (if quotes.isEmpty then [] else ['"'] ++ quotes ++ ['"']) ++
        (if after.isEmpty then [] else go fuel after)

namespace Sh

def lookup? (name : String) : Sh (Option Variable) := do
  return (← process).bindings.lookup name

def valueOf? (name : String) : Sh (Option String) := do
  return (← lookup? name).bind Variable.value?

/-- The value of a variable, or nothing. -/
def valueOf (name : String) : Sh String := do
  return (← valueOf? name).getD ""

/-- Sets a variable without asking whether that is allowed. -/
def restoreVariable (name : String) (new? : Option Variable) : Sh Unit :=
  setProcess fun process =>
    { process with
      bindings := match new? with
        | some new => putVariable name new process.bindings
        | none => process.bindings.filter fun (other, _) => other != name }

/-- What follows from another value of a variable. -/
def noteValue (name : String) (value? : Option String) : Sh Unit := do
  if name = "PATH" then setProcess fun process => { process with found := [], stale := [] }
  if name = "OPTIND" then
    let index := ((value?.bind (integerIn? 10)).getD 1).toNat
    setProcess fun process =>
      { process with optionIndex := if index = 0 then 1 else index, optionOffset? := none }

def setVariable (name value : String) : Sh Unit := do
  let old := (← lookup? name).getD {}
  if old.isReadOnly then refuse (name ++ ": is read only")
  let isExported := old.isExported || (← hasFlag 'a')
  restoreVariable name (some { old with value? := some value, isExported })
  noteValue name (some value)

def unsetVariable (name : String) : Sh Unit := do
  match ← lookup? name with
  | none => return
  | some old =>
    if old.isReadOnly then refuse (name ++ ": is read only")
    restoreVariable name none
    noteValue name none

/-- The variables that programs see, in the order in which they see them. -/
def environment : Sh (List (String × String)) := do
  let bindings := (← process).bindings.filterMap fun (name, held) =>
    if held.isExported then held.value?.map fun value => (name, value) else none
  return bindings.mergeSort fun (a, _) (b, _) => bucketOf a ≤ bucketOf b

/-- The variables in the order of their names. -/
def sortedVariables : Sh (List (String × Variable)) := do
  return (← process).bindings.mergeSort fun (a, _) (b, _) => a ≤ b

/-- The characters at which values are split. -/
def separators : Sh (List Char) := do
  return ((← valueOf? "IFS").getD " \t\n").toList

def declaration (lead name : String) (value? : Option String) : String :=
  match value? with
  | some value => lead ++ name ++ "=" ++ quoted value ++ "\n"
  | none => lead ++ name ++ "\n"

end Sh

end MutationTesting.Shell
