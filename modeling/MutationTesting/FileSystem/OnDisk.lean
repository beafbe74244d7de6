import MutationTesting.Error
import MutationTesting.FileSystem.Workspace
/-! Sequences of operations on a workspace. When one of them fails, the sequence ends, and what
the earlier ones did stays. -/
namespace MutationTesting

/-- Operations on a workspace that may fail. -/
abbrev OnDisk := ExceptT Error (StateM Workspace)

namespace OnDisk

def change (operation : Workspace → Workspace.Result Workspace) : OnDisk Unit := fun workspace =>
  match operation workspace with
  | .ok changed => (.ok (), changed)
  | .error fault => (.error (.fault fault), workspace)

/-- An operation that only looks at the workspace. -/
def look (operation : Workspace → Workspace.Result α) : OnDisk α := fun workspace =>
  match operation workspace with
  | .ok value => (.ok value, workspace)
  | .error fault => (.error (.fault fault), workspace)

/-- A change that cannot fail. -/
def adjust (operation : Workspace → Workspace) : OnDisk Unit := fun workspace =>
  (.ok (), operation workspace)

/-- A question that cannot fail. -/
def ask (question : Workspace → α) : OnDisk α := fun workspace =>
  (.ok (question workspace), workspace)

end OnDisk

end MutationTesting
