import MutationTesting.Diff.Edit
/-! The changes between two sequences: stretches that stay, and between them stretches that are
deleted, inserted, or replaced. The edits they are made of are first moved to where they read best.
An insertion slides along equal items, first to the front as far as it goes and then to the back; on
its way it joins insertions that it meets and changes places with deletions. A deletion only joins
and changes places. -/
namespace MutationTesting.Diff

/-- An edit among the others: those in front of it, the nearest first, and those behind it. -/
structure Focus where
  front : List Edit
  edit : Edit
  back : List Edit
  deriving Repr

/-- The items of edits, and one more for each edit. -/
def weight : List Edit → Nat
  | [] => 0
  | edit :: rest => edit.length + 1 + weight rest

section

variable {α : Type} [DecidableEq α]

/-- An edit that keeps a stretch, grown by items in front of it or behind it. -/
def growFront (edit : Edit) (count : Nat) : Edit :=
  { edit with old := edit.old - count, new := edit.new - count, length := edit.length + count }

def growBack (edit : Edit) (count : Nat) : Edit :=
  { edit with length := edit.length + count }

/-- Puts kept items in front of the edits behind an insertion. -/
def keepBehind (old new count : Nat) : List Edit → List Edit
  | next :: rest =>
    if next.action = .keep then growFront next count :: rest
    else ⟨.keep, old, new, count⟩ :: next :: rest
  | [] => [⟨.keep, old, new, count⟩]

/-- Puts kept items behind the edits in front of an insertion. -/
def keepInFront (old new count : Nat) : List Edit → List Edit
  | next :: rest =>
    if next.action = .keep then growBack next count :: rest
    else ⟨.keep, old, new, count⟩ :: next :: rest
  | [] => [⟨.keep, old, new, count⟩]

/-- The items along which an insertion can slide towards the front. -/
def slackFront (old new : Array α) (edit kept : Edit) : Nat :=
  if edit.action = .insert then
    commonBehind old new (min kept.length edit.length) (kept.old + kept.length)
      (edit.new + edit.length)
  else 0

/-- The items along which an insertion can slide towards the back. -/
def slackBack (old new : Array α) (edit kept : Edit) : Nat :=
  if edit.action = .insert then
    commonAhead old new (min kept.length edit.length) kept.old edit.new
  else 0

def slideFront (old new : Array α) (front : List Edit) (edit : Edit) (back : List Edit) : Focus :=
  match front with
  | [] => ⟨[], edit, back⟩
  | next :: rest =>
    if next.action = .keep then
      let count := slackFront old new edit next
      if 0 < count then
        let back := keepBehind (next.old + next.length - count) (edit.new + edit.length - count)
          count back
        let edit := { edit with old := edit.old - count, new := edit.new - count }
        if next.length ≤ count then slideFront old new rest edit back
        else slideFront old new ({ next with length := next.length - count } :: rest) edit back
      else if next.length = 0 then slideFront old new rest edit back
      else ⟨next :: rest, edit, back⟩
    else if next.action = edit.action then
      slideFront old new rest { next with length := next.length + edit.length } back
    else slideFront old new rest edit (next :: back)
  termination_by weight front
  decreasing_by all_goals simp [weight] <;> omega

def slideBack (old new : Array α) (front : List Edit) (edit : Edit) (back : List Edit) : Focus :=
  match back with
  | [] => ⟨front, edit, []⟩
  | next :: rest =>
    if next.action = .keep then
      let count := slackBack old new edit next
      if 0 < count then
        let front := keepInFront next.old edit.new count front
        let edit := { edit with old := edit.old + count, new := edit.new + count }
        if next.length ≤ count then slideBack old new front edit rest
        else slideBack old new front edit
          ({ next with
              old := next.old + count
              new := next.new + count
              length := next.length - count } :: rest)
      else if next.length = 0 then slideBack old new front edit rest
      else ⟨front, edit, next :: rest⟩
    else if next.action = edit.action then
      slideBack old new front { edit with length := edit.length + next.length } rest
    else slideBack old new (next :: front) edit rest
  termination_by weight back
  decreasing_by all_goals simp [weight] <;> omega

/-- Moves every edit of one action, `front` being those in front of the next one. At most `limit`
edits are looked at. -/
def slideAll (old new : Array α) (action : Action) : (limit : Nat) → (front back : List Edit) →
    List Edit
  | 0, front, back => front.reverse ++ back
  | _ + 1, front, [] => front.reverse
  | limit + 1, front, edit :: back =>
    if edit.action = action then
      let moved := slideFront old new front edit back
      let moved := slideBack old new moved.front moved.edit moved.back
      slideAll old new action limit (moved.edit :: moved.front) moved.back
    else slideAll old new action limit (edit :: front) back

/-- Moves all deletions and then all insertions. -/
def slide (old new : Array α) (edits : List Edit) : List Edit :=
  let deleted := slideAll old new .delete (2 * weight edits + 2) [] edits
  slideAll old new .insert (2 * weight deleted + 2) [] deleted

end

inductive ChangeKind where
  | equal
  | delete
  | insert
  | replace
  deriving Repr, DecidableEq

/-- A change: the stretch of the old and the stretch of the new sequence. -/
structure Change where
  kind : ChangeKind
  old : Nat
  oldLength : Nat
  new : Nat
  newLength : Nat
  deriving Repr, DecidableEq

def total : List Edit → Nat
  | [] => 0
  | edit :: rest => edit.length + total rest

/-- The change that edits amount to which all keep or all do not keep. -/
def Change.ofRun? (edits : List Edit) : Option Change :=
  let kept := edits.filter (·.action = .keep)
  let deleted := edits.filter (·.action = .delete)
  let inserted := edits.filter (·.action = .insert)
  match kept, deleted, inserted with
  | first :: _, _, _ => some ⟨.equal, first.old, total kept, first.new, total kept⟩
  | [], d :: _, i :: _ => some ⟨.replace, d.old, total deleted, i.new, total inserted⟩
  | [], d :: _, [] => some ⟨.delete, d.old, total deleted, d.new, 0⟩
  | [], [], i :: _ => some ⟨.insert, i.old, 0, i.new, total inserted⟩
  | [], [], [] => none

def changesOf (edits : List Edit) : List Change :=
  (edits.splitBy fun a b => (a.action == .keep) == (b.action == .keep)).filterMap Change.ofRun?

/-- The changes that turn one sequence into another. -/
def changes {α : Type} [DecidableEq α] (old new : Array α) : List Change :=
  changesOf (slide old new (editsWithin old new ⟨0, old.size, 0, new.size⟩))

end MutationTesting.Diff
