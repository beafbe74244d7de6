/-! Edits that turn one sequence into another, found by searching for the middle of a shortest
edit from both ends at once. -/
namespace MutationTesting.Diff

/-- What an edit does. -/
inductive Action where
  | keep
  | delete
  | insert
  deriving Repr, DecidableEq

/-- An edit of `length` items: where it stands in the old and in the new sequence. -/
structure Edit where
  action : Action
  old : Nat
  new : Nat
  length : Nat
  deriving Repr, DecidableEq

section

variable {α : Type} [DecidableEq α]

/-- The number of equal items, of at most `limit`, from two places on. -/
def commonAhead (old new : Array α) : (limit a c : Nat) → Nat
  | 0, _, _ => 0
  | limit + 1, a, c =>
    if old[a]? = new[c]? then 1 + commonAhead old new limit (a + 1) (c + 1) else 0

/-- The number of equal items, of at most `limit`, back from two places. -/
def commonBehind (old new : Array α) : (limit b d : Nat) → Nat
  | 0, _, _ => 0
  | limit + 1, b, d =>
    if old[b - 1]? = new[d - 1]? then 1 + commonBehind old new limit (b - 1) (d - 1) else 0

theorem commonAhead_le (old new : Array α) (limit a c : Nat) :
    commonAhead old new limit a c ≤ limit := by
  induction limit generalizing a c with
  | zero => simp [commonAhead]
  | succ limit ih =>
    unfold commonAhead
    split
    · have := ih (a + 1) (c + 1)
      omega
    · omega

theorem commonBehind_le (old new : Array α) (limit b d : Nat) :
    commonBehind old new limit b d ≤ limit := by
  induction limit generalizing b d with
  | zero => simp [commonBehind]
  | succ limit ih =>
    unfold commonBehind
    split
    · have := ih (b - 1) (d - 1)
      omega
    · omega

/-- A stretch of the old and a stretch of the new sequence, from the first place to before the
second one of each. -/
structure Box where
  a : Nat
  b : Nat
  c : Nat
  d : Nat
  deriving Repr, DecidableEq

namespace Box

def oldLength (box : Box) : Nat := box.b - box.a

def newLength (box : Box) : Nat := box.d - box.c

def size (box : Box) : Nat := box.oldLength + box.newLength

/-- Whether a place of each sequence lies in the box or at its end. -/
def Has (box : Box) (x y : Nat) : Prop :=
  (box.a ≤ x ∧ x ≤ box.b) ∧ box.c ≤ y ∧ y ≤ box.d

instance (box : Box) (x y : Nat) : Decidable (box.Has x y) :=
  inferInstanceAs (Decidable (_ ∧ _))

end Box

/-- How far a search has come on each diagonal, counted from one end of the old stretch. -/
structure Frontier where
  middle : Nat
  reach : Array Int
  deriving Repr

namespace Frontier

/-- The frontier for diagonals of either sign up to `limit`. -/
def start (limit : Nat) : Frontier :=
  ⟨limit + 1, Array.replicate (2 * limit + 3) 0⟩

/-- How far the search has come on a diagonal, zero where it has not been. -/
def get (frontier : Frontier) (diagonal : Int) : Int :=
  let place := diagonal + frontier.middle
  if place < 0 then 0 else frontier.reach.getD place.toNat 0

def set (frontier : Frontier) (diagonal reach : Int) : Frontier :=
  { frontier with
    reach := frontier.reach.setIfInBounds (diagonal + frontier.middle).toNat reach }

/-- Where a path of `edits` edits enters a diagonal, coming from the neighbour that is further
on. -/
def enter (frontier : Frontier) (edits : Nat) (diagonal : Int) : Int :=
  let fromAbove := frontier.get (diagonal + 1)
  let fromLeft := frontier.get (diagonal - 1)
  if diagonal = -(edits : Int) ∨ (diagonal ≠ edits ∧ fromLeft < fromAbove) then fromAbove
  else fromLeft + 1

end Frontier

/-- The diagonals that a path of `edits` edits can end on. -/
def diagonals (edits : Nat) : List Int :=
  (List.range (edits + 1)).map fun (i : Nat) => (edits : Int) - 2 * (i : Int)

/-- A search stops with the place at which the paths from both ends meet. -/
abbrev Search := Except (Nat × Nat)

/-- The difference of the lengths of both stretches. -/
def Box.slant (box : Box) : Int :=
  (box.oldLength : Int) - box.newLength

/-- Whether paths meet when the forward search is ahead. -/
def Box.isOdd (box : Box) : Bool :=
  box.slant % 2 != 0

/-- Extends the forward paths along a diagonal. -/
def forward (old new : Array α) (box : Box) (edits : Nat) (behind ahead : Frontier)
    (diagonal : Int) : Search Frontier :=
  let x := ahead.enter edits diagonal
  let y := x - diagonal
  let run :=
    if x < box.oldLength ∧ y < box.newLength then
      commonAhead old new (min (box.oldLength - x.toNat) (box.newLength - y.toNat))
        (box.a + x.toNat) (box.c + y.toNat)
    else 0
  let ahead := ahead.set diagonal (x + run)
  let other := diagonal - box.slant
  if box.isOdd ∧ (other.natAbs : Int) ≤ (edits : Int) - 1 ∧
      (box.oldLength : Int) ≤ x + run + behind.get (-other) then
    .error (box.a + x.toNat, box.c + y.toNat)
  else .ok ahead

/-- Extends the backward paths along a diagonal. -/
def backward (old new : Array α) (box : Box) (edits : Nat) (ahead behind : Frontier)
    (diagonal : Int) : Search Frontier :=
  let x := behind.enter edits diagonal
  let y := x - diagonal
  let run :=
    if x < box.oldLength ∧ y < box.newLength then
      commonBehind old new (min (box.oldLength - x.toNat) (box.newLength - y.toNat))
        (box.b - x.toNat) (box.d - y.toNat)
    else 0
  let behind := behind.set diagonal (x + run)
  let other := diagonal - box.slant
  if !box.isOdd ∧ (other.natAbs : Int) ≤ edits ∧
      (box.oldLength : Int) ≤ x + run + ahead.get (-other) then
    .error (box.b - (x + run).toNat, box.d - (y + run).toNat)
  else .ok behind

/-- Where a shortest edit of a box has its middle. -/
def middle? (old new : Array α) (box : Box) : Option (Nat × Nat) :=
  let limit := (box.size + 1) / 2
  let search : Search (Frontier × Frontier) :=
    (List.range (limit + 1)).foldlM (fun (ahead, behind) edits => do
      let ahead ← (diagonals edits).foldlM (forward old new box edits behind) ahead
      let behind ← (diagonals edits).foldlM (backward old new box edits ahead) behind
      return (ahead, behind)) (.start limit, .start limit)
  match search with
  | .error place => some place
  | .ok _ => none

/-- An edit that keeps a stretch, unless it is empty. -/
def keep (old new length : Nat) : List Edit :=
  if length = 0 then [] else [⟨.keep, old, new, length⟩]

/-- The edits of a box: what both ends have in common is kept, and the rest is divided at the
middle of a shortest edit. -/
def editsWithin (old new : Array α) (box : Box) : List Edit :=
  let ahead := commonAhead old new (min box.oldLength box.newLength) box.a box.c
  let a := box.a + ahead
  let c := box.c + ahead
  let behind := commonBehind old new (min (box.b - a) (box.d - c)) box.b box.d
  let b := box.b - behind
  let d := box.d - behind
  let inner :=
    if b ≤ a ∧ d ≤ c then []
    else if d ≤ c then [⟨.delete, a, c, b - a⟩]
    else if b ≤ a then [⟨.insert, a, c, d - c⟩]
    else
      match middle? old new ⟨a, b, c, d⟩ with
      | some (x, y) =>
        if _smaller : (Box.mk a b c d).Has x y ∧
            (Box.mk a x c y).size < box.size ∧ (Box.mk x b y d).size < box.size then
          editsWithin old new ⟨a, x, c, y⟩ ++ editsWithin old new ⟨x, b, y, d⟩
        else [⟨.delete, a, c, b - a⟩, ⟨.insert, a, c, d - c⟩]
      | none => [⟨.delete, a, c, b - a⟩, ⟨.insert, a, c, d - c⟩]
  keep box.a box.c ahead ++ inner ++ keep b d behind
  termination_by box.size
  decreasing_by
    · exact _smaller.2.1
    · exact _smaller.2.2

end

end MutationTesting.Diff
