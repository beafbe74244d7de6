import MutationTesting.Walk.Grammar
/-! A walk that goes on from mutant to mutant. Children come before their parent's own rules, so
the innermost expression of a line is changed first. A cursor holds a frame for each node that
has been entered and not been left, and the tree, in which a proposal stands only while its
mutant is rendered. Every step lessens the work that the frames leave to do, so the walk ends. -/
namespace MutationTesting.Walk

/-- What a node that has been entered has to do next: to go to the child at a place, or to apply
the rule at a place. -/
inductive Todo where
  | children (place : Nat)
  | rules (place : Nat)
  deriving Repr, DecidableEq

/-- A node that has been entered, and what it has to do. -/
structure Frame where
  address : Address
  todo : Todo
  deriving Repr, DecidableEq

/-- The tree, the frames from the inside out, the root's being the last one, the addresses of the
entered nodes from the inside out, the root left out, the register, and the number of mutants so
far. -/
structure Cursor where
  tree : Node
  frames : List Frame
  stack : List Address
  register : Register
  yielded : Nat

inductive Step where
  | finished
  | moved (cursor : Cursor)
  | found (mutant : Mutant) (cursor : Cursor)

namespace Cursor

def start (root : Node) : Cursor :=
  ⟨root, [⟨[], .children 0⟩], [], .start, 0⟩

/-- Enters a node, unless it is passed by. -/
def enter (setting : Setting) (cursor : Cursor) (spot : Spot) : Cursor :=
  if setting.grammar.isPassThrough spot then cursor
  else
    { cursor with
      frames := ⟨spot.address, .children 0⟩ :: cursor.frames
      stack := spot.address :: cursor.stack
      register := cursor.register.moveTo spot.start.row }

/-- Goes on from the innermost frame to the child at a place, if there is one and it is no return
arrow. -/
def stepChild (setting : Setting) (cursor : Cursor) (frame : Frame) (below : List Frame)
    (place : Nat) : Cursor :=
  let spot : Spot := ⟨cursor.tree, frame.address⟩
  if spot.children[place]?.isSome ∧ !setting.grammar.isReturnArrow (spot.child place) then
    enter setting { cursor with frames := { frame with todo := .children (place + 1) } :: below }
      (spot.child place)
  else { cursor with frames := { frame with todo := .rules 0 } :: below }

/-- Applies a rule to the node of the innermost frame; `frames` are those behind it. A proposal
takes a number, whether there is a mutant or not. -/
def stepRule (setting : Setting) (cursor : Cursor) (address : Address) (frames : List Frame)
    (rule : Rule) : Step :=
  let spot : Spot := ⟨cursor.tree, address⟩
  match rule.propose? (contextOf setting.table cursor.register cursor.stack spot) with
  | none => .moved { cursor with frames }
  | some proposal =>
    if setting.lines.isExcluded cursor.register.row then
      .moved { cursor with frames, register := cursor.register.next }
    else
      let (back, changed) := spot.exchange proposal
      let mutated := render setting changed
      let (_, tree) := Spot.exchange ⟨changed, address⟩ back
      if mutated = setting.source then
        .moved { cursor with tree, frames, register := cursor.register.next }
      else
        .found (mutantOf setting cursor.register mutated)
          { cursor with
            tree, frames, register := cursor.register.next, yielded := cursor.yielded + 1 }

/-- Leaves the node of the innermost frame. The root is in no stack. -/
def leave (cursor : Cursor) (below : List Frame) : Cursor :=
  { cursor with
    frames := below
    stack := if below.isEmpty then cursor.stack else cursor.stack.tail }

/-- The rule at a place of a node inside the given frames. The root has none. -/
def ruleAt? (setting : Setting) (below : List Frame) (spot : Spot) (place : Nat) : Option Rule :=
  if below.isEmpty then none else (setting.table.rulesFor spot.kind)[place]?

def step (setting : Setting) (cursor : Cursor) : Step :=
  match cursor.frames with
  | [] => .finished
  | frame :: below =>
    match frame.todo with
    | .children place => .moved (stepChild setting cursor frame below place)
    | .rules place =>
      match ruleAt? setting below ⟨cursor.tree, frame.address⟩ place with
      | some rule =>
        stepRule setting cursor frame.address ({ frame with todo := .rules (place + 1) } :: below)
          rule
      | none => .moved (leave cursor below)

end Cursor

mutual
/-- The steps that a node takes at most, its entering included. -/
def work : Node → Nat
  | ⟨_, _, _, children⟩ => 5 + workAll children

def workAll : List Node → Nat
  | [] => 0
  | node :: rest => work node + workAll rest
end

theorem work_eq (node : Node) : work node = 5 + workAll node.children := by
  cases node
  rfl

theorem workAll_drop {nodes : List Node} {place : Nat} {node : Node}
    (found : nodes[place]? = some node) :
    workAll (nodes.drop place) = work node + workAll (nodes.drop (place + 1)) := by
  obtain ⟨bound, rfl⟩ := List.getElem?_eq_some_iff.mp found
  rw [List.drop_eq_getElem_cons bound, workAll]

/-- The steps that a frame still takes at most. -/
def Frame.work (tree : Node) (frame : Frame) : Nat :=
  match frame.todo with
  | .children place => 4 + workAll ((Spot.children ⟨tree, frame.address⟩).drop place)
  | .rules place => 1 + (2 - place)

/-- The steps that frames still take at most. -/
def framesWork (tree : Node) : List Frame → Nat
  | [] => 0
  | frame :: below => frame.work tree + framesWork tree below

namespace Cursor

/-- The steps that a cursor still takes at most. -/
def work (cursor : Cursor) : Nat :=
  framesWork cursor.tree cursor.frames

theorem lt_of_ruleAt? {setting : Setting} {below : List Frame} {spot : Spot} {place : Nat}
    {rule : Rule} (found : ruleAt? setting below spot place = some rule) : place < 2 := by
  unfold ruleAt? at found
  split at found
  · contradiction
  · have bound := (List.getElem?_eq_some_iff.mp found).1
    exact Nat.lt_of_lt_of_le bound (RuleTable.length_rulesFor_le _ _)

theorem work_stepChild (setting : Setting) (cursor : Cursor) (frame : Frame) (below : List Frame)
    (place : Nat) (todo : frame.todo = .children place) :
    (stepChild setting cursor frame below place).work <
      framesWork cursor.tree (frame :: below) := by
  unfold stepChild
  dsimp only
  split
  · rename_i here
    obtain ⟨child, found⟩ := Option.isSome_iff_exists.mp here.1
    have shorter := workAll_drop found
    have childWork := work_eq child
    unfold enter
    split
    · simp only [work, framesWork, Frame.work, todo]
      omega
    · have entered : Spot.children ⟨cursor.tree, frame.address ++ [place]⟩ = child.children :=
        Spot.children_eq (Spot.node?_child found)
      simp only [work, framesWork, Frame.work, todo, Spot.child, entered, List.drop_zero]
      omega
  · simp only [work, framesWork, Frame.work, todo]
    omega

/-- What the rule of a step leads to: the frames and the tree are the same whatever becomes of
the proposal. -/
theorem stepRule_cases (setting : Setting) (cursor : Cursor) (address : Address)
    (frames : List Frame) (rule : Rule) :
    (∃ register, stepRule setting cursor address frames rule =
      .moved { cursor with frames, register }) ∨
    ∃ mutant register, stepRule setting cursor address frames rule =
      .found mutant { cursor with frames, register, yielded := cursor.yielded + 1 } := by
  unfold stepRule
  dsimp only
  split
  · exact .inl ⟨cursor.register, rfl⟩
  · split
    · exact .inl ⟨cursor.register.next, rfl⟩
    · rw [Spot.exchange_back]
      split
      · exact .inl ⟨cursor.register.next, rfl⟩
      · exact .inr ⟨_, cursor.register.next, rfl⟩

/-- What a step does to a cursor: a mutant is counted, the tree stays, the work lessens. -/
theorem step_spec (setting : Setting) (cursor : Cursor) :
    match cursor.step setting with
    | .finished => cursor.frames = []
    | .moved next =>
      next.tree = cursor.tree ∧ next.yielded = cursor.yielded ∧ next.work < cursor.work
    | .found _ next =>
      next.tree = cursor.tree ∧ next.yielded = cursor.yielded + 1 ∧ next.work < cursor.work := by
  obtain ⟨tree, frames, stack, register, yielded⟩ := cursor
  cases frames with
  | nil => rfl
  | cons frame below =>
    cases todo : frame.todo with
    | children place =>
      simp only [step, todo]
      refine ⟨?_, ?_, work_stepChild setting _ frame below place todo⟩ <;>
      · unfold stepChild enter
        dsimp only
        split
        · split <;> rfl
        · rfl
    | rules place =>
      cases found : ruleAt? setting below ⟨tree, frame.address⟩ place with
      | none =>
        simp only [step, todo, found]
        refine ⟨rfl, rfl, ?_⟩
        simp only [leave, work, framesWork, Frame.work, todo]
        omega
      | some rule =>
        have bound := lt_of_ruleAt? found
        have lessens : framesWork tree ({ frame with todo := .rules (place + 1) } :: below) <
            framesWork tree (frame :: below) := by
          simp only [framesWork, Frame.work, todo]
          omega
        simp only [step, todo, found]
        obtain ⟨register, moved⟩ | ⟨mutant, register, found⟩ := stepRule_cases setting
          ⟨tree, frame :: below, stack, register, yielded⟩ frame.address
          ({ frame with todo := .rules (place + 1) } :: below) rule
        · rw [moved]
          exact ⟨rfl, rfl, lessens⟩
        · rw [found]
          exact ⟨rfl, rfl, lessens⟩

theorem work_moved {setting : Setting} {cursor next : Cursor}
    (stepped : cursor.step setting = .moved next) : next.work < cursor.work := by
  have spec := step_spec setting cursor
  rw [stepped] at spec
  exact spec.2.2

theorem work_found {setting : Setting} {cursor next : Cursor} {mutant : Mutant}
    (stepped : cursor.step setting = .found mutant next) : next.work < cursor.work := by
  have spec := step_spec setting cursor
  rw [stepped] at spec
  exact spec.2.2

def next (setting : Setting) (cursor : Cursor) : Option Mutant × Cursor :=
  match _stepped : cursor.step setting with
  | .finished => (none, cursor)
  | .found mutant behind => (some mutant, behind)
  | .moved behind => behind.next setting
  termination_by cursor.work
  decreasing_by exact work_moved _stepped

theorem work_next {setting : Setting} {cursor behind : Cursor} {mutant : Mutant}
    (found : cursor.next setting = (some mutant, behind)) : behind.work < cursor.work := by
  fun_induction next setting cursor with
  | case1 => simp at found
  | case2 cursor mutant behind stepped =>
    obtain ⟨-, rfl⟩ := Prod.mk.inj found
    exact work_found stepped
  | case3 cursor moved stepped ih =>
    exact Nat.lt_trans (ih found) (work_moved stepped)

def toList (setting : Setting) (cursor : Cursor) : List Mutant :=
  match _found : cursor.next setting with
  | (none, _) => []
  | (some mutant, behind) => mutant :: behind.toList setting
  termination_by cursor.work
  decreasing_by exact work_next _found

/-- The first mutant from the cursor on that has a property. -/
def find? (setting : Setting) (wanted : Mutant → Bool) (cursor : Cursor) : Option Mutant :=
  match _found : cursor.next setting with
  | (none, _) => none
  | (some mutant, behind) => if wanted mutant then some mutant else behind.find? setting wanted
  termination_by cursor.work
  decreasing_by exact work_next _found

theorem find?_eq (setting : Setting) (wanted : Mutant → Bool) (cursor : Cursor) :
    cursor.find? setting wanted = (cursor.toList setting).find? wanted := by
  fun_induction find? setting wanted cursor with
  | case1 cursor behind found => rw [toList]; split <;> simp_all
  | case2 cursor mutant behind found isWanted => rw [toList]; split <;> simp_all
  | case3 cursor mutant behind found isOther ih => rw [toList]; split <;> simp_all

end Cursor

end MutationTesting.Walk
