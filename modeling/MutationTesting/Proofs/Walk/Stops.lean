import Mathlib.Data.List.Induction
import MutationTesting.Proofs.Walk.Numbered
import MutationTesting.Proofs.Walk.Steps
/-! Where a walk stops to look up rules: at the nodes to which the way down is free of what is passed
by and of children behind a return arrow. -/
namespace MutationTesting.Walk

/-- The walk gets down to an address: no node on the way is passed by, and among the siblings up to a
node on the way there is no return arrow. -/
def Free (grammar : Grammar) (root : Node) (address : Address) : Prop :=
  ∀ way place, way ++ [place] <+: address →
    grammar.isPassThrough ⟨root, way ++ [place]⟩ = false ∧
      ∀ sibling ≤ place, grammar.isReturnArrow ⟨root, way ++ [sibling]⟩ = false

/-- At some time the walk is about to look up the first rule for a node other than the root. -/
def StopsAt (setting : Setting) (root : Node) (address : Address) : Prop :=
  ∃ found cursor below, Cursor.Steps setting (.start root) found cursor ∧
    cursor.frames = ⟨address, .rules 0⟩ :: below ∧ below ≠ []

section

variable {grammar : Grammar} {root : Node} {above : Address} {place : Nat}

theorem free_nil (grammar : Grammar) (root : Node) : Free grammar root [] := by
  intro way place isPrefix
  have bound := isPrefix.length_le
  simp at bound

theorem free_concat :
    Free grammar root (above ++ [place]) ↔
      Free grammar root above ∧ grammar.isPassThrough ⟨root, above ++ [place]⟩ = false ∧
        ∀ sibling ≤ place, grammar.isReturnArrow ⟨root, above ++ [sibling]⟩ = false := by
  constructor
  · intro free
    exact ⟨fun way place isPrefix => free way place (isPrefix.trans (List.prefix_append _ _)),
      free above place (List.prefix_refl _)⟩
  · rintro ⟨free, here⟩ way sibling isPrefix
    obtain same | isAbove := List.prefix_concat_iff.mp isPrefix
    · obtain ⟨rfl, last⟩ := List.append_inj' same rfl
      obtain rfl := List.singleton_inj.mp last
      exact here
    · exact free way sibling isAbove

end

/-- A frame that the walk has got down to, none of whose children so far is a return arrow. -/
structure Frame.IsFree (grammar : Grammar) (root : Node) (frame : Frame) : Prop where
  address : Free grammar root frame.address
  siblings : ∀ place, frame.todo = .children place →
    ∀ sibling < place, grammar.isReturnArrow ⟨root, frame.address ++ [sibling]⟩ = false

namespace Cursor

variable {setting : Setting} {root node : Node} {address : Address} {cursor next : Cursor}
  {below : List Frame} {frame : Frame} {place : Nat}

/-- A cursor in a tree all of whose frames are free. -/
structure IsFree (grammar : Grammar) (root : Node) (cursor : Cursor) : Prop where
  tree : cursor.tree = root
  frames : ∀ frame ∈ cursor.frames, frame.IsFree grammar root

theorem isFree_start (grammar : Grammar) (root : Node) : (start root).IsFree grammar root where
  tree := rfl
  frames := List.forall_mem_singleton.mpr ⟨free_nil grammar root, fun place same => by
    obtain rfl := Todo.children.inj same
    simp⟩

/-- Going on to a child, or to the rules behind a return arrow, keeps the frames free. -/
theorem isFree_stepChild (free : frame.IsFree setting.grammar root)
    (todo : frame.todo = .children place)
    (others : ∀ frame ∈ below, frame.IsFree setting.grammar root) (tree : cursor.tree = root) :
    (stepChild setting cursor frame below place).IsFree setting.grammar root := by
  unfold stepChild
  dsimp only
  split
  · rename_i isChild
    have noArrow : ∀ sibling ≤ place,
        setting.grammar.isReturnArrow ⟨root, frame.address ++ [sibling]⟩ = false := by
      intro sibling bound
      obtain before | rfl := Nat.lt_or_eq_of_le bound
      · exact free.siblings place todo sibling before
      · simpa [Spot.child, tree] using isChild.2
    have passed : Frame.IsFree setting.grammar root
        { frame with todo := .children (place + 1) } := by
      refine ⟨free.address, fun later same sibling bound => noArrow sibling ?_⟩
      obtain rfl := Todo.children.inj same
      exact Nat.le_of_lt_succ bound
    unfold enter
    split
    · exact ⟨tree, List.forall_mem_cons.mpr ⟨passed, others⟩⟩
    · rename_i entered
      have inside : Free setting.grammar root (frame.address ++ [place]) :=
        free_concat.mpr ⟨free.address, by simpa [Spot.child, tree] using entered, noArrow⟩
      refine ⟨tree, List.forall_mem_cons.mpr ⟨⟨inside, fun first same => ?_⟩,
        List.forall_mem_cons.mpr ⟨passed, others⟩⟩⟩
      obtain rfl := Todo.children.inj same
      simp
  · refine ⟨tree, List.forall_mem_cons.mpr ⟨⟨free.address, fun _ same => ?_⟩, others⟩⟩
    contradiction

theorem IsFree.step (free : cursor.IsFree setting.grammar root) :
    match cursor.step setting with
    | .finished => True
    | .moved next | .found _ next => next.IsFree setting.grammar root := by
  unfold Cursor.step
  cases frames : cursor.frames with
  | nil => trivial
  | cons frame below =>
    obtain ⟨first, others⟩ := List.forall_mem_cons.mp (frames ▸ free.frames)
    cases todo : frame.todo with
    | children place =>
      simp only [todo]
      exact isFree_stepChild first todo others free.tree
    | rules place =>
      have later : Frame.IsFree setting.grammar root { frame with todo := .rules (place + 1) } :=
        ⟨first.address, fun _ same => by contradiction⟩
      have all := List.forall_mem_cons.mpr ⟨later, others⟩
      cases isRule : ruleAt? setting below ⟨cursor.tree, frame.address⟩ place with
      | none =>
        simp only [todo, isRule]
        exact ⟨free.tree, others⟩
      | some rule =>
        simp only [todo, isRule]
        obtain ⟨register, moved⟩ | ⟨mutant, register, found⟩ := stepRule_cases setting cursor
          frame.address ({ frame with todo := .rules (place + 1) } :: below) rule
        · rw [moved]
          exact ⟨free.tree, all⟩
        · rw [found]
          exact ⟨free.tree, all⟩

theorem Steps.isFree {found : List Mutant} (steps : Steps setting cursor found next)
    (free : cursor.IsFree setting.grammar root) : next.IsFree setting.grammar root := by
  induction steps with
  | refl => exact free
  | moved stepped _ ih =>
    have stays := free.step
    rw [stepped] at stays
    exact ih stays
  | found stepped _ ih =>
    have stays := free.step
    rw [stepped] at stays
    exact ih stays

/-- The siblings in front of a place are walked one after the other if none of them is a return
arrow. -/
theorem steps_siblings (here : root.get? address = some node)
    (noArrow : ∀ sibling < place, setting.grammar.isReturnArrow ⟨root, address ++ [sibling]⟩ = false)
    (bound : place ≤ node.children.length) (below : List Frame) (register : Register)
    (yielded : Nat) :
    ∃ found register' yielded', Steps setting
      ⟨root, ⟨address, .children 0⟩ :: below, address.path, register, yielded⟩ found
      ⟨root, ⟨address, .children place⟩ :: below, address.path, register', yielded'⟩ := by
  induction place with
  | zero => exact ⟨[], register, yielded, .refl _⟩
  | succ place ih =>
    obtain ⟨found, register', yielded', steps⟩ :=
      ih (fun sibling before => noArrow sibling (by omega)) (by omega)
    have isChild : node.children[place]? = some node.children[place] :=
      List.getElem?_eq_getElem bound
    have there : root.get? (address ++ [place]) = some node.children[place] := by
      rw [Node.get?_concat, here, Option.bind_some, isChild]
    have enters : (Spot.children ⟨root, address⟩)[place]?.isSome ∧
        !setting.grammar.isReturnArrow ⟨root, address ++ [place]⟩ := by
      rw [Spot.children_eq here, isChild, noArrow place (by omega)]
      exact ⟨rfl, rfl⟩
    have walked := steps_visit setting node.children[place] address place there
      (List.cons_ne_nil ⟨address, .children (place + 1)⟩ below) register' yielded'
    exact ⟨_, _, _, steps.trans (.moved (step_children_some setting enters) walked)⟩

theorem steps_enter (setting : Setting) (here : root.get? address = some node)
    (free : Free setting.grammar root address) :
    ∃ found below register yielded, Steps setting (start root) found
        ⟨root, ⟨address, .children 0⟩ :: below, address.path, register, yielded⟩ ∧
      (address ≠ [] → below ≠ []) := by
  induction address using List.reverseRec generalizing node with
  | nil => exact ⟨[], [], .start, 0, .refl _, fun inside => absurd rfl inside⟩
  | append_singleton above place ih =>
    obtain ⟨freeAbove, notPassed, noArrow⟩ := free_concat.mp free
    rw [Node.get?_concat, Option.bind_eq_some_iff] at here
    obtain ⟨parent, isParent, isChild⟩ := here
    obtain ⟨bound, -⟩ := List.getElem?_eq_some_iff.mp isChild
    obtain ⟨found, below, register, yielded, steps, -⟩ := ih isParent freeAbove
    obtain ⟨later, register', yielded', siblings⟩ := steps_siblings isParent
      (fun sibling before => noArrow sibling (Nat.le_of_lt before)) (Nat.le_of_lt bound) below
      register yielded
    have enters : (Spot.children ⟨root, above⟩)[place]?.isSome ∧
        !setting.grammar.isReturnArrow ⟨root, above ++ [place]⟩ := by
      rw [Spot.children_eq isParent, isChild, noArrow place (Nat.le_refl _)]
      exact ⟨rfl, rfl⟩
    have entered := siblings.trans (.moved (step_children_some setting enters) (.refl _))
    rw [enter, if_neg (by simp [notPassed])] at entered
    rw [Address.path_concat]
    exact ⟨_, _, _, _, steps.trans entered, fun _ => List.cons_ne_nil _ _⟩

end Cursor

/-- The walk stops at the nodes below the root that it gets down to, and at no others. -/
theorem stopsAt_iff {setting : Setting} {root node : Node} {address : Address}
    (here : root.get? address = some node) (inside : address ≠ []) :
    StopsAt setting root address ↔ Free setting.grammar root address := by
  constructor
  · rintro ⟨found, cursor, below, steps, frames, -⟩
    have free := steps.isFree (Cursor.isFree_start setting.grammar root)
    exact (free.frames ⟨address, .rules 0⟩ (frames ▸ List.mem_cons_self)).address
  · intro free
    obtain ⟨found, below, register, yielded, steps, notRoot⟩ := Cursor.steps_enter setting here free
    have children := Cursor.steps_visitFrom setting node.children address 0 here rfl below register
      yielded
    exact ⟨_, _, below, steps.trans children, rfl, notRoot inside⟩

section

variable {grammar : Grammar} {table : RuleTable} {root : Node} {candidate : Candidate}

mutual
/-- The walk gets down to the candidates of a node if it gets down to the node. -/
theorem free_of_mem_visit (node : Node) (above : Address) (place : Nat) (register : Register)
    (free : Free grammar root above)
    (noArrow : ∀ sibling ≤ place, grammar.isReturnArrow ⟨root, above ++ [sibling]⟩ = false)
    (member : candidate ∈ (visit grammar table root (above ++ [place]) register node).1) :
    Free grammar root candidate.address := by
  obtain ⟨kind, token?, start, children⟩ := node
  unfold visit at member
  split at member
  · contradiction
  · rename_i notPassed
    have inside : Free grammar root (above ++ [place]) :=
      free_concat.mpr ⟨free, by simpa using notPassed, noArrow⟩
    obtain member | member := List.mem_append.mp member
    · exact free_of_mem_visitFrom children _ 0 _ inside (by simp) member
    · exact (mem_ownCandidates member).1 ▸ inside

theorem free_of_mem_visitFrom (children : List Node) (address : Address) (place : Nat)
    (register : Register) (free : Free grammar root address)
    (noArrow : ∀ sibling < place, grammar.isReturnArrow ⟨root, address ++ [sibling]⟩ = false)
    (member : candidate ∈ (visitFrom grammar table root address register place children).1) :
    Free grammar root candidate.address := by
  cases children with
  | nil => contradiction
  | cons child later =>
    unfold visitFrom at member
    split at member
    · contradiction
    · rename_i isNext
      have upTo : ∀ sibling ≤ place,
          grammar.isReturnArrow ⟨root, address ++ [sibling]⟩ = false := by
        intro sibling bound
        obtain before | rfl := Nat.lt_or_eq_of_le bound
        · exact noArrow sibling before
        · simpa using isNext
      obtain member | member := List.mem_append.mp member
      · exact free_of_mem_visit child address place _ free upTo member
      · exact free_of_mem_visitFrom later address (place + 1) _ free
          (fun sibling before => upTo sibling (Nat.le_of_lt_succ before)) member
end

/-- Only where the walk gets down to is there a candidate. -/
theorem free_of_mem_candidates (member : candidate ∈ candidates grammar table root) :
    Free grammar root candidate.address :=
  free_of_mem_visitFrom root.children [] 0 .start (free_nil grammar root) (by simp) member

end

end MutationTesting.Walk
