import MutationTesting.Walk.Cursor
import MutationTesting.Walk.Grammar
/-! The steps of the walk follow the recursion. Between two steps on the same node the frames below
it and the stack are as they were, so what a subtree yields does not depend on where it stands. -/
namespace MutationTesting.Walk.Cursor

/-- Some steps in a row, and the mutants found on the way. -/
inductive Steps (setting : Setting) : Cursor → List Mutant → Cursor → Prop where
  | refl (cursor : Cursor) : Steps setting cursor [] cursor
  | moved {cursor behind last : Cursor} {found : List Mutant} :
      cursor.step setting = .moved behind → Steps setting behind found last →
      Steps setting cursor found last
  | found {cursor behind last : Cursor} {mutant : Mutant} {found : List Mutant} :
      cursor.step setting = .found mutant behind → Steps setting behind found last →
      Steps setting cursor (mutant :: found) last

variable (setting : Setting) {root node : Node} {address : Address} {below : List Frame}

theorem Steps.trans {setting : Setting} {first between last : Cursor} {found later : List Mutant}
    (steps : Steps setting first found between) (further : Steps setting between later last) :
    Steps setting first (found ++ later) last := by
  induction steps with
  | refl => exact further
  | moved stepped _ ih => exact .moved stepped (ih further)
  | found stepped _ ih => exact .found stepped (ih further)

/-- A rule leads to the mutant of its candidate, if it proposes one. -/
theorem stepRule_eq {cursor : Cursor} (here : cursor.tree.get? address = some node)
    (frames : List Frame) (rule : Rule) :
    stepRule setting cursor address frames rule =
      match rule.propose?
        (contextOf setting.table cursor.register cursor.stack ⟨cursor.tree, address⟩) with
      | none => .moved { cursor with frames }
      | some proposal =>
        match mutant? setting cursor.tree
          ⟨address, node, proposal.applyTo node, cursor.register⟩ with
        | none => .moved { cursor with frames, register := cursor.register.next }
        | some mutant =>
          .found mutant
            { cursor with
              frames, register := cursor.register.next, yielded := cursor.yielded + 1 } := by
  unfold stepRule mutant? rendered?
  dsimp only
  cases rule.propose?
    (contextOf setting.table cursor.register cursor.stack ⟨cursor.tree, address⟩) with
  | none => rfl
  | some proposal =>
    dsimp only
    rw [Spot.exchange_back, Spot.exchange_eq here]
    by_cases isExcluded : setting.lines.isExcluded cursor.register.row = true
    · simp only [isExcluded, if_true]
    · simp only [isExcluded, Bool.false_eq_true, if_false]
      split <;> rfl

/-- The rules of a node that is not the root yield the mutants of its own candidates. -/
theorem steps_rules (here : root.get? address = some node) (inside : below ≠ []) {place : Nat}
    {rules : List Rule} (rest : (setting.table.rulesFor node.kind).drop place = rules)
    (register : Register) (yielded : Nat) :
    let own := ownCandidates setting.table root address node register rules
    let found := own.1.filterMap (mutant? setting root)
    Steps setting ⟨root, ⟨address, .rules place⟩ :: below, address.path, register, yielded⟩ found
      ⟨root, below, address.path.tail, own.2, yielded + found.length⟩ := by
  have notRoot : below.isEmpty = false := by simpa using inside
  induction rules generalizing place register yielded with
  | nil =>
    have noRule : ruleAt? setting below ⟨root, address⟩ place = none := by
      simpa [ruleAt?, notRoot, Spot.kind_eq here] using rest
    refine .moved ?_ (.refl _)
    simp [step, noRule, leave, notRoot, ownCandidates]
  | cons rule rules ih =>
    have isRule : ruleAt? setting below ⟨root, address⟩ place = some rule := by
      have first := congrArg List.head? rest
      simpa [ruleAt?, notRoot, Spot.kind_eq here] using first
    have later : (setting.table.rulesFor node.kind).drop (place + 1) = rules := by
      rw [← List.tail_drop, rest, List.tail_cons]
    have stepped : step setting
        ⟨root, ⟨address, .rules place⟩ :: below, address.path, register, yielded⟩ =
        stepRule setting
          ⟨root, ⟨address, .rules place⟩ :: below, address.path, register, yielded⟩ address
          (⟨address, .rules (place + 1)⟩ :: below) rule := by
      simp only [step, isRule]
    rw [stepRule_eq setting here] at stepped
    dsimp only at stepped ih ⊢
    unfold ownCandidates
    cases proposed : rule.propose? (contextOf setting.table register address.path
        ⟨root, address⟩) with
    | none =>
      rw [proposed] at stepped
      exact .moved stepped (ih later register yielded)
    | some proposal =>
      rw [proposed] at stepped
      dsimp only at stepped ⊢
      rw [List.filterMap_cons]
      cases outcome : mutant? setting root ⟨address, node, proposal.applyTo node, register⟩ with
      | none =>
        rw [outcome] at stepped
        exact .moved stepped (ih later register.next yielded)
      | some mutant =>
        rw [outcome] at stepped
        refine .found stepped ?_
        simpa only [List.length_cons, Nat.add_assoc, Nat.add_comm 1] using
          ih later register.next (yielded + 1)

theorem step_children_none {place : Nat} {stack : List Address} {register : Register}
    {yielded : Nat}
    (noChild : ¬ ((Spot.children ⟨root, address⟩)[place]?.isSome ∧
      !setting.grammar.isReturnArrow ⟨root, address ++ [place]⟩)) :
    step setting ⟨root, ⟨address, .children place⟩ :: below, stack, register, yielded⟩ =
      .moved ⟨root, ⟨address, .rules 0⟩ :: below, stack, register, yielded⟩ :=
  congrArg Step.moved (if_neg noChild)

theorem step_children_some {place : Nat} {stack : List Address} {register : Register}
    {yielded : Nat}
    (isChild : (Spot.children ⟨root, address⟩)[place]?.isSome ∧
      !setting.grammar.isReturnArrow ⟨root, address ++ [place]⟩) :
    step setting ⟨root, ⟨address, .children place⟩ :: below, stack, register, yielded⟩ =
      .moved (enter setting
        ⟨root, ⟨address, .children (place + 1)⟩ :: below, stack, register, yielded⟩
        ⟨root, address ++ [place]⟩) :=
  congrArg Step.moved (if_pos isChild)

mutual
/-- Once a node below the root is entered, the walk yields the mutants of its subtree and leaves
it. -/
theorem steps_visit (node : Node) (above : Address) (place : Nat)
    (here : root.get? (above ++ [place]) = some node) {below : List Frame} (inside : below ≠ [])
    (register : Register) (yielded : Nat) :
    let all := visit setting.grammar setting.table root (above ++ [place]) register node
    let found := all.1.filterMap (mutant? setting root)
    Steps setting
      (enter setting ⟨root, below, above.path, register, yielded⟩ ⟨root, above ++ [place]⟩) found
      ⟨root, below, above.path, all.2, yielded + found.length⟩ := by
  obtain ⟨kind, token?, start, children⟩ := node
  dsimp only
  unfold visit enter
  split
  · exact .refl _
  · have inner := steps_visitFrom children (above ++ [place]) 0 here rfl below
      (register.moveTo start.row) yielded
    have own := steps_rules setting here inside (List.drop_zero)
      (visitFrom setting.grammar setting.table root (above ++ [place])
        (register.moveTo start.row) 0 children).2
    simp only [Address.path_concat, List.tail_cons] at inner own
    dsimp only
    rw [List.filterMap_append, List.length_append, ← Nat.add_assoc, Spot.start_eq here]
    exact inner.trans (own _)

/-- From a place on the children of a node yield the mutants of their subtrees, up to the first
return arrow. -/
theorem steps_visitFrom (children : List Node) {node : Node} (address : Address) (place : Nat)
    (here : root.get? address = some node) (rest : node.children.drop place = children)
    (below : List Frame) (register : Register) (yielded : Nat) :
    let all := visitFrom setting.grammar setting.table root address register place children
    let found := all.1.filterMap (mutant? setting root)
    Steps setting ⟨root, ⟨address, .children place⟩ :: below, address.path, register, yielded⟩
      found ⟨root, ⟨address, .rules 0⟩ :: below, address.path, all.2, yielded + found.length⟩ := by
  have atPlace : (Spot.children ⟨root, address⟩)[place]? = children.head? := by
    rw [Spot.children_eq here, ← rest, List.head?_drop]
  cases children with
  | nil => exact .moved (step_children_none setting (by simp [atPlace])) (.refl _)
  | cons child later =>
    have there : root.get? (address ++ [place]) = some child := by
      rw [Spot.children_eq here] at atPlace
      simpa [Node.get?_concat, here] using atPlace
    have further : node.children.drop (place + 1) = later := by
      rw [← List.tail_drop, rest, List.tail_cons]
    dsimp only
    unfold visitFrom
    split
    · rename_i isArrow
      exact .moved (step_children_none setting (by simp [isArrow])) (.refl _)
    · rename_i noArrow
      refine .moved (step_children_some setting (by simp [atPlace, noArrow])) ?_
      dsimp only
      rw [List.filterMap_append, List.length_append, ← Nat.add_assoc]
      exact (steps_visit child address place there (by simp) register yielded).trans
        (steps_visitFrom later address (place + 1) here further below _ _)
end

/-- From its start the walk yields the mutants of the recursion, and then there is no frame
left. -/
theorem steps_start (setting : Setting) (root : Node) :
    ∃ register, Steps setting (start root) (mutants setting root)
      ⟨root, [], [], register, (mutants setting root).length⟩ := by
  have inner := steps_visitFrom setting root.children [] 0
    (Node.get?_nil root) rfl [] .start 0
  have left (register : Register) (yielded : Nat) :
      step setting ⟨root, [⟨[], .rules 0⟩], [], register, yielded⟩ =
        .moved ⟨root, [], [], register, yielded⟩ := rfl
  have steps := inner.trans (.moved (left _ _) (.refl _))
  rw [List.append_nil, Nat.zero_add] at steps
  exact ⟨_, steps⟩

end MutationTesting.Walk.Cursor

/-! Calls of `next` one after the other. They end, they yield the mutants of the recursion, and
each of them leaves the tree of the cursor as it was. -/
namespace MutationTesting.Walk.Cursor

variable {setting : Setting}

theorem next_finished {cursor : Cursor} (finished : cursor.frames = []) :
    cursor.next setting = (none, cursor) := by
  have stepped : cursor.step setting = .finished := by simp [step, finished]
  rw [next]
  split <;> simp_all

theorem next_moved {cursor behind : Cursor} (stepped : cursor.step setting = .moved behind) :
    cursor.next setting = behind.next setting := by
  rw [next]
  split <;> simp_all

theorem next_found {cursor behind : Cursor} {mutant : Mutant}
    (stepped : cursor.step setting = .found mutant behind) :
    cursor.next setting = (some mutant, behind) := by
  rw [next]
  split <;> simp_all

theorem next_spec {cursor behind : Cursor} {mutant? : Option Mutant}
    (called : cursor.next setting = (mutant?, behind)) :
    behind.tree = cursor.tree ∧ behind.yielded = cursor.yielded + mutant?.toList.length := by
  fun_induction next setting cursor with
  | case1 cursor stepped =>
    obtain ⟨rfl, rfl⟩ := Prod.mk.inj called
    exact ⟨rfl, rfl⟩
  | case2 cursor mutant found stepped =>
    obtain ⟨rfl, rfl⟩ := Prod.mk.inj called
    have spec := step_spec setting cursor
    rw [stepped] at spec
    exact ⟨spec.1, spec.2.1⟩
  | case3 cursor moved stepped ih =>
    obtain ⟨held, counted⟩ := ih called
    have spec := step_spec setting cursor
    rw [stepped] at spec
    exact ⟨held.trans spec.1, by rw [counted, spec.2.1]⟩

/-- Some calls in a row that each find a mutant. -/
inductive Calls (setting : Setting) : Cursor → List Mutant → Cursor → Prop where
  | refl (cursor : Cursor) : Calls setting cursor [] cursor
  | call {cursor behind last : Cursor} {mutant : Mutant} {found : List Mutant} :
      cursor.next setting = (some mutant, behind) → Calls setting behind found last →
      Calls setting cursor (mutant :: found) last

theorem Calls.tree_eq {cursor last : Cursor} {found : List Mutant}
    (calls : Calls setting cursor found last) : last.tree = cursor.tree := by
  induction calls with
  | refl => rfl
  | call called _ ih => exact ih.trans (next_spec called).1

theorem Calls.yielded_eq {cursor last : Cursor} {found : List Mutant}
    (calls : Calls setting cursor found last) :
    last.yielded = cursor.yielded + found.length := by
  induction calls with
  | refl => rfl
  | call called _ ih =>
    have counted := (next_spec called).2
    simp only [Option.toList_some, List.length_singleton] at counted
    rw [ih, counted, List.length_cons]
    omega

theorem Calls.isPrefix {cursor between last : Cursor} {found all : List Mutant}
    (calls : Calls setting cursor found between) (toEnd : Calls setting cursor all last)
    (ended : (last.next setting).1 = none) : found <+: all := by
  induction calls generalizing all with
  | refl => exact List.nil_prefix
  | call called _ ih =>
    cases toEnd with
    | refl => simp [called] at ended
    | call alsoCalled toEnd =>
      rw [called] at alsoCalled
      obtain ⟨⟨rfl⟩, rfl⟩ := Prod.mk.inj alsoCalled
      exact List.cons_prefix_cons.mpr ⟨rfl, ih toEnd⟩

/-- Steps to the end are calls to the end. -/
theorem Steps.calls {cursor last : Cursor} {found : List Mutant}
    (steps : Steps setting cursor found last) (finished : last.frames = []) :
    ∃ behind, Calls setting cursor found behind ∧ behind.next setting = (none, last) := by
  induction steps with
  | refl cursor => exact ⟨cursor, .refl cursor, next_finished finished⟩
  | moved stepped _ ih =>
    obtain ⟨behind, calls, ended⟩ := ih finished
    cases calls with
    | refl => exact ⟨_, .refl _, (next_moved stepped).trans ended⟩
    | call called calls => exact ⟨behind, .call ((next_moved stepped).trans called) calls, ended⟩
  | found stepped _ ih =>
    obtain ⟨behind, calls, ended⟩ := ih finished
    exact ⟨behind, .call (next_found stepped) calls, ended⟩

theorem Calls.toList_eq {cursor last : Cursor} {found : List Mutant}
    (calls : Calls setting cursor found last) (ended : (last.next setting).1 = none) :
    cursor.toList setting = found := by
  induction calls with
  | refl => rw [toList]; split <;> simp_all
  | call called _ ih => rw [toList]; split <;> simp_all

/-- The calls from the start of a walk to its end find the mutants of the recursion. -/
theorem calls_start (setting : Setting) (root : Node) :
    ∃ last, Calls setting (start root) (mutants setting root) last ∧
      (last.next setting).1 = none := by
  obtain ⟨register, steps⟩ := steps_start setting root
  obtain ⟨last, calls, ended⟩ := steps.calls rfl
  exact ⟨last, calls, by rw [ended]⟩

theorem toList_start (setting : Setting) (root : Node) :
    (start root).toList setting = mutants setting root := by
  obtain ⟨last, calls, ended⟩ := calls_start setting root
  exact calls.toList_eq ended

/-- Calls of `next` come to an end, and until then they find the mutants of the recursive walk, one
by one. After every call, also the one that finds nothing, the cursor holds the tree it began
with, and it has counted the mutants so far. -/
theorem calls_follow_recursion (setting : Setting) (root : Node) :
    (∃ last, Calls setting (start root) (mutants setting root) last ∧
      (last.next setting).1 = none) ∧
    ∀ found cursor, Calls setting (start root) found cursor →
      found <+: mutants setting root ∧ cursor.yielded = found.length ∧ cursor.tree = root ∧
        (cursor.next setting).2.tree = root := by
  obtain ⟨last, toEnd, ended⟩ := calls_start setting root
  refine ⟨⟨last, toEnd, ended⟩, ?_⟩
  intro found cursor calls
  have held : cursor.tree = root := calls.tree_eq
  have counted : cursor.yielded = 0 + found.length := calls.yielded_eq
  exact ⟨calls.isPrefix toEnd ended, by rw [counted, Nat.zero_add], held,
    (next_spec rfl).1.trans held⟩

end MutationTesting.Walk.Cursor
