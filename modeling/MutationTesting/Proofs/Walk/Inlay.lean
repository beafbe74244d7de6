import MutationTesting.Proofs.Rule.Local
import MutationTesting.Proofs.Walk.Numbered
/-! The walk over a tree that stands inside another one, with further nodes in front of it and behind
it. Where rules and grammar look at nothing but a node and those above it, the walk finds the same
there as in the tree by itself, so many rows further down. -/
namespace MutationTesting

/-- The address that goes so many places further at the top. -/
def Address.shifted (places : Nat) : Address → Address
  | [] => []
  | place :: rest => (places + place) :: rest

theorem Address.shifted_concat {address : Address} (below : address ≠ []) (places place : Nat) :
    shifted places (address ++ [place]) = shifted places address ++ [place] := by
  cases address with
  | nil => contradiction
  | cons first rest => rfl

/-- A grammar that looks at nothing but the node. -/
def Grammar.IsLocal (grammar : Grammar) : Prop :=
  ∀ (spot other : Spot) (node : Node) (rows : Nat) (lead : String),
    spot.node? = some node → other.node? = some (node.moved rows lead) →
    grammar.isPassThrough other = grammar.isPassThrough spot ∧
      grammar.isReturnArrow other = grammar.isReturnArrow spot

namespace Walk

namespace Register

/-- The register so many rows further down. -/
def down (rows : Nat) (register : Register) : Register :=
  { register with row := register.row + rows }

theorem moveTo_down (register : Register) (rows row : Nat) :
    (register.down rows).moveTo (row + rows) = (register.moveTo row).down rows := by
  simp only [moveTo, down, Nat.add_right_cancel_iff]
  split <;> rfl

theorem moveTo_moveTo (register : Register) (row : Nat) :
    (register.moveTo row).moveTo row = register.moveTo row := by
  rw [moveTo, row_moveTo, if_pos rfl]

/-- Two registers of which the second one moves as the first one does, so many rows further down. -/
def Meets (rows : Nat) (register other : Register) : Prop :=
  ∀ row, other.moveTo (row + rows) = (register.moveTo row).down rows

theorem meets_down (rows : Nat) (register : Register) : Meets rows register (register.down rows) :=
  moveTo_down register rows

theorem meets_start {rows : Nat} {register : Register} (above : register.row < rows) :
    Meets rows start register := by
  intro row
  have other : row + rows ≠ register.row := by omega
  rw [moveTo, if_neg other, moveTo]
  split
  · rename_i same
    obtain rfl : row = 0 := same
    rfl
  · rfl

end Register

section

variable {grammar : Grammar} {table : RuleTable} {root node : Node} {address : Address}

theorem visit_eq (grammar : Grammar) (table : RuleTable) (root : Node) (address : Address)
    (register : Register) (node : Node) :
    visit grammar table root address register node =
      if grammar.isPassThrough ⟨root, address⟩ then ([], register)
      else
        let inner := visitFrom grammar table root address (register.moveTo node.start.row) 0
          node.children
        let own := ownCandidates table root address node inner.2 (table.rulesFor node.kind)
        (inner.1 ++ own.1, own.2) := by
  cases node
  rfl

theorem visit_passed {register : Register}
    (passed : grammar.isPassThrough ⟨root, address⟩ = true) :
    visit grammar table root address register node = ([], register) := by
  rw [visit_eq, if_pos passed]

theorem visit_moveTo {register : Register}
    (entered : grammar.isPassThrough ⟨root, address⟩ = false) :
    visit grammar table root address register node =
      visit grammar table root address (register.moveTo node.start.row) node := by
  simp only [visit_eq, Register.moveTo_moveTo, entered, Bool.false_eq_true, if_false]

end

/-- A tree that stands inside another one, below its root: there its top-level nodes follow some nodes
and precede others. All of its nodes have a first token. -/
structure Inlay where
  part : Node
  whole : Node
  first : List Node
  later : List Node
  rows : Nat
  lead : String
  children : whole.children = first ++ Node.movedAll rows lead part.children ++ later
  grown : ∀ child ∈ part.children, child.Grown
  tokens : part.TokensAtLeaves
  wholeTokens : whole.TokensAtLeaves

namespace Inlay

variable (inlay : Inlay)

/-- The text in front of the tree. -/
def front : String :=
  Node.codeAll inlay.first ++ inlay.lead

/-- The text behind the tree. -/
def back : String :=
  Node.codeAll inlay.later

/-- The address in the whole of what is at an address of the tree. -/
def address (address : Address) : Address :=
  address.shifted inlay.first.length

/-- What is in front of a child in place of what is in front of its parent. -/
def leadAt (lead : String) (place : Nat) : String :=
  if place = 0 then lead else ""

/-- A node of the tree and where it stands in the whole. -/
structure Stands (address : Address) (node : Node) (lead : String) : Prop where
  below : address ≠ []
  here : inlay.part.get? address = some node
  there : inlay.whole.get? (inlay.address address) = some (node.moved inlay.rows lead)
  lineage : List.Forall₂ Node.Alike (address.path.filterMap inlay.part.get?)
    ((inlay.address address).path.filterMap inlay.whole.get?)
  before : inlay.whole.before (inlay.address address) ++ lead =
    inlay.front ++ inlay.part.before address
  behind : inlay.whole.behind (inlay.address address) =
    inlay.part.behind address ++ inlay.back

variable {inlay} {address : Address} {node inner : Node} {lead : String} {place : Nat}

theorem codeAll_take {children : List Node} (grown : ∀ child ∈ children, child.Grown)
    (found : children[place]? = some inner) (rows : Nat) (lead : String) :
    Node.codeAll ((Node.movedAll rows lead children).take place) ++ leadAt lead place =
      lead ++ Node.codeAll (children.take place) := by
  cases children with
  | nil => contradiction
  | cons one more =>
    cases place with
    | zero => simp [leadAt, Node.codeAll]
    | succ place =>
      have first : (Node.firstTokenOf? (one :: more.take place)).isSome :=
        (grown one List.mem_cons_self).firstToken
      rw [Node.take_movedAll, List.take_succ_cons, Node.codeAll_movedAll first, leadAt,
        if_neg (Nat.succ_ne_zero place), String.append_empty]

theorem codeAll_drop (rows : Nat) (lead : String) (children : List Node) (place : Nat) :
    Node.codeAll ((Node.movedAll rows lead children).drop (place + 1)) =
      Node.codeAll (children.drop (place + 1)) := by
  rw [Node.drop_movedAll, if_neg (Nat.succ_ne_zero place), Node.codeAll_movedAll_empty]

/-- The text of the whole is that of the tree with what stands around it. -/
theorem codeAll_whole (inlay : Inlay) (nonempty : inlay.part.children ≠ []) :
    Node.codeAll inlay.whole.children =
      inlay.front ++ Node.codeAll inlay.part.children ++ inlay.back := by
  obtain ⟨node, rest, children⟩ := List.exists_cons_of_ne_nil nonempty
  have isFirst : (Node.firstTokenOf? inlay.part.children).isSome := by
    rw [children]
    exact (inlay.grown node (children ▸ List.mem_cons_self)).firstToken
  rw [inlay.children, Node.codeAll_append, Node.codeAll_append, Node.codeAll_movedAll isFirst, front,
    back, String.append_assoc, String.append_assoc, String.append_assoc, String.append_assoc]

theorem stands_top (found : inlay.part.children[place]? = some inner) :
    inlay.Stands [place] inner (leadAt inlay.lead place) := by
  have bound : place < (Node.movedAll inlay.rows inlay.lead inlay.part.children).length := by
    rw [Node.length_movedAll]
    exact (List.getElem?_eq_some_iff.mp found).1
  have there : inlay.whole.get? [inlay.first.length + place] =
      some (inner.moved inlay.rows (leadAt inlay.lead place)) := by
    simp only [Node.get?, inlay.children, List.append_assoc]
    rw [List.getElem?_append_right (Nat.le_add_right _ _), Nat.add_sub_cancel_left,
      List.getElem?_append_left bound, Node.getElem?_movedAll, found]
    rfl
  have here : inlay.part.get? [place] = some inner := by simp [Node.get?, found]
  refine ⟨List.cons_ne_nil _ _, here, there, ?_, ?_, ?_⟩
  · have alone : Address.path [place] = [[place]] := Address.path_concat [] place
    have inside : Address.path [inlay.first.length + place] = [[inlay.first.length + place]] :=
      Address.path_concat [] _
    rw [alone, address, Address.shifted, inside]
    simp only [List.filterMap_cons, here, there, List.filterMap_nil]
    exact .cons ⟨_, _, rfl⟩ .nil
  · rw [address, Address.shifted, Node.before_top, Node.before_top, inlay.children, List.append_assoc,
      List.take_length_add_append, List.take_append_of_le_length (Nat.le_of_lt bound),
      Node.codeAll_append, String.append_assoc, codeAll_take inlay.grown found, front,
      String.append_assoc]
  · rw [address, Address.shifted, Node.behind_top, Node.behind_top, inlay.children, List.append_assoc,
      Nat.add_assoc, List.drop_length_add_append, List.drop_append_of_le_length bound,
      Node.codeAll_append, codeAll_drop, back]

/-- A node in the whole has the children of the node in the tree, the first one with what is in front
of the node. -/
theorem Stands.children (stands : inlay.Stands address node lead) :
    (node.moved inlay.rows lead).children = Node.movedAll inlay.rows lead node.children := by
  rw [Node.children_moved]
  cases below : node.children with
  | nil => rfl
  | cons first rest =>
    have isChild : node.children[0]? = some first := by simp [below]
    rw [Node.leadBelow, (inlay.tokens.get? stands.here).noToken isChild]
    rfl

theorem Stands.child (stands : inlay.Stands address node lead) (grown : node.Grown)
    (isChild : node.children[place]? = some inner) :
    inlay.Stands (address ++ [place]) inner (leadAt lead place) := by
  have concat : inlay.address (address ++ [place]) = inlay.address address ++ [place] :=
    Address.shifted_concat stands.below _ _
  have here : inlay.part.get? (address ++ [place]) = some inner := by
    rw [Node.get?_concat, stands.here, Option.bind_some, isChild]
  have there : inlay.whole.get? (inlay.address address ++ [place]) =
      some (inner.moved inlay.rows (leadAt lead place)) := by
    rw [Node.get?_concat, stands.there, Option.bind_some, stands.children, Node.getElem?_movedAll,
      isChild]
    rfl
  refine ⟨by simp, here, concat ▸ there, ?_, ?_, ?_⟩
  · rw [concat, Address.path_concat, Address.path_concat]
    simp only [List.filterMap_cons, here, there]
    exact .cons ⟨_, _, rfl⟩ stands.lineage
  · rw [concat, Node.before_concat stands.there, Node.before_concat stands.here, stands.children,
      String.append_assoc, codeAll_take (fun _ isChild => grown.child isChild) isChild,
      ← String.append_assoc, stands.before, String.append_assoc]
  · rw [concat, Node.behind_concat stands.there, Node.behind_concat stands.here, stands.children,
      codeAll_drop, stands.behind, String.append_assoc]

variable (inlay) in
/-- A candidate of the tree and one of the whole for the same node, so many rows further down. What
they make of the texts of the two trees differs in what stands around the tree. -/
structure Matches (candidate other : Candidate) : Prop where
  below : candidate.address ≠ []
  address : other.address = inlay.address candidate.address
  register : other.register = candidate.register.down inlay.rows
  code : (inlay.whole.put other.address other.changed).code =
    inlay.front ++ (inlay.part.put candidate.address candidate.changed).code ++ inlay.back

variable (inlay) in
/-- What the walk finds in a part of the tree and in the same part of the whole, and the registers
behind them. -/
structure Agree (found other : List Candidate × Register) : Prop where
  candidates : List.Forall₂ inlay.Matches found.1 other.1
  register : other.2 = found.2.down inlay.rows

theorem Agree.append {found other found' other' : List Candidate} {register last : Register}
    {register' last' : Register} (here : inlay.Agree (found, register) (found', register'))
    (further : inlay.Agree (other, last) (other', last')) :
    inlay.Agree (found ++ other, last) (found' ++ other', last') :=
  ⟨List.rel_append here.candidates further.candidates, further.register⟩

variable {grammar : Grammar} {table : RuleTable}

theorem Stands.changed (stands : inlay.Stands address node lead) {changed moved : Node}
    (keeps : moved.code = lead ++ changed.code) :
    (inlay.whole.put (inlay.address address) moved).code =
      inlay.front ++ (inlay.part.put address changed).code ++ inlay.back := by
  rw [inlay.wholeTokens.code_put stands.there, inlay.tokens.code_put stands.here]
  calc inlay.whole.before (inlay.address address) ++ moved.code ++
        inlay.whole.behind (inlay.address address)
      = (inlay.whole.before (inlay.address address) ++ lead) ++ changed.code ++
          (inlay.part.behind address ++ inlay.back) := by
        simp only [keeps, stands.behind, String.append_assoc]
    _ = _ := by
        rw [stands.before]
        simp only [String.append_assoc]

variable (table) in
theorem own_agree (stands : inlay.Stands address node lead) (grown : node.Grown)
    (rules : List Rule) (areLocal : ∀ rule ∈ rules, rule.IsLocal) (register : Register) :
    inlay.Agree (ownCandidates table inlay.part address node register rules)
      (ownCandidates table inlay.whole (inlay.address address) (node.moved inlay.rows lead)
        (register.down inlay.rows) rules) := by
  induction rules generalizing register with
  | nil => exact ⟨.nil, rfl⟩
  | cons rule rest ih =>
    obtain ⟨isLocal, further⟩ := List.forall_mem_cons.mp areLocal
    have proposed := isLocal
      (contextOf table register address.path ⟨inlay.part, address⟩)
      (contextOf table (register.down inlay.rows) (inlay.address address).path
        ⟨inlay.whole, inlay.address address⟩)
      node inlay.rows lead stands.here stands.there grown ⟨stands.lineage, rfl⟩
    unfold ownCandidates
    generalize rule.propose? (contextOf table register address.path ⟨inlay.part, address⟩) = first?,
      rule.propose? (contextOf table (register.down inlay.rows) (inlay.address address).path
        ⟨inlay.whole, inlay.address address⟩) = second? at proposed
    cases proposed with
    | none => exact ih further register
    | some keeps =>
      obtain ⟨later, behind⟩ := ih further register.next
      exact ⟨.cons ⟨stands.below, rfl, rfl, stands.changed keeps⟩ later, behind⟩

mutual
theorem visit_agree (isLocal : grammar.IsLocal) (areLocal : table.IsLocal) (node : Node)
    (address : Address) (lead : String) (stands : inlay.Stands address node lead)
    (grown : node.Grown) (register : Register) :
    inlay.Agree (visit grammar table inlay.part address register node)
      (visit grammar table inlay.whole (inlay.address address) (register.down inlay.rows)
        (node.moved inlay.rows lead)) := by
  have passes := (isLocal ⟨inlay.part, address⟩ ⟨inlay.whole, inlay.address address⟩ node inlay.rows
    lead stands.here stands.there).1
  have entered : (register.down inlay.rows).moveTo (node.start.row + inlay.rows) =
      (register.moveTo node.start.row).down inlay.rows := register.moveTo_down _ _
  have inner := visitFrom_agree isLocal areLocal node.children address lead 0 stands grown rfl
    (register.moveTo node.start.row)
  rw [visit_eq, visit_eq, passes, Node.start_moved, Position.down, entered, stands.children,
    Node.kind_moved]
  split
  · exact ⟨.nil, rfl⟩
  · have own := own_agree table stands grown (table.rulesFor node.kind) (areLocal node.kind)
      (visitFrom grammar table inlay.part address (register.moveTo node.start.row) 0
        node.children).2
    rw [← inner.register] at own
    exact inner.append own
  termination_by sizeOf node
  decreasing_by
    obtain ⟨kind, token?, start, children⟩ := node
    rw [Node.mk.sizeOf_spec]
    dsimp only
    omega

theorem visitFrom_agree (isLocal : grammar.IsLocal) (areLocal : table.IsLocal)
    (children : List Node) {node : Node} (address : Address) (lead : String) (place : Nat)
    (stands : inlay.Stands address node lead) (grown : node.Grown)
    (rest : node.children.drop place = children) (register : Register) :
    inlay.Agree (visitFrom grammar table inlay.part address register place children)
      (visitFrom grammar table inlay.whole (inlay.address address) (register.down inlay.rows) place
        (Node.movedAll inlay.rows (leadAt lead place) children)) := by
  match children, rest with
  | [], _ => exact ⟨.nil, rfl⟩
  | child :: later, rest =>
    have isChild : node.children[place]? = some child := by
      simpa using congrArg List.head? rest
    have further : node.children.drop (place + 1) = later := by
      rw [← List.tail_drop, rest, List.tail_cons]
    have inside := stands.child grown isChild
    have arrow := (isLocal ⟨inlay.part, address ++ [place]⟩
      ⟨inlay.whole, inlay.address (address ++ [place])⟩ child inlay.rows _ inside.here
      inside.there).2
    have concat : inlay.address (address ++ [place]) = inlay.address address ++ [place] :=
      Address.shifted_concat stands.below _ _
    unfold visitFrom Node.movedAll
    rw [← concat, arrow]
    split
    · exact ⟨.nil, rfl⟩
    · have here := visit_agree isLocal areLocal child (address ++ [place]) (leadAt lead place) inside
        (grown.child (List.mem_of_getElem? isChild)) register
      have behind := visitFrom_agree isLocal areLocal later address lead (place + 1) stands grown
        further (visit grammar table inlay.part (address ++ [place]) register child).2
      rw [← here.register] at behind
      exact here.append behind
  termination_by sizeOf children
end

/-- The walk finds the same in a top-level node, from registers on that move alike, and leaves such
registers behind. -/
theorem top_step (isLocal : grammar.IsLocal) (areLocal : table.IsLocal)
    (found : inlay.part.children[place]? = some inner) {register other : Register}
    (meets : register.Meets inlay.rows other) :
    List.Forall₂ inlay.Matches (visit grammar table inlay.part [place] register inner).1
        (visit grammar table inlay.whole (inlay.address [place]) other
          (inner.moved inlay.rows (leadAt inlay.lead place))).1 ∧
      (visit grammar table inlay.part [place] register inner).2.Meets inlay.rows
        (visit grammar table inlay.whole (inlay.address [place]) other
          (inner.moved inlay.rows (leadAt inlay.lead place))).2 := by
  have stands := stands_top found
  have passes := (isLocal ⟨inlay.part, [place]⟩ ⟨inlay.whole, inlay.address [place]⟩ inner
    inlay.rows _ stands.here stands.there).1
  cases entered : grammar.isPassThrough ⟨inlay.part, [place]⟩ with
  | true =>
    rw [visit_passed entered, visit_passed (passes.trans entered)]
    exact ⟨.nil, meets⟩
  | false =>
    have agree := visit_agree isLocal areLocal inner [place] _ stands
      (inlay.grown inner (List.mem_of_getElem? found)) (register.moveTo inner.start.row)
    rw [visit_moveTo entered, visit_moveTo (passes.trans entered), Node.start_moved, Position.down,
      meets]
    exact ⟨agree.candidates, agree.register ▸ Register.meets_down _ _⟩

theorem top_agree (isLocal : grammar.IsLocal) (areLocal : table.IsLocal) {children : List Node}
    (rest : inlay.part.children.drop place = children) {register other : Register}
    (meets : register.Meets inlay.rows other) :
    List.Forall₂ inlay.Matches (visitFrom grammar table inlay.part [] register place children).1
      (visitFrom grammar table inlay.whole [] other (inlay.first.length + place)
        (Node.movedAll inlay.rows (leadAt inlay.lead place) children)).1 := by
  induction children generalizing place register other with
  | nil => exact .nil
  | cons child later ih =>
    have isChild : inlay.part.children[place]? = some child := by
      simpa using congrArg List.head? rest
    have further : inlay.part.children.drop (place + 1) = later := by
      rw [← List.tail_drop, rest, List.tail_cons]
    have stands := stands_top isChild
    have arrow := (isLocal ⟨inlay.part, [place]⟩ ⟨inlay.whole, inlay.address [place]⟩ child
      inlay.rows _ stands.here stands.there).2
    have top : ([] : Address) ++ [inlay.first.length + place] = inlay.address [place] := rfl
    unfold visitFrom Node.movedAll
    rw [top, arrow, List.nil_append]
    split
    · exact .nil
    · obtain ⟨here, met⟩ := top_step isLocal areLocal isChild meets
      exact List.rel_append here (ih further met)

end Inlay

end Walk

end MutationTesting
