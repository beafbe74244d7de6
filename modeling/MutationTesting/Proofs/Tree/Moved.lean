import MutationTesting.Proofs.Tree.Around
/-! A tree that has been moved down by some rows, with more trivia in front of its first token. This
is what becomes of the tree of a text when another text is put in front of it: nothing that the nodes
say of themselves changes but for where they stand. -/
namespace MutationTesting

/-- The position so many rows further down. -/
def Position.down (rows : Nat) (position : Position) : Position :=
  { position with row := position.row + rows }

namespace Node

mutual
/-- The node so many rows further down, with a text in front of the trivia of its first token. -/
def moved (rows : Nat) (lead : String) : Node → Node
  | ⟨kind, some token, start, children⟩ =>
    ⟨kind, some { token with trivia := lead ++ token.trivia }, start.down rows,
      movedAll rows "" children⟩
  | ⟨kind, none, start, children⟩ => ⟨kind, none, start.down rows, movedAll rows lead children⟩

/-- Nodes that follow each other so many rows further down; the first token is that of the first
one. -/
def movedAll (rows : Nat) (lead : String) : List Node → List Node
  | [] => []
  | node :: rest => moved rows lead node :: movedAll rows "" rest
end

variable {rows : Nat} {lead : String}

@[simp] theorem kind_moved (rows : Nat) (lead : String) (node : Node) :
    (node.moved rows lead).kind = node.kind := by
  obtain ⟨kind, token?, start, children⟩ := node
  cases token? <;> rfl

@[simp] theorem value?_moved (rows : Nat) (lead : String) (node : Node) :
    (node.moved rows lead).value? = node.value? := by
  obtain ⟨kind, token?, start, children⟩ := node
  cases token? <;> rfl

@[simp] theorem start_moved (rows : Nat) (lead : String) (node : Node) :
    (node.moved rows lead).start = node.start.down rows := by
  obtain ⟨kind, token?, start, children⟩ := node
  cases token? <;> rfl

/-- What a node keeps in front of its children: nothing where it has a token of its own. -/
def leadBelow (node : Node) (lead : String) : String :=
  if node.token?.isSome then "" else lead

theorem children_moved (rows : Nat) (lead : String) (node : Node) :
    (node.moved rows lead).children = movedAll rows (node.leadBelow lead) node.children := by
  obtain ⟨kind, token?, start, children⟩ := node
  cases token? <;> rfl

mutual
theorem moved_nowhere (node : Node) : node.moved 0 "" = node := by
  obtain ⟨kind, token?, start, children⟩ := node
  cases token? <;> simp [moved, Position.down, movedAll_nowhere children]

theorem movedAll_nowhere (nodes : List Node) : movedAll 0 "" nodes = nodes := by
  cases nodes with
  | nil => rfl
  | cons node rest => rw [movedAll, moved_nowhere node, movedAll_nowhere rest]
end

@[simp] theorem length_movedAll (rows : Nat) (lead : String) (nodes : List Node) :
    (movedAll rows lead nodes).length = nodes.length := by
  induction nodes generalizing lead with
  | nil => rfl
  | cons node rest ih => rw [movedAll, List.length_cons, ih, List.length_cons]

theorem getElem?_movedAll (rows : Nat) (lead : String) (nodes : List Node) (place : Nat) :
    (movedAll rows lead nodes)[place]? =
      nodes[place]?.map (moved rows (if place = 0 then lead else "")) := by
  induction nodes generalizing lead place with
  | nil => rfl
  | cons node rest ih =>
    cases place with
    | zero => rfl
    | succ place =>
      rw [movedAll, List.getElem?_cons_succ, ih, List.getElem?_cons_succ]
      simp

theorem take_movedAll (rows : Nat) (lead : String) (nodes : List Node) (place : Nat) :
    (movedAll rows lead nodes).take place = movedAll rows lead (nodes.take place) := by
  induction nodes generalizing lead place with
  | nil => simp [movedAll]
  | cons node rest ih =>
    cases place with
    | zero => rfl
    | succ place => rw [movedAll, List.take_succ_cons, List.take_succ_cons, movedAll, ih]

theorem drop_movedAll (rows : Nat) (lead : String) (nodes : List Node) (place : Nat) :
    (movedAll rows lead nodes).drop place =
      movedAll rows (if place = 0 then lead else "") (nodes.drop place) := by
  induction nodes generalizing lead place with
  | nil => simp [movedAll]
  | cons node rest ih =>
    cases place with
    | zero => rfl
    | succ place =>
      rw [movedAll, List.drop_succ_cons, List.drop_succ_cons, ih]
      simp

theorem head?_movedAll (rows : Nat) (lead : String) (nodes : List Node) :
    (movedAll rows lead nodes).head? = nodes.head?.map (moved rows lead) := by
  cases nodes <;> rfl

/-- The first node with a property that does not depend on where the node stands. -/
theorem findIdx?_movedAll {wanted : Node → Bool}
    (same : ∀ node rows lead, wanted (moved rows lead node) = wanted node) (rows : Nat)
    (lead : String) (nodes : List Node) :
    (movedAll rows lead nodes).findIdx? wanted = nodes.findIdx? wanted := by
  induction nodes generalizing lead with
  | nil => rfl
  | cons node rest ih => rw [movedAll, List.findIdx?_cons, List.findIdx?_cons, same, ih]

mutual
theorem firstToken?_moved (rows : Nat) (lead : String) (node : Node) :
    (node.moved rows lead).firstToken? =
      node.firstToken?.map fun token => { token with trivia := lead ++ token.trivia } := by
  obtain ⟨kind, token?, start, children⟩ := node
  cases token? with
  | some token => rfl
  | none => exact firstTokenOf?_movedAll rows lead children

theorem firstTokenOf?_movedAll (rows : Nat) (lead : String) (nodes : List Node) :
    firstTokenOf? (movedAll rows lead nodes) =
      (firstTokenOf? nodes).map fun token => { token with trivia := lead ++ token.trivia } := by
  cases nodes with
  | nil => rfl
  | cons node rest => exact firstToken?_moved rows lead node
end

mutual
theorem text_moved (rows : Nat) (lead : String) (node : Node) :
    (node.moved rows lead).text = node.text := by
  obtain ⟨kind, token?, start, children⟩ := node
  cases token? with
  | some token => rfl
  | none => exact textOf_movedAll rows lead children

theorem textOf_movedAll (rows : Nat) (lead : String) (nodes : List Node) :
    textOf (movedAll rows lead nodes) = textOf nodes := by
  cases nodes with
  | nil => rfl
  | cons node rest => rw [movedAll, textOf, textOf, text_moved, codeAll_movedAll_empty]

/-- Without anything in front of it the text of nodes does not change. -/
theorem codeAll_movedAll_empty (rows : Nat) (nodes : List Node) :
    codeAll (movedAll rows "" nodes) = codeAll nodes := by
  cases nodes with
  | nil => rfl
  | cons node rest =>
    have trivia : (node.moved rows "").trivia = node.trivia := by
      simp only [Node.trivia, firstToken?_moved]
      cases node.firstToken? <;> simp
    rw [movedAll, codeAll, codeAll, codeAll_movedAll_empty rows rest, ← trivia_append_text,
      ← trivia_append_text node, text_moved, trivia]
end

theorem trivia_moved {node : Node} (grown : node.firstToken?.isSome) :
    (node.moved rows lead).trivia = lead ++ node.trivia := by
  obtain ⟨token, isFirst⟩ := Option.isSome_iff_exists.mp grown
  simp [trivia, firstToken?_moved, isFirst]

theorem code_moved {node : Node} (grown : node.firstToken?.isSome) :
    (node.moved rows lead).code = lead ++ node.code := by
  rw [← trivia_append_text, ← trivia_append_text node, trivia_moved grown, text_moved,
    String.append_assoc]

theorem codeAll_movedAll {nodes : List Node} (grown : (firstTokenOf? nodes).isSome) :
    codeAll (movedAll rows lead nodes) = lead ++ codeAll nodes := by
  cases nodes with
  | nil => contradiction
  | cons node rest =>
    rw [movedAll, codeAll, codeAll, code_moved grown, codeAll_movedAll_empty, String.append_assoc]

/-- A leaf stands in for a node that has been moved as it does for the node itself. -/
theorem standIn_moved {node : Node} (grown : node.firstToken?.isSome) (kind value : String) :
    (node.moved rows lead).standIn kind value = (node.standIn kind value).moved rows lead := by
  simp [standIn, leaf, moved, movedAll, trivia_moved grown]

end Node

end MutationTesting
