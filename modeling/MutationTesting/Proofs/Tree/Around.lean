import MutationTesting.Proofs.Text.Rows
import MutationTesting.Tree.Address
/-! The text around a node. A tree with another node in the place of one of its nodes keeps the text
in front of that node and the text behind it. -/
namespace MutationTesting

namespace Node

/-- The text in front of the node at an address, without that node's own trivia. -/
def before (root : Node) : Address → String
  | [] => ""
  | place :: rest =>
    codeAll (root.children.take place) ++
      match root.children[place]? with
      | some child => child.before rest
      | none => ""

/-- The text behind the node at an address. -/
def behind (root : Node) : Address → String
  | [] => ""
  | place :: rest =>
    (match root.children[place]? with
      | some child => child.behind rest
      | none => "") ++ codeAll (root.children.drop (place + 1))

/-- A node of the tree that has a token has no children. -/
def TokensAtLeaves (root : Node) : Prop :=
  ∀ address node, root.get? address = some node → node.token?.isSome → node.children = []

mutual
/-- A tree whose text begins on a given row has its tokens at its leaves, and each of them says on
which row of the text it starts. -/
def Fits (row : Nat) : Node → Prop
  | ⟨_, some token, start, children⟩ =>
    children = [] ∧ start.row = row + Text.feeds token.trivia
  | ⟨_, none, _, children⟩ => FitsAll row children

/-- The same for nodes that follow each other. -/
def FitsAll (row : Nat) : List Node → Prop
  | [] => True
  | node :: rest => Fits row node ∧ FitsAll (row + Text.feeds node.code) rest
end

theorem codeAll_append (first later : List Node) :
    codeAll (first ++ later) = codeAll first ++ codeAll later := by
  induction first with
  | nil => simp [codeAll]
  | cons node rest ih => simp only [List.cons_append, codeAll, ih, String.append_assoc]

theorem before_top (root : Node) (place : Nat) :
    root.before [place] = codeAll (root.children.take place) := by
  rw [before]
  cases root.children[place]? <;> exact String.append_empty

theorem behind_top (root : Node) (place : Nat) :
    root.behind [place] = codeAll (root.children.drop (place + 1)) := by
  rw [behind]
  cases root.children[place]? <;> exact String.empty_append

variable {root node : Node} {address : Address} {row : Nat}

/-- In front of a child stand what is in front of its parent and the children before it. -/
theorem before_concat (found : root.get? address = some node) (place : Nat) :
    root.before (address ++ [place]) =
      root.before address ++ codeAll (node.children.take place) := by
  induction address generalizing root with
  | nil =>
    obtain rfl := Option.some.inj found
    exact (before_top root place).trans String.empty_append.symm
  | cons first rest ih =>
    obtain ⟨inner, isInner, found⟩ := Option.bind_eq_some_iff.mp found
    simp only [List.cons_append, before, isInner, ih found, String.append_assoc]

theorem behind_concat (found : root.get? address = some node) (place : Nat) :
    root.behind (address ++ [place]) =
      codeAll (node.children.drop (place + 1)) ++ root.behind address := by
  induction address generalizing root with
  | nil =>
    obtain rfl := Option.some.inj found
    exact (behind_top root place).trans String.append_empty.symm
  | cons first rest ih =>
    obtain ⟨inner, isInner, found⟩ := Option.bind_eq_some_iff.mp found
    simp only [List.cons_append, behind, isInner, ih found, String.append_assoc]

/-- A node below the root has only a root without a token above it. -/
theorem Fits.children {place : Nat} {child : Node} (fits : root.Fits row)
    (found : root.children[place]? = some child) :
    root.token? = none ∧ FitsAll row root.children := by
  obtain ⟨kind, token?, start, children⟩ := root
  cases token? with
  | some token =>
    obtain ⟨rfl, -⟩ := fits
    simp at found
  | none => exact ⟨rfl, fits⟩

theorem FitsAll.get? {nodes : List Node} {place : Nat} {child : Node} (fits : FitsAll row nodes)
    (found : nodes[place]? = some child) :
    child.Fits (row + Text.feeds (codeAll (nodes.take place))) := by
  induction nodes generalizing row place with
  | nil => simp at found
  | cons node rest ih =>
    obtain ⟨first, later⟩ := fits
    cases place with
    | zero =>
      obtain rfl := Option.some.inj found
      simpa [codeAll, Text.feeds] using first
    | succ place =>
      simpa only [List.take_succ_cons, codeAll, Text.feeds_append, Nat.add_assoc] using
        ih later found

/-- A node of a tree says on which rows its tokens start as the tree does. -/
theorem Fits.get? (fits : root.Fits row) (found : root.get? address = some node) :
    node.Fits (row + Text.feeds (root.before address)) := by
  induction address generalizing root row with
  | nil =>
    obtain rfl := Option.some.inj found
    simpa [before, Text.feeds] using fits
  | cons place rest ih =>
    obtain ⟨child, isChild, found⟩ := Option.bind_eq_some_iff.mp found
    have below := ih ((fits.children isChild).2.get? isChild) found
    simpa only [before, isChild, Text.feeds_append, Nat.add_assoc] using below

theorem Fits.tokensAtLeaves (fits : root.Fits row) : root.TokensAtLeaves := by
  intro address node found isToken
  have below := fits.get? found
  obtain ⟨kind, token?, start, children⟩ := node
  cases token? with
  | none => contradiction
  | some token => exact below.1

namespace TokensAtLeaves

theorem leaf (kind trivia value : String) (start : Position) :
    (leaf kind trivia value start).TokensAtLeaves := by
  intro address node found _
  cases address with
  | nil =>
    obtain rfl := Option.some.inj found
    rfl
  | cons place rest => simp [Node.leaf, get?] at found

theorem composite {kind : String} {start : Position} {children : List Node}
    (all : ∀ child ∈ children, child.TokensAtLeaves) :
    (⟨kind, none, start, children⟩ : Node).TokensAtLeaves := by
  intro address node found isToken
  cases address with
  | nil =>
    obtain rfl := Option.some.inj found
    contradiction
  | cons place rest =>
    obtain ⟨child, isChild, found⟩ := Option.bind_eq_some_iff.mp found
    exact all child (List.mem_of_getElem? isChild) rest node found isToken

theorem get? (tokens : root.TokensAtLeaves) (found : root.get? address = some node) :
    node.TokensAtLeaves := by
  intro further inner isInner
  exact tokens (address ++ further) inner (by rw [get?_append, found, Option.bind_some, isInner])

theorem noToken {place : Nat} {child : Node} (tokens : root.TokensAtLeaves)
    (isChild : root.children[place]? = some child) : root.token? = none := by
  cases isToken : root.token? with
  | none => rfl
  | some token =>
    rw [tokens [] root rfl (by rw [isToken]; rfl)] at isChild
    simp at isChild

/-- The text of a tree with another node at an address. -/
theorem code_put (tokens : root.TokensAtLeaves) (found : root.get? address = some node)
    (new : Node) :
    (root.put address new).code = root.before address ++ new.code ++ root.behind address := by
  induction address generalizing root with
  | nil => simp [put, before, behind]
  | cons place rest ih =>
    obtain ⟨child, isChild, found⟩ := Option.bind_eq_some_iff.mp found
    have isThere : root.get? [place] = some child := by simp [Node.get?, isChild]
    have below := ih (tokens.get? isThere) found
    have bound := (List.getElem?_eq_some_iff.mp isChild).1
    have noToken := tokens.noToken isChild
    obtain ⟨kind, token?, start, children⟩ := root
    obtain rfl : token? = none := noToken
    simp only [put, before, behind, isChild, withChildren, code,
      List.set_eq_take_append_cons_drop, if_pos bound, codeAll_append, codeAll, below,
      String.append_assoc]

theorem code_eq (tokens : root.TokensAtLeaves) (found : root.get? address = some node) :
    root.code = root.before address ++ node.trivia ++ node.text ++ root.behind address := by
  rw [← put_self found, tokens.code_put found, ← trivia_append_text node, put_self found]
  simp only [String.append_assoc]

/-- A leaf that stands in for a node replaces its text and nothing else. -/
theorem code_standIn (tokens : root.TokensAtLeaves) (found : root.get? address = some node)
    (kind value : String) :
    (root.put address (node.standIn kind value)).code =
      root.before address ++ node.trivia ++ value ++ root.behind address := by
  rw [tokens.code_put found, standIn, Node.leaf, code]
  simp only [String.append_assoc]

end TokensAtLeaves

/-- Each node of the tree has a first token. -/
def Grown (root : Node) : Prop :=
  ∀ address node, root.get? address = some node → node.firstToken?.isSome

theorem Grown.firstToken {root : Node} (grown : root.Grown) : root.firstToken?.isSome :=
  grown [] root rfl

theorem Grown.child {root child : Node} (grown : root.Grown) (isChild : child ∈ root.children) :
    child.Grown := by
  obtain ⟨place, found⟩ := List.mem_iff_getElem?.mp isChild
  intro address node isBelow
  exact grown (place :: address) node (by rw [get?, found, Option.bind_some, isBelow])

theorem Grown.leaf (kind trivia value : String) (start : Position) :
    (leaf kind trivia value start).Grown := by
  intro address node found
  cases address with
  | nil =>
    obtain rfl := Option.some.inj found
    rfl
  | cons place rest => simp [Node.leaf, get?] at found

theorem Grown.composite {kind : String} {start : Position} {children : List Node}
    (nonempty : children ≠ []) (all : ∀ child ∈ children, child.Grown) :
    (⟨kind, none, start, children⟩ : Node).Grown := by
  intro address node found
  cases address with
  | nil =>
    obtain rfl := Option.some.inj found
    cases children with
    | nil => contradiction
    | cons first rest => exact (all first List.mem_cons_self).firstToken
  | cons place rest =>
    obtain ⟨child, isChild, found⟩ := Option.bind_eq_some_iff.mp found
    exact all child (List.mem_of_getElem? isChild) rest node found

theorem Fits.start_row (fits : root.Fits row) (found : root.get? address = some node)
    (isToken : node.token?.isSome) :
    node.start.row = row + Text.feeds (root.before address ++ node.trivia) := by
  have below := fits.get? found
  obtain ⟨kind, token?, start, children⟩ := node
  cases token? with
  | none => contradiction
  | some token =>
    simp only [trivia, firstToken?, Text.feeds_append]
    rw [below.2, Nat.add_assoc]

theorem put_concat {place : Nat} {child : Node} (found : root.get? address = some node)
    (isChild : node.children[place]? = some child) (change : Node → Node) :
    root.put (address ++ [place]) (change child) =
      root.put address (node.withChildren (node.children.modify place change)) := by
  induction address generalizing root with
  | nil =>
    obtain rfl := Option.some.inj found
    have : Inhabited Node := ⟨child⟩
    simp [put, isChild, withChildren, List.modify_eq_set]
  | cons first rest ih =>
    obtain ⟨inner, isInner, found⟩ := Option.bind_eq_some_iff.mp found
    simp only [List.cons_append, put, isInner, ih found]

end Node

end MutationTesting
