/-! Concrete trees of source texts. Each token keeps the blanks and comments in front of it, its
trivia, so that a tree gives its text back; a node with a token hides its children there. -/
namespace MutationTesting

/-- A place in a text: row and column, both counted from zero. -/
structure Position where
  row : Nat
  column : Nat
  deriving Repr, DecidableEq, Inhabited

/-- A token and the trivia in front of it. -/
structure Token where
  trivia : String
  value : String
  deriving Repr, DecidableEq

structure Node where
  kind : String
  token? : Option Token
  start : Position
  children : List Node
  deriving Repr

namespace Node

/-- A node that has a token and no children. -/
def leaf (kind trivia value : String) (start : Position) : Node :=
  ⟨kind, some ⟨trivia, value⟩, start, []⟩

/-- The value of the node's own token. -/
def value? (node : Node) : Option String :=
  node.token?.map Token.value

def withValue (node : Node) (value : String) : Node :=
  { node with token? := node.token?.map fun token => { token with value } }

def withChildren (node : Node) (children : List Node) : Node :=
  { node with children }

mutual
/-- The text of a node, with all trivia. -/
def code : Node → String
  | ⟨_, some token, _, _⟩ => token.trivia ++ token.value
  | ⟨_, none, _, children⟩ => codeAll children

/-- The text of nodes that follow each other. -/
def codeAll : List Node → String
  | [] => ""
  | node :: rest => node.code ++ codeAll rest
end

mutual
/-- The first token of a node: its own one, or the first one of its first child. -/
def firstToken? : Node → Option Token
  | ⟨_, some token, _, _⟩ => some token
  | ⟨_, none, _, children⟩ => firstTokenOf? children

def firstTokenOf? : List Node → Option Token
  | [] => none
  | node :: _ => node.firstToken?
end

def trivia (node : Node) : String :=
  match node.firstToken? with
  | some token => token.trivia
  | none => ""

mutual
/-- The text of a node without the trivia in front of it. -/
def text : Node → String
  | ⟨_, some token, _, _⟩ => token.value
  | ⟨_, none, _, children⟩ => textOf children

/-- The text of nodes that follow each other without the trivia in front of the first one. -/
def textOf : List Node → String
  | [] => ""
  | node :: rest => node.text ++ codeAll rest
end

mutual
/-- The text of a node is its trivia and its text without them. -/
theorem trivia_append_text (node : Node) : node.trivia ++ node.text = node.code := by
  cases node with
  | mk kind token start children =>
    cases token with
    | some token => simp [trivia, firstToken?, text, code]
    | none =>
      simpa only [trivia, firstToken?, text, code] using triviaOf_append_textOf children

theorem triviaOf_append_textOf (nodes : List Node) :
    (match firstTokenOf? nodes with
      | some token => token.trivia
      | none => "") ++ textOf nodes = codeAll nodes := by
  cases nodes with
  | nil => simp [firstTokenOf?, textOf, codeAll]
  | cons node rest =>
    simp only [firstTokenOf?, textOf, codeAll, ← String.append_assoc]
    exact congrArg (· ++ codeAll rest) (trivia_append_text node)
end

mutual
/-- The number of nodes of a subtree. -/
def size : Node → Nat
  | ⟨_, _, _, children⟩ => 1 + sizeAll children

/-- The number of nodes of several subtrees. -/
def sizeAll : List Node → Nat
  | [] => 0
  | node :: rest => node.size + sizeAll rest
end

/-- A leaf that stands in for a node and keeps the trivia in front of it. -/
def standIn (node : Node) (kind value : String) : Node :=
  leaf kind node.trivia value node.start

end Node

/-- The tree of a whole source: its root and the text after the last token. -/
structure SourceTree where
  root : Node
  suffix : String
  deriving Repr

def SourceTree.code (tree : SourceTree) : String :=
  tree.root.code ++ tree.suffix

/-! Trees given as lists of their nodes, each with the place of its parent in the list. A node
comes after its parent, and the children of a node stand in the order of the list. Place 0 is
the root, the first entry of the list has place 1. -/

structure ListedNode where
  parent : Nat
  kind : String
  token? : Option Token
  start : Position
  deriving Repr, DecidableEq

/-- A tree as a list of nodes. -/
structure Listing where
  root : String
  nodes : List ListedNode
  suffix : String
  deriving Repr, DecidableEq

namespace Listing

/-- A node with its place, that of its parent, and that of the node that holds its first
token. -/
structure Placed where
  place : Nat
  parent : Nat
  node : Node
  first? : Option Nat
  deriving Repr

/-- Puts a node in front of later ones, of which it takes its children. -/
def place (place : Nat) (entry : ListedNode) (later : List Placed) : Placed :=
  let children := later.filter (·.parent == place)
  { place
    parent := entry.parent
    node := ⟨entry.kind, entry.token?, entry.start, children.map Placed.node⟩
    first? := if entry.token?.isSome then some place else children.head?.bind Placed.first? }

/-- The nodes of a list whose first entry has the place `first`. -/
def placedFrom (first : Nat) : List ListedNode → List Placed
  | [] => []
  | entry :: rest =>
    let later := placedFrom (first + 1) rest
    place first entry later :: later

/-- The root as an entry; its parent is no node, for no node is its own parent. -/
def rootEntry (listing : Listing) : ListedNode :=
  { parent := listing.nodes.length + 1, kind := listing.root, token? := none, start := ⟨0, 0⟩ }

/-- All nodes in the order of the listing, the root first. -/
def placed (listing : Listing) : List Placed :=
  placedFrom 0 (listing.rootEntry :: listing.nodes)

/-- The tree that a listing describes. -/
def tree (listing : Listing) : SourceTree :=
  let root := place 0 listing.rootEntry (placedFrom 1 listing.nodes)
  ⟨root.node, listing.suffix⟩

end Listing

end MutationTesting
