import MutationTesting.Tree.Basic
/-! Addresses of the nodes of a tree. A node can be put in the place of another one, and the
change can be taken back. -/
namespace MutationTesting

/-- The way down from the root to a node: at each level the place among the children. -/
abbrev Address := List Nat

/-- The addresses of the nodes on the way from the root to the one at an address, which comes
first; the root is left out. -/
def Address.path (address : Address) : List Address :=
  (List.range address.length).reverse.map fun depth => address.take (depth + 1)

@[simp] theorem Address.path_nil : Address.path [] = [] := rfl

@[simp] theorem Address.path_concat (address : Address) (place : Nat) :
    Address.path (address ++ [place]) = (address ++ [place]) :: address.path := by
  have above : ∀ depth ∈ (List.range address.length).reverse,
      (address ++ [place]).take (depth + 1) = address.take (depth + 1) := by
    intro depth member
    simp only [List.mem_reverse, List.mem_range] at member
    exact List.take_append_of_le_length member
  simp only [path, List.length_append, List.length_singleton, List.range_succ,
    List.reverse_append, List.reverse_singleton, List.singleton_append, List.map_cons]
  rw [List.map_congr_left above, List.take_of_length_le (by simp)]

namespace Node

def get? (root : Node) : Address → Option Node
  | [] => some root
  | place :: rest => root.children[place]?.bind fun child => child.get? rest

/-- The tree with another node at an address. Nothing changes where the address leads nowhere. -/
def put (root : Node) : Address → Node → Node
  | [], new => new
  | place :: rest, new =>
    match root.children[place]? with
    | some child => root.withChildren (root.children.set place (child.put rest new))
    | none => root

@[simp] theorem get?_nil (root : Node) : root.get? [] = some root := rfl

theorem get?_append (root : Node) (way further : Address) :
    root.get? (way ++ further) = (root.get? way).bind fun node => node.get? further := by
  induction way generalizing root with
  | nil => rfl
  | cons place rest ih =>
    simp only [List.cons_append, get?]
    cases root.children[place]? with
    | none => rfl
    | some child => exact ih child

theorem get?_concat (root : Node) (address : Address) (place : Nat) :
    root.get? (address ++ [place]) =
      (root.get? address).bind fun node => node.children[place]? := by
  rw [get?_append]
  congr 1
  funext node
  simp [get?]

theorem get?_put {root node : Node} {address : Address} (found : root.get? address = some node)
    (new : Node) : (root.put address new).get? address = some new := by
  induction address generalizing root with
  | nil => rfl
  | cons place rest ih =>
    simp only [get?, Option.bind_eq_some_iff] at found
    obtain ⟨child, below, found⟩ := found
    obtain ⟨bound, rfl⟩ := List.getElem?_eq_some_iff.mp below
    simp [put, get?, withChildren, bound, ih found]

theorem put_put (root : Node) (address : Address) (first second : Node) :
    (root.put address first).put address second = root.put address second := by
  induction address generalizing root with
  | nil => rfl
  | cons place rest ih =>
    cases below : root.children[place]? with
    | none => simp [put, below]
    | some child =>
      have bound : place < root.children.length := (List.getElem?_eq_some_iff.mp below).1
      simp [put, withChildren, bound, ih]

/-- Putting a node where it is changes nothing. -/
theorem put_self {root node : Node} {address : Address} (found : root.get? address = some node) :
    root.put address node = root := by
  induction address generalizing root with
  | nil => exact (Option.some.inj found).symm
  | cons place rest ih =>
    simp only [get?, Option.bind_eq_some_iff] at found
    obtain ⟨child, below, found⟩ := found
    obtain ⟨bound, rfl⟩ := List.getElem?_eq_some_iff.mp below
    cases root
    simp_all [put, withChildren]

end Node

/-- A node in its tree: the root and the address of the node. -/
structure Spot where
  root : Node
  address : Address

namespace Spot

/-- The node, if the address leads to one. -/
def node? (spot : Spot) : Option Node :=
  spot.root.get? spot.address

def kind (spot : Spot) : String :=
  (spot.node?.map Node.kind).getD ""

def value? (spot : Spot) : Option String :=
  spot.node?.bind Node.value?

def children (spot : Spot) : List Node :=
  (spot.node?.map Node.children).getD []

def start (spot : Spot) : Position :=
  (spot.node?.map Node.start).getD default

def child (spot : Spot) (place : Nat) : Spot :=
  { spot with address := spot.address ++ [place] }

variable {root node : Node} {address : Address}

theorem kind_eq (found : root.get? address = some node) :
    kind ⟨root, address⟩ = node.kind := by
  simp [kind, node?, found]

theorem children_eq (found : root.get? address = some node) :
    children ⟨root, address⟩ = node.children := by
  simp [children, node?, found]

theorem start_eq (found : root.get? address = some node) :
    start ⟨root, address⟩ = node.start := by
  simp [start, node?, found]

theorem node?_child {spot : Spot} {place : Nat} {child : Node}
    (found : spot.children[place]? = some child) : (spot.child place).node? = some child := by
  simp only [children, node?] at found
  simp only [node?, Spot.child, Node.get?_concat]
  cases here : spot.root.get? spot.address with
  | none => simp [here] at found
  | some node => simpa [here] using found

end Spot

end MutationTesting
