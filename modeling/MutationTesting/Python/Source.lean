import MutationTesting.Frontend
import MutationTesting.Json.Value
import MutationTesting.Text.Letter
import MutationTesting.Text.Utf8
/-! Parse trees of Python as a parser hands them over: each node says which bytes of the source
it covers and whether there is an error in it. -/
namespace MutationTesting.Python

structure ParseTree where
  kind : String
  named : Bool
  isError : Bool
  isMissing : Bool
  hasError : Bool
  startByte : Nat
  endByte : Nat
  children : List ParseTree
  deriving Repr

/-- A node without its children, of which it only has the number. -/
structure ParseNode where
  kind : String
  named : Bool
  isError : Bool
  isMissing : Bool
  hasError : Bool
  childCount : Nat
  startByte : Nat
  endByte : Nat
  deriving Repr, DecidableEq

namespace ParseTree

def ofNode (node : ParseNode) (children : List ParseTree) : ParseTree :=
  { kind := node.kind
    named := node.named
    isError := node.isError
    isMissing := node.isMissing
    hasError := node.hasError
    startByte := node.startByte
    endByte := node.endByte
    children }

/-- The trees of which a list holds the nodes, parents before children. -/
def forest? : List ParseNode → Option (List ParseTree)
  | [] => some []
  | node :: rest =>
    (forest? rest).bind fun later =>
      if node.childCount ≤ later.length then
        some (ofNode node (later.take node.childCount) :: later.drop node.childCount)
      else none

/-- The tree of which a list holds the nodes, parents before children. -/
def ofPreorder? (nodes : List ParseNode) : Option ParseTree :=
  match forest? nodes with
  | some [tree] => some tree
  | _ => none

/-- Whether a node is an error itself. -/
def isFaulty (tree : ParseTree) : Bool :=
  tree.isError || tree.isMissing

mutual
/-- The first node that is an error, looked for only where there is one. -/
def firstError? : ParseTree → Option ParseTree
  | ⟨kind, named, isError, isMissing, hasError, startByte, endByte, children⟩ =>
    if isError || isMissing then
      some ⟨kind, named, isError, isMissing, hasError, startByte, endByte, children⟩
    else firstErrorOf? children

def firstErrorOf? : List ParseTree → Option ParseTree
  | [] => none
  | child :: rest =>
    if child.hasError || child.isMissing then
      (firstError? child).or (firstErrorOf? rest)
    else firstErrorOf? rest
end

mutual
/-- The nodes of a tree, parents before children. -/
def preorder : ParseTree → List ParseTree
  | ⟨kind, named, isError, isMissing, hasError, startByte, endByte, children⟩ =>
    ⟨kind, named, isError, isMissing, hasError, startByte, endByte, children⟩ ::
      preorderAll children

/-- The nodes of trees that follow each other. -/
def preorderAll : List ParseTree → List ParseTree
  | [] => []
  | tree :: rest => preorder tree ++ preorderAll rest
end

theorem preorder_eq (tree : ParseTree) : tree.preorder = tree :: preorderAll tree.children := by
  cases tree
  rfl

theorem mem_preorder_self (tree : ParseTree) : tree ∈ tree.preorder :=
  preorder_eq tree ▸ List.mem_cons_self

end ParseTree

end MutationTesting.Python

/-! Python as a language to mutate. A parse tree becomes a tree with the kinds of tokens that the
rules know; an arrow and the type after it become one node. -/
namespace MutationTesting.Python

/-- The kind of the node that an arrow forms with the type after it. -/
def arrowGroup : String := "return_annotation"

/-- Kinds of nodes that are one token, whatever is below them. -/
def tokenKinds : List String :=
  ["string", "integer", "float"]

/-- Kinds of nodes that are not mutated: types and imports. -/
def passThroughKinds : List String :=
  ["type", "import_statement", "import_from_statement", "future_import_statement"]

def startsWord (text : List Char) : Bool :=
  match text with
  | c :: _ => Text.isLetter c || c == '_'
  | [] => false

/-- The kind of a token, in the words of the rules. -/
def tokenKind (tree : ParseTree) (text : List Char) : String :=
  match tree.kind with
  | "integer" | "float" => "number"
  | "string" => "string"
  | "identifier" => "name"
  | "true" | "false" | "none" => "keyword"
  | "break_statement" | "continue_statement" | "pass_statement" => "keyword"
  | kind =>
    if tree.named then kind
    else if startsWord text then "keyword"
    else "operator"

/-- The position of a byte, given that of the text's first byte. -/
def positionFrom (position : Position) : (bytes : Nat) → List Char → Position
  | bytes, [] => { position with column := position.column + bytes }
  | 0, _ :: _ => position
  | bytes + 1, c :: rest =>
    if c.utf8Size ≤ bytes + 1 then
      positionFrom
        (if c = '\n' then ⟨position.row + 1, 0⟩
          else { position with column := position.column + c.utf8Size })
        (bytes + 1 - c.utf8Size) rest
    else { position with column := position.column + (bytes + 1) }

/-- The position at which a node starts. -/
def positionOf (source : List Char) (tree : ParseTree) : Position :=
  positionFrom ⟨0, 0⟩ tree.startByte source

/-- The part of the source between two places, empty if there is none. -/
def part (source : List Char) (start stop : Nat) : List Char :=
  (Text.slice? start stop source).getD []

/-- The leaf of a token and the place behind it. `offset` is the place behind the token before;
what lies between is trivia. A token never starts before that place. -/
def leafOf (source : List Char) (offset : Nat) (tree : ParseTree) : Node × Nat :=
  let start := max tree.startByte offset
  let stop := max tree.endByte start
  let value := part source start stop
  (.leaf (tokenKind tree value) (String.ofList (part source offset start)) (String.ofList value)
    (positionOf source tree), stop)

def isToken (tree : ParseTree) : Bool :=
  tree.children.isEmpty || tokenKinds.contains tree.kind

mutual
/-- The node of a parse tree and the place behind its last token. -/
def nodeOf (source : List Char) (offset : Nat) : ParseTree → Node × Nat
  | ⟨kind, named, isError, isMissing, hasError, startByte, endByte, children⟩ =>
    let tree : ParseTree :=
      ⟨kind, named, isError, isMissing, hasError, startByte, endByte, children⟩
    if isToken tree then leafOf source offset tree
    else
      let (nodes, stop) := nodesOf source offset children
      (⟨kind, none, positionOf source tree, nodes⟩, stop)

/-- The nodes of parse trees that follow each other, and the place behind the last token. -/
def nodesOf (source : List Char) (offset : Nat) : List ParseTree → List Node × Nat
  | [] => ([], offset)
  | [last] =>
    let (node, stop) := nodeOf source offset last
    if last.kind = "->" then
      ([⟨arrowGroup, none, positionOf source last, [node]⟩], stop)
    else ([node], stop)
  | first :: second :: rest =>
    let (node, stop) := nodeOf source offset first
    if first.kind = "->" then
      let (result, stop) := nodeOf source stop second
      let (nodes, stop) := nodesOf source stop rest
      (⟨arrowGroup, none, positionOf source first, [node, result]⟩ :: nodes, stop)
    else
      let (nodes, stop) := nodesOf source stop (second :: rest)
      (node :: nodes, stop)
end

def sourceTree (source : List Char) (tree : ParseTree) : SourceTree :=
  let (nodes, stop) := nodesOf source 0 tree.children
  let suffix := ((Text.splitAtByte? stop source).map Prod.snd).getD []
  ⟨⟨"module", none, ⟨0, 0⟩, nodes⟩, String.ofList suffix⟩

/-- The error that says where a source is wrong. -/
def syntaxError (file : Path) (source : String) (row : Nat) : Error :=
  .badSyntax file (row + 1) ((Text.rows source).getD row "")

/-- The tree of a source, or the place of the first error in it. A source without a parse tree is
wrong from its first line on. -/
def parse (tree? : Option ParseTree) (file : Path) (source : String) :
    Except Error SourceTree :=
  match tree? with
  | none => .error (syntaxError file source 0)
  | some tree =>
    if tree.hasError then
      let row :=
        match tree.firstError? with
        | some faulty => (positionOf source.toList faulty).row
        | none => 0
      .error (syntaxError file source row)
    else .ok (sourceTree source.toList tree)

/-- What a walk has to know of Python. -/
def grammar : Grammar where
  isPassThrough spot := passThroughKinds.contains spot.kind
  isReturnArrow spot := spot.kind == "operator" && spot.value? == some "->"

def frontend (trees : String → Option ParseTree) : Frontend where
  extensions := ["py"]
  parse file source := parse (trees source) file source
  grammar := grammar

/-! Parse trees in JSON. A tree is the list of its nodes, parents before children; a node is the
list of its kind, its marks, the number of its children, and its first and last byte. -/

/-- Whether a mark is set; each has a power of two of its own. -/
def hasMark (marks mark : Nat) : Bool :=
  marks / mark % 2 == 1

/-- A node. The marks are: it has a name, it is an error, it is missing, there is an error in
it. -/
def ParseNode.ofJson? (value : Json) : Option ParseNode := do
  match ← value.items? with
  | [kind, marks, count, first, last] =>
    let marks ← marks.natural? 64
    return {
      kind := (← kind.text?)
      named := hasMark marks 1
      isError := hasMark marks 2
      isMissing := hasMark marks 4
      hasError := hasMark marks 8
      childCount := (← count.natural? 64)
      startByte := (← first.natural? 64)
      endByte := (← last.natural? 64) }
  | _ => none

def ParseTree.ofJson? (value : Json) : Option ParseTree := do
  ofPreorder? (← (← value.items?).mapM ParseNode.ofJson?)

def treesOfJson? : Json → Option (List (String × ParseTree))
  | .object members => members.mapM fun (source, value) =>
      (ParseTree.ofJson? value).map fun tree => (source, tree)
  | _ => none

end MutationTesting.Python
