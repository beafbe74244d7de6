import MutationTesting.Text.Lines
import MutationTesting.Text.Search
/-! Paths. A path keeps the text it was written with, but two paths name the same place, and are
ordered, by their components: repeated slashes, a slash at the end and a dot in the middle make
no difference, a dot at the start does. -/
namespace MutationTesting

/-- A component of a path, in the order of the components of one place. -/
inductive Component where
  | root
  | current
  | parent
  | name (text : String)
  deriving Repr, DecidableEq

namespace Component

def text : Component → String
  | root => "/"
  | current => "."
  | parent => ".."
  | name text => text

/-- The place of a component among the four sorts. -/
def rank : Component → Nat
  | root => 0
  | current => 1
  | parent => 2
  | name _ => 3

def compare : Component → Component → Ordering
  | name a, name b => Ord.compare a b
  | a, b => Ord.compare a.rank b.rank

end Component

/-- A path as it was written. -/
structure Path where
  text : String
  deriving Repr, DecidableEq, Inhabited

namespace Path

/-- What a piece between slashes stands for; a dot and an empty piece stand for nothing. -/
def component? (piece : List Char) : Option Component :=
  match piece with
  | [] => none
  | ['.'] => none
  | ['.', '.'] => some .parent
  | _ => some (.name (String.ofList piece))

def components (path : Path) : List Component :=
  let pieces := Text.pieces '/' path.text.toList
  let rest := pieces.filterMap component?
  match path.text.toList with
  | '/' :: _ => .root :: rest
  | _ => if pieces.head? = some ['.'] then .current :: rest else rest

def same (a b : Path) : Bool :=
  a.components == b.components

def compareComponents : List Component → List Component → Ordering
  | [], [] => .eq
  | [], _ :: _ => .lt
  | _ :: _, [] => .gt
  | a :: as, b :: bs => (a.compare b).then (compareComponents as bs)

def compare (a b : Path) : Ordering :=
  compareComponents a.components b.components

/-- Whether a path starts at the root. -/
def isAbsolute (path : Path) : Bool :=
  path.text.toList.head? == some '/'

/-- Whether a path ends with a slash, so that it can only name a directory. -/
def endsWithSlash (path : Path) : Bool :=
  path.text.toList.getLast? == some '/'

/-- A path below another one; an absolute path stays as it is. -/
def join (path below : Path) : Path :=
  if below.isAbsolute then below
  else if path.text = "" ∨ path.endsWithSlash then ⟨path.text ++ below.text⟩
  else ⟨path.text ++ "/" ++ below.text⟩

def ofComponents : List Component → Path
  | .root :: rest => ⟨"/" ++ String.intercalate "/" (rest.map Component.text)⟩
  | components => ⟨String.intercalate "/" (components.map Component.text)⟩

/-- The directory of a path: the path without its last component. -/
def directory? (path : Path) : Option Path :=
  match path.components.getLast? with
  | none => none
  | some .root => none
  | some _ => some (ofComponents path.components.dropLast)

def fileName? (path : Path) : Option String :=
  match path.components.getLast? with
  | some (.name text) => some text
  | _ => none

/-- A name divided at its last dot. A dot at its start divides nothing. -/
def splitName (name : String) : String × Option String :=
  match Text.pieces '.' name.toList with
  | [_] => (name, none)
  | [[], _] => (name, none)
  | pieces =>
    (String.ofList (List.intercalate ['.'] pieces.dropLast),
      pieces.getLast?.map String.ofList)

/-- The name that a path ends with, without its extension. -/
def stem? (path : Path) : Option String :=
  path.fileName?.map fun name => (splitName name).1

/-- What follows the last dot of the name that a path ends with. -/
def extension? (path : Path) : Option String :=
  path.fileName?.bind fun name => (splitName name).2

/-- The components of a path but for a dot at the start. -/
def plainComponents (path : Path) : List Component :=
  path.components.filter (· != .current)

/-- The path written with its components alone, without a dot at the start. -/
def normalize (path : Path) : Path :=
  ofComponents path.plainComponents

end Path

end MutationTesting
