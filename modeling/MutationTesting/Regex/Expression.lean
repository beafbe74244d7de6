import Std.Data.HashSet
/-! Regular expressions: what they are made of, and what of a text fits them. A text is an array of
characters. All ways in which a text fits from a place on are found at once, the preferred ones
first, and of those that lead to the same place only the first is kept. -/
namespace MutationTesting.Regex

/-- A condition on a place in a text. -/
inductive Anchor where
  | textStart
  | textEnd
  /-- The end, or before a line break at the end. -/
  | textEndOrBreak
  | lineStart
  | lineEnd
  | wordEdge
  | noWordEdge
  | wordStart
  | wordEnd
  deriving Repr, DecidableEq

inductive Preference where
  | most
  | least
  /-- Most of them, and no other number is tried. -/
  | onlyMost
  deriving Repr, DecidableEq

inductive Node where
  | empty
  /-- One of some characters. -/
  | one (holds : Char → Bool)
  | anchor (anchor : Anchor)
  | group (number : Nat) (inner : Node)
  | both (first second : Node)
  | either (first second : Node)
  | repeated (inner : Node) (least : Nat) (most? : Option Nat) (preference : Preference)
  /-- What a group has matched, once more. -/
  | again (number : Nat) (foldsCase : Bool)
  /-- What comes next, or what came before, fits or does not fit. -/
  | look (isAhead isNegated : Bool) (inner : Node)
  /-- Only the first way in which something fits. -/
  | first (inner : Node)
  /-- The match starts only here. -/
  | startHere
  /-- Nothing fits. -/
  | never
  deriving Inhabited

/-- How far a text has been matched: up to a place, with the places of the groups. -/
structure State where
  place : Nat
  groups : List (Nat × Nat × Nat) := []
  deriving Repr, DecidableEq

namespace State

def group? (state : State) (number : Nat) : Option (Nat × Nat) :=
  state.groups.lookup number

def withGroup (state : State) (number start stop : Nat) : State :=
  { state with
    groups := (number, start, stop) :: state.groups.filter fun (other, _) => other != number }

end State

def isWordChar (c : Char) : Bool :=
  c.isAlphanum || c = '_'

namespace Anchor

def holds (anchor : Anchor) (text : Array Char) (place : Nat) : Bool :=
  let before := 0 < place && (text[place - 1]?).any isWordChar
  let behind := (text[place]?).any isWordChar
  match anchor with
  | textStart => place = 0
  | textEnd => place = text.size
  | textEndOrBreak => place = text.size || (place + 1 = text.size && text[place]? = some '\n')
  | lineStart => place = 0 || text[place - 1]? = some '\n'
  | lineEnd => place = text.size || text[place]? = some '\n'
  | wordEdge => before != behind
  | noWordEdge => before == behind
  | wordStart => !before && behind
  | wordEnd => before && !behind

end Anchor

namespace Node

def all (nodes : List Node) : Node :=
  match nodes with
  | [] => empty
  | [node] => node
  | node :: rest => both node (all rest)

/-- Whether what groups have matched matters for what fits. -/
def usesGroups : Node → Bool
  | again _ _ => true
  | group _ inner | repeated inner _ _ _ | look _ _ inner | first inner => usesGroups inner
  | both a b | either a b => usesGroups a || usesGroups b
  | empty | one _ | anchor _ | startHere | never => false

/-- The characters with which what fits can start, and whether it can be empty. -/
def start : Node → (Char → Bool) × Bool
  | empty | anchor _ | look _ _ _ | startHere => (fun _ => false, true)
  | never => (fun _ => false, false)
  | one holds => (holds, false)
  | again _ _ => (fun _ => true, true)
  | group _ inner | first inner => start inner
  | both a b =>
    let (holds, isEmpty) := start a
    if isEmpty then
      let (others, isEmpty) := start b
      (fun c => holds c || others c, isEmpty)
    else (holds, false)
  | either a b =>
    let (holds, isEmpty) := start a
    let (others, isEmpty') := start b
    (fun c => holds c || others c, isEmpty || isEmpty')
  | repeated inner least _ _ =>
    let (holds, isEmpty) := start inner
    (holds, isEmpty || least = 0)

end Node

/-- What is known of states: with `isFull` their groups matter, and else only their places. -/
def stateKey (isFull : Bool) (state : State) : Nat × List (Nat × Nat × Nat) :=
  (state.place, if isFull then state.groups else [])

def once (isFull : Bool) (states : List State) : List State :=
  match states with
  | [] | [_] => states
  | _ =>
    let (found, _) := states.foldl (fun (found, seen) state =>
      let key := stateKey isFull state
      if seen.contains key then (found, seen) else (state :: found, seen.insert key))
      (([] : List State), (∅ : Std.HashSet (Nat × List (Nat × Nat × Nat))))
    found.reverse

/-- The number of characters from a place on that are of some kind, of at most so many. -/
def runLength (holds : Char → Bool) (text : Array Char) (place : Nat) : (limit found : Nat) → Nat
  | 0, found => found
  | limit + 1, found =>
    match text[place + found]? with
    | some c => if holds c then runLength holds text place limit (found + 1) else found
    | none => found

def isSame (foldsCase : Bool) (text : Array Char) : (length a b : Nat) → Bool
  | 0, _, _ => true
  | length + 1, a, b =>
    match text[a]?, text[b]? with
    | some c, some d =>
      (c = d || (foldsCase && c.toLower = d.toLower)) &&
        isSame foldsCase text length (a + 1) (b + 1)
    | _, _ => false

/-- What comes of repeating a step at most so often, from the last state on. `seen` are the states
from which it has been repeated. -/
def repeatStep (isFull prefersMost : Bool) (step : State → List State) :
    (fuel : Nat) → (most? : Option Nat) → State →
    List State × Std.HashSet (Nat × List (Nat × Nat × Nat)) →
    List State × Std.HashSet (Nat × List (Nat × Nat × Nat))
  | 0, _, _, found => found
  | fuel + 1, most?, state, (found, seen) =>
    let key := stateKey isFull state
    let isBounded := most?.isSome
    if !isBounded && seen.contains key then (found, seen)
    else
      let seen := if isBounded then seen else seen.insert key
      let found := if prefersMost then found else state :: found
      let (found, seen) :=
        if most? = some 0 then (found, seen)
        else
          ((step state).filter fun next => next.place ≠ state.place).foldl (fun found next =>
            repeatStep isFull prefersMost step fuel (most?.map (· - 1)) next found) (found, seen)
      (if prefersMost then state :: found else found, seen)

def repeatExactly (isFull : Bool) (step : State → List State) : (times : Nat) → List State →
    List State
  | 0, states => states
  | times + 1, states =>
    let next := once isFull (states.flatMap step)
    -- A step that changes nothing changes nothing later either.
    if next.isEmpty || next = states then next else repeatExactly isFull step times next

namespace Node

/-- The states that follow a state when an expression fits, the preferred ones first. -/
def advance (isFull : Bool) (text : Array Char) : Node → List State → List State
  | empty, states => states
  | never, _ => []
  | one holds, states => states.filterMap fun state =>
    match text[state.place]? with
    | some c => if holds c then some { state with place := state.place + 1 } else none
    | none => none
  | anchor condition, states => states.filter fun state => condition.holds text state.place
  | group number inner, states =>
    once isFull (states.flatMap fun state =>
      (advance isFull text inner [state]).map fun next =>
        next.withGroup number state.place next.place)
  | both a b, states => advance isFull text b (advance isFull text a states)
  | either a b, states =>
    once isFull (states.flatMap fun state =>
      advance isFull text a [state] ++ advance isFull text b [state])
  | again number foldsCase, states => states.filterMap fun state =>
    match state.group? number with
    | none => none
    | some (start, stop) =>
      if isSame foldsCase text (stop - start) start state.place then
        some { state with place := state.place + (stop - start) }
      else none
  | startHere, states => states.map fun state => state.withGroup 0 state.place state.place
  | first inner, states =>
    once isFull (states.flatMap fun state => (advance isFull text inner [state]).take 1)
  | look isAhead isNegated inner, states => states.filterMap fun state =>
    let found :=
      if isAhead then (advance isFull text inner [state]).head?
      else (List.range (state.place + 1)).reverse.findSome? fun place =>
        (advance isFull text inner [{ state with place }]).find? fun next =>
          next.place = state.place
    match found, isNegated with
    | some next, false => some { next with place := state.place }
    | none, true => some state
    | _, _ => none
  | repeated (one holds) least most? preference, states =>
    once isFull (states.flatMap fun state =>
      let length := runLength holds text state.place
        ((most?.getD text.size).min (text.size - state.place)) 0
      if length < least then []
      else
        let lengths := match preference with
          | .most => (List.range' least (length + 1 - least)).reverse
          | .least => List.range' least (length + 1 - least)
          | .onlyMost => [length]
        lengths.map fun length => { state with place := state.place + length })
  | repeated inner least most? preference, states =>
    let step (state : State) : List State := advance isFull text inner [state]
    once isFull (states.flatMap fun state =>
      let starts := repeatExactly isFull step least [state]
      let more? := most?.map (· - least)
      let (found, _) := starts.foldl (fun found start =>
        repeatStep isFull (preference ≠ .least) step
          (text.size - start.place + 2) more? start found) ([], ∅)
      let states := found.reverse
      if preference = .onlyMost then states.take 1 else states)

end Node

/-- A regular expression with how it is used: with `prefersLongest` the longest match from a place
on is taken, and else the preferred one. -/
structure Expression where
  node : Node
  prefersLongest : Bool := true
  groups : Nat := 0
  deriving Inhabited

/-- A part of a text that fits, and where the groups are in it. -/
structure Match where
  start : Nat
  stop : Nat
  groups : List (Nat × Nat × Nat) := []
  deriving Repr, DecidableEq

namespace Match

def length (found : Match) : Nat :=
  found.stop - found.start

/-- The part of a text where a group is; the group of number zero is the match. -/
def part (found : Match) (text : Array Char) (number : Nat) : List Char :=
  if number = 0 then (text.extract found.start found.stop).toList
  else match found.groups.lookup number with
    | some (start, stop) => (text.extract start stop).toList
    | none => []

end Match

namespace Expression

/-- All matches from a place on, the preferred ones first. -/
def matchesAt (expression : Expression) (text : Array Char) (place : Nat) : List Match :=
  let isFull := expression.node.usesGroups
  (expression.node.advance isFull text [{ place }]).map fun state =>
    let start := ((state.group? 0).map Prod.fst).getD place
    ⟨start, state.place, state.groups⟩

def longest? (found : List Match) : Option Match :=
  found.foldl (fun best? next =>
    match best? with
    | some best => if best.stop < next.stop then some next else some best
    | none => some next) none

def matchAt? (expression : Expression) (text : Array Char) (place : Nat) : Option Match :=
  let found := expression.matchesAt text place
  if expression.prefersLongest then longest? found else found.head?

/-- The first match at a place or behind it, for which a way to choose is given. -/
def searchWith (choose : Nat → Option Match) (mayStart : Nat → Bool) :
    (places place : Nat) → Option Match
  | 0, _ => none
  | places + 1, place =>
    match if mayStart place then choose place else none with
    | some found => some found
    | none => searchWith choose mayStart places (place + 1)

def search? (expression : Expression) (text : Array Char) (place : Nat) : Option Match :=
  let (holds, isEmpty) := expression.node.start
  searchWith (expression.matchAt? text) (fun place => isEmpty || (text[place]?).any holds)
    (text.size + 1 - place) place

def fits (expression : Expression) (text : Array Char) : Bool :=
  (expression.search? text 0).isSome

end Expression

/-! Brackets in regular expressions: one of some characters, which are listed, lie in a range or
belong to a class. -/

/-- Why a regular expression cannot be read. -/
inductive Refusal where
  | openBracket
  | openGroup
  | closedGroup
  | openInterval
  | interval
  | large
  | leadingOperator
  | finalBackslash
  | group
  | range
  | className
  | collation
  | classSyntax
  /-- Nothing follows an opening bracket. -/
  | bareBracket
  /-- In other words. -/
  | other (message : String)
  deriving Repr, DecidableEq

def Refusal.message : Refusal → String
  | openBracket => "Unmatched [, [^, [:, [., or [="
  | openGroup => "Unmatched ( or \\("
  | closedGroup => "Unmatched ) or \\)"
  | openInterval => "Unmatched \\\x7b"
  | interval => "Invalid content of \\\x7b\\\x7d"
  | large => "Regular expression too big"
  | leadingOperator => "Invalid preceding regular expression"
  | finalBackslash => "Trailing backslash"
  | group => "Invalid back reference"
  | range => "Invalid range end"
  | className => "Invalid character class name"
  | collation => "Invalid collation character"
  | classSyntax => "character class syntax is [[:space:]], not [:space:]"
  | bareBracket => "Invalid regular expression"
  | other message => message

def isGraph (c : Char) : Bool :=
  0x20 < c.toNat && c.toNat < 0x7F

def isSpace (c : Char) : Bool :=
  c = ' ' || (0x09 ≤ c.toNat && c.toNat ≤ 0x0D)

def classes : List (String × (Char → Bool)) :=
  [("alnum", Char.isAlphanum), ("alpha", Char.isAlpha), ("blank", fun c => c = ' ' || c = '\t'),
    ("cntrl", fun c => c.toNat < 0x20 || c.toNat = 0x7F), ("digit", Char.isDigit),
    ("graph", isGraph), ("lower", Char.isLower), ("print", fun c => c = ' ' || isGraph c),
    ("punct", fun c => isGraph c && !c.isAlphanum), ("space", isSpace), ("upper", Char.isUpper),
    ("xdigit", fun c => c.isDigit || ('a' ≤ c && c ≤ 'f') || ('A' ≤ c && c ≤ 'F'))]

/-- A class for which the case of letters does not matter. -/
def foldedClass (foldsCase : Bool) (name : String) : String :=
  if foldsCase && (name = "upper" || name = "lower") then "alpha" else name

inductive Member where
  | one (c : Char)
  | range (first last : Char)
  | kind (holds : Char → Bool)

def Member.holds (c : Char) : Member → Bool
  | one d => c = d
  | range first last => first ≤ c && c ≤ last
  | kind holds => holds c

/-- The characters of members. A character fits in both cases if the case does not matter. -/
def membersHold (foldsCase isNegated : Bool) (members : List Member) (c : Char) : Bool :=
  let isMember (c : Char) : Bool := members.any (Member.holds c)
  (isMember c || (foldsCase && (isMember c.toLower || isMember c.toUpper))) != isNegated

/-- The name before a sign and a closing bracket, and what follows them. -/
def nameBefore? (sign : Char) : (name : List Char) → List Char → Option (String × List Char)
  | name, c :: ']' :: rest =>
    if c = sign then some (String.ofList name.reverse, rest)
    else nameBefore? sign (c :: name) (']' :: rest)
  | name, c :: rest => nameBefore? sign (c :: name) rest
  | _, [] => none

/-- The member at the start of a list of members, and what follows it. With `takesHyphen` it may be
a hyphen. `escapes` reads what a backslash stands for, if it has a meaning. -/
def memberAt (foldsCase takesHyphen : Bool) (escapes : List Char → Option (Char × List Char)) :
    List Char → Except Refusal (Member × List Char)
  | [] => .error .openBracket
  | '[' :: ':' :: rest =>
    match nameBefore? ':' [] rest with
    | none => .error .openBracket
    | some (name, rest) =>
      match classes.lookup (foldedClass foldsCase name) with
      | some holds => .ok (.kind holds, rest)
      | none => .error .className
  | '[' :: '=' :: rest =>
    match nameBefore? '=' [] rest with
    | none => .error .openBracket
    | some (name, rest) =>
      match name.toList with
      | [c] => .ok (.kind fun other => other = c, rest)
      | _ => .error .collation
  | '[' :: '.' :: rest =>
    match nameBefore? '.' [] rest with
    | none => .error .openBracket
    | some (name, rest) =>
      match name.toList with
      | [c] => .ok (.one c, rest)
      | _ => .error .collation
  | c :: rest =>
    if c = '-' && !takesHyphen && rest.head? ≠ some ']' then .error .range
    else match escapes (c :: rest) with
      | some (c, rest) => .ok (.one c, rest)
      | none => .ok (.one c, rest)

/-- The members up to the closing bracket, and what follows it. -/
def membersAt (foldsCase : Bool) (escapes : List Char → Option (Char × List Char)) :
    (fuel : Nat) → (isFirst : Bool) → (found : List Member) → List Char →
    Except Refusal (List Member × List Char)
  | 0, _, _, _ => .error .openBracket
  | _, false, found, ']' :: rest => .ok (found.reverse, rest)
  | fuel + 1, isFirst, found, cs => do
    let (member, rest) ← memberAt foldsCase isFirst escapes cs
    let go (member : Member) (rest : List Char) : Except Refusal (List Member × List Char) :=
      membersAt foldsCase escapes fuel false (member :: found) rest
    match member, isRangeAhead rest with
    | .one lower, true =>
      let (other, rest) ← memberAt foldsCase true escapes (rest.drop 1)
      match other with
      | .one upper => if upper < lower then throw .range else go (.range lower upper) rest
      | _ => throw .range
    | _, _ => go member rest
where
  /-- Whether a hyphen follows that is not the last member. -/
  isRangeAhead (rest : List Char) : Bool :=
    rest.head? = some '-' && (rest.drop 1).head? ≠ some ']'

/-- Whether members look like the name of a class that lacks its own brackets. -/
def looksLikeClass (members : List Member) : Bool :=
  let names := members.map fun member =>
    match member with
    | .one c => some c
    | _ => none
  names.head? = some (some ':') && names.getLast? = some (some ':') &&
    names.all Option.isSome && names.any (· ≠ some ':')

/-- What brackets hold, from behind the opening one, and what follows them. With `splitsLines` those
that are negated do not hold line breaks. -/
def bracketAt (foldsCase splitsLines warns : Bool)
    (escapes : List Char → Option (Char × List Char)) (cs : List Char) :
    Except Refusal ((Char → Bool) × List Char) := do
  let isNegated := cs.head? = some '^'
  let inner := if isNegated then cs.drop 1 else cs
  if inner.isEmpty then throw .bareBracket
  let (members, rest) ← membersAt foldsCase escapes (inner.length + 1) true [] inner
  if warns && looksLikeClass members then throw .classSyntax
  let holds := membersHold foldsCase isNegated members
  return (if isNegated && splitsLines then fun c => c ≠ '\n' && holds c else holds, rest)

end MutationTesting.Regex
