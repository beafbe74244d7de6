import MutationTesting.Text.Search
/-! Patterns of the shell: a question mark fits a character, a star any characters, brackets one of
some characters; a character after a backslash fits itself. -/
namespace MutationTesting.Shell.Pattern

/-- The number of a byte in the order of ranges, in which bytes above 127 come first. -/
def rank (c : Char) : Int :=
  if c.toNat < 128 then c.toNat else (c.toNat : Int) - 256

def isGraph (c : Char) : Bool :=
  0x20 < c.toNat && c.toNat < 0x7F

def isSpace (c : Char) : Bool :=
  c = ' ' || (0x09 ≤ c.toNat && c.toNat ≤ 0x0D)

def isHexDigit (c : Char) : Bool :=
  c.isDigit || ('a' ≤ c && c ≤ 'f') || ('A' ≤ c && c ≤ 'F')

def classes : List (String × (Char → Bool)) :=
  [("alnum", Char.isAlphanum), ("alpha", Char.isAlpha), ("blank", fun c => c = ' ' || c = '\t'),
    ("cntrl", fun c => c.toNat < 0x20 || c.toNat = 0x7F), ("digit", Char.isDigit),
    ("graph", isGraph), ("lower", Char.isLower), ("print", fun c => c = ' ' || isGraph c),
    ("punct", fun c => isGraph c && !c.isAlphanum), ("space", isSpace), ("upper", Char.isUpper),
    ("xdigit", isHexDigit)]

/-- The class that is named behind an opening bracket, and what follows it. -/
def class? (cs : List Char) : Option ((Char → Bool) × List Char) :=
  classes.findSome? fun (name, holds) =>
    let text := (":" ++ name ++ ":]").toList
    if text.isPrefixOf cs then some (holds, cs.drop text.length) else none

/-- Whether a character is a member of what stands in brackets, from the next member on, and what
follows the brackets. The first member may be a closing bracket. -/
def members (c : Char) (found : Bool) : (fuel : Nat) → (isFirst : Bool) → List Char →
    Option (Bool × List Char)
  | 0, _, _ => none
  | _, _, [] => none
  | fuel + 1, isFirst, first :: rest =>
    if first = ']' ∧ !isFirst then some (found, rest)
    else
      let member (first : Char) (rest : List Char) : Option (Bool × List Char) :=
        match rest with
        | '-' :: '\\' :: last :: rest =>
          members c (found || (rank first ≤ rank c && rank c ≤ rank last)) fuel false rest
        | '-' :: ']' :: _ => members c (found || c = first) fuel false rest
        | '-' :: last :: rest =>
          members c (found || (rank first ≤ rank c && rank c ≤ rank last)) fuel false rest
        | _ => members c (found || c = first) fuel false rest
      match first, class? rest, rest with
      | '[', some (holds, rest), _ => members c (found || holds c) fuel false rest
      | '\\', _, escaped :: rest => member escaped rest
      | '\\', _, [] => none
      | _, _, _ => member first rest

def fitsFrom : (fuel : Nat) → (pattern text : List Char) → Bool
  | 0, _, _ => false
  | _, [], text => text.isEmpty
  | fuel + 1, sign :: pattern, text =>
    let itself (sign : Char) (pattern : List Char) : Bool :=
      match text with
      | c :: text => c == sign && fitsFrom fuel pattern text
      | [] => false
    match sign with
    | '\\' =>
      match pattern with
      | sign :: pattern => itself sign pattern
      | [] => itself '\\' []
    | '?' =>
      match text with
      | _ :: text => fitsFrom fuel pattern text
      | [] => false
    | '*' =>
      match text with
      | _ :: rest => fitsFrom fuel pattern text || fitsFrom fuel ('*' :: pattern) rest
      | [] => fitsFrom fuel pattern []
    | '[' =>
      match text with
      | c :: text =>
        let isNegated := pattern.head? = some '!'
        let inner := if isNegated then pattern.drop 1 else pattern
        match members c false (inner.length + 1) true inner with
        | some (found, rest) => found != isNegated && fitsFrom fuel rest text
        | none => itself '[' pattern
      | [] => false
    | _ => itself sign pattern

def fits (pattern text : List Char) : Bool :=
  fitsFrom (pattern.length + text.length + 1) pattern text

/-- Whether brackets that have been opened are closed before a slash. -/
def closes : List Char → Bool
  | '\\' :: c :: rest => c ≠ '/' && (rest.head? = some ']' || closes rest)
  | [] | ['\\'] => false
  | c :: rest => c ≠ '/' && (rest.head? = some ']' || closes rest)

/-- Whether a sign in brackets would close them or is not closed. -/
def opensClass (rest : List Char) : Bool :=
  closes (if rest.head? = some '!' then rest.drop 1 else rest)

/-- The text of a pattern without wildcards. -/
def unescaped : List Char → List Char
  | '\\' :: c :: rest => c :: unescaped rest
  | c :: rest => c :: unescaped rest
  | [] => []

/-- What is left of a text when the part at its start that fits a pattern is left out, the shortest
one or the longest one. -/
def withoutStart (longest : Bool) (pattern text : List Char) : List Char :=
  let lengths := List.range (text.length + 1)
  let lengths := if longest then lengths.reverse else lengths
  match lengths.find? fun n => fits pattern (text.take n) with
  | some n => text.drop n
  | none => text

end MutationTesting.Shell.Pattern
