/-! Blanks: the characters with the Unicode property `White_Space`, and the two ways in which
they delimit text, trimming and splitting into words. -/
namespace MutationTesting.Text

/-- The characters with the property `White_Space`. -/
def isBlank (c : Char) : Bool :=
  let n := c.toNat
  (9 ≤ n && n ≤ 13) || n == 0x20 || n == 0x85 || n == 0xA0 || n == 0x1680 ||
    (0x2000 ≤ n && n ≤ 0x200A) || n == 0x2028 || n == 0x2029 || n == 0x202F ||
    n == 0x205F || n == 0x3000

theorem isBlank_of_isWhitespace {c : Char} (h : c.isWhitespace = true) : isBlank c = true := by
  simp only [Char.isWhitespace, Bool.or_eq_true, decide_eq_true_eq] at h
  rcases h with ((rfl | rfl) | rfl) | rfl <;> decide

def dropBlanks (cs : List Char) : List Char :=
  cs.dropWhile isBlank

/-- The characters before the trailing ones that satisfy `p`. -/
def dropLastWhile (p : Char → Bool) (cs : List Char) : List Char :=
  (cs.reverse.dropWhile p).reverse

/-- The text without its leading blanks. -/
def trimStart (s : String) : String :=
  String.ofList (dropBlanks s.toList)

/-- The text without its leading and trailing blanks. -/
def trim (s : String) : String :=
  String.ofList (dropLastWhile isBlank (dropBlanks s.toList))

/-- The text without the trailing characters that satisfy `p`. -/
def trimEndWhile (p : Char → Bool) (s : String) : String :=
  String.ofList (dropLastWhile p s.toList)

/-- The maximal runs of characters that are not blank, `word` being the run in progress. -/
def wordsFrom (word : List Char) : List Char → List (List Char)
  | [] => if word = [] then [] else [word]
  | c :: rest =>
    if isBlank c then
      if word = [] then wordsFrom [] rest else word :: wordsFrom [] rest
    else wordsFrom (word ++ [c]) rest

/-- The words of a text: its maximal runs of characters that are not blank. -/
def words (s : String) : List String :=
  (wordsFrom [] s.toList).map String.ofList

end MutationTesting.Text

/-! Three readings of a text as lines: rows, which a line feed separates; lines, which a line
feed or a carriage return with a line feed ends; and terminated lines, which keep what ends
them, a lone carriage return included. -/
namespace MutationTesting.Text

/-- The pieces between the occurrences of `mark`; one more than there are occurrences. -/
def pieces (mark : Char) : List Char → List (List Char)
  | [] => [[]]
  | c :: rest =>
    if c = mark then [] :: pieces mark rest
    else
      match pieces mark rest with
      | [] => [[c]]
      | first :: others => (c :: first) :: others

theorem pieces_ne_nil (mark : Char) (cs : List Char) : pieces mark cs ≠ [] := by
  cases cs with
  | nil => simp [pieces]
  | cons c rest =>
    unfold pieces
    split
    · simp
    · split <;> simp

/-- The pieces, with the mark between them, make up the text. -/
theorem intercalate_pieces (mark : Char) (cs : List Char) :
    List.intercalate [mark] (pieces mark cs) = cs := by
  induction cs with
  | nil => rfl
  | cons c rest ih =>
    unfold pieces
    by_cases same : c = mark
    · obtain ⟨first, others, found⟩ := List.exists_cons_of_ne_nil (pieces_ne_nil mark rest)
      rw [if_pos same, found, List.intercalate_cons_cons, ← found, ih, same]
      rfl
    · rw [if_neg same]
      cases found : pieces mark rest with
      | nil => exact absurd found (pieces_ne_nil mark rest)
      | cons first others =>
        cases others with
        | nil =>
          rw [found, List.intercalate_singleton] at ih
          simp [ih]
        | cons second others =>
          rw [found, List.intercalate_cons_cons] at ih
          rw [List.intercalate_cons_cons, ← ih]
          simp

/-- The text split at each occurrence of the character `mark`. -/
def splitAt (mark : Char) (s : String) : List String :=
  (pieces mark s.toList).map String.ofList

/-- The rows of a text: what its line feeds separate. A text has at least one row. -/
def rows (s : String) : List String :=
  splitAt '\n' s

/-- The text ending with `c` without it, and whether it ended so. -/
def dropFinal? (c : Char) (cs : List Char) : Option (List Char) :=
  if cs.getLast? = some c then some cs.dropLast else none

/-- The lines of a text: each ends with a line feed or with a carriage return and a line feed,
and what ends it is no part of it. Characters after the last line feed are a line. -/
def lines (s : String) : List String :=
  let all := pieces '\n' s.toList
  let ended := all.dropLast.map fun line => (dropFinal? '\r' line).getD line
  let rest := all.getLast?.getD []
  (if rest = [] then ended else ended ++ [rest]).map String.ofList

/-- The lines of a text with what ends each of them: a line feed, a carriage return, or a
carriage return and a line feed. `line` is the line in progress. -/
def terminatedFrom (line : List Char) : List Char → List (List Char)
  | [] => if line = [] then [] else [line]
  | '\r' :: '\n' :: rest => (line ++ ['\r', '\n']) :: terminatedFrom [] rest
  | c :: rest =>
    if c = '\n' ∨ c = '\r' then (line ++ [c]) :: terminatedFrom [] rest
    else terminatedFrom (line ++ [c]) rest

/-- The lines of a text, each with what ends it; only the last one may lack it. -/
def terminatedLines (s : String) : List String :=
  (terminatedFrom [] s.toList).map String.ofList

theorem flatten_terminatedFrom (line cs : List Char) :
    (terminatedFrom line cs).flatten = line ++ cs := by
  fun_induction terminatedFrom line cs with
  | case1 => simp_all
  | case2 line found => simp
  | case3 line rest ih => simp [ih]
  | case4 line c rest _ _ ih => simp [ih]
  | case5 line c rest _ _ ih => simp [ih]

end MutationTesting.Text
