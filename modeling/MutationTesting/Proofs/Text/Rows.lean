import MutationTesting.Text.Lines
import MutationTesting.Text.Search
/-! What blanks at the ends of a text and between its words do. A blank behind a text is neither part
of a word nor left by trimming, and a text without blanks at its ends is trimmed already. -/
namespace MutationTesting.Text

variable {blank : Char} {cs run word : List Char}

theorem wordsFrom_append (noBlank : ∀ c ∈ run, isBlank c = false) (word rest : List Char) :
    wordsFrom word (run ++ rest) = wordsFrom (word ++ run) rest := by
  induction run generalizing word with
  | nil => rw [List.nil_append, List.append_nil]
  | cons c run ih =>
    rw [List.cons_append, wordsFrom, noBlank c List.mem_cons_self, if_neg Bool.false_ne_true,
      ih (fun c member => noBlank c (List.mem_cons_of_mem _ member)), List.append_assoc,
      List.singleton_append]

theorem wordsFrom_blank (isBlank : isBlank blank = true) (nonempty : word ≠ []) (rest : List Char) :
    wordsFrom word (blank :: rest) = word :: wordsFrom [] rest := by
  rw [wordsFrom, if_pos isBlank, if_neg nonempty]

theorem wordsFrom_nil_append (nonempty : run ≠ []) (noBlank : ∀ c ∈ run, isBlank c = false)
    (isBlank : isBlank blank = true) (rest : List Char) :
    wordsFrom [] (run ++ blank :: rest) = run :: wordsFrom [] rest := by
  rw [wordsFrom_append noBlank, List.nil_append, wordsFrom_blank isBlank nonempty]

theorem wordsFrom_concat (isBlank : isBlank blank = true) (word cs : List Char) :
    wordsFrom word (cs ++ [blank]) = wordsFrom word cs := by
  induction cs generalizing word with
  | nil => by_cases empty : word = [] <;> simp [wordsFrom, isBlank, empty]
  | cons c rest ih => simp only [List.cons_append, wordsFrom, ih]

theorem words_concat (isBlank : isBlank blank = true) (cs : List Char) :
    words (String.ofList (cs ++ [blank])) = words (String.ofList cs) := by
  simp only [words, String.toList_ofList, wordsFrom_concat isBlank]

theorem trim_concat (isBlank : isBlank blank = true) (cs : List Char) :
    trim (String.ofList (cs ++ [blank])) = trim (String.ofList cs) := by
  have dropped : dropLastWhile Text.isBlank (dropBlanks (cs ++ [blank])) =
      dropLastWhile Text.isBlank (dropBlanks cs) := by
    induction cs with
    | nil => simp [dropBlanks, dropLastWhile, isBlank]
    | cons c rest ih =>
      cases startsBlank : Text.isBlank c with
      | true => simpa [dropBlanks, startsBlank] using ih
      | false => simp [dropBlanks, dropLastWhile, startsBlank, isBlank]
  simp only [trim, String.toList_ofList, dropped]

theorem dropWhile_of_head? {p : Char → Bool} (starts : ∀ c ∈ cs.head?, p c = false) :
    cs.dropWhile p = cs := by
  cases cs with
  | nil => rfl
  | cons c rest => rw [List.dropWhile_cons, starts c rfl, if_neg Bool.false_ne_true]

theorem trim_eq_self (starts : ∀ c ∈ cs.head?, isBlank c = false)
    (ends : ∀ c ∈ cs.getLast?, isBlank c = false) :
    trim (String.ofList cs) = String.ofList cs := by
  have ended : cs.reverse.dropWhile isBlank = cs.reverse :=
    dropWhile_of_head? (by rwa [List.head?_reverse])
  rw [trim, String.toList_ofList, dropBlanks, dropWhile_of_head? starts, dropLastWhile, ended,
    List.reverse_reverse]

end MutationTesting.Text

/-! Rows of a text that is put together from parts. Each part keeps its rows but for the one in which
it meets the next part. A replacement of a mark that holds no line feed acts on every row by
itself. -/
namespace MutationTesting.Text

/-- The line feeds of a text. -/
def feeds (text : String) : Nat :=
  text.toList.count '\n'

@[simp] theorem feeds_append (first second : String) :
    feeds (first ++ second) = feeds first + feeds second := by
  simp [feeds]

variable {mark : Char} {cs : List Char}

theorem length_pieces (mark : Char) (cs : List Char) :
    (pieces mark cs).length = cs.count mark + 1 := by
  induction cs with
  | nil => rfl
  | cons c rest ih =>
    unfold pieces
    by_cases same : c = mark
    · simp [same, ih]
    · rw [if_neg same, List.count_cons_of_ne same, ← ih]
      cases found : pieces mark rest with
      | nil => exact absurd found (pieces_ne_nil mark rest)
      | cons first others => rfl

theorem length_rows (s : String) : (rows s).length = feeds s + 1 := by
  rw [rows, splitAt, List.length_map, length_pieces, feeds]

theorem pieces_mark (mark : Char) (rest : List Char) :
    pieces mark (mark :: rest) = [] :: pieces mark rest := by
  rw [pieces, if_pos rfl]

theorem pieces_cons {c : Char} {rest first : List Char} {others : List (List Char)}
    (other : c ≠ mark) (found : pieces mark rest = first :: others) :
    pieces mark (c :: rest) = (c :: first) :: others := by
  rw [pieces, if_neg other, found]

theorem exists_pieces (mark : Char) (cs : List Char) :
    ∃ first others, pieces mark cs = first :: others :=
  List.exists_cons_of_ne_nil (pieces_ne_nil mark cs)

theorem pieces_of_not_mem (free : mark ∉ cs) : pieces mark cs = [cs] := by
  induction cs with
  | nil => rfl
  | cons c rest ih =>
    have other := List.ne_of_not_mem_cons free
    exact pieces_cons other.symm (ih (List.not_mem_of_not_mem_cons free))

theorem not_mem_of_mem_pieces {piece : List Char} (member : piece ∈ pieces mark cs) :
    mark ∉ piece := by
  induction cs generalizing piece with
  | nil =>
    obtain rfl := List.mem_singleton.mp member
    exact List.not_mem_nil
  | cons c rest ih =>
    obtain ⟨first, others, found⟩ := exists_pieces mark rest
    by_cases same : c = mark
    · rw [same, pieces_mark] at member
      obtain rfl | member := List.mem_cons.mp member
      · exact List.not_mem_nil
      · exact ih member
    · rw [pieces_cons same found] at member
      obtain rfl | member := List.mem_cons.mp member
      · exact List.not_mem_cons_of_ne_of_not_mem (Ne.symm same) (ih (found ▸ List.mem_cons_self))
      · exact ih (found ▸ List.mem_cons_of_mem _ member)

theorem exists_append_of_pieces {first : List Char} {others : List (List Char)}
    (found : pieces mark cs = first :: others) : ∃ rest, cs = first ++ rest := by
  induction cs generalizing first others with
  | nil =>
    obtain ⟨rfl, -⟩ := List.cons.inj found
    exact ⟨[], rfl⟩
  | cons c rest ih =>
    by_cases same : c = mark
    · rw [same, pieces_mark] at found
      obtain ⟨rfl, -⟩ := List.cons.inj found
      exact ⟨c :: rest, rfl⟩
    · obtain ⟨inner, later, below⟩ := exists_pieces mark rest
      rw [pieces_cons same below] at found
      obtain ⟨rfl, -⟩ := List.cons.inj found
      obtain ⟨behind, rfl⟩ := ih below
      exact ⟨behind, rfl⟩

theorem pieces_append_left {front last : List Char} {lead : List (List Char)}
    (found : pieces mark front = lead ++ [last]) (back : List Char) :
    pieces mark (front ++ back) = lead ++ pieces mark (last ++ back) := by
  induction front generalizing lead last with
  | nil =>
    cases lead with
    | nil =>
      obtain ⟨rfl, -⟩ := List.cons.inj found
      rfl
    | cons one more => simp [pieces] at found
  | cons c rest ih =>
    obtain ⟨first, others, below⟩ := exists_pieces mark rest
    by_cases same : c = mark
    · rw [same, pieces_mark] at found
      cases lead with
      | nil => simp [below] at found
      | cons one more =>
        obtain ⟨rfl, further⟩ := List.cons.inj found
        rw [List.cons_append, same, pieces_mark, ih further, List.cons_append]
    · rw [pieces_cons same below] at found
      cases lead with
      | nil =>
        obtain ⟨rfl, rfl⟩ := List.cons.inj found
        have behind : pieces mark (rest ++ back) = [] ++ pieces mark (first ++ back) := ih below
        rw [List.nil_append] at behind
        rw [List.nil_append, List.cons_append, List.cons_append, pieces, behind, ← pieces]
      | cons one more =>
        obtain ⟨rfl, rfl⟩ := List.cons.inj found
        have behind : pieces mark (rest ++ back) = first :: more ++ pieces mark (last ++ back) :=
          ih below
        rw [List.cons_append, pieces_cons same behind]
        rfl

theorem pieces_append_right (front : List Char) {back first : List Char}
    {others : List (List Char)} (found : pieces mark back = first :: others) :
    pieces mark (front ++ back) = pieces mark (front ++ first) ++ others := by
  induction front with
  | nil =>
    have free : mark ∉ first := not_mem_of_mem_pieces (found ▸ List.mem_cons_self)
    rw [List.nil_append, List.nil_append, pieces_of_not_mem free, found, List.singleton_append]
  | cons c rest ih =>
    by_cases same : c = mark
    · rw [List.cons_append, List.cons_append, same, pieces_mark, pieces_mark, ih, List.cons_append]
    · obtain ⟨inner, later, below⟩ := exists_pieces mark (rest ++ first)
      rw [below, List.cons_append] at ih
      rw [List.cons_append, List.cons_append, pieces_cons same below, pieces_cons same ih,
        List.cons_append]

/-- What holds no mark goes into the first piece of the text behind it. -/
theorem pieces_append_of_not_mem {front back first : List Char} {others : List (List Char)}
    (free : mark ∉ front) (found : pieces mark back = first :: others) :
    pieces mark (front ++ back) = (front ++ first) :: others := by
  have freeFirst : mark ∉ first := not_mem_of_mem_pieces (found ▸ List.mem_cons_self)
  have freeBoth : mark ∉ front ++ first := List.not_mem_append free freeFirst
  rw [pieces_append_right front found, pieces_of_not_mem freeBoth, List.singleton_append]

/-- A text that ends with a mark and a further text have their pieces one after the other, but for
the empty piece behind that mark. -/
theorem pieces_append_of_mark (front back : List Char) :
    pieces mark (front ++ [mark] ++ back) = pieces mark front ++ pieces mark back := by
  have ended : pieces mark (front ++ [mark]) = pieces mark front ++ [[]] := by
    have one : pieces mark [mark] = [] :: [[]] := pieces_mark mark []
    rw [pieces_append_right front one, List.append_nil]
  rw [pieces_append_left ended, List.nil_append]

theorem pieces_intercalate {lines : List (List Char)} (nonempty : lines ≠ [])
    (free : ∀ line ∈ lines, mark ∉ line) : pieces mark (List.intercalate [mark] lines) = lines := by
  induction lines with
  | nil => contradiction
  | cons line rest ih =>
    have alone := pieces_of_not_mem (free line List.mem_cons_self)
    cases rest with
    | nil => rw [List.intercalate_singleton, alone]
    | cons next others =>
      rw [List.intercalate_cons_cons, pieces_append_of_mark, alone,
        ih (List.cons_ne_nil _ _) (fun line member => free line (List.mem_cons_of_mem _ member)),
        List.singleton_append]

/-- A text between two others changes the rows between theirs, in the first of which the text in
front ends and in the last of which the text behind begins. -/
theorem rows_between (front back : String) : ∃ above lead trail below,
    above.length = feeds front ∧ below.length = feeds back ∧ feeds lead = 0 ∧ feeds trail = 0 ∧
      ∀ middle, rows (front ++ middle ++ back) = above ++ rows (lead ++ middle ++ trail) ++ below := by
  obtain ⟨above, lead, atFront⟩ : ∃ above lead, pieces '\n' front.toList = above ++ [lead] :=
    ⟨_, _, (List.dropLast_concat_getLast (pieces_ne_nil '\n' front.toList)).symm⟩
  obtain ⟨trail, below, atBack⟩ := exists_pieces '\n' back.toList
  have noFeed {piece cs : List Char} (member : piece ∈ pieces '\n' cs) :
      feeds (String.ofList piece) = 0 := by
    rw [feeds, String.toList_ofList]
    exact List.count_eq_zero_of_not_mem (not_mem_of_mem_pieces member)
  have isLead : lead ∈ pieces '\n' front.toList := by simp [atFront]
  have isTrail : trail ∈ pieces '\n' back.toList := by simp [atBack]
  refine ⟨above.map String.ofList, String.ofList lead, String.ofList trail,
    below.map String.ofList, ?_, ?_, noFeed isLead, noFeed isTrail, ?_⟩
  · have length := length_pieces '\n' front.toList
    rw [atFront, List.length_append, List.length_singleton] at length
    rw [List.length_map, feeds, Nat.add_right_cancel length]
  · have length := length_pieces '\n' back.toList
    rw [atBack, List.length_cons] at length
    rw [List.length_map, feeds, Nat.add_right_cancel length]
  · intro middle
    simp only [rows, splitAt, String.toList_append, String.toList_ofList, List.append_assoc]
    rw [pieces_append_left atFront, ← List.append_assoc, pieces_append_right _ atBack]
    simp only [List.map_append, List.append_assoc]

theorem afterLead?_append_right {lead text rest : List Char} (found : afterLead? lead text = some rest)
    (back : List Char) : afterLead? lead (text ++ back) = some (rest ++ back) := by
  rw [eq_append_of_afterLead? found, List.append_assoc, afterLead?_append]

theorem around?_of_not_mem (free : mark ∉ cs) : around? [mark] cs = none := by
  induction cs with
  | nil => rfl
  | cons c rest ih =>
    have other := List.ne_of_not_mem_cons free
    simp [around?, afterLead?, other, ih (List.not_mem_of_not_mem_cons free)]

/-- The first occurrence of a mark stands behind what does not hold it. -/
theorem around?_append_mark {front : List Char} (free : mark ∉ front) (back : List Char) :
    around? [mark] (front ++ mark :: back) = some (front, back) := by
  induction front with
  | nil => simp [around?, afterLead?]
  | cons c rest ih =>
    have other := List.ne_of_not_mem_cons free
    simp [around?, afterLead?, other, ih (List.not_mem_of_not_mem_cons free)]

section

variable {old new : List Char}

theorem substitute_nil (old new : List Char) : substitute old new [] = [] := by
  rw [substitute]

theorem substitute_found {text after : List Char} (nonempty : old ≠ [])
    (found : afterLead? old text = some after) :
    substitute old new text = new ++ substitute old new after := by
  cases text with
  | nil =>
    cases old with
    | nil => contradiction
    | cons a old => contradiction
  | cons c rest =>
    rw [substitute, if_neg nonempty]
    split <;> simp_all

theorem substitute_absent {c : Char} {rest : List Char}
    (absent : afterLead? old (c :: rest) = none) :
    substitute old new (c :: rest) = c :: substitute old new rest := by
  have nonempty : old ≠ [] := by
    rintro rfl
    contradiction
  rw [substitute, if_neg nonempty]
  split <;> simp_all

/-- A replacement acts on each piece by itself where neither of its two texts holds a mark. -/
theorem pieces_substitute (nonempty : old ≠ []) (noOld : mark ∉ old) (noNew : mark ∉ new)
    (text : List Char) :
    pieces mark (substitute old new text) = (pieces mark text).map (substitute old new) := by
  fun_induction substitute old new text with
  | case1 => simp [pieces, substitute_nil]
  | case2 => contradiction
  | case3 c rest _ after found ih =>
    obtain ⟨first, others, split⟩ := exists_pieces mark after
    rw [split, List.map_cons] at ih
    rw [eq_append_of_afterLead? found, pieces_append_of_not_mem noNew ih,
      pieces_append_of_not_mem noOld split, List.map_cons,
      substitute_found nonempty (afterLead?_append old first)]
  | case4 c rest _ absent ih =>
    obtain ⟨first, others, split⟩ := exists_pieces mark rest
    rw [split, List.map_cons] at ih
    by_cases same : c = mark
    · rw [same, pieces_mark, pieces_mark, List.map_cons, substitute_nil, ih, split, List.map_cons]
    · obtain ⟨behind, rfl⟩ := exists_append_of_pieces split
      have alsoAbsent : afterLead? old (c :: first) = none := by
        cases found : afterLead? old (c :: first) with
        | none => rfl
        | some after =>
          rw [← List.cons_append, afterLead?_append_right found] at absent
          contradiction
      rw [pieces_cons same ih, pieces_cons same split, List.map_cons, substitute_absent alsoAbsent]

/-- A shorter text in place of another one changes a text exactly where that one occurs. -/
theorem length_substitute (nonempty : old ≠ []) (shorter : new.length < old.length)
    (text : List Char) :
    (substitute old new text).length ≤ text.length ∧
      ((substitute old new text).length = text.length → around? old text = none) := by
  fun_induction substitute old new text with
  | case1 => simp [around?, nonempty]
  | case2 => contradiction
  | case3 c rest _ after found ih =>
    have length := length_of_afterLead? found
    simp only [List.length_append]
    omega
  | case4 c rest _ absent ih =>
    obtain ⟨le, same⟩ := ih
    simp only [List.length_cons, Nat.add_le_add_iff_right, Nat.add_right_cancel_iff, around?, absent]
    exact ⟨le, fun equal => by rw [same equal]; rfl⟩

theorem substitute_of_around? {text : List Char} (absent : around? old text = none) :
    substitute old new text = text := by
  induction text with
  | nil => exact substitute_nil old new
  | cons c rest ih =>
    unfold around? at absent
    split at absent
    · contradiction
    · rename_i notHere
      rw [substitute_absent notHere, ih (Option.map_eq_none_iff.mp absent)]

theorem afterLead?_append_absent {text : List Char} (noOld : mark ∉ old)
    (absent : afterLead? old text = none) (back : List Char) :
    afterLead? old (text ++ mark :: back) = none := by
  induction old generalizing text with
  | nil => contradiction
  | cons a old ih =>
    cases text with
    | nil =>
      have other : a ≠ mark := fun same => noOld (same ▸ List.mem_cons_self)
      simp [afterLead?, other]
    | cons c text =>
      simp only [afterLead?, List.cons_append] at absent ⊢
      split
      · rename_i same
        rw [if_pos same] at absent
        exact ih (List.not_mem_of_not_mem_cons noOld) absent
      · rfl

variable (new) in
/-- A replacement acts by itself on what stands before a character that its mark does not hold, and
on what stands behind it. -/
theorem substitute_append_mark (nonempty : old ≠ []) (noOld : mark ∉ old) (front back : List Char) :
    substitute old new (front ++ mark :: back) =
      substitute old new front ++ mark :: substitute old new back := by
  fun_induction substitute old new front with
  | case1 =>
    have absent : afterLead? old [] = none := by
      cases old with
      | nil => contradiction
      | cons a old => rfl
    exact substitute_absent (afterLead?_append_absent noOld absent back)
  | case2 => contradiction
  | case3 c rest _ after found ih =>
    rw [substitute_found nonempty (afterLead?_append_right found _), ih, List.append_assoc]
  | case4 c rest _ absent ih =>
    have alsoAbsent := afterLead?_append_absent noOld absent back
    rw [List.cons_append] at alsoAbsent ⊢
    rw [substitute_absent alsoAbsent, ih, List.cons_append]

/-- What occurs nowhere in a text occurs nowhere in a part of it. -/
theorem around?_append {front back : List Char} (absent : around? old (front ++ back) = none) :
    around? old front = none ∧ around? old back = none := by
  induction front with
  | nil =>
    refine ⟨?_, absent⟩
    have nonempty : old ≠ [] := by
      rintro rfl
      cases back <;> simp [around?, afterLead?] at absent
    simp [around?, nonempty]
  | cons c rest ih =>
    rw [List.cons_append, around?] at absent
    split at absent
    · contradiction
    · rename_i notHere
      obtain ⟨inFront, behind⟩ := ih (Option.map_eq_none_iff.mp absent)
      have alsoNotHere : afterLead? old (c :: rest) = none := by
        cases found : afterLead? old (c :: rest) with
        | none => rfl
        | some after =>
          rw [← List.cons_append, afterLead?_append_right found] at notHere
          contradiction
      exact ⟨by simp [around?, alsoNotHere, inFront], behind⟩

end

/-- A text of whole lines: it is empty, or a line feed ends it. -/
def IsWhole (text : String) : Prop :=
  text = "" ∨ text.toList.getLast? = some '\n'

instance (text : String) : Decidable (IsWhole text) :=
  inferInstanceAs (Decidable (text = "" ∨ _))

theorem IsWhole.cases {text : String} (whole : IsWhole text) :
    text.toList = [] ∨ ∃ front, text.toList = front ++ ['\n'] := by
  obtain rfl | ended := whole
  · exact .inl rfl
  · exact .inr (List.getLast?_eq_some_iff.mp ended)

/-- The lines of a text are rows of it, whatever follows them. -/
theorem IsWhole.rows_append {front : String} (whole : IsWhole front) :
    ∃ above, above.length = feeds front ∧ rows front = above ++ [""] ∧
      ∀ back, rows (front ++ back) = above ++ rows back := by
  obtain empty | ⟨lines, ended⟩ := whole.cases
  · obtain rfl : front = "" := String.toList_inj.mp empty
    exact ⟨[], rfl, rfl, fun back => by rw [String.empty_append, List.nil_append]⟩
  · refine ⟨(pieces '\n' lines).map String.ofList, ?_, ?_, ?_⟩
    · rw [List.length_map, length_pieces, feeds, ended, List.count_append]
      rfl
    · have last : pieces '\n' (lines ++ ['\n'] ++ []) = pieces '\n' lines ++ pieces '\n' [] :=
        pieces_append_of_mark lines []
      rw [List.append_nil] at last
      rw [rows, splitAt, ended, last, List.map_append]
      rfl
    · intro back
      rw [rows, splitAt, String.toList_append, ended, pieces_append_of_mark, List.map_append]
      rfl

/-- The rows of whole lines stay where they are when a text follows. -/
theorem IsWhole.row_before {front : String} (whole : IsWhole front) (back : String) {row : Nat}
    (bound : row < feeds front) :
    (rows (front ++ back)).getD row "" = (rows front).getD row "" := by
  obtain ⟨above, length, alone, followed⟩ := whole.rows_append
  rw [← length] at bound
  simp only [followed, alone, List.getD_eq_getElem?_getD, List.getElem?_append_left bound]

/-- The rows of a text behind whole lines are so many rows further down. -/
theorem IsWhole.row_behind {front : String} (whole : IsWhole front) (back : String) (row : Nat) :
    (rows (front ++ back)).getD (row + feeds front) "" = (rows back).getD row "" := by
  obtain ⟨above, length, -, followed⟩ := whole.rows_append
  simp only [followed, ← length, List.getD_eq_getElem?_getD,
    List.getElem?_append_right (Nat.le_add_left _ _), Nat.add_sub_cancel]

/-- A replacement acts by itself on whole lines and on what follows them where its mark holds no line
feed. -/
theorem IsWhole.replace_append {front old new : String} (whole : IsWhole front)
    (nonempty : old.toList ≠ []) (noOld : '\n' ∉ old.toList) (back : String) :
    replace old new (front ++ back) = replace old new front ++ replace old new back := by
  apply String.toList_inj.mp
  simp only [replace, String.toList_append, String.toList_ofList]
  obtain empty | ⟨lines, ended⟩ := whole.cases
  · rw [empty, List.nil_append, substitute_nil, List.nil_append]
  · have alone := substitute_append_mark new.toList nonempty noOld lines []
    have followed := substitute_append_mark new.toList nonempty noOld lines back.toList
    rw [substitute_nil] at alone
    rw [ended, alone, List.append_assoc, List.append_assoc, List.singleton_append, followed,
      List.singleton_append]

theorem contains_append {mark front back : String} (absent : contains mark (front ++ back) = false) :
    contains mark front = false ∧ contains mark back = false := by
  simp only [contains, Option.isSome_eq_false_iff, Option.isNone_iff_eq_none,
    String.toList_append] at absent ⊢
  exact around?_append absent

/-- A replacement by a shorter text leaves a text alone exactly where its mark does not occur. -/
theorem replace_eq_self {old new : String} (shorter : new.toList.length < old.toList.length)
    (text : String) : replace old new text = text ↔ contains old text = false := by
  have nonempty : old.toList ≠ [] := List.ne_nil_of_length_pos (Nat.zero_lt_of_lt shorter)
  rw [contains, Option.isSome_eq_false_iff, Option.isNone_iff_eq_none]
  constructor
  · intro same
    have lists := congrArg String.toList same
    rw [replace, String.toList_ofList] at lists
    exact (length_substitute nonempty shorter text.toList).2 (congrArg List.length lists)
  · intro absent
    rw [replace, substitute_of_around? absent, String.ofList_toList]

/-- A replacement acts on each row by itself where neither of its two texts holds a line feed. -/
theorem rows_replace {old new : String} (nonempty : old.toList ≠ []) (noOld : '\n' ∉ old.toList)
    (noNew : '\n' ∉ new.toList) (text : String) :
    rows (replace old new text) = (rows text).map (replace old new) := by
  rw [rows, rows, splitAt, splitAt, replace, String.toList_ofList,
    pieces_substitute nonempty noOld noNew, List.map_map, List.map_map]
  refine List.map_congr_left fun piece _ => ?_
  simp only [Function.comp_apply, replace, String.toList_ofList]

end MutationTesting.Text
