import MutationTesting.Proofs.Glob.Expand
/-! What a start leads to that stands before two stars. Each piece of a start that means itself leads
to the directory that it spells, with a path no longer than the one that was spelled, and from there the
stars lead to all that is below it. Other starts without stars lead nowhere or past what they spell. -/
namespace MutationTesting.Glob

section Pieces

variable {workspace : Workspace} {path : Path} {piece : List Char} {rest : List Pattern}

theorem leadsTo_below (noSlash : '/' ∉ piece)
    (has : workspace.hasDirectory path = true)
    (next : workspace.hasDirectory (below path (String.ofList piece)) = true) :
    LeadsTo workspace path (.ofSimple piece) (below path (String.ofList piece)) := by
  obtain isLiteral | ⟨noLiteral, c, isChar, isWildcard⟩ := Pattern.literal?_ofSimple piece
  · apply LeadsTo.literal isLiteral
    apply if_pos
    by_cases special : String.ofList piece = "." ∨ String.ofList piece = ".."
    · exact .inl ⟨special, has⟩
    · exact .inr ⟨special, Workspace.has_of_hasDirectory next⟩
  · have noDot : c ≠ '.' := by
      rintro rfl
      simp at isWildcard
    have stands := Path.component?_of_mem isChar noDot
    obtain ⟨⟨written, -, -⟩, -, address, follows, -⟩ := Workspace.hasDirectory_iff.mp has
    obtain ⟨entries, isFound, there⟩ := Workspace.find_of_hasDirectory has follows
    obtain ⟨-, -, place, leads, isDirectory⟩ := Workspace.hasDirectory_iff.mp next
    rw [plainComponents_below noSlash written, stands, Option.toList_some, Workspace.follow_append,
      follows] at leads
    obtain ⟨-, rfl⟩ := Workspace.follow_single leads
    obtain ⟨inner, isThere⟩ := Workspace.get?_directory.mp isDirectory
    rw [Workspace.stepTo, Entry.get?_append, there, Option.bind_some] at isThere
    obtain ⟨entry, listed, same⟩ := Option.bind_eq_some_iff.mp isThere
    obtain rfl := Option.some.inj same
    obtain ⟨front, back, shape, -⟩ := List.lookup_eq_some_iff.mp listed
    have isChild : (⟨below path (String.ofList piece), String.ofList piece, .directory inner⟩ : Walked) ∈
        children workspace path := by
      rw [children_eq isFound]
      apply List.mem_map.mpr
      refine ⟨(String.ofList piece, .directory inner), ?_, rfl⟩
      rw [show entries = _ from shape]
      simp
    exact .child noLiteral has isChild (Pattern.isMatch_ofSimple piece) rfl

/-- The lead of what a piece leads to is left of the text that the piece was read from. -/
theorem base_lead_below (written : path.text ≠ "") (noGap : isHere path = true → piece ≠ [])
    (noSlash : '/' ∉ piece) {consumed : List Char} (less : (base path).lead.Sublist consumed) :
    (base (below path (String.ofList piece))).lead.Sublist
      (Path.lead ⟨String.ofList (consumed ++ piece)⟩) := by
  have text := toList_below noSlash path
  have shorter : ((base path).lead ++ piece).Sublist (consumed ++ piece) := less.append_right piece
  by_cases here : isHere (below path (String.ofList piece)) = true
  · rw [base, if_pos here]
    exact List.nil_sublist _
  · rw [base_of_not_isHere (by simpa using here)]
    by_cases isEmpty : piece = []
    · -- The path then ends with the slash in front of the empty piece, and its lead adds no other one.
      subst isEmpty
      have notHere : isHere path = false := by
        by_contra isHere
        exact noGap (by simpa using isHere) rfl
      have notEmpty : (base path).lead ≠ [] := by
        intro empty
        have isHere := base_lead_eq_nil written empty
        rw [notHere] at isHere
        contradiction
      obtain empty | ⟨front, isLead⟩ := (base path).isLead_lead
      · contradiction
      · rw [List.append_nil] at text shorter
        have isSlash : (below path (String.ofList [])).text.toList.getLast? = some '/' := by
          rw [text, isLead, List.getLast?_concat]
        rw [Path.lead_of_getLast? isSlash, text, List.append_nil]
        have whole := Path.text_sublist_lead ⟨String.ofList consumed⟩
        rw [String.toList_ofList] at whole
        rw [List.append_nil] at shorter
        exact shorter.trans whole
    · have noSlashLast : (consumed ++ piece).getLast? ≠ some '/' := by
        rw [List.getLast?_append_of_ne_nil _ isEmpty]
        intro isSlash
        exact noSlash (List.mem_of_getLast? isSlash)
      have isWritten : String.ofList (consumed ++ piece) ≠ "" := by
        intro empty
        have nothing := congrArg String.toList empty
        rw [String.toList_ofList] at nothing
        exact isEmpty (List.append_eq_nil_iff.mp nothing).2
      have isLead : Path.lead ⟨String.ofList (consumed ++ piece)⟩ = _ :=
        Path.lead_of_noSlash isWritten (by rwa [String.toList_ofList])
      rw [isLead, String.toList_ofList]
      have upTo := (below path (String.ofList piece)).lead_sublist
      rw [text] at upTo
      exact upTo.trans (shorter.append_right ['/'])

theorem hasDirectory_below (has : workspace.hasDirectory path = true)
    (noGap : isHere path = true → piece ≠ []) (noSlash : '/' ∉ piece) {whole : Path}
    (usable : Workspace.IsUsable whole) (less : ((base path).lead ++ piece).Sublist whole.text.toList)
    {further : List Component} {address : List String}
    (leads : Workspace.follow workspace.top workspace.here
      (path.plainComponents ++ ((Path.component? piece).toList ++ further)) = .ok address)
    (isDirectory : workspace.stand address = .directory) :
    workspace.hasDirectory (below path (String.ofList piece)) = true := by
  obtain ⟨⟨written, -, -⟩, here, -⟩ := Workspace.hasDirectory_iff.mp has
  rw [← List.append_assoc] at leads
  obtain ⟨way, leadsThere, there⟩ := Workspace.exists_of_follow_append leads isDirectory
  apply Workspace.hasDirectory_iff.mpr
  refine ⟨usable.of_sublist (text_below_ne written noGap noSlash) ?_, here, way, ?_, there⟩
  · rwa [toList_below noSlash]
  · rwa [plainComponents_below noSlash written]

theorem exists_reached {pieces : List (List Char)} (some : pieces ≠ [])
    (simple : ∀ piece ∈ pieces, IsSimple piece ∧ '/' ∉ piece)
    (has : workspace.hasDirectory path = true) (noGap : isHere path = true → hasGap pieces = false)
    {consumed : List Char} (less : (base path).lead.Sublist consumed)
    (usable : Workspace.IsUsable ⟨String.ofList (consumed ++ List.intercalate ['/'] pieces)⟩)
    {address : List String}
    (leads : Workspace.follow workspace.top workspace.here
      (path.plainComponents ++ pieces.filterMap Path.component?) = .ok address)
    (isDirectory : workspace.stand address = .directory) (further : rest ≠ []) :
    ∃ reached, workspace.hasDirectory reached = true ∧
      reached.plainComponents = path.plainComponents ++ pieces.filterMap Path.component? ∧
      (base reached).lead.Sublist
        (Path.lead ⟨String.ofList (consumed ++ List.intercalate ['/'] pieces)⟩) ∧
      ∀ found ∈ expand workspace false rest reached,
        found ∈ expand workspace false (pieces.map .ofSimple ++ rest) path := by
  induction pieces generalizing path consumed with
  | nil => contradiction
  | cons piece others ih =>
    -- The path so far is left of the text that has been consumed, so none on the way is too long.
    obtain ⟨⟨isSimple, noSlash⟩, areSimple⟩ := List.forall_mem_cons.mp simple
    obtain ⟨⟨written, -, -⟩, -⟩ := Workspace.hasDirectory_iff.mp has
    have notEmpty : isHere path = true → piece ≠ [] := by
      rintro here rfl
      have none := noGap here
      contradiction
    rw [Path.filterMap_component?_cons] at leads ⊢
    have atFront := (prefix_intercalate '/' piece others).sublist.append_left consumed
    have hasNext : workspace.hasDirectory (below path (String.ofList piece)) = true := by
      apply hasDirectory_below has notEmpty noSlash usable _ leads isDirectory
      rw [String.toList_ofList]
      exact (less.append_right piece).trans atFront
    have step := leadsTo_below noSlash has hasNext
    have plain := plainComponents_below noSlash written
    have lead := base_lead_below written notEmpty noSlash less
    cases others with
    | nil =>
      refine ⟨below path (String.ofList piece), hasNext, ?_, ?_, ?_⟩
      · simpa using plain
      · simpa using lead
      · intro found member
        exact (mem_expand_cons (Pattern.isRecursive_ofSimple piece) further).mpr ⟨_, step, member⟩
    | cons second others =>
      have noGapNext : isHere (below path (String.ofList piece)) = true →
          hasGap (second :: others) = false := by
        intro here
        obtain ⟨wasHere, rfl⟩ := isHere_below noSlash written here
        exact noGap wasHere
      have text : consumed ++ List.intercalate ['/'] (piece :: second :: others) =
          (consumed ++ piece ++ ['/']) ++ List.intercalate ['/'] (second :: others) := by
        rw [List.intercalate_cons_cons]
        simp
      rw [text] at usable ⊢
      have lessNext : (base (below path (String.ofList piece))).lead.Sublist
          (consumed ++ piece ++ ['/']) := by
        apply lead.trans
        have upTo := Path.lead_sublist ⟨String.ofList (consumed ++ piece)⟩
        rwa [String.toList_ofList] at upTo
      rw [← List.append_assoc, ← plain] at leads
      obtain ⟨reached, hasReached, plainReached, leadReached, expands⟩ :=
        ih (List.cons_ne_nil _ _) areSimple hasNext noGapNext lessNext usable leads
      refine ⟨reached, hasReached, ?_, leadReached, ?_⟩
      · rw [plainReached, plain, List.append_assoc]
      · intro found member
        rw [List.map_cons, List.cons_append]
        apply (mem_expand_cons (Pattern.isRecursive_ofSimple piece) (by simp)).mpr
        exact ⟨_, step, expands found member⟩

end Pieces

section Start

variable {workspace : Workspace} {front : List Char} {name : String}

theorem IsSimple.concat_slash (simple : IsSimple front) : IsSimple (front ++ ['/']) := by
  constructor
  · simp [simple.noBracket]
  · intro stars
    obtain ⟨lead, shape⟩ | isInside := List.infix_concat_iff.mp stars
    · have last := congrArg List.getLast? shape
      simp at last
    · exact simple.noStars isInside

theorem mapM_parse_simple {pieces : List (List Char)} (simple : ∀ piece ∈ pieces, IsSimple piece) :
    (pieces.map String.ofList).mapM Pattern.parse = .ok (pieces.map .ofSimple) := by
  induction pieces with
  | nil => rfl
  | cons piece rest ih =>
    obtain ⟨isFirst, others⟩ := List.forall_mem_cons.mp simple
    rw [List.map_cons, List.mapM_cons, parse_simple isFirst, ih others]
    rfl

theorem paths_of_simple (isName : Path.IsName name) (simpleName : IsSimple name.toList)
    (notEmpty : front ≠ []) (simple : IsSimple front) :
    paths workspace (String.ofList (front ++ '/' :: '*' :: '*' :: '/' :: name.toList)) =
      .ok (expand workspace false
        ((parts front).map .ofSimple ++ [⟨[.anyDirectories]⟩, .ofSimple name.toList])
        (scope front)) := by
  obtain ⟨whole, parsed⟩ := parse_around simple.concat_slash simpleName
  have areSimple : ∀ piece ∈ parts front, IsSimple piece := by
    intro piece member
    exact simple.of_infix (infix_of_mem_parts member)
  have notRecursive : ∀ pattern ∈ (parts front).map Pattern.ofSimple, pattern.isRecursive = false := by
    intro pattern member
    obtain ⟨piece, -, rfl⟩ := List.mem_map.mp member
    exact Pattern.isRecursive_ofSimple piece
  rw [paths_around isName simpleName notEmpty, parsed, mapM_parse_simple areSimple]
  simp only [Except.bind, Except.map]
  rw [collapse_around notRecursive (Pattern.isRecursive_ofSimple _)]

theorem hasDirectory_scope (has : workspace.hasDirectory ⟨String.ofList front⟩ = true) :
    workspace.hasDirectory (scope front) = true := by
  obtain ⟨-, here, place, follows, there⟩ := Workspace.hasDirectory_iff.mp has
  rw [plainComponents_parts] at follows
  obtain ⟨way, leads, isDirectory⟩ := Workspace.exists_of_follow_append follows there
  apply Workspace.hasDirectory_iff.mpr
  refine ⟨?_, here, way, leads, isDirectory⟩
  unfold scope
  split
  · constructor <;> decide
  · constructor <;> decide

theorem exists_consumed (front : List Char) :
    ∃ consumed, (base (scope front)).lead.Sublist consumed ∧
      consumed ++ List.intercalate ['/'] (parts front) = front := by
  by_cases isRoot : front.head? = some '/'
  · obtain ⟨tail, rfl⟩ := List.head?_eq_some_iff.mp isRoot
    refine ⟨['/'], ?_, ?_⟩
    · rw [show scope ('/' :: tail) = ⟨"/"⟩ from rfl]
      decide
    · rw [show parts ('/' :: tail) = Text.pieces '/' tail from rfl, Text.intercalate_pieces]
      rfl
  · refine ⟨[], ?_, ?_⟩
    · rw [scope_relative isRoot]
      decide
    · rw [parts_relative isRoot, Text.intercalate_pieces]
      rfl

theorem MeansItself.hasGap_parts (itself : MeansItself ⟨String.ofList front⟩)
    (here : isHere (scope front) = true) : hasGap (parts front) = false := by
  by_cases isRoot : front.head? = some '/'
  · rw [scope, if_pos isRoot] at here
    contradiction
  · have gap := itself.noGap
    rw [String.toList_ofList] at gap
    rw [parts_relative isRoot]
    apply gap
    simpa [Path.isAbsolute] using isRoot

theorem MeansItself.simple_parts (itself : MeansItself ⟨String.ofList front⟩) :
    ∀ piece ∈ parts front, IsSimple piece ∧ '/' ∉ piece := by
  have simple := itself.simple
  rw [String.toList_ofList] at simple
  intro piece member
  exact ⟨simple.of_infix (infix_of_mem_parts member), not_mem_of_mem_parts member⟩

theorem exists_reached_start {start : Path} {rest : List Pattern}
    (has : workspace.hasDirectory start = true) (itself : MeansItself start) (further : rest ≠ []) :
    ∃ reached, workspace.hasDirectory reached = true ∧
      reached.plainComponents = start.plainComponents ∧ (base reached).lead.Sublist start.lead ∧
      ∀ found ∈ expand workspace false rest reached,
        found ∈ expand workspace false ((parts start.text.toList).map .ofSimple ++ rest)
          (scope start.text.toList) := by
  obtain ⟨front, rfl⟩ : ∃ front, start = ⟨String.ofList front⟩ :=
    ⟨start.text.toList, by rw [String.ofList_toList]⟩
  rw [String.toList_ofList]
  obtain ⟨usable, here, place, follows, there⟩ := Workspace.hasDirectory_iff.mp has
  rw [plainComponents_parts] at follows ⊢
  obtain ⟨consumed, less, isWhole⟩ := exists_consumed front
  have some : parts front ≠ [] := Text.pieces_ne_nil '/' _
  obtain ⟨reached, hasReached, plain, lead, expands⟩ :=
    exists_reached some itself.simple_parts (hasDirectory_scope has) itself.hasGap_parts less
      (by rwa [isWhole]) follows there further
  rw [isWhole] at lead
  exact ⟨reached, hasReached, plain, lead, expands⟩

theorem exists_descendant {start reached : Path} {address : List String}
    (inOrder : workspace.top.InOrder) (hasReached : workspace.hasDirectory reached = true)
    (plain : reached.plainComponents = start.plainComponents)
    (less : (base reached).lead.Sublist start.lead) (names : ∀ name ∈ address, Path.IsName name)
    (isLast : address.getLast? = some name)
    (has : workspace.hasDirectory (start.below address) = true) :
    ∃ child ∈ descendants workspace reached, child.name = name ∧
      workspace.hasDirectory child.path = true ∧
      child.path.plainComponents = (start.below address).plainComponents := by
  obtain ⟨usable, here, place, follows, there⟩ := Workspace.hasDirectory_iff.mp has
  have samePlain : ((base reached).below address).plainComponents =
      (start.below address).plainComponents := by
    rw [Path.plainComponents_below _ names, Path.plainComponents_below _ names, plainComponents_base,
      plain]
  have leads := follows
  rw [Path.plainComponents_below _ names, Workspace.follow_append] at leads
  obtain ⟨way, leadsToStart, leadsOn⟩ := Workspace.ok_of_bind leads
  obtain ⟨entries, found, isThere⟩ := Workspace.find_of_hasDirectory hasReached (plain ▸ leadsToStart)
  obtain rfl := Workspace.follow_names leadsOn
  obtain ⟨inner, isInner⟩ := Workspace.get?_directory.mp there
  rw [Entry.get?_append, isThere, Option.bind_some] at isInner
  refine ⟨⟨(base reached).below address, name, .directory inner⟩, ?_, rfl, ?_, samePlain⟩
  · exact (mem_descendants inOrder found).mpr ⟨address, rfl, isLast, isInner⟩
  · apply Workspace.hasDirectory_iff.mpr
    have some : address ≠ [] := by
      rintro rfl
      contradiction
    exact ⟨usable.below_of_sublist some names less, here, way ++ address, samePlain ▸ follows, there⟩

theorem exists_path {start : Path} {address : List String} (inOrder : workspace.top.InOrder)
    (isStart : workspace.hasDirectory start = true) (itself : MeansItself start)
    (simple : IsSimple name.toList) (names : ∀ name ∈ address, Path.IsName name)
    (isLast : address.getLast? = some name)
    (has : workspace.hasDirectory (start.below address) = true) :
    ∃ found, paths workspace (start.text ++ "/**/" ++ name) = .ok found ∧
      ∃ path ∈ found, workspace.hasDirectory path = true ∧
        path.plainComponents = (start.below address).plainComponents := by
  obtain ⟨⟨written, -, -⟩, -⟩ := Workspace.hasDirectory_iff.mp isStart
  have notEmpty : start.text.toList ≠ [] := by simpa using written
  have isName : Path.IsName name := names name (List.mem_of_getLast? isLast)
  have text := text_around start.text.toList name
  rw [String.ofList_toList] at text
  have further : [⟨[.anyDirectories]⟩, .ofSimple name.toList] ≠ ([] : List Pattern) :=
    List.cons_ne_nil _ _
  obtain ⟨reached, hasReached, plain, lead, expands⟩ := exists_reached_start isStart itself further
  obtain ⟨child, member, rfl, hasChild, plainChild⟩ :=
    exists_descendant inOrder hasReached plain lead names isLast has
  rw [text, paths_of_simple isName simple notEmpty itself.simple]
  refine ⟨_, rfl, child.path, expands _ ?_, hasChild, plainChild⟩
  apply mem_expand_anywhere.mpr
  have fits := Pattern.isMatch_ofSimple child.name.toList
  rw [String.ofList_toList] at fits
  exact ⟨hasReached, child, member, fits, rfl⟩

end Start

/-! The pieces of a start without stars lead through one component for each that they spell, a piece with
a bracket never through the one that it spells itself, and none leads through a gap. So below the start
itself two stars find nothing unless it means itself. -/

section Spelled

/-- What components a piece without stars leads through: as many as it spells, but others where it has a
bracket. -/
structure LeadsThrough (piece : List Char) (step : List Component) : Prop where
  length : step.length = (Path.component? piece).toList.length
  bracket : '[' ∈ piece → step ≠ (Path.component? piece).toList

variable {workspace : Workspace} {path : Path} {piece : List Char} {pattern : Pattern}

theorem isSimple_of_noStar (noBracket : '[' ∉ piece) (noStar : '*' ∉ piece) : IsSimple piece := by
  constructor
  · exact noBracket
  · intro stars
    exact noStar (stars.mem List.mem_cons_self)

/-- A pattern that is read from a text without stars and is no literal has a wildcard there. -/
theorem component?_of_noLiteral (noStar : '*' ∉ piece)
    (parsed : Pattern.parse (String.ofList piece) = .ok pattern) (noLiteral : pattern.literal? = none) :
    Path.component? piece = some (.name (String.ofList piece)) := by
  by_cases isBracket : '[' ∈ piece
  · exact Path.component?_of_mem isBracket (by decide)
  · have read := parse_simple (isSimple_of_noStar isBracket noStar)
    obtain rfl := Except.ok.inj (parsed.symm.trans read)
    obtain isLiteral | ⟨-, c, isChar, isWildcard⟩ := Pattern.literal?_ofSimple piece
    · simp [isLiteral] at noLiteral
    · apply Path.component?_of_mem isChar
      rintro rfl
      simp at isWildcard

theorem literal?_of_noStar {name : String} (noStar : '*' ∉ piece)
    (parsed : Pattern.parse (String.ofList piece) = .ok pattern)
    (isLiteral : pattern.literal? = some name) :
    '[' ∉ piece ∧ name = String.ofList piece := by
  have noBracket : '[' ∉ piece := by
    intro isBracket
    rw [(parse_single noStar parsed).literal? isBracket] at isLiteral
    contradiction
  have read := parse_simple (isSimple_of_noStar noBracket noStar)
  obtain rfl := Except.ok.inj (parsed.symm.trans read)
  refine ⟨noBracket, ?_⟩
  obtain isText | ⟨noLiteral, -⟩ := Pattern.literal?_ofSimple piece
  · exact Option.some.inj (isLiteral.symm.trans isText)
  · rw [noLiteral] at isLiteral
    contradiction

theorem eq_of_mem_dotSteps {next : Path} (noLiteral : pattern.literal? = none)
    (single : ∀ token ∈ pattern.tokens, token.isSingle = true) (member : next ∈ dotSteps path pattern) :
    next = path.join ⟨".."⟩ := by
  unfold dotSteps at member
  split at member
  · rename_i isDot
    obtain ⟨name, isName, rfl⟩ := List.mem_map.mp member
    obtain ⟨isDots, fits⟩ := List.mem_filter.mp isName
    simp only [List.mem_cons, List.not_mem_nil, or_false] at isDots
    obtain rfl | rfl := isDots
    · -- What matches one dot is one token, and that is the dot.
      have length := length_of_matchTokens single fits
      obtain ⟨rest, shape⟩ := List.head?_eq_some_iff.mp isDot
      rw [shape] at length
      obtain rfl := List.eq_nil_of_length_eq_zero (Nat.succ.inj length).symm
      rw [Pattern.literal?, shape] at noLiteral
      contradiction
    · rfl
  · contradiction

/-- A piece without stars leads through one component, or through none if it spells none. -/
theorem exists_step {next : Path} (named : workspace.Named) (noSlash : '/' ∉ piece)
    (noStar : '*' ∉ piece) (parsed : Pattern.parse (String.ofList piece) = .ok pattern)
    (written : path.text ≠ "") (leads : LeadsTo workspace path pattern next) :
    next.text ≠ "" ∧ ∃ step, LeadsThrough piece step ∧
      next.plainComponents = path.plainComponents ++ step := by
  cases leads with
  | literal isLiteral step =>
    obtain ⟨noBracket, rfl⟩ := literal?_of_noStar noStar parsed isLiteral
    unfold literalStep? at step
    dsimp only at step
    split at step
    · rename_i isStep
      obtain rfl := Option.some.inj step
      refine ⟨?_, _, ⟨rfl, fun isBracket => absurd isBracket noBracket⟩,
        plainComponents_below noSlash written⟩
      obtain ⟨special, -⟩ | ⟨-, has⟩ := isStep
      · apply text_below_ne written _ noSlash
        rintro - rfl
        simp at special
      · exact Workspace.written_of_has has
    · contradiction
  | dots noLiteral _ member =>
    have stands := component?_of_noLiteral noStar parsed noLiteral
    obtain rfl := eq_of_mem_dotSteps noLiteral (parse_single noStar parsed).single member
    have noSlash : '/' ∉ ['.', '.'] := by decide
    have text := Path.toList_join noSlash path
    have plain := Path.plainComponents_join noSlash written
    refine ⟨?_, [.parent], ⟨?_, ?_⟩, plain⟩
    · intro empty
      have nothing := congrArg String.toList empty
      rw [show (".." : String) = String.ofList ['.', '.'] from rfl, text] at nothing
      simp at nothing
    · rw [stands]
      rfl
    · rw [stands]
      simp
  | @child child noLiteral _ member fits _ =>
    have stands := component?_of_noLiteral noStar parsed noLiteral
    unfold children at member
    split at member
    · rename_i entries listed
      obtain ⟨⟨name, entry⟩, isEntry, rfl⟩ := List.mem_map.mp member
      have isName := named.of_list listed (List.mem_map_of_mem isEntry)
      have plain := plainComponents_below isName.noSlash written
      have text := text_below_ne written (fun _ => isName.notEmpty) isName.noSlash
      rw [String.ofList_toList] at plain text
      rw [isName.stands] at plain
      refine ⟨text, _, ⟨?_, ?_⟩, plain⟩
      · rw [stands]
        rfl
      · intro isBracket same
        rw [stands] at same
        have differs := (parse_single noStar parsed).ne_of_isMatch isBracket fits
        simp only [Option.toList_some, List.cons.injEq, Component.name.injEq, and_true] at same
        apply differs
        rw [same, String.toList_ofList]
    · contradiction

theorem exists_steps {pieces : List (List Char)} {patterns : List Pattern} {last : Pattern}
    {found : Path} (inOrder : workspace.top.InOrder) (named : workspace.Named)
    (parsed : List.Forall₂ (fun piece pattern => Pattern.parse (String.ofList piece) = .ok pattern)
      pieces patterns)
    (single : ∀ piece ∈ pieces, '/' ∉ piece ∧ '*' ∉ piece) (written : path.text ≠ "")
    (member : found ∈ expand workspace false (patterns ++ [⟨[.anyDirectories]⟩, last]) path) :
    ∃ steps further, List.Forall₂ LeadsThrough pieces steps ∧
      found.plainComponents = path.plainComponents ++ (steps.flatten ++ further) := by
  induction parsed generalizing path with
  | nil =>
    obtain ⟨has, child, isChild, -, rfl⟩ := mem_expand_anywhere.mp member
    obtain ⟨-, -, address, follows, -⟩ := Workspace.hasDirectory_iff.mp has
    obtain ⟨entries, isFound, -⟩ := Workspace.find_of_hasDirectory has follows
    obtain ⟨below, comes⟩ := (mem_descendants inOrder isFound).mp isChild
    refine ⟨[], below.map .name, .nil, ?_⟩
    rw [comes.path, Path.plainComponents_below _ (named.of_find isFound comes.entry),
      plainComponents_base]
    rfl
  | @cons piece pattern pieces patterns isParsed areParsed ih =>
    obtain ⟨⟨noSlash, noStar⟩, others⟩ := List.forall_mem_cons.mp single
    rw [List.cons_append, mem_expand_cons (parse_single noStar isParsed).isRecursive (by simp)] at member
    obtain ⟨next, leads, later⟩ := member
    obtain ⟨isWritten, step, through, plain⟩ := exists_step named noSlash noStar isParsed written leads
    obtain ⟨steps, further, areThrough, plainFound⟩ := ih others isWritten later
    refine ⟨step :: steps, further, .cons through areThrough, ?_⟩
    rw [plainFound, plain]
    simp

theorem noBracket_of_steps {pieces : List (List Char)} {steps : List (List Component)}
    {further more : List Component} (through : List.Forall₂ LeadsThrough pieces steps)
    (same : steps.flatten ++ further = pieces.filterMap Path.component? ++ more) :
    ∀ piece ∈ pieces, '[' ∉ piece := by
  induction through generalizing more with
  | nil => nofun
  | @cons piece step pieces steps first _ ih =>
    rw [Path.filterMap_component?_cons, List.flatten_cons, List.append_assoc, List.append_assoc] at same
    obtain ⟨isStep, later⟩ := List.append_inj same first.length
    intro other member isBracket
    obtain rfl | isLater := List.mem_cons.mp member
    · exact first.bracket isBracket isStep
    · exact ih later other isLater isBracket

theorem not_mem_expand_of_gap {pieces : List (List Char)} {patterns rest : List Pattern} {found : Path}
    (parsed : List.Forall₂ (fun piece pattern => Pattern.parse (String.ofList piece) = .ok pattern)
      pieces patterns)
    (gap : hasGap pieces = true) (further : rest ≠ []) :
    found ∉ expand workspace false (patterns ++ rest) ⟨"."⟩ := by
  induction parsed with
  | nil => contradiction
  | @cons piece pattern pieces patterns isParsed _ ih =>
    intro member
    unfold hasGap at gap
    split at gap
    · rename_i shape
      obtain ⟨rfl, rfl⟩ := List.cons.inj shape
      obtain rfl := Except.ok.inj isParsed
      obtain ⟨next, leads, -⟩ := (mem_expand_cons rfl (by simp [further])).mp member
      have isLiteral : Pattern.literal? ⟨[]⟩ = some "" := rfl
      have step := (leadsTo_of_literal isLiteral).mp leads
      have nothing : literalStep? workspace ⟨"."⟩ "" = none := rfl
      exact Option.some_ne_none next (step.symm.trans nothing)
    · rename_i shape
      obtain ⟨rfl, rfl⟩ := List.cons.inj shape
      obtain rfl := Except.ok.inj isParsed
      obtain ⟨next, leads, later⟩ := (mem_expand_cons rfl (by simp [further])).mp member
      have isLiteral : Pattern.literal? ⟨[.char '.']⟩ = some "." := rfl
      have step := (leadsTo_of_literal isLiteral).mp leads
      unfold literalStep? at step
      dsimp only at step
      split at step
      · obtain rfl := Option.some.inj step
        exact ih gap later
      · contradiction
    · contradiction

theorem forall₂_of_mapM {α β ε : Type} {read : α → Except ε β} {items : List α} {values : List β}
    (done : items.mapM read = .ok values) :
    List.Forall₂ (fun item value => read item = .ok value) items values := by
  induction items generalizing values with
  | nil =>
    obtain rfl := Except.ok.inj done
    exact .nil
  | cons item rest ih =>
    rw [List.mapM_cons] at done
    obtain ⟨first, isFirst, done⟩ := Workspace.ok_of_bind done
    obtain ⟨others, isRest, done⟩ := Workspace.ok_of_bind done
    obtain rfl := Except.ok.inj done
    exact .cons isFirst (ih isRest)

/-- Below a start without stars two stars lead to something only if the start means itself. -/
theorem meansItself_of_mem {start : Path} {name : String} {address : List String} {all : List Path}
    {found : Path} (inOrder : workspace.top.InOrder) (named : workspace.Named)
    (written : start.text ≠ "") (noStar : '*' ∉ start.text.toList) (isName : Path.IsName name)
    (simple : IsSimple name.toList)
    (names : ∀ name ∈ address, Path.IsName name)
    (expanded : paths workspace (start.text ++ "/**/" ++ name) = .ok all) (member : found ∈ all)
    (same : found.plainComponents = (start.below address).plainComponents) : MeansItself start := by
  obtain ⟨front, rfl⟩ : ∃ front, start = ⟨String.ofList front⟩ :=
    ⟨start.text.toList, by rw [String.ofList_toList]⟩
  rw [String.toList_ofList] at noStar
  have notEmpty : front ≠ [] := by
    rintro rfl
    exact written rfl
  rw [text_around, paths_around isName simple notEmpty] at expanded
  obtain ⟨-, -, expanded⟩ := Workspace.ok_of_bind expanded
  cases parsed : ((parts front).map String.ofList).mapM Pattern.parse with
  | error error =>
    rw [parsed] at expanded
    contradiction
  | ok patterns =>
    rw [parsed] at expanded
    obtain rfl := Except.ok.inj expanded
    have areParsed := List.forall₂_map_left_iff.mp (forall₂_of_mapM parsed)
    have single : ∀ piece ∈ parts front, '/' ∉ piece ∧ '*' ∉ piece := by
      intro piece member
      refine ⟨not_mem_of_mem_parts member, ?_⟩
      intro isStar
      exact noStar ((infix_of_mem_parts member).mem isStar)
    have notRecursive : ∀ pattern ∈ patterns, pattern.isRecursive = false := by
      intro pattern isPattern
      obtain ⟨piece, isPiece, isParsed⟩ := Entry.exists_of_forall₂ areParsed.flip isPattern
      exact (parse_single (single piece isPiece).2 isParsed).isRecursive
    dsimp only at member
    rw [collapse_around notRecursive (Pattern.isRecursive_ofSimple _)] at member
    have startWritten : (scope front).text ≠ "" := by
      unfold scope
      split <;> decide
    obtain ⟨steps, further, through, plain⟩ :=
      exists_steps inOrder named areParsed single startWritten member
    rw [same, Path.plainComponents_below _ names, plainComponents_parts, List.append_assoc] at plain
    have noBracket := noBracket_of_steps through (List.append_cancel_left plain).symm
    constructor
    · rw [String.toList_ofList]
      apply isSimple_of_noStar _ noStar
      intro isBracket
      obtain ⟨piece, isPiece, isInside⟩ := exists_mem_parts isBracket (by decide)
      exact noBracket piece isPiece isInside
    · intro notAbsolute
      rw [String.toList_ofList]
      have relative : front.head? ≠ some '/' := by
        simpa [Path.isAbsolute] using notAbsolute
      rw [scope_relative relative] at member
      rw [parts_relative relative] at areParsed
      by_contra isGap
      exact not_mem_expand_of_gap areParsed (by simpa using isGap) (by simp) member

end Spelled

end MutationTesting.Glob
