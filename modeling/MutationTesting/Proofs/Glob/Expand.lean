import MutationTesting.Glob.Expand
import MutationTesting.Proofs.FileSystem.Reach
import MutationTesting.Proofs.Glob.Simple
/-! Where the components of a pattern lead. A pattern that ends with two stars and a name leads through
its other pieces one after another, and from there to all with this name. -/
namespace MutationTesting.Glob

/-- The path that stands in front of what is below a path: none for the working directory as such. -/
def base (path : Path) : Path :=
  if isHere path then ⟨""⟩ else path

section Below

variable {path : Path} {piece : List Char}

theorem below_eq (path : Path) (name : String) : below path name = (base path).join ⟨name⟩ := by
  unfold below base
  split
  · unfold Path.join
    split
    · rfl
    · simp
  · rfl

theorem plainComponents_of_isHere (here : isHere path = true) : path.plainComponents = [] := by
  have alone : path.components = [.current] := by simpa [isHere] using here
  rw [Path.plainComponents, alone]
  rfl

theorem plainComponents_base (path : Path) : (base path).plainComponents = path.plainComponents := by
  unfold base
  split
  · rename_i here
    rw [plainComponents_of_isHere here]
    decide
  · rfl

theorem base_of_not_isHere (notHere : isHere path = false) : base path = path := by
  rw [base, notHere, if_neg Bool.false_ne_true]

theorem components_piece (noSlash : '/' ∉ piece) :
    Path.components ⟨String.ofList piece⟩ =
      if piece = ['.'] then [.current] else (Path.component? piece).toList := by
  have noRoot : piece.head? ≠ some '/' := by
    intro isRoot
    exact noSlash (List.mem_of_head? isRoot)
  rw [Path.components_eq, Path.origin, if_neg noRoot, Text.pieces_of_notMem noSlash,
    Path.filterMap_component?]
  by_cases isDot : piece = ['.']
  · rw [isDot]
    rfl
  · simp [isDot]

theorem plainComponents_below (noSlash : '/' ∉ piece) (written : path.text ≠ "") :
    (below path (String.ofList piece)).plainComponents =
      path.plainComponents ++ (Path.component? piece).toList := by
  by_cases here : isHere path = true
  · rw [below, if_pos here, plainComponents_of_isHere here, Path.plainComponents,
      components_piece noSlash]
    split
    · rename_i isDot
      rw [isDot]
      rfl
    · rw [Path.component?_ne_current, List.nil_append]
  · rw [below, if_neg here, Path.plainComponents_join noSlash written]

theorem toList_below (noSlash : '/' ∉ piece) (path : Path) :
    (below path (String.ofList piece)).text.toList = (base path).lead ++ piece := by
  rw [below_eq, Path.toList_join noSlash]

/-- Only a dot leads to the working directory as such, and only from there. -/
theorem isHere_below (noSlash : '/' ∉ piece) (written : path.text ≠ "")
    (here : isHere (below path (String.ofList piece)) = true) : isHere path = true ∧ piece = ['.'] := by
  have alone : (below path (String.ofList piece)).components = [.current] := by
    simpa [isHere] using here
  have noCurrent : (Path.component? piece).toList ≠ [.current] := by
    intro isCurrent
    have filtered := Path.component?_ne_current piece
    rw [isCurrent] at filtered
    contradiction
  by_cases wasHere : isHere path = true
  · refine ⟨wasHere, ?_⟩
    rw [below, if_pos wasHere, components_piece noSlash] at alone
    split at alone
    · assumption
    · exact absurd alone noCurrent
  · exfalso
    rw [below, if_neg wasHere, Path.components_join_piece noSlash written] at alone
    cases shape : path.components with
    | nil => exact Path.components_ne_nil written shape
    | cons first rest =>
      rw [shape, List.cons_append] at alone
      obtain ⟨rfl, nothing⟩ := List.cons.inj alone
      obtain ⟨rfl, -⟩ := List.append_eq_nil_iff.mp nothing
      simp [isHere, shape] at wasHere

end Below

section Steps

variable {workspace : Workspace} {path : Path} {piece : List Char} {rest : List Pattern}

theorem children_eq {entries : List (String × Entry)}
    (found : workspace.find path = .ok (.directory entries)) :
    children workspace path = entries.map fun (name, entry) => ⟨below path name, name, entry⟩ := by
  have listed : workspace.list path = .ok entries := by
    rw [Workspace.list, found]
    rfl
  rw [children, listed]

theorem descendants_eq {entries : List (String × Entry)}
    (found : workspace.find path = .ok (.directory entries)) :
    descendants workspace path = (Entry.directory entries).walk (fun _ => true) (base path) := by
  have all (entries : List (String × Entry)) :
      (entries.map fun (name, entry) => (⟨below path name, name, entry⟩ : Walked)).flatMap
        (fun child => child :: child.entry.walk (fun _ => true) child.path) =
      Entry.walkAll (fun _ => true) (base path) entries := by
    induction entries with
    | nil => rfl
    | cons first rest ih =>
      obtain ⟨name, entry⟩ := first
      rw [List.map_cons, List.flatMap_cons, ih, Entry.walkAll, ← below_eq]
      rfl
  rw [descendants, children_eq found, all, Entry.walk]

/-- Where a component of a pattern leads that others follow. -/
inductive LeadsTo (workspace : Workspace) (path : Path) (pattern : Pattern) : Path → Prop where
  | literal {name : String} {next : Path} (isLiteral : pattern.literal? = some name)
    (step : literalStep? workspace path name = some next) : LeadsTo workspace path pattern next
  | dots {next : Path} (noLiteral : pattern.literal? = none)
    (has : workspace.hasDirectory path = true) (member : next ∈ dotSteps path pattern) :
    LeadsTo workspace path pattern next
  | child {child : Walked} (noLiteral : pattern.literal? = none)
    (has : workspace.hasDirectory path = true) (member : child ∈ children workspace path)
    (fits : pattern.isMatch child.name = true) (isDirectory : child.entry.isDirectory = true) :
    LeadsTo workspace path pattern child.path

variable {pattern : Pattern} {next : Path}

theorem leadsTo_of_literal {name : String} (isLiteral : pattern.literal? = some name) :
    LeadsTo workspace path pattern next ↔ literalStep? workspace path name = some next := by
  constructor
  · intro leads
    cases leads with
    | literal isOther step =>
      obtain rfl := Option.some.inj (isLiteral.symm.trans isOther)
      exact step
    | dots noLiteral => simp [isLiteral] at noLiteral
    | child noLiteral => simp [isLiteral] at noLiteral
  · intro step
    exact .literal isLiteral step

theorem leadsTo_of_noLiteral (noLiteral : pattern.literal? = none) :
    LeadsTo workspace path pattern next ↔
      workspace.hasDirectory path = true ∧ (next ∈ dotSteps path pattern ∨
        ∃ child ∈ children workspace path, pattern.isMatch child.name = true ∧
          child.entry.isDirectory = true ∧ child.path = next) := by
  constructor
  · intro leads
    cases leads with
    | literal isLiteral => simp [noLiteral] at isLiteral
    | dots _ has member => exact ⟨has, .inl member⟩
    | child _ has member fits isDirectory => exact ⟨has, .inr ⟨_, member, fits, isDirectory, rfl⟩⟩
  · rintro ⟨has, member | ⟨child, member, fits, isDirectory, rfl⟩⟩
    · exact .dots noLiteral has member
    · exact .child noLiteral has member fits isDirectory

theorem mem_expand_cons {found : Path} (notRecursive : pattern.isRecursive = false)
    (further : rest ≠ []) :
    found ∈ expand workspace false (pattern :: rest) path ↔
      ∃ next, LeadsTo workspace path pattern next ∧ found ∈ expand workspace false rest next := by
  obtain ⟨second, others, rfl⟩ := List.exists_cons_of_ne_nil further
  rw [expand]
  cases isLiteral : pattern.literal? with
  | some name =>
    simp only [leadsTo_of_literal isLiteral]
    cases literalStep? workspace path name with
    | none => simp
    | some next => simp
  | none =>
    simp only [leadsTo_of_noLiteral isLiteral]
    cases workspace.hasDirectory path with
    | false => simp
    | true =>
      simp only [notRecursive, Bool.not_true, Bool.false_eq_true, if_false, List.mem_append,
        List.mem_flatMap, List.mem_reverse, true_and]
      constructor
      · rintro (⟨next, isDot, member⟩ | ⟨child, isChild, member⟩)
        · exact ⟨next, .inl isDot, member⟩
        · split at member
          · rename_i fits
            split at member
            · rename_i isDirectory
              exact ⟨child.path, .inr ⟨child, isChild, fits, isDirectory, rfl⟩, member⟩
            · contradiction
          · contradiction
      · rintro ⟨next, isDot | ⟨child, isChild, fits, isDirectory, rfl⟩, member⟩
        · exact .inl ⟨next, isDot, member⟩
        · refine .inr ⟨child, isChild, ?_⟩
          rw [if_pos fits, if_pos isDirectory]
          exact member

theorem mem_descendants {entries : List (String × Entry)} {child : Walked}
    (inOrder : workspace.top.InOrder)
    (found : workspace.find path = .ok (.directory entries)) :
    child ∈ descendants workspace path ↔
      ∃ address, Entry.ComesTo (base path) (.directory entries) address child := by
  obtain ⟨place, there⟩ := Workspace.get?_of_find found
  rw [descendants_eq found, Entry.mem_walk_iff (inOrder.of_get? there)]
  constructor
  · rintro ⟨address, -, comes⟩
    exact ⟨address, comes⟩
  · rintro ⟨address, comes⟩
    refine ⟨address, ⟨comes.ne_nil, ?_, ?_⟩, comes⟩
    · rw [comes.entry]
      rfl
    · intro _ _ _ _
      rfl

/-- Two stars before a last component lead to all below a directory whose names the component matches. -/
theorem mem_expand_anywhere {last : Pattern} {found : Path} :
    found ∈ expand workspace false [⟨[.anyDirectories]⟩, last] path ↔
      workspace.hasDirectory path = true ∧
        ∃ child ∈ descendants workspace path, last.isMatch child.name = true ∧ child.path = found := by
  have noLiteral : Pattern.literal? ⟨[.anyDirectories]⟩ = none := rfl
  have isRecursive : Pattern.isRecursive ⟨[.anyDirectories]⟩ = true := rfl
  rw [expand, noLiteral]
  cases has : workspace.hasDirectory path with
  | false => simp
  | true =>
    simp only [isRecursive, Bool.not_true, Bool.false_eq_true, false_and, if_false, if_true,
      List.mem_flatMap, true_and]
    constructor
    · rintro ⟨child, isChild, member⟩
      split at member
      · rename_i fits
        exact ⟨child, isChild, fits, (List.mem_singleton.mp member).symm⟩
      · contradiction
    · rintro ⟨child, isChild, fits, rfl⟩
      refine ⟨child, isChild, ?_⟩
      rw [if_pos fits]
      exact List.mem_singleton.mpr rfl

end Steps

/-- Whether an empty piece comes before any that stands for something. At the start of a path that is not
absolute, such a piece leads nowhere. -/
def hasGap : List (List Char) → Bool
  | [] :: _ => true
  | ['.'] :: rest => hasGap rest
  | _ => false

theorem base_lead_eq_nil {path : Path} (written : path.text ≠ "") (empty : (base path).lead = []) :
    isHere path = true := by
  by_contra notHere
  rw [base_of_not_isHere (by simpa using notHere)] at empty
  have less := path.text_sublist_lead
  rw [empty, List.sublist_nil] at less
  exact written (by simpa using less)

theorem text_below_ne {path : Path} {piece : List Char} (written : path.text ≠ "")
    (noGap : isHere path = true → piece ≠ []) (noSlash : '/' ∉ piece) :
    (below path (String.ofList piece)).text ≠ "" := by
  intro empty
  have text := toList_below noSlash path
  rw [empty] at text
  obtain ⟨noLead, noPiece⟩ := List.append_eq_nil_iff.mp text.symm
  exact noGap (base_lead_eq_nil written noLead) noPiece

section Around

/-- Where the components of a pattern start. -/
def scope (cs : List Char) : Path :=
  if cs.head? = some '/' then ⟨"/"⟩ else ⟨"."⟩

/-- The text of a pattern behind where its components start. -/
def inner (cs : List Char) : List Char :=
  if cs.head? = some '/' then cs.tail else cs

/-- The pieces of a pattern behind where they start. -/
def parts (cs : List Char) : List (List Char) :=
  Text.pieces '/' (inner cs)

variable {workspace : Workspace} {front : List Char} {name : String}

theorem scope_relative (relative : front.head? ≠ some '/') : scope front = ⟨"."⟩ :=
  if_neg relative

theorem parts_relative (relative : front.head? ≠ some '/') : parts front = Text.pieces '/' front := by
  rw [parts, inner, if_neg relative]

theorem collapse_around {patterns : List Pattern} {last : Pattern}
    (simple : ∀ pattern ∈ patterns, pattern.isRecursive = false) (isLast : last.isRecursive = false) :
    collapse (patterns ++ [⟨[.anyDirectories]⟩, last]) = patterns ++ [⟨[.anyDirectories]⟩, last] := by
  induction patterns with
  | nil => simp [collapse, isLast]
  | cons first rest ih =>
    obtain ⟨isFirst, others⟩ := List.forall_mem_cons.mp simple
    obtain ⟨second, behind, shape⟩ : ∃ second behind,
        rest ++ [⟨[.anyDirectories]⟩, last] = second :: behind :=
      List.exists_cons_of_ne_nil (by simp)
    rw [List.cons_append, shape, collapse, ← shape, ih others]
    simp [isFirst]

theorem componentTexts_around (front : List Char) (isName : Path.IsName name) :
    componentTexts (String.ofList (front ++ '/' :: '*' :: '*' :: '/' :: name.toList)) =
      (Text.pieces '/' front).map String.ofList ++ ["**", name] := by
  have pieces : Text.splitAt '/' (String.ofList (front ++ '/' :: '*' :: '*' :: '/' :: name.toList)) =
      (Text.pieces '/' front).map String.ofList ++ ["**", name] := by
    have behind : Text.pieces '/' ('*' :: '*' :: '/' :: name.toList) = ['*', '*'] :: [name.toList] := by
      rw [show '*' :: '*' :: '/' :: name.toList = ['*', '*'] ++ '/' :: name.toList from rfl,
        Text.pieces_append, Text.pieces_of_notMem isName.noSlash]
      rfl
    rw [Text.splitAt, String.toList_ofList, Text.pieces_append, behind, List.map_append]
    simp
  have notEmpty : name ≠ "" := by
    rintro rfl
    exact isName.notEmpty rfl
  rw [componentTexts, pieces]
  simp [notEmpty]

theorem paths_eq (cs : List Char) :
    paths workspace (String.ofList cs) =
      (Pattern.parse (String.ofList cs)).bind fun _ =>
        ((componentTexts (String.ofList (inner cs))).mapM Pattern.parse).bind fun patterns =>
          .ok (expand workspace (Text.endsWith "/" (String.ofList cs))
            (collapse (if String.ofList (inner cs) = "" then [⟨[]⟩] else patterns)) (scope cs)) := by
  unfold paths
  rw [String.toList_ofList]
  split
  rename_i isScope
  split at isScope
  · obtain ⟨rfl, rfl⟩ := Prod.mk.inj isScope
    rfl
  · rename_i noRoot
    obtain ⟨rfl, rfl⟩ := Prod.mk.inj isScope
    have relative : cs.head? ≠ some '/' := by
      intro isRoot
      obtain ⟨tail, rfl⟩ := List.head?_eq_some_iff.mp isRoot
      exact noRoot tail rfl
    rw [scope_relative relative, inner, if_neg relative]
    rfl

theorem mapM_parse_around (simple : IsSimple name.toList) (texts : List String) :
    (texts ++ ["**", name]).mapM Pattern.parse =
      (texts.mapM Pattern.parse).map (· ++ [⟨[.anyDirectories]⟩, .ofSimple name.toList]) := by
  have isParsed : Pattern.parse name = .ok (.ofSimple name.toList) := by
    have read := parse_simple simple
    rwa [String.ofList_toList] at read
  rw [List.mapM_append]
  cases texts.mapM Pattern.parse with
  | error error => rfl
  | ok patterns =>
    simp only [List.mapM_cons, List.mapM_nil, parse_directories, isParsed]
    rfl

theorem endsWith_slash_around (isName : Path.IsName name) (cs : List Char) :
    Text.endsWith "/" (String.ofList (cs ++ name.toList)) = false := by
  obtain ⟨last, others, shape⟩ :=
    List.exists_cons_of_ne_nil (mt List.reverse_eq_nil_iff.mp isName.notEmpty)
  have isLast : last ∈ name.toList := by
    apply List.mem_reverse.mp
    rw [shape]
    exact List.mem_cons_self
  have other : '/' ≠ last := by
    rintro rfl
    exact isName.noSlash isLast
  simp [Text.endsWith, shape, Text.afterLead?, other]

/-- The paths that two stars between other pieces and a name lead to. -/
theorem paths_around (isName : Path.IsName name) (simple : IsSimple name.toList)
    (notEmpty : front ≠ []) :
    paths workspace (String.ofList (front ++ '/' :: '*' :: '*' :: '/' :: name.toList)) =
      (Pattern.parse (String.ofList (front ++ '/' :: '*' :: '*' :: '/' :: name.toList))).bind fun _ =>
        (((parts front).map String.ofList).mapM Pattern.parse).map fun patterns : List Pattern =>
          expand workspace false
            (collapse (patterns ++ [⟨[.anyDirectories]⟩, .ofSimple name.toList])) (scope front) := by
  obtain ⟨c, tail, rfl⟩ := List.exists_cons_of_ne_nil notEmpty
  have isInner (back : List Char) : inner (c :: tail ++ back) = inner (c :: tail) ++ back := by
    unfold inner
    rw [List.cons_append, List.head?_cons, List.head?_cons]
    split <;> rfl
  have noSlash : Text.endsWith "/"
      (String.ofList (c :: tail ++ '/' :: '*' :: '*' :: '/' :: name.toList)) = false := by
    have ends := endsWith_slash_around isName (c :: tail ++ ['/', '*', '*', '/'])
    rwa [List.append_assoc] at ends
  have written : String.ofList (inner (c :: tail) ++ '/' :: '*' :: '*' :: '/' :: name.toList) ≠ "" := by
    intro empty
    have nothing := congrArg String.toList empty
    simp at nothing
  have isScope (back : List Char) : scope (c :: tail ++ back) = scope (c :: tail) := rfl
  rw [paths_eq, isInner, componentTexts_around _ isName, mapM_parse_around simple, isScope, ← parts,
    noSlash]
  simp only [if_neg written]
  cases ((parts (c :: tail)).map String.ofList).mapM Pattern.parse with
  | error error => rfl
  | ok patterns => rfl

theorem prefix_intercalate (mark : Char) (piece : List Char) (others : List (List Char)) :
    piece <+: List.intercalate [mark] (piece :: others) := by
  cases others with
  | nil => simp
  | cons second others =>
    rw [List.intercalate_cons_cons, List.append_assoc]
    exact List.prefix_append _ _

theorem infix_intercalate {mark : Char} {piece : List Char} {pieces : List (List Char)}
    (member : piece ∈ pieces) : piece <:+: List.intercalate [mark] pieces := by
  induction pieces with
  | nil => contradiction
  | cons first rest ih =>
    obtain rfl | isLater := List.mem_cons.mp member
    · exact (prefix_intercalate mark piece rest).isInfix
    · obtain ⟨second, others, rfl⟩ := List.exists_cons_of_ne_nil (List.ne_nil_of_mem isLater)
      rw [List.intercalate_cons_cons]
      exact (ih isLater).trans (List.suffix_append _ _).isInfix

theorem infix_of_mem_pieces {mark : Char} {cs piece : List Char}
    (member : piece ∈ Text.pieces mark cs) : piece <:+: cs := by
  have whole : piece <:+: List.intercalate [mark] (Text.pieces mark cs) := infix_intercalate member
  rwa [Text.intercalate_pieces] at whole

theorem not_mem_of_mem_parts {piece : List Char} (member : piece ∈ parts front) : '/' ∉ piece :=
  Text.not_mem_of_mem_pieces member

theorem infix_of_mem_parts {piece : List Char} (member : piece ∈ parts front) : piece <:+: front := by
  have isPart := infix_of_mem_pieces member
  unfold inner at isPart
  split at isPart
  · exact isPart.trans (List.tail_suffix front).isInfix
  · exact isPart

theorem plainComponents_parts (front : List Char) :
    (⟨String.ofList front⟩ : Path).plainComponents =
      (scope front).plainComponents ++ (parts front).filterMap Path.component? := by
  have plain (pieces : List (List Char)) :
      (pieces.filterMap Path.component?).filter (· != .current) = pieces.filterMap Path.component? := by
    apply List.filter_eq_self.mpr
    intro component member
    obtain ⟨piece, -, stands⟩ := List.mem_filterMap.mp member
    have noCurrent := Path.component?_ne_current piece
    rw [stands, Option.toList_some] at noCurrent
    exact (List.filter_eq_self.mp noCurrent) component (List.mem_singleton.mpr rfl)
  rw [Path.plainComponents, Path.components_eq, List.filter_append, plain]
  by_cases isRoot : front.head? = some '/'
  · obtain ⟨tail, rfl⟩ := List.head?_eq_some_iff.mp isRoot
    have root : (scope ('/' :: tail)).plainComponents = [.root] := by
      rw [show scope ('/' :: tail) = ⟨"/"⟩ from rfl]
      decide
    rw [root, Path.origin, if_pos isRoot, Text.pieces_mark, List.filterMap_cons_none (by rfl)]
    rfl
  · rw [scope_relative isRoot, parts_relative isRoot, Path.origin, if_neg isRoot]
    congr 1
    split <;> decide

theorem exists_mem_pieces {mark c : Char} {cs : List Char} (member : c ∈ cs) (other : c ≠ mark) :
    ∃ piece ∈ Text.pieces mark cs, c ∈ piece := by
  induction cs with
  | nil => contradiction
  | cons d rest ih =>
    obtain ⟨first, others, found⟩ := Text.exists_pieces mark rest
    by_cases isMark : d = mark
    · subst isMark
      obtain ⟨piece, isPiece, isInside⟩ := ih (List.mem_of_ne_of_mem other member)
      rw [Text.pieces_mark]
      exact ⟨piece, List.mem_cons_of_mem _ isPiece, isInside⟩
    · rw [Text.pieces_cons isMark found]
      obtain rfl | isLater := List.mem_cons.mp member
      · exact ⟨c :: first, List.mem_cons_self, List.mem_cons_self⟩
      · obtain ⟨piece, isPiece, isInside⟩ := ih isLater
        rw [found] at isPiece
        obtain rfl | isOther := List.mem_cons.mp isPiece
        · exact ⟨d :: piece, List.mem_cons_self, List.mem_cons_of_mem d isInside⟩
        · exact ⟨piece, List.mem_cons_of_mem _ isOther, isInside⟩

theorem exists_mem_parts {c : Char} (member : c ∈ front) (noSlash : c ≠ '/') :
    ∃ piece ∈ parts front, c ∈ piece := by
  apply exists_mem_pieces _ noSlash
  unfold inner
  split
  · rename_i isRoot
    obtain ⟨tail, rfl⟩ := List.head?_eq_some_iff.mp isRoot
    exact List.mem_of_ne_of_mem noSlash member
  · exact member

/-- A start that means itself when it is read as a pattern. -/
structure MeansItself (start : Path) : Prop where
  simple : IsSimple start.text.toList
  noGap : start.isAbsolute = false → hasGap (Text.pieces '/' start.text.toList) = false

theorem text_around (front : List Char) (name : String) :
    String.ofList front ++ "/**/" ++ name =
      String.ofList (front ++ '/' :: '*' :: '*' :: '/' :: name.toList) := by
  rw [← String.toList_inj]
  simp

end Around

end MutationTesting.Glob
