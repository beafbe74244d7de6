import MutationTesting.Discovery.TestDirectories
import MutationTesting.Proofs.Discovery.Listed
import MutationTesting.Proofs.Glob.Start
/-! Which directories of tests are found below the paths to mutate. A path to mutate is written into a
pattern as it is, so all directories with a name are found below one that means itself as a pattern, and
then no file in them is mutated. Below one that has a bracket, or that starts with a dot and an empty piece,
none is found that way. -/
namespace MutationTesting.Discovery

/-- A name without wildcards. -/
structure IsPlainName (name : String) : Prop where
  isName : Path.IsName name
  plain : ∀ c ∈ name.toList, c ≠ '?' ∧ c ≠ '*' ∧ c ≠ '['

theorem IsPlainName.isSimple {name : String} (plain : IsPlainName name) : Glob.IsSimple name.toList := by
  apply Glob.isSimple_of_noStar
  · intro isBracket
    exact (plain.plain '[' isBracket).2.2 rfl
  · intro isStar
    exact (plain.plain '*' isStar).2.1 rfl

/-- There is a directory with a name at an address below a start, and its path leads to it. -/
structure IsDirectoryNamed (workspace : Workspace) (start : Path) (top : Entry) (name : String)
    (address : List String) : Prop where
  isLast : address.getLast? = some name
  there : ∃ entries, top.get? address = some (.directory entries)
  reached : workspace.hasDirectory (start.below address) = true

section Added

variable {known new : List Path} {path : Path}

theorem addNew_cons (known : List Path) (first : Path) (rest : List Path) :
    addNew known (first :: rest) =
      addNew (if known.any first.same then known else known ++ [first]) rest := rfl

theorem mem_addNew_of_mem (member : path ∈ known) : path ∈ addNew known new := by
  induction new generalizing known with
  | nil => exact member
  | cons first rest ih =>
    rw [addNew_cons]
    apply ih
    split
    · exact member
    · exact List.mem_append_left _ member

theorem exists_mem_addNew (known : List Path) (member : path ∈ new) :
    ∃ other ∈ addNew known new, other.components = path.components := by
  induction new generalizing known with
  | nil => contradiction
  | cons first rest ih =>
    rw [addNew_cons]
    obtain rfl | isLater := List.mem_cons.mp member
    · split
      · rename_i isThere
        obtain ⟨other, isKnown, same⟩ := List.any_eq_true.mp isThere
        refine ⟨other, mem_addNew_of_mem isKnown, ?_⟩
        rw [Path.same, beq_iff_eq] at same
        exact same.symm
      · refine ⟨path, mem_addNew_of_mem ?_, rfl⟩
        exact List.mem_append_right _ (List.mem_singleton.mpr rfl)
    · exact ih _ isLater

theorem mem_foldl_addNew_of_mem {workspace : Workspace} {patterns : List String}
    (member : path ∈ known) :
    path ∈ patterns.foldl (fun known pattern => addNew known (directoriesOf workspace pattern)) known := by
  induction patterns generalizing known with
  | nil => exact member
  | cons first rest ih => exact ih (mem_addNew_of_mem member)

/-- What one of the patterns leads to is among the directories of tests. -/
theorem exists_mem_foldl_addNew {workspace : Workspace} {patterns : List String} {pattern : String}
    (known : List Path) (isPattern : pattern ∈ patterns)
    (member : path ∈ directoriesOf workspace pattern) :
    ∃ other ∈ patterns.foldl (fun known pattern => addNew known (directoriesOf workspace pattern)) known,
      other.components = path.components := by
  induction patterns generalizing known with
  | nil => contradiction
  | cons first rest ih =>
    obtain rfl | isLater := List.mem_cons.mp isPattern
    · obtain ⟨other, isAdded, same⟩ := exists_mem_addNew known member
      rw [List.foldl_cons]
      exact ⟨other, mem_foldl_addNew_of_mem isAdded, same⟩
    · exact ih _ isLater

end Added

section Cover

variable {workspace : Workspace} {starts : List Path} {start : Path} {entries : List (String × Entry)}
  {text name : String} {address : List String}

/-- The directories with a name below a start that means itself are those that its pattern leads to. -/
theorem exists_mem_directoriesOf (inOrder : workspace.top.InOrder) (named : workspace.Named)
    (found : workspace.find start = .ok (.directory entries)) (plain : IsPlainName name)
    (itself : Glob.MeansItself start)
    (isNamed : IsDirectoryNamed workspace start (.directory entries) name address) :
    ∃ tests ∈ directoriesOf workspace (start.text ++ "/**/" ++ name),
      tests.plainComponents = (start.below address).plainComponents := by
  obtain ⟨isLast, ⟨inner, there⟩, reached⟩ := isNamed
  obtain ⟨all, expanded, path, member, has, same⟩ :=
    Glob.exists_path inOrder (Workspace.hasDirectory_of_find found) itself plain.isSimple
      (named.of_find found there) isLast reached
  refine ⟨path, ?_, same⟩
  rw [directoriesOf, expanded]
  exact List.mem_filter.mpr ⟨member, has⟩

theorem meansItself_of_mem_directoriesOf (inOrder : workspace.top.InOrder) (named : workspace.Named)
    (found : workspace.find start = .ok (.directory entries)) (plain : IsPlainName name)
    (noStar : '*' ∉ start.text.toList)
    (isNamed : IsDirectoryNamed workspace start (.directory entries) name address) {tests : Path}
    (member : tests ∈ directoriesOf workspace (start.text ++ "/**/" ++ name))
    (same : tests.plainComponents = (start.below address).plainComponents) : Glob.MeansItself start := by
  obtain ⟨⟨written, -, -⟩, -⟩ :=
    Workspace.hasDirectory_iff.mp (Workspace.hasDirectory_of_find found)
  obtain ⟨isLast, ⟨inner, there⟩, -⟩ := isNamed
  unfold directoriesOf at member
  split at member
  · rename_i all expanded
    exact Glob.meansItself_of_mem inOrder named written noStar plain.isName plain.isSimple
      (named.of_find found there) expanded (List.mem_filter.mp member).1 same
  · contradiction

theorem exists_mem_testDirectories (inOrder : workspace.top.InOrder) (named : workspace.Named)
    (isStart : start ∈ starts) (found : workspace.find start = .ok (.directory entries))
    (listed : name ∈ patternsOf text) (plain : IsPlainName name) (itself : Glob.MeansItself start)
    (isNamed : IsDirectoryNamed workspace start (.directory entries) name address) :
    ∃ tests ∈ testDirectories workspace text starts,
      tests.plainComponents = (start.below address).plainComponents := by
  obtain ⟨path, member, same⟩ := exists_mem_directoriesOf inOrder named found plain itself isNamed
  have isCandidate : start.text ++ "/**/" ++ name ∈ (patternsOf text).flatMap (candidates starts) := by
    apply List.mem_flatMap.mpr
    refine ⟨name, listed, List.mem_cons_of_mem _ ?_⟩
    exact List.mem_map.mpr ⟨start, isStart, rfl⟩
  obtain ⟨tests, isTests, components⟩ := exists_mem_foldl_addNew [] isCandidate member
  refine ⟨tests, isTests, ?_⟩
  rw [← same, Path.plainComponents, Path.plainComponents, components]

/-- Below directories that stand where tests do a walk with a filter for these comes to nothing. -/
theorem not_below_tests (extensions : List String) {tests : List Path} {patterns : List String}
    {filter : SourceFilter} (inOrder : workspace.top.InOrder) (named : workspace.Named)
    (found : workspace.find start = .ok (.directory entries))
    (made : SourceFilter.make tests patterns = .ok filter) :
    ∃ files, sourceFiles workspace filter extensions start = .ok files ∧
      ∀ file ∈ files, ∃ address, file = start.below address ∧
        ∀ above, above <+: address → ∀ directory ∈ tests,
          above ≠ [] → directory.plainComponents ≠ (start.below above).plainComponents := by
  obtain ⟨place, there⟩ := Workspace.get?_of_find found
  unfold sourceFiles
  rw [found]
  refine ⟨_, rfl, ?_⟩
  intro file isFile
  obtain ⟨walked, isKept, rfl⟩ := List.mem_map.mp isFile
  obtain ⟨address, kept, comes⟩ :=
    (Entry.mem_walk_iff (inOrder.of_get? there)).mp (List.mem_filter.mp isKept).1
  refine ⟨address, comes.path, ?_⟩
  intro above isAbove directory isTests notStart same
  obtain ⟨further, rfl⟩ := isAbove
  have isThere := comes.entry
  rw [Entry.get?_append] at isThere
  obtain ⟨entry, isEntry, -⟩ := Option.bind_eq_some_iff.mp isThere
  have isLast := List.getLast?_eq_some_getLast notStart
  let between : Walked := ⟨start.below above, above.getLast notStart, entry⟩
  have comesBetween : Entry.ComesTo start (.directory entries) above between := ⟨rfl, isLast, isEntry⟩
  have keeps := kept.kept above between (List.prefix_append above further) comesBetween
  have names := named.of_find found isEntry
  have isName : between.path.fileName? = some (above.getLast notStart) :=
    Path.fileName?_below start names isLast
  exact (keeps_iff made isName).mp keeps (.tests isTests same.symm)

/-- Below a path to mutate that means itself all directories with a listed name are found, and a filter
for what is found keeps no file in them. Without stars in the path they are found for no other reason. -/
theorem testDirectories_cover (inOrder : workspace.top.InOrder) (named : workspace.Named)
    (isStart : start ∈ starts) (found : workspace.find start = .ok (.directory entries))
    (listed : name ∈ patternsOf text) (plain : IsPlainName name) :
    (Glob.MeansItself start →
      (∀ address, IsDirectoryNamed workspace start (.directory entries) name address →
        ∃ tests ∈ testDirectories workspace text starts,
          tests.plainComponents = (start.below address).plainComponents) ∧
      ∀ patterns filter extensions,
        SourceFilter.make (testDirectories workspace text starts) patterns = .ok filter →
        ∃ files, sourceFiles workspace filter extensions start = .ok files ∧
          ∀ file ∈ files, ∃ address, file = start.below address ∧
            ∀ above, above <+: address →
              ¬ IsDirectoryNamed workspace start (.directory entries) name above) ∧
    ('*' ∉ start.text.toList → ∀ address,
      IsDirectoryNamed workspace start (.directory entries) name address →
        ((∃ tests ∈ directoriesOf workspace (start.text ++ "/**/" ++ name),
            tests.plainComponents = (start.below address).plainComponents) ↔ Glob.MeansItself start)) := by
  constructor
  · intro itself
    have cover : ∀ address, IsDirectoryNamed workspace start (.directory entries) name address →
        ∃ tests ∈ testDirectories workspace text starts,
          tests.plainComponents = (start.below address).plainComponents := by
      intro address isNamed
      exact exists_mem_testDirectories inOrder named isStart found listed plain itself isNamed
    refine ⟨cover, ?_⟩
    intro patterns filter extensions made
    obtain ⟨files, isListed, outside⟩ := not_below_tests extensions inOrder named found made
    refine ⟨files, isListed, ?_⟩
    intro file isFile
    obtain ⟨address, isPath, apart⟩ := outside file isFile
    refine ⟨address, isPath, ?_⟩
    intro above isAbove isNamed
    obtain ⟨tests, isTests, same⟩ := cover above isNamed
    have notStart : above ≠ [] := by
      rintro rfl
      exact nomatch isNamed.isLast
    exact apart above isAbove tests isTests notStart same
  · intro noStar address isNamed
    constructor
    · rintro ⟨tests, member, same⟩
      exact meansItself_of_mem_directoriesOf inOrder named found plain noStar isNamed member same
    · intro itself
      exact exists_mem_directoriesOf inOrder named found plain itself isNamed

end Cover

/-- A directory with a file and, further down, a directory of tests. -/
def nestedTests : List (String × Entry) :=
  let source : Entry := .file "x = 1\n".toUTF8
  [("a.py", source), ("sub", .directory [("tests", .directory [("test_b.py", source)])])]

/-- A workspace with this directory under a name. -/
def holding (name : String) : Workspace :=
  ⟨.directory [(name, .directory nestedTests)], [], []⟩

theorem holding_inOrder (name : String) : (holding name).top.InOrder := by
  apply Entry.InOrder.directory
  · exact List.pairwise_singleton _ _
  · refine List.forall_mem_singleton.mpr (.directory (by decide) ?_)
    simp only [nestedTests, List.forall_mem_cons]
    refine ⟨.file _, .directory (List.pairwise_singleton _ _) ?_, nofun⟩
    exact List.forall_mem_singleton.mpr (Entry.inOrder_of_files (by decide) (by decide))

theorem holding_named {name : String} (isName : Path.IsName name) : (holding name).Named := by
  apply Workspace.named_of_entries
  · exact List.forall_mem_singleton.mpr isName
  · refine List.forall_mem_singleton.mpr (Workspace.named_of_entries (by decide) ?_)
    simp only [nestedTests, List.forall_mem_cons]
    refine ⟨Workspace.named_file _ _ _, Workspace.named_of_entries (by decide) ?_, nofun⟩
    exact List.forall_mem_singleton.mpr (Workspace.named_of_files (by decide))

theorem holding_found {name : String} (leads : (holding name).address ⟨name⟩ = .ok [name]) :
    (holding name).find ⟨name⟩ = .ok (.directory nestedTests) := by
  have there : (holding name).at? [name] = some (.directory nestedTests) := by
    simp [Workspace.at?, holding, Entry.get?, Entry.entries]
  rw [Workspace.find_eq leads, there]
  simp [Entry.isFile, Entry.isDirectory]

theorem isPlainName_tests : IsPlainName "tests" := by
  constructor
  · decide
  · simp

/-- With a question mark in the path to mutate the tests are found. -/
theorem questioned_covered :
    let workspace := holding "a?b"
    let start : Path := ⟨"a?b"⟩
    let tests := testDirectories workspace defaultTestDirectories [start]
    workspace.top.InOrder ∧ workspace.Named ∧ workspace.find start = .ok (.directory nestedTests) ∧
      "tests" ∈ patternsOf defaultTestDirectories ∧ IsPlainName "tests" ∧ Glob.MeansItself start ∧
      IsDirectoryNamed workspace start (.directory nestedTests) "tests" ["sub", "tests"] ∧
      (∃ path ∈ tests, path.plainComponents = (start.below ["sub", "tests"]).plainComponents) ∧
      ∃ filter files, SourceFilter.make tests [] = .ok filter ∧
        sourceFiles workspace filter ["py"] start = .ok files ∧
        ∀ file ∈ files, ∃ address, file = start.below address ∧ ¬ ["sub", "tests"] <+: address := by
  intro workspace start tests
  have inOrder : workspace.top.InOrder := holding_inOrder "a?b"
  have named : workspace.Named := holding_named (by decide)
  have found : workspace.find start = .ok (.directory nestedTests) := holding_found (by decide +kernel)
  have listed : "tests" ∈ patternsOf defaultTestDirectories := by decide +kernel
  have itself : Glob.MeansItself start := by
    refine ⟨⟨?_, ?_⟩, ?_⟩ <;> decide
  have isNamed : IsDirectoryNamed workspace start (.directory nestedTests) "tests" ["sub", "tests"] := by
    refine ⟨rfl, ⟨_, rfl⟩, ?_⟩
    decide +kernel
  have isStart : start ∈ [start] := List.mem_singleton.mpr rfl
  obtain ⟨covers, -⟩ := testDirectories_cover inOrder named isStart found listed isPlainName_tests
  obtain ⟨isFound, outside⟩ := covers itself
  refine ⟨inOrder, named, found, listed, isPlainName_tests, itself, isNamed, isFound _ isNamed, ?_⟩
  have isMade : (SourceFilter.make tests []).isOk = true := rfl
  cases made : SourceFilter.make tests [] with
  | error error =>
    rw [made] at isMade
    contradiction
  | ok filter =>
    obtain ⟨files, isListed, apart⟩ := outside [] filter ["py"] made
    refine ⟨filter, files, rfl, isListed, ?_⟩
    intro file isFile
    obtain ⟨address, isPath, noTests⟩ := apart file isFile
    refine ⟨address, isPath, ?_⟩
    intro isBelow
    exact noTests _ isBelow isNamed

/-- A bracket in the path to mutate is read as a set of characters: the tests are not found, and are
mutated. -/
theorem bracketed_missed :
    let workspace := holding "a[b]"
    let start : Path := ⟨"a[b]"⟩
    let tests := testDirectories workspace defaultTestDirectories [start]
    workspace.top.InOrder ∧ workspace.Named ∧ workspace.find start = .ok (.directory nestedTests) ∧
      "tests" ∈ patternsOf defaultTestDirectories ∧ IsPlainName "tests" ∧
      IsDirectoryNamed workspace start (.directory nestedTests) "tests" ["sub", "tests"] ∧ tests = [] ∧
      ((SourceFilter.make tests []).toOption.bind fun filter =>
        (sourceFiles workspace filter ["py"] start).toOption) =
          some [⟨"a[b]/a.py"⟩, ⟨"a[b]/sub/tests/test_b.py"⟩] := by
  intro workspace start tests
  have isNamed : IsDirectoryNamed workspace start (.directory nestedTests) "tests" ["sub", "tests"] := by
    refine ⟨rfl, ⟨_, rfl⟩, ?_⟩
    decide +kernel
  refine ⟨holding_inOrder _, holding_named (by decide), holding_found (by decide +kernel), ?_,
    isPlainName_tests, isNamed, ?_, ?_⟩
  · decide +kernel
  · decide +kernel
  · decide +kernel

end MutationTesting.Discovery
