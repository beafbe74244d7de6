import MutationTesting.Discovery.Sources
import MutationTesting.Proofs.FileSystem.Walk
/-! Which files are mutated. Leaving out a directory leaves out all that is below it, so a file is
found if neither it nor a directory between it and the start of the walk is left out. -/
namespace MutationTesting.Discovery

/-- A pattern that one of some texts denotes. Blank texts denote none. -/
def IsPatternOf (texts : List String) (pattern : Glob.Pattern) : Prop :=
  ∃ text ∈ texts, Text.trim text ≠ "" ∧ Glob.Pattern.parse (Text.trim text) = .ok pattern

/-- Why something below the start of a walk is left out for what it is itself. In whole paths a dot that
stands for nothing does not count. -/
inductive LeftOut (tests : List Path) (patterns : List String) (walked : Walked) : Prop where
  /-- It is a directory with a name that no code has. -/
  | skipped (isDirectory : walked.entry.isDirectory = true) (isSkipped : walked.name ∈ skippedNames)
  /-- It stands where tests do. -/
  | tests {directory : Path} (isTests : directory ∈ tests)
    (same : walked.path.plainComponents = directory.plainComponents)
  /-- A pattern matches its name or its whole path. -/
  | pattern {pattern : Glob.Pattern} (isPattern : IsPatternOf patterns pattern)
    (fits : pattern.isMatch walked.name = true ∨ pattern.isMatch walked.path.normalize.text = true)

section Filter

variable {tests : List Path} {patterns : List String} {filter : SourceFilter}

theorem mem_of_mapM {α β ε : Type} {read : α → Except ε β} {items : List α} {values : List β}
    (done : items.mapM read = .ok values) (value : β) :
    value ∈ values ↔ ∃ item ∈ items, read item = .ok value := by
  induction items generalizing values with
  | nil =>
    obtain rfl := Except.ok.inj done
    simp
  | cons item rest ih =>
    rw [List.mapM_cons] at done
    obtain ⟨first, isFirst, done⟩ := Workspace.ok_of_bind done
    obtain ⟨others, isRest, done⟩ := Workspace.ok_of_bind done
    obtain rfl := Except.ok.inj done
    simp [ih isRest, isFirst, eq_comm]

theorem filter_of_make (made : SourceFilter.make tests patterns = .ok filter) :
    filter.testDirectories = tests.map Path.normalize ∧
      ∀ pattern, pattern ∈ filter.excluded ↔ IsPatternOf patterns pattern := by
  unfold SourceFilter.make at made
  dsimp only at made
  split at made
  · rename_i excluded parsed
    obtain rfl := Except.ok.inj made
    refine ⟨rfl, fun pattern => ?_⟩
    rw [mem_of_mapM parsed]
    simp [IsPatternOf, and_assoc]
  · contradiction

theorem keeps_iff (made : SourceFilter.make tests patterns = .ok filter) {walked : Walked}
    (named : walked.path.fileName? = some walked.name) :
    filter.keeps walked = true ↔ ¬ LeftOut tests patterns walked := by
  obtain ⟨directories, excluded⟩ := filter_of_make made
  have isTests : (filter.testDirectories.any walked.path.normalize.same = true) ↔
      ∃ directory ∈ tests, walked.path.plainComponents = directory.plainComponents := by
    simp [directories, Path.same, Path.components_normalize]
  have isMatched : (filter.excluded.any fun pattern =>
        walked.path.fileName?.any pattern.isMatch || pattern.isMatch walked.path.normalize.text) = true ↔
      ∃ pattern, IsPatternOf patterns pattern ∧ (pattern.isMatch walked.name = true ∨
        pattern.isMatch walked.path.normalize.text = true) := by
    simp [named, excluded]
  have excludes : filter.excludes walked.path = true ↔
      (∃ directory ∈ tests, walked.path.plainComponents = directory.plainComponents) ∨
      ∃ pattern, IsPatternOf patterns pattern ∧ (pattern.isMatch walked.name = true ∨
        pattern.isMatch walked.path.normalize.text = true) := by
    rw [SourceFilter.excludes, Bool.or_eq_true, isTests, isMatched]
  have isLeftOut : LeftOut tests patterns walked ↔
      (walked.entry.isDirectory = true ∧ walked.name ∈ skippedNames) ∨
        filter.excludes walked.path = true := by
    rw [excludes]
    constructor
    · rintro (⟨isDirectory, isSkipped⟩ | ⟨isTests, same⟩ | ⟨isPattern, fits⟩)
      · exact .inl ⟨isDirectory, isSkipped⟩
      · exact .inr (.inl ⟨_, isTests, same⟩)
      · exact .inr (.inr ⟨_, isPattern, fits⟩)
    · rintro (⟨isDirectory, isSkipped⟩ | ⟨_, isTests, same⟩ | ⟨_, isPattern, fits⟩)
      · exact .skipped isDirectory isSkipped
      · exact .tests isTests same
      · exact .pattern isPattern fits
  rw [isLeftOut, not_or, SourceFilter.keeps, Bool.and_eq_true]
  simp only [Bool.not_eq_true', ← Bool.not_eq_true, Bool.and_eq_true, List.contains_iff_mem]

end Filter

section Walked

variable {extensions : List String} {start : Path} {top : Entry} {address : List String} {walked : Walked}

/-- Whether there is a file with one of the extensions at an address. -/
def isFound (extensions : List String) (start : Path) (top : Entry) (address : List String) : Bool :=
  (top.get? address).any Entry.isFile && hasExtension extensions (start.below address)

end Walked

end MutationTesting.Discovery
