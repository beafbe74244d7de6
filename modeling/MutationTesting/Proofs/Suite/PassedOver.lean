import MutationTesting.Proofs.Python.FirstError
import MutationTesting.Proofs.Suite.Restored
import MutationTesting.Proofs.Suite.Walked
/-! Files whose mutants cannot be listed. Such a file fails before anything of it gets into the cache, so
passing it over is the same as leaving it out, and where it ends the listing, nothing has been
stored. -/
namespace MutationTesting

open Sequence

namespace Mutator

/-- Why the mutants of a file cannot be listed: it cannot be read as a text, or its text cannot be
parsed. -/
def failure? (mutator : Mutator) (workspace : Workspace) (file : Path) : Option Error :=
  match workspace.readText file with
  | .error fault => some (.fault fault)
  | .ok source =>
    match mutator.frontend.parse file source with
    | .error error => some error
    | .ok _ => none

/-- The files that do not fail. -/
def sound (mutator : Mutator) (workspace : Workspace) (files : List Path) : List Path :=
  files.filter fun file => (mutator.failure? workspace file).isNone

/-- The first file that fails, and why. -/
def firstFailure? (mutator : Mutator) (workspace : Workspace) (files : List Path) :
    Option (Path × Error) :=
  files.findSome? fun file => (mutator.failure? workspace file).map fun cause => (file, cause)

/-- Every name that is listed has the text of its row. -/
def NamesRows (mutator : Mutator) : Prop :=
  ∀ file source ids, mutator.ids file source = .ok ids →
    ∀ id ∈ ids, (Text.rows source)[id.row]? = some id.line

variable {mutator : Mutator} {workspace : Workspace} {file : Path} {cause : Error} {data : CacheData}

theorem ids_eq (mutator : Mutator) (file : Path) (source : String) :
    mutator.ids file source = (mutator.frontend.parse file source).map fun tree =>
      (Walk.mutants (mutator.setting file source tree) tree.root).map Mutant.id := by
  rw [ids, mutants_eq]
  cases mutator.frontend.parse file source <;> rfl

theorem listFile_of_failure (fails : mutator.failure? workspace file = some cause)
    (data : CacheData) : mutator.listFile workspace file data = (.error cause, data) := by
  unfold failure? at fails
  unfold listFile
  cases isText : workspace.readText file with
  | error fault =>
    simp only [isText, Option.some.injEq] at fails
    rw [← fails]
  | ok source =>
    simp only [isText] at fails
    cases parsed : mutator.frontend.parse file source with
    | error error =>
      simp only [parsed, Option.some.injEq] at fails
      simp only [ids_eq, parsed, Except.map, fails]
    | ok tree => simp [parsed] at fails

theorem listFile_of_sound (names : mutator.NamesRows)
    (sound : mutator.failure? workspace file = none) (data : CacheData) :
    ∃ ids after, mutator.listFile workspace file data = (.ok ⟨file, ids⟩, after) := by
  unfold failure? at sound
  cases isText : workspace.readText file with
  | error fault => simp [isText] at sound
  | ok source =>
    simp only [isText] at sound
    cases parsed : mutator.frontend.parse file source with
    | error error => simp [parsed] at sound
    | ok tree =>
      obtain ⟨ids, isIds⟩ : ∃ ids, mutator.ids file source = .ok ids := by
        rw [ids_eq, parsed]
        exact ⟨_, rfl⟩
      have lines : ∀ id ∈ ids, (data.updateLines file source).hasLine file id = true :=
        fun id member => CacheData.hasLine_updateLines (names file source ids isIds id member)
      exact ⟨ids, _, by rw [listFile_ok isText isIds, CacheData.verdict_of_lines lines]; rfl⟩

/-- Passing over the files that fail is listing the others. -/
theorem listFiles_passing (names : mutator.NamesRows) (workspace : Workspace) (files : List Path)
    (keepGoing : Bool) (data : CacheData) :
    mutator.listFiles true workspace files data =
      mutator.listFiles keepGoing workspace (mutator.sound workspace files) data := by
  induction files generalizing data with
  | nil => rfl
  | cons file rest ih =>
    cases fails : mutator.failure? workspace file with
    | some cause =>
      have leftOut : mutator.sound workspace (file :: rest) = mutator.sound workspace rest :=
        List.filter_cons_of_neg (by simp [fails])
      rw [leftOut, ← ih data]
      conv => lhs; unfold listFiles
      rw [listFile_of_failure fails]
      rfl
    | none =>
      have stays : mutator.sound workspace (file :: rest) =
          file :: mutator.sound workspace rest := List.filter_cons_of_pos (by simp [fails])
      obtain ⟨ids, after, listed⟩ := listFile_of_sound names fails data
      rw [stays]
      unfold listFiles
      simp only [listed, ih after]

theorem listFiles_of_sound (names : mutator.NamesRows) (keepGoing : Bool) {files : List Path}
    (sound : ∀ file ∈ files, mutator.failure? workspace file = none) (data : CacheData) :
    ∃ mutants after, mutator.listFiles keepGoing workspace files data = (.ok mutants, after) ∧
      mutants.map FileMutants.file = files := by
  induction files generalizing data with
  | nil => exact ⟨[], data, rfl, rfl⟩
  | cons file rest ih =>
    obtain ⟨isSound, others⟩ := List.forall_mem_cons.mp sound
    obtain ⟨ids, between, first⟩ := listFile_of_sound names isSound data
    obtain ⟨mutants, after, later, areOf⟩ := ih others between
    refine ⟨⟨file, ids⟩ :: mutants, after, ?_, by rw [List.map_cons, areOf]⟩
    unfold listFiles
    simp only [first, later]
    rfl

theorem listFiles_of_firstFailure (names : mutator.NamesRows) {files : List Path}
    (isFirst : mutator.firstFailure? workspace files = some (file, cause)) (data : CacheData) :
    ∃ after, mutator.listFiles false workspace files data =
      (.error (.generation file cause), after) := by
  induction files generalizing data with
  | nil => contradiction
  | cons other rest ih =>
    rw [firstFailure?, List.findSome?_cons] at isFirst
    unfold listFiles
    cases fails : mutator.failure? workspace other with
    | some error =>
      simp only [fails, Option.map_some, Option.some.injEq, Prod.mk.injEq] at isFirst
      obtain ⟨rfl, rfl⟩ := isFirst
      rw [listFile_of_failure fails]
      exact ⟨data, rfl⟩
    | none =>
      simp only [fails, Option.map_none] at isFirst
      obtain ⟨ids, between, first⟩ := listFile_of_sound names fails data
      obtain ⟨after, later⟩ := ih isFirst between
      simp only [first, later]
      exact ⟨after, rfl⟩

theorem linesOf_listFiles_of_not_same {files : List Path}
    (apart : ∀ other ∈ files, other.same file = false) (mutator : Mutator) (keepGoing : Bool)
    (workspace : Workspace) (data : CacheData) :
    (mutator.listFiles keepGoing workspace files data).2.linesOf file = data.linesOf file := by
  induction files generalizing data with
  | nil => rfl
  | cons other rest ih =>
    obtain ⟨isOther, others⟩ := List.forall_mem_cons.mp apart
    have first : (mutator.listFile workspace other data).2.linesOf file = data.linesOf file := by
      cases isText : workspace.readText other with
      | error fault => simp only [listFile, isText]
      | ok source =>
        cases isIds : mutator.ids other source with
        | error error => simp only [listFile, isText, isIds]
        | ok ids =>
          rw [listFile_ok isText isIds]
          exact (CacheData.linesOf_register_of_not_same (Path.same_symm.trans isOther) _ ids).trans
            (CacheData.linesOf_updateLines_of_not_same isOther data source)
    unfold listFiles
    generalize mutator.listFile workspace other data = listed at first
    obtain ⟨error | mutants, between⟩ := listed
    · dsimp only
      split
      · exact (ih others between).trans first
      · exact first
    · exact (ih others between).trans first

theorem generate_of_firstFailure (names : mutator.NamesRows) {bench : Bench} {files : List Path}
    (isFirst : mutator.firstFailure? bench.workspace files = some (file, cause)) :
    ∃ data, mutator.generate files false bench =
      (.error (.generation file cause), bench.withData data) := by
  obtain ⟨after, listed⟩ := listFiles_of_firstFailure names isFirst bench.cache.data
  exact ⟨after, by rw [generate_eq, listed]⟩

/-- Mutants are generated for all the files that do not fail, unless the cache cannot be stored. -/
theorem generate_of_sound (names : mutator.NamesRows) (keepGoing : Bool) {bench : Bench}
    {files : List Path} (sound : ∀ file ∈ files, mutator.failure? bench.workspace file = none) :
    ∃ mutants data, mutants.map FileMutants.file = files ∧
      mutator.listFiles keepGoing bench.workspace files bench.cache.data = (.ok mutants, data) ∧
      ((∃ fault, mutator.generate files keepGoing bench =
            (.error (.fault fault), bench.withData data) ∧
          bench.workspace.replace bench.cache.path data.encode.toUTF8 = .error fault) ∨
        ∃ workspace, mutator.generate files keepGoing bench =
            (.ok mutants, { bench.withData data with workspace }) ∧
          bench.workspace.replace bench.cache.path data.encode.toUTF8 = .ok workspace) := by
  obtain ⟨mutants, data, listed, areOf⟩ := listFiles_of_sound names keepGoing sound bench.cache.data
  exact ⟨mutants, data, areOf, listed, generate_of_listFiles bench listed⟩

/-- The data of the cache is what listing has made of it, be it stored or not. -/
theorem data_generate (mutator : Mutator) (files : List Path) (keepGoing : Bool) (bench : Bench) :
    (mutator.generate files keepGoing bench).2.cache.data =
      (mutator.listFiles keepGoing bench.workspace files bench.cache.data).2 := by
  rw [generate_eq]
  generalize mutator.listFiles keepGoing bench.workspace files bench.cache.data = listed
  obtain ⟨error | mutants, data⟩ := listed <;> rfl

end Mutator

namespace Python

/-- The names of Python's mutants have the texts of their rows, whatever the parse trees are like. -/
theorem namesRows (trees : String → Option ParseTree) (table : RuleTable) (policy : Policy) :
    Mutator.NamesRows ⟨frontend trees, table, policy⟩ := by
  intro file source ids isIds id member
  cases parsed : trees source with
  | none =>
    simp [Mutator.ids_eq, frontend, parse, parsed, Except.map] at isIds
  | some tree =>
    cases marked : tree.hasError with
    | true =>
      simp [Mutator.ids_eq, frontend, parse, parsed, marked, Except.map] at isIds
    | false =>
      have made := congrArg (Except.map (List.map Mutant.id))
        (mutants_of_parsed table policy file parsed marked)
      obtain rfl := Except.ok.inj (made.symm.trans isIds)
      obtain ⟨mutant, isMutant, rfl⟩ := List.mem_map.mp member
      exact line_of_mem_mutants isMutant

/-- Passing over files that cannot be read or parsed is leaving them out: the other files are listed,
and unless the cache cannot be stored there are mutants of each of them. A file that fails keeps the
rows it has in the cache. If files are not passed over, the first one that fails is named, with the
error it fails with, and nothing on disk has changed. -/
theorem generate_passes_over_failures (trees : String → Option ParseTree) (table : RuleTable)
    (policy : Policy) (bench : Bench) (files : List Path)
    (distinct : files.Pairwise fun file other => file.same other = false) :
    let mutator : Mutator := ⟨frontend trees, table, policy⟩
    let sound := mutator.sound bench.workspace files
    let outcome := mutator.generate files true bench
    (∀ keepGoing, outcome = mutator.generate sound keepGoing bench) ∧
    ((∃ mutants, outcome.1 = .ok mutants ∧ mutants.map FileMutants.file = sound) ∨
      ∃ fault, outcome.1 = .error (.fault fault) ∧ outcome.2.workspace = bench.workspace ∧
        bench.workspace.replace bench.cache.path outcome.2.cache.data.encode.toUTF8 =
          .error fault) ∧
    (∀ file ∈ files, mutator.failure? bench.workspace file ≠ none →
      outcome.2.cache.data.linesOf file = bench.cache.data.linesOf file) ∧
    ∀ file cause, mutator.firstFailure? bench.workspace files = some (file, cause) →
      ∃ data, mutator.generate files false bench =
        (.error (.generation file cause), bench.withData data) := by
  intro mutator sound outcome
  have names : mutator.NamesRows := namesRows trees table policy
  have passing (keepGoing : Bool) : outcome = mutator.generate sound keepGoing bench := by
    simp only [outcome, Mutator.generate_eq, Mutator.listFiles_passing names bench.workspace files
      keepGoing, sound]
  have isSound : ∀ file ∈ sound, mutator.failure? bench.workspace file = none := fun file member =>
    Option.isNone_iff_eq_none.mp (List.mem_filter.mp member).2
  refine ⟨passing, ?_, ?_, fun file cause => Mutator.generate_of_firstFailure names⟩
  · obtain ⟨mutants, data, areOf, -, ⟨fault, failed, refused⟩ | ⟨workspace, generated, -⟩⟩ :=
      Mutator.generate_of_sound names true isSound
    · rw [passing true, failed]
      exact .inr ⟨fault, rfl, rfl, refused⟩
    · rw [passing true, generated]
      exact .inl ⟨mutants, rfl, areOf⟩
  · intro file member fails
    rw [passing true, Mutator.data_generate]
    -- the file is none of those that are listed, and each of these is another file
    refine Mutator.linesOf_listFiles_of_not_same (fun other isOther => ?_) mutator true _ _
    have apart : other ≠ file := by
      rintro rfl
      exact fails (isSound other isOther)
    have symmetric : Std.Symm fun file other : Path => file.same other = false :=
      ⟨fun _ _ apart => Path.same_symm.trans apart⟩
    exact distinct.forall (List.mem_filter.mp isOther).1 member apart

/-- The files of a directory of which only the first can be mutated: one cannot be parsed, one is no
text, and one does not exist. -/
def mixedFiles : List Path :=
  [⟨"a.py"⟩, ⟨"b.py"⟩, ⟨"c.py"⟩, ⟨"d.py"⟩]

def mixedBench : Bench where
  workspace :=
    ⟨.directory [("a.py", .file Campaign.assignmentText.toUTF8), ("b.py", .file brokenText.toUTF8),
      ("c.py", .file ⟨#[255]⟩)], [], []⟩
  cache := ⟨Path.join ⟨"."⟩ Cache.fileName, .empty⟩
  turn := 0
  log := []

def mixedMutator : Mutator where
  frontend := frontend fun source =>
    some (if source = brokenText then brokenTree else Campaign.assignment)
  table := .python []
  policy := .everyLine

theorem mixed_passes_over_failures :
    mixedMutator.sound mixedBench.workspace mixedFiles = [⟨"a.py"⟩] ∧
      (∃ mutants, (mixedMutator.generate mixedFiles true mixedBench).1 = .ok mutants ∧
        mutants.map FileMutants.file = [⟨"a.py"⟩]) ∧
      ∃ data, mixedMutator.generate mixedFiles false mixedBench =
        (.error (.generation ⟨"b.py"⟩ (.badSyntax ⟨"b.py"⟩ 2 "y = (2")),
          mixedBench.withData data) := by
  have distinct : mixedFiles.Pairwise fun file other => file.same other = false := by
    decide +kernel
  have others : mixedMutator.sound mixedBench.workspace mixedFiles = [⟨"a.py"⟩] := by
    decide +kernel
  have isFirst : mixedMutator.firstFailure? mixedBench.workspace mixedFiles =
      some (⟨"b.py"⟩, .badSyntax ⟨"b.py"⟩ 2 "y = (2") := by
    decide +kernel
  have stored : (mixedMutator.generate mixedFiles true mixedBench).1.toOption.isSome = true := by
    decide +kernel
  obtain ⟨-, isListed, -, refused⟩ := generate_passes_over_failures _ (.python []) .everyLine
    mixedBench mixedFiles distinct
  refine ⟨others, ?_, refused _ _ isFirst⟩
  obtain ⟨mutants, listed, areOf⟩ | ⟨fault, failed, -⟩ := isListed
  · exact ⟨mutants, listed, areOf.trans others⟩
  · rw [show (mixedMutator.generate mixedFiles true mixedBench).1 = _ from failed] at stored
    contradiction

end Python

end MutationTesting
