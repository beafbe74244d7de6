import MutationTesting.Frontend
import MutationTesting.Proofs.Walk.Steps
/-! The mutants of a source, and what a mutant that is looked up by its name is like. -/
namespace MutationTesting

namespace Walk

/-- What a candidate is rendered to: a mutant of its row and of the source, which it changes. -/
theorem rendered?_spec {setting : Setting} {root : Node} {candidate : Candidate} {mutant : Mutant}
    (rendered : rendered? setting root candidate = some mutant) :
    mutant.id.row = candidate.register.row ∧ mutant.file = setting.lines.file ∧
      mutant.source = setting.source ∧ mutant.mutated ≠ setting.source ∧
      mutant.applied = false := by
  simp only [rendered?, Option.ite_none_left_eq_some, Option.some.injEq] at rendered
  obtain ⟨changed, rfl⟩ := rendered
  exact ⟨rfl, rfl, rfl, changed, rfl⟩

end Walk

namespace Mutator

theorem mutants_eq (mutator : Mutator) (file : Path) (source : String) :
    mutator.mutants file source = (mutator.frontend.parse file source).map fun tree =>
      Walk.mutants (mutator.setting file source tree) tree.root := by
  simp only [mutants, Walk.Cursor.toList_start]

theorem find?_eq (mutator : Mutator) (file : Path) (source : String) (id : MutantId) :
    mutator.find? file source id =
      (mutator.mutants file source).map fun mutants => mutants.find? (·.id == id) := by
  simp only [find?, mutants, Walk.Cursor.find?_eq]
  cases mutator.frontend.parse file source <;> rfl

theorem find?_of_mem_ids {mutator : Mutator} {file : Path} {source : String}
    {noted : List MutantId} (isNoted : mutator.ids file source = .ok noted) {id : MutantId}
    (member : id ∈ noted) :
    ∃ mutant, mutant.id = id ∧ mutator.find? file source id = .ok (some mutant) := by
  rw [find?_eq]
  unfold ids at isNoted
  cases made : mutator.mutants file source with
  | error error => simp [made, Except.map] at isNoted
  | ok mutants =>
    simp only [made, Except.map, Except.ok.injEq] at isNoted ⊢
    subst isNoted
    obtain ⟨mutant, isMutant, named⟩ := List.mem_map.mp member
    have isSome : (mutants.find? (·.id == id)).isSome :=
      List.find?_isSome.mpr ⟨mutant, isMutant, by simpa using named⟩
    obtain ⟨first, found⟩ := Option.isSome_iff_exists.mp isSome
    exact ⟨first, by simpa using List.find?_some found, found⟩

variable {mutator : Mutator} {file : Path} {source : String} {mutant : Mutant}

theorem mutants_spec {mutants : List Mutant} (made : mutator.mutants file source = .ok mutants)
    (member : mutant ∈ mutants) :
    mutant.file = file ∧ mutant.source = source ∧ mutant.mutated ≠ source ∧
      mutant.applied = false := by
  rw [mutants_eq] at made
  cases parsed : mutator.frontend.parse file source with
  | error error => simp [parsed, Except.map] at made
  | ok tree =>
    simp only [parsed, Except.map, Except.ok.injEq] at made
    rw [← made, Walk.mutants, List.mem_filterMap] at member
    obtain ⟨candidate, -, isMutant⟩ := member
    unfold Walk.mutant? at isMutant
    split at isMutant
    · contradiction
    · exact (Walk.rendered?_spec isMutant).2

theorem find?_spec {id : MutantId} (found : mutator.find? file source id = .ok (some mutant)) :
    mutant.id = id ∧ mutant.file = file ∧ mutant.source = source ∧ mutant.mutated ≠ source ∧
      mutant.applied = false := by
  rw [find?_eq] at found
  cases made : mutator.mutants file source with
  | error error => simp [made, Except.map] at found
  | ok mutants =>
    simp only [made, Except.map, Except.ok.injEq] at found
    have named := List.find?_some found
    exact ⟨by simpa using named, mutants_spec made (List.mem_of_find?_eq_some found)⟩

end Mutator

end MutationTesting

/-! The edit that a mutant makes: what is replaced in its source, and by what. -/
namespace MutationTesting

/-- A text and what it is replaced by. -/
structure Edit where
  old : String
  new : String
  deriving Repr, DecidableEq

namespace Walk

/-- Two lists of nodes without the nodes of equal texts that they both begin with. -/
def dropCommon : List Node → List Node → List Node × List Node
  | a :: as, b :: bs => if a.code = b.code then dropCommon as bs else (a :: as, b :: bs)
  | as, bs => (as, bs)

/-- What is left of two lists of nodes without what they both begin with and end with. -/
def differing (old new : List Node) : List Node × List Node :=
  let (old, new) := dropCommon old new
  let (old, new) := dropCommon old.reverse new.reverse
  (old.reverse, new.reverse)

/-- The edit of a candidate. It replaces the value of a token, or else some of the children of a
node. -/
def Candidate.edit (candidate : Candidate) : Edit :=
  match candidate.node.value?, candidate.changed.value? with
  | some old, some new => ⟨old, new⟩
  | _, _ =>
    let (old, new) := differing candidate.node.children candidate.changed.children
    ⟨Node.textOf old, Node.textOf new⟩

end Walk

namespace Mutator

/-- The edit of a mutant, which is that of the candidate it is made from. -/
def edit? (mutator : Mutator) (mutant : Mutant) : Option Edit :=
  match mutator.frontend.parse mutant.file mutant.source with
  | .error _ => none
  | .ok tree =>
    let setting := mutator.setting mutant.file mutant.source tree
    let makes (candidate : Walk.Candidate) : Bool :=
      Walk.mutant? setting tree.root candidate = some mutant
    ((Walk.candidates setting.grammar setting.table tree.root).find? makes).map Walk.Candidate.edit

theorem edit?_isSome {mutator : Mutator} {file : Path} {source : String} {id : MutantId}
    {mutant : Mutant} (found : mutator.find? file source id = .ok (some mutant)) :
    (mutator.edit? mutant).isSome = true := by
  obtain ⟨-, rfl, rfl, -, -⟩ := find?_spec found
  rw [find?_eq, mutants_eq] at found
  unfold edit?
  cases parsed : mutator.frontend.parse mutant.file mutant.source with
  | error error => simp [parsed, Except.map] at found
  | ok tree =>
    simp only [parsed, Except.map, Except.ok.injEq] at found
    have member := List.mem_of_find?_eq_some found
    obtain ⟨candidate, isCandidate, makes⟩ := List.mem_filterMap.mp member
    simp only [Option.isSome_map, List.find?_isSome, decide_eq_true_eq]
    exact ⟨candidate, isCandidate, makes⟩

/-- Two mutants that have one place on lines of one text, and make one edit. -/
structure Alike (mutator : Mutator) (a b : Mutant) : Prop where
  line : a.id.line = b.id.line
  index : a.id.index = b.id.index
  edit : ∃ edit, mutator.edit? a = some edit ∧ mutator.edit? b = some edit

theorem Alike.trans {mutator : Mutator} {a b c : Mutant} (first : mutator.Alike a b)
    (second : mutator.Alike b c) : mutator.Alike a c := by
  refine ⟨first.line.trans second.line, first.index.trans second.index, ?_⟩
  obtain ⟨edit, ofA, ofB⟩ := first.edit
  obtain ⟨other, ofB', ofC⟩ := second.edit
  obtain rfl : edit = other := Option.some.inj (ofB.symm.trans ofB')
  exact ⟨edit, ofA, ofC⟩

end Mutator

end MutationTesting

/-! Mutants under a filter of lines. Candidates are numbered before it is asked whether they are
mutants, so a filter takes some mutants away and leaves the names of the others alone. -/
namespace MutationTesting

namespace Walk

/-- The setting under a policy. -/
def Setting.under (setting : Setting) (policy : Policy) : Setting :=
  { setting with lines := { setting.lines with policy } }

variable (setting : Setting) (filter : LineFilter)

/-- A line is excluded under a filter if it is without one, or if it is of no interest. -/
theorem isExcluded_only (row : Nat) :
    (setting.under (.only filter)).lines.isExcluded row =
      ((setting.under .everyLine).lines.isExcluded row ||
        !filter setting.lines.file (row + 1)) := by
  simp [Setting.under, FileLines.isExcluded, FileLines.isFiltered, FileLines.line, Policy.only,
    Policy.everyLine]

/-- A candidate is a mutant under a filter if it is one without and stands on a line of
interest. -/
theorem mutant?_only (root : Node) (candidate : Candidate) :
    mutant? (setting.under (.only filter)) root candidate =
      (mutant? (setting.under .everyLine) root candidate).filter fun mutant =>
        filter setting.lines.file (mutant.id.row + 1) := by
  have samePicture : rendered? (setting.under (.only filter)) root candidate =
    rendered? (setting.under .everyLine) root candidate := rfl
  unfold mutant?
  simp only [isExcluded_only, samePicture]
  cases rendered : rendered? (setting.under .everyLine) root candidate with
  | none => simp
  | some mutant =>
    have named := (rendered?_spec rendered).1
    cases (setting.under .everyLine).lines.isExcluded candidate.register.row <;>
      cases isOfInterest : filter setting.lines.file (candidate.register.row + 1) <;>
      simp [Option.filter, named, isOfInterest]

theorem mutants_only (root : Node) :
    mutants (setting.under (.only filter)) root =
      (mutants (setting.under .everyLine) root).filter fun mutant =>
        filter setting.lines.file (mutant.id.row + 1) := by
  unfold mutants
  rw [List.filter_filterMap]
  exact congrArg (List.filterMap · _) (funext (mutant?_only setting filter root))

end Walk

namespace Mutator

variable (frontend : Frontend) (table : RuleTable) (filter : LineFilter) (file : Path)
  (source : String)

theorem mutants_only :
    mutants ⟨frontend, table, .only filter⟩ file source =
      (mutants ⟨frontend, table, .everyLine⟩ file source).map fun mutants =>
        mutants.filter fun mutant => filter file (mutant.id.row + 1) := by
  simp only [mutants_eq]
  cases frontend.parse file source with
  | error error => rfl
  | ok tree =>
    exact congrArg Except.ok
      (Walk.mutants_only (setting ⟨frontend, table, .everyLine⟩ file source tree) filter tree.root)

theorem find?_filter_id (wanted : MutantId → Bool) (id : MutantId) (mutants : List Mutant) :
    (mutants.filter fun mutant => wanted mutant.id).find? (·.id == id) =
      if wanted id then mutants.find? (·.id == id) else none := by
  induction mutants with
  | nil => simp
  | cons mutant rest ih =>
    by_cases named : mutant.id = id
    · subst named
      cases isWanted : wanted mutant.id <;> simp_all
    · have other : (mutant.id == id) = false := by simpa using named
      cases isWanted : wanted mutant.id <;> simp_all

/-- A name on a line of interest stands for the same mutant with and without the filter. -/
theorem find?_only (id : MutantId) :
    find? ⟨frontend, table, .only filter⟩ file source id =
      (find? ⟨frontend, table, .everyLine⟩ file source id).map fun found? =>
        if filter file (id.row + 1) then found? else none := by
  simp only [find?_eq, mutants_only]
  cases mutants ⟨frontend, table, .everyLine⟩ file source with
  | error error => rfl
  | ok whole =>
    exact congrArg Except.ok
      (find?_filter_id (fun id => filter file (id.row + 1)) id whole)

/-- A filter lets through the mutants on lines of interest, with their names and sources and in
their order. So a name that a run under a filter has noted stands for the same mutant when it is
looked up without the filter. -/
theorem filter_keeps_names :
    (mutants ⟨frontend, table, .only filter⟩ file source =
      (mutants ⟨frontend, table, .everyLine⟩ file source).map fun mutants =>
        mutants.filter fun mutant => filter file (mutant.id.row + 1)) ∧
    ∀ noted, ids ⟨frontend, table, .only filter⟩ file source = .ok noted → ∀ id ∈ noted,
      ∃ mutant, mutant.id = id ∧
        find? ⟨frontend, table, .only filter⟩ file source id = .ok (some mutant) ∧
        find? ⟨frontend, table, .everyLine⟩ file source id = .ok (some mutant) := by
  refine ⟨mutants_only frontend table filter file source, ?_⟩
  intro noted isNoted id member
  obtain ⟨mutant, named, found⟩ := find?_of_mem_ids isNoted member
  refine ⟨mutant, named, found, ?_⟩
  rw [find?_only] at found
  cases whole : find? ⟨frontend, table, .everyLine⟩ file source id with
  | error error => simp [whole, Except.map] at found
  | ok found? =>
    simp only [whole, Except.map, Except.ok.injEq, Option.ite_none_right_eq_some] at found
    rw [found.2]

end Mutator

end MutationTesting
