import MutationTesting.Proofs.Cache.Operations
/-! What a name leads to in a cache, before and after an operation. Registering adds untested mutants
where there are none; setting a status changes what one name leads to and nothing else, so the status
of any other mutant can be relied on as before. -/
namespace MutationTesting

theorem Path.same_iff {a b : Path} : a.same b = true ↔ a.components = b.components := by
  rw [same, beq_iff_eq]

namespace CachedLine

theorem isLineOf_congr {line : CachedLine} {id other : MutantId} (isLine : line.isLineOf id = true) :
    line.isLineOf other = true ↔ other.row = id.row ∧ other.line = id.line := by
  obtain ⟨row, text⟩ := isLineOf_iff.mp isLine
  rw [isLineOf_iff, row, text]
  exact and_congr eq_comm eq_comm

end CachedLine

namespace CacheData

open CachedLine (extended)

variable {data changed : CacheData} {path other : Path} {id name : MutantId}

/-- The mutant that a name names among the lines of a file. -/
def mutantIn? (lines : List CachedLine) (id : MutantId) : Option CachedMutant :=
  (lines.find? (·.isLineOf id)).bind (·.mutant? id.index)

theorem find?_linesOf (data : CacheData) (path : Path) (id : MutantId) :
    data.find? path id = mutantIn? (data.linesOf path) id := by
  unfold find? linesOf mutantIn?
  cases data.file? path <;> rfl

theorem hasLine_linesOf (data : CacheData) (path : Path) (id : MutantId) :
    data.hasLine path id = (data.linesOf path).any (·.isLineOf id) := by
  unfold hasLine linesOf
  cases data.file? path <;> rfl

/-- The texts and rows of the lines of a file. -/
def heads (data : CacheData) (path : Path) : List (String × Nat) :=
  (data.linesOf path).map fun line => (line.text, line.row)

theorem hasLine_of_heads {other : CacheData} (same : other.heads path = data.heads path)
    (id : MutantId) : other.hasLine path id = data.hasLine path id := by
  have shape (data : CacheData) : data.hasLine path id =
      (data.heads path).any fun head => head.2 == id.row && head.1 == id.line := by
    rw [hasLine_linesOf, heads, List.any_map]
    rfl
  rw [shape, shape, same]

section Paths

theorem file?_congr (same : path.same other = true) (data : CacheData) :
    data.file? path = data.file? other := by
  have components := Path.same_iff.mp same
  simp only [file?, Path.same, components]

theorem linesOf_congr (same : path.same other = true) (data : CacheData) :
    data.linesOf path = data.linesOf other := by
  simp only [linesOf, file?_congr same]

theorem heads_congr (same : path.same other = true) (data : CacheData) :
    data.heads path = data.heads other := by
  simp only [heads, linesOf_congr same]

theorem find?_congr (same : path.same other = true) (data : CacheData) (id : MutantId) :
    data.find? path id = data.find? other id := by
  simp only [find?_linesOf, linesOf_congr same]

theorem trustedStatus_congr (same : path.same other = true) (data : CacheData) (id : MutantId)
    (digest : String) : data.trustedStatus path id digest = data.trustedStatus other id digest := by
  simp only [trustedStatus, find?_congr same]

/-- A file that is put under a path does not get in the way of other paths. -/
theorem file?_setFile_of_not_same (apart : path.same other = false) (data : CacheData)
    (file : CachedFile) : (data.setFile path file).file? other = data.file? other := by
  simp only [setFile, file?]
  induction data.files with
  | nil => simp [putFile, apart]
  | cons entry rest ih =>
    obtain ⟨key, old⟩ := entry
    unfold putFile
    cases order : path.compare key with
    | lt => simp [apart]
    | eq =>
      have isKey := Path.same_iff.mp ((Path.compare_eq path key).mp order)
      have differs : key.same other = false := by
        rw [Path.same, isKey]
        exact apart
      simp [differs]
    | gt =>
      by_cases isOther : key.same other = true
      · simp [isOther]
      · simpa [isOther] using ih

end Paths

section Changes

variable {change : CachedLine → CachedLine}

theorem modifyLine?_split {lines changed : List CachedLine}
    (done : modifyLine? id change lines = some changed) :
    ∃ before line behind, lines = before ++ line :: behind ∧
      (∀ earlier ∈ before, earlier.isLineOf id = false) ∧ line.isLineOf id = true ∧
      changed = before ++ change line :: behind := by
  induction lines generalizing changed with
  | nil => simp [modifyLine?] at done
  | cons first rest ih =>
    unfold modifyLine? at done
    split at done
    · rename_i isLine
      obtain rfl := Option.some.inj done
      exact ⟨[], first, rest, rfl, by simp, isLine, rfl⟩
    · rename_i isOther
      obtain ⟨later, changedRest, rfl⟩ := Option.map_eq_some_iff.mp done
      obtain ⟨before, line, behind, rfl, others, isLine, rfl⟩ := ih changedRest
      refine ⟨first :: before, line, behind, rfl, ?_, isLine, rfl⟩
      exact List.forall_mem_cons.mpr ⟨by simpa using isOther, others⟩

theorem modifyLine?_isSome {lines : List CachedLine} :
    (modifyLine? id change lines).isSome = lines.any (·.isLineOf id) := by
  induction lines with
  | nil => rfl
  | cons first rest ih =>
    unfold modifyLine?
    split <;> simp_all

theorem changeLine?_of_hasLine (there : data.hasLine path id = true)
    (change : CachedLine → CachedLine) :
    ∃ changed, data.changeLine? path id change = some changed := by
  unfold hasLine at there
  split at there
  · rename_i file isFile
    have isSome : (modifyLine? id change file.lines).isSome = true := modifyLine?_isSome.trans there
    obtain ⟨lines, modified⟩ := Option.isSome_iff_exists.mp isSome
    exact ⟨data.setFile path ⟨lines⟩, by simp [changeLine?, isFile, modified]⟩
  · contradiction

/-- A file that has the line of a name gets a mutant of that name. -/
theorem add?_of_hasLine (there : data.hasLine path id = true) (status : Status)
    (digest? : Option String) : ∃ added, data.add? path id status digest? = some added := by
  obtain ⟨changed, isChanged⟩ := changeLine?_of_hasLine there fun line =>
    { line with mutants := line.mutants ++ [⟨data.nextNumber, id.index, status, digest?⟩] }
  exact ⟨_, Option.map_eq_some_iff.mpr ⟨changed, isChanged, rfl⟩⟩

theorem linesOf_changeLine? (done : data.changeLine? path id change = some changed) :
    ∃ before line behind, (∀ earlier ∈ before, earlier.isLineOf id = false) ∧
      line.isLineOf id = true ∧
      (∀ other : Path, other.same path = true → data.linesOf other = before ++ line :: behind ∧
        changed.linesOf other = before ++ change line :: behind) ∧
      ∀ other : Path, other.same path = false → changed.linesOf other = data.linesOf other := by
  simp only [changeLine?, Option.bind_eq_bind, Option.bind_eq_some_iff, Option.pure_def,
    Option.some.injEq] at done
  obtain ⟨file, isFile, lines, modified, rfl⟩ := done
  obtain ⟨before, line, behind, split, others, isLine, rfl⟩ := modifyLine?_split modified
  refine ⟨before, line, behind, others, isLine, fun other same => ⟨?_, ?_⟩, fun other apart => ?_⟩
  · rw [linesOf_congr same, linesOf, isFile, ← split]
  · rw [linesOf_congr same, linesOf, file?_setFile]
  · rw [Path.same_symm] at apart
    rw [linesOf, linesOf, file?_setFile_of_not_same apart]

/-- A change that leaves rows and texts of lines as they are. -/
def Stays (change : CachedLine → CachedLine) : Prop :=
  ∀ line, (change line).row = line.row ∧ (change line).text = line.text

theorem heads_changeLine? (stays : Stays change)
    (done : data.changeLine? path id change = some changed) (other : Path) :
    changed.heads other = data.heads other := by
  obtain ⟨before, line, behind, -, -, on, off⟩ := linesOf_changeLine? done
  unfold heads
  cases same : other.same path with
  | true =>
    obtain ⟨old, new⟩ := on other same
    simp [old, new, stays line]
  | false => rw [off other same]

/-- The line that is changed is the only one on which names may lead to other mutants. -/
theorem find?_changeLine? (stays : Stays change)
    (done : data.changeLine? path id change = some changed) :
    ∃ line : CachedLine, line.isLineOf id = true ∧
      (∀ name, line.isLineOf name = true → data.find? path name = line.mutant? name.index) ∧
      (∀ other name, other.same path = true → line.isLineOf name = true →
        changed.find? other name = (change line).mutant? name.index) ∧
      ∀ other name, ¬ (other.same path = true ∧ line.isLineOf name = true) →
        changed.find? other name = data.find? other name := by
  obtain ⟨before, line, behind, others, isLine, on, off⟩ := linesOf_changeLine? done
  have sameLine (name : MutantId) : (change line).isLineOf name = line.isLineOf name := by
    simp only [CachedLine.isLineOf, stays line]
  have none (name : MutantId) (isName : line.isLineOf name = true) :
      before.find? (·.isLineOf name) = none := by
    refine List.find?_eq_none.mpr fun earlier member isEarlier => ?_
    have isId : earlier.isLineOf id = true :=
      (CachedLine.isLineOf_congr isEarlier).mpr
        ((CachedLine.isLineOf_congr isName).mp isLine)
    rw [others earlier member] at isId
    contradiction
  have onLine {lines : List CachedLine} {found : CachedLine} {name : MutantId}
      (split : lines = before ++ found :: behind) (isFound : found.isLineOf name = true)
      (isName : line.isLineOf name = true) : mutantIn? lines name = found.mutant? name.index := by
    rw [split, mutantIn?, List.find?_append, none name isName, Option.none_or,
      List.find?_cons_of_pos (by exact isFound)]
    rfl
  refine ⟨line, isLine, fun name isName => ?_, fun other name isPath isName => ?_,
    fun other name notBoth => ?_⟩
  · rw [find?_linesOf, onLine (on path (Path.same_iff.mpr rfl)).1 isName isName]
  · rw [find?_linesOf, onLine (on other isPath).2 ((sameLine name).trans isName) isName]
  · rw [find?_linesOf, find?_linesOf]
    cases isPath : other.same path with
    | false => rw [off other isPath]
    | true =>
      have isOther : line.isLineOf name = false := by
        rw [← Bool.not_eq_true]
        exact fun isName => notBoth ⟨isPath, isName⟩
      obtain ⟨old, new⟩ := on other isPath
      rw [old, new, mutantIn?, mutantIn?, List.find?_append, List.find?_append,
        List.find?_cons_of_neg (by simp [sameLine, isOther]),
        List.find?_cons_of_neg (by simp [isOther])]

theorem sorted_changeLine? (sorted : Sorted data.files)
    (done : data.changeLine? path id change = some changed) : Sorted changed.files := by
  simp only [changeLine?, Option.bind_eq_bind, Option.bind_eq_some_iff, Option.pure_def,
    Option.some.injEq] at done
  obtain ⟨file, -, lines, -, rfl⟩ := done
  exact sorted.putFile path ⟨lines⟩

end Changes

/-- The name of a mutant of a file, whatever way its path is spelled. -/
def Names (path : Path) (id : MutantId) (other : Path) (name : MutantId) : Prop :=
  other.same path = true ∧ name = id

/-- A mutant that is added is found under its name if there was none. -/
theorem find?_add? {status : Status} {digest? : Option String}
    (done : data.add? path id status digest? = some changed) :
    (∀ other name, Names path id other name → changed.find? other name =
      (data.find? path id).or (some ⟨data.nextNumber, id.index, status, digest?⟩)) ∧
    ∀ other name, ¬ Names path id other name →
      changed.find? other name = data.find? other name := by
  obtain ⟨between, isChanged, rfl⟩ := Option.map_eq_some_iff.mp done
  obtain ⟨line, isLine, was, on, off⟩ := find?_changeLine? (fun _ => ⟨by rfl, by rfl⟩) isChanged
  refine ⟨?_, fun other name notNamed => ?_⟩
  · rintro other name ⟨isPath, rfl⟩
    refine (on other name isPath isLine).trans ?_
    rw [was name isLine]
    simp [CachedLine.mutant?, List.find?_append]
  · by_cases both : other.same path = true ∧ line.isLineOf name = true
    · obtain ⟨isPath, isName⟩ := both
      refine (on other name isPath isName).trans ?_
      rw [find?_congr isPath, was name isName]
      have differs : id.index ≠ name.index := by
        intro same
        obtain ⟨row, text⟩ := (CachedLine.isLineOf_congr isLine).mp isName
        refine notNamed ⟨isPath, ?_⟩
        cases id
        cases name
        simp_all
      simp [CachedLine.mutant?, List.find?_append, differs]
    · exact off other name both

theorem heads_add? {status : Status} {digest? : Option String}
    (done : data.add? path id status digest? = some changed) (other : Path) :
    changed.heads other = data.heads other := by
  obtain ⟨between, isChanged, rfl⟩ := Option.map_eq_some_iff.mp done
  exact heads_changeLine? (fun _ => ⟨by rfl, by rfl⟩) isChanged other

theorem sorted_add? (sorted : Sorted data.files) {status : Status} {digest? : Option String}
    (done : data.add? path id status digest? = some changed) : Sorted changed.files := by
  obtain ⟨between, isChanged, rfl⟩ := Option.map_eq_some_iff.mp done
  have isSorted : Sorted between.files := sorted_changeLine? sorted isChanged
  exact isSorted

theorem mutant?_restate (index : Nat) (status : Status) (digest : String) (line : CachedLine)
    (place : Nat) :
    (restate index status digest line).mutant? place =
      if place = index then
        (line.mutant? index).map fun mutant => { mutant with status, digest? := some digest }
      else line.mutant? place := by
  simp only [restate, CachedLine.mutant?]
  induction line.mutants with
  | nil => simp
  | cons first rest ih =>
    by_cases isFirst : first.index = index
    · by_cases isPlace : place = index
      · simp [List.findIdx_cons, isFirst, isPlace]
      · have isOther : (index == place) = false := beq_false_of_ne (Ne.symm isPlace)
        simp [List.findIdx_cons, isFirst, isPlace, isOther]
    · rw [List.findIdx_cons, beq_false_of_ne isFirst, cond_false, List.modify_succ_cons,
        List.find?_cons]
      by_cases atPlace : first.index = place
      · have isOther : place ≠ index := fun same => isFirst (atPlace.trans same)
        simp [isOther, atPlace]
      · rw [beq_false_of_ne atPlace, List.find?_cons, List.find?_cons, beq_false_of_ne isFirst,
          beq_false_of_ne atPlace]
        exact ih

/-- A status is found under the name that it is set for, and nothing else is found otherwise than
before. -/
theorem find?_setStatus {status : Status} {digest : String}
    (done : data.setStatus path id status digest = .ok changed) :
    (∀ other name, Names path id other name → changed.find? other name =
      some ⟨(data.number? path id).getD data.nextNumber, id.index, status, some digest⟩) ∧
    ∀ other name, ¬ Names path id other name →
      changed.find? other name = data.find? other name := by
  unfold setStatus at done
  dsimp only at done
  split at done
  · rename_i after isChanged
    obtain rfl := Except.ok.inj done
    split at isChanged
    · rename_i lacks
      have none : data.find? path id = none := Option.isNone_iff_eq_none.mp lacks
      obtain ⟨on, off⟩ := find?_add? isChanged
      refine ⟨fun other name named => ?_, off⟩
      rw [on other name named, number?, none]
      rfl
    · rename_i there
      obtain ⟨line, isLine, was, on, off⟩ :=
        find?_changeLine? (fun _ => ⟨by rfl, by rfl⟩) isChanged
      refine ⟨?_, fun other name notNamed => ?_⟩
      · rintro other name ⟨isPath, rfl⟩
        rw [on other name isPath isLine, mutant?_restate, if_pos rfl, number?, was name isLine]
        cases found : line.mutant? name.index with
        | none => simp [CacheData.lacks, was name isLine, found] at there
        | some mutant =>
          have index : mutant.index = name.index := by simpa using List.find?_some found
          simp [index]
      · by_cases both : other.same path = true ∧ line.isLineOf name = true
        · obtain ⟨isPath, isName⟩ := both
          rw [on other name isPath isName, mutant?_restate, if_neg, find?_congr isPath,
            was name isName]
          intro same
          obtain ⟨row, text⟩ := (CachedLine.isLineOf_congr isLine).mp isName
          refine notNamed ⟨isPath, ?_⟩
          cases id
          cases name
          simp_all
        · exact off other name both
  · contradiction

/-- The status that has been set can be relied on with the tests that it was set for, and any other
status as before. -/
theorem trustedStatus_setStatus {status : Status} {digest : String}
    (done : data.setStatus path id status digest = .ok changed) :
    (∀ other name, Names path id other name → changed.trustedStatus other name digest = status) ∧
    ∀ other name further, ¬ Names path id other name →
      changed.trustedStatus other name further = data.trustedStatus other name further := by
  obtain ⟨on, off⟩ := find?_setStatus done
  refine ⟨fun other name named => ?_, fun other name further notNamed => ?_⟩
  · unfold trustedStatus
    rw [on other name named]
    cases status <;> simp
  · unfold trustedStatus
    rw [off other name notNamed]

section Registering

/-- What each addition of an untested mutant keeps is kept by registering names. -/
theorem register_rule (holds : CacheData → Prop) (start : holds data)
    {ids : List MutantId}
    (adds : ∀ id ∈ ids, ∀ before after, holds before → before.lacks path id = true →
      before.add? path id .untested none = some after → holds after) :
    holds (data.register path ids).2 := by
  induction ids generalizing data with
  | nil => exact start
  | cons id rest ih =>
    obtain ⟨addsFirst, addsOthers⟩ := List.forall_mem_cons.mp adds
    unfold register
    split
    · exact start
    · split
      · rename_i lacks
        cases added : data.add? path id .untested none with
        | none => exact start
        | some after => exact ih (addsFirst data after start lacks added) addsOthers
      · exact ih start addsOthers

theorem heads_register (data : CacheData) (path : Path) (ids : List MutantId) (other : Path) :
    (data.register path ids).2.heads other = data.heads other :=
  register_rule (fun after => after.heads other = data.heads other) rfl
    fun _ _ _ _ same _ added => (heads_add? added other).trans same

theorem hasLine_register (data : CacheData) (path : Path) (ids : List MutantId) (other : Path)
    (name : MutantId) : (data.register path ids).2.hasLine other name = data.hasLine other name :=
  hasLine_of_heads (heads_register data path ids other) name

theorem sorted_register (sorted : Sorted data.files) (path : Path) (ids : List MutantId) :
    Sorted (data.register path ids).2.files :=
  register_rule (fun after => Sorted after.files) sorted
    fun _ _ _ _ sorted _ added => sorted_add? sorted added

/-- What was found before names were registered is found behind; what is new has one of the names and
is untested. -/
theorem find?_register (data : CacheData) (path : Path) (ids : List MutantId) (other : Path)
    (name : MutantId) :
    (data.register path ids).2.find? other name = data.find? other name ∨
      data.find? other name = none ∧ other.same path = true ∧ name ∈ ids ∧
        ∃ mutant, (data.register path ids).2.find? other name = some mutant ∧
          mutant.status = .untested := by
  refine register_rule (fun after => after.find? other name = data.find? other name ∨
    data.find? other name = none ∧ other.same path = true ∧ name ∈ ids ∧
      ∃ mutant, after.find? other name = some mutant ∧ mutant.status = .untested) (.inl rfl) ?_
  intro id isNew before after held lacks added
  obtain ⟨on, off⟩ := find?_add? added
  by_cases named : Names path id other name
  · have none : before.find? other name = none := by
      rw [find?_congr named.1, named.2]
      exact Option.isNone_iff_eq_none.mp lacks
    obtain same | ⟨-, -, -, mutant, found, -⟩ := held
    · have new := on other name named
      rw [← named.2, ← find?_congr named.1, none, Option.none_or] at new
      exact .inr ⟨same.symm.trans none, named.1, named.2 ▸ isNew, _, new, rfl⟩
    · simp [none] at found
  · rw [off other name named]
    exact held

theorem trustedStatus_register (data : CacheData) (path : Path) (ids : List MutantId) (other : Path)
    (name : MutantId) (digest : String) :
    (data.register path ids).2.trustedStatus other name digest =
      data.trustedStatus other name digest := by
  unfold trustedStatus
  obtain same | ⟨none, -, -, mutant, found, untested⟩ := find?_register data path ids other name
  · rw [same]
  · rw [none, found]
    simp [untested]

/-- The names up to the first one whose line is not there have their mutants. -/
def Registered (data : CacheData) (path : Path) (ids : List MutantId) : Prop :=
  ∀ id ∈ ids.takeWhile (data.hasLine path), data.lacks path id = false

/-- Whether the lines of all names are there, or for which name this is not so. -/
def verdict (data : CacheData) (path : Path) (ids : List MutantId) : Except Error Unit :=
  match ids.find? fun id => !data.hasLine path id with
  | some id => .error (lineError path id)
  | none => .ok ()

theorem lacks_register (there : data.lacks other name = false) (path : Path)
    (ids : List MutantId) : (data.register path ids).2.lacks other name = false := by
  unfold lacks at there ⊢
  obtain same | ⟨none, -⟩ := find?_register data path ids other name
  · rwa [same]
  · simp [none] at there

theorem register_fst (data : CacheData) (path : Path) (ids : List MutantId) :
    (data.register path ids).1 = data.verdict path ids := by
  induction ids generalizing data with
  | nil => rfl
  | cons id rest ih =>
    unfold register verdict
    cases hasLine : data.hasLine path id with
    | false => simp [hasLine]
    | true =>
      have later : data.verdict path (id :: rest) = data.verdict path rest := by
        simp [verdict, hasLine]
      simp only [Bool.not_true, Bool.false_eq_true, if_false]
      split
      · obtain ⟨added, isAdded⟩ := add?_of_hasLine hasLine .untested none
        have lines := hasLine_of_heads (heads_add? isAdded path)
        rw [isAdded]
        refine (ih added).trans ?_
        simp only [verdict, lines]
        simp [hasLine]
      · exact (ih data).trans later.symm

theorem registered_register (data : CacheData) (path : Path) (ids : List MutantId) :
    (data.register path ids).2.Registered path ids := by
  unfold Registered
  rw [show (data.register path ids).2.hasLine path = data.hasLine path from
    funext fun name => hasLine_register data path ids path name]
  induction ids generalizing data with
  | nil => simp
  | cons id rest ih =>
    unfold register
    cases hasLine : data.hasLine path id with
    | false => simp [hasLine]
    | true =>
      simp only [Bool.not_true, Bool.false_eq_true, if_false]
      rw [List.takeWhile_cons_of_pos hasLine]
      split
      · obtain ⟨added, isAdded⟩ := add?_of_hasLine hasLine .untested none
        have lines := hasLine_of_heads (heads_add? isAdded path)
        have further := ih added
        rw [show added.hasLine path = data.hasLine path from funext lines] at further
        rw [isAdded]
        have isThere : added.lacks path id = false := by
          rw [lacks, (find?_add? isAdded).1 path id ⟨Path.same_iff.mpr rfl, rfl⟩]
          cases data.find? path id <;> rfl
        exact List.forall_mem_cons.mpr ⟨lacks_register isThere path rest, further⟩
      · rename_i there
        exact List.forall_mem_cons.mpr ⟨lacks_register (by simpa using there) path rest, ih data⟩

theorem register_of_registered {ids : List MutantId} (registered : data.Registered path ids) :
    data.register path ids = (data.verdict path ids, data) := by
  refine Prod.ext (register_fst data path ids) ?_
  induction ids with
  | nil => rfl
  | cons id rest ih =>
    unfold register
    cases hasLine : data.hasLine path id with
    | false => simp
    | true =>
      unfold Registered at registered
      rw [List.takeWhile_cons_of_pos hasLine] at registered
      obtain ⟨there, registered⟩ := List.forall_mem_cons.mp registered
      simp only [Bool.not_true, Bool.false_eq_true, if_false, there]
      exact ih registered

/-- What is registered depends on the lines that are there and on the mutants that are lacking. -/
theorem Registered.transfer {other : CacheData} {ids : List MutantId}
    (registered : data.Registered path ids) (same : other.heads path = data.heads path)
    (there : ∀ id, data.lacks path id = false → other.lacks path id = false) :
    other.Registered path ids := by
  unfold Registered
  rw [show other.hasLine path = data.hasLine path from funext (hasLine_of_heads same)]
  exact fun id member => there id (registered id member)

theorem verdict_of_heads {other : CacheData} (same : other.heads path = data.heads path)
    (ids : List MutantId) : other.verdict path ids = data.verdict path ids := by
  simp only [verdict, hasLine_of_heads same]

end Registering

end CacheData

end MutationTesting
