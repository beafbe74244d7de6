import MutationTesting.Cache.Basic
/-! What a cache knows of a file. A status that is not that of an untested mutant got there under
the name of its mutant, and it stays with the text of its line and its place on it while the line
moves. -/
namespace MutationTesting

namespace Component

theorem compare_eq (a b : Component) : a.compare b = .eq ↔ a = b := by
  cases a <;> cases b <;> simp [compare, rank]

end Component

namespace Path

theorem compareComponents_eq (as bs : List Component) : compareComponents as bs = .eq ↔ as = bs := by
  induction as generalizing bs with
  | nil => cases bs <;> simp [compareComponents]
  | cons a as ih =>
    cases bs with
    | nil => simp [compareComponents]
    | cons b bs => simp [compareComponents, Ordering.then_eq_eq, Component.compare_eq, ih]

theorem compare_eq (a b : Path) : a.compare b = .eq ↔ b.same a = true := by
  rw [compare, compareComponents_eq, same, beq_iff_eq, eq_comm]

end Path

namespace CachedLine

/-- Every status on a line, but for that of untested mutants, is that of a mutant whose name has a
property. -/
def Known (told : MutantId → Prop) (line : CachedLine) : Prop :=
  ∀ mutant ∈ line.mutants, mutant.status ≠ .untested → told (line.idOf mutant)

variable {told : MutantId → Prop} {line : CachedLine}

theorem known_fresh (text : String) (row : Nat) : (fresh text row).Known told :=
  fun _ member => absurd member List.not_mem_nil

/-- A line that has moved still knows what it knew, if it does not matter on which row that was. -/
theorem Known.move (known : line.Known told)
    (anyRow : ∀ id row, told id → told { id with row }) (row : Nat) :
    Known told { line with row } :=
  fun mutant member tested => anyRow _ row (known mutant member tested)

theorem Known.mono {further : MutantId → Prop} (known : line.Known told)
    (weaker : ∀ id, told id → further id) : line.Known further :=
  fun mutant member tested => weaker _ (known mutant member tested)

theorem isLineOf_iff {id : MutantId} :
    line.isLineOf id = true ↔ line.row = id.row ∧ line.text = id.line := by
  simp [isLineOf]

theorem idOf_eq {id : MutantId} {mutant : CachedMutant} (isLine : line.isLineOf id = true)
    (index : mutant.index = id.index) : line.idOf mutant = id := by
  obtain ⟨row, text⟩ := isLineOf_iff.mp isLine
  simp [idOf, row, text, index]

end CachedLine

namespace CacheData

variable {told : MutantId → Prop} {data : CacheData} {path : Path} {id : MutantId}

theorem file?_setFile (data : CacheData) (path : Path) (file : CachedFile) :
    (data.setFile path file).file? path = some file := by
  have same : path.same path = true := by simp [Path.same]
  simp only [setFile, file?]
  induction data.files with
  | nil => simp [putFile, same]
  | cons entry rest ih =>
    obtain ⟨other, old⟩ := entry
    unfold putFile
    cases order : path.compare other with
    | lt => simp [same]
    | eq => simp [(Path.compare_eq path other).mp order]
    | gt =>
      have differs : other.same path = false := by
        rw [← Bool.not_eq_true, ← Path.compare_eq, order]
        simp
      simpa [differs] using ih

/-- What a cache knows of a file is known of each of its lines. -/
def Known (told : MutantId → Prop) (data : CacheData) (path : Path) : Prop :=
  ∀ file, data.file? path = some file → ∀ line ∈ file.lines, line.Known told

theorem Known.mono {further : MutantId → Prop} (known : data.Known told path)
    (weaker : ∀ id, told id → further id) : data.Known further path :=
  fun file found line member => (known file found line member).mono weaker

theorem known_setFile {file : CachedFile} (known : ∀ line ∈ file.lines, line.Known told) :
    (data.setFile path file).Known told path := by
  intro found isFile
  rw [file?_setFile] at isFile
  exact Option.some.inj isFile ▸ known

theorem Known.of_trustedStatus (known : data.Known told path) {digest : String}
    (trusted : data.trustedStatus path id digest ≠ .untested) : told id := by
  unfold trustedStatus at trusted
  cases found : data.find? path id with
  | none => simp [found] at trusted
  | some mutant =>
    simp only [find?, Option.bind_eq_bind, Option.bind_eq_some_iff] at found
    obtain ⟨file, isFile, line, isLine, isMutant⟩ := found
    have index : mutant.index = id.index := by simpa using List.find?_some isMutant
    have isNamed := List.find?_some isLine
    have name := CachedLine.idOf_eq isNamed index
    have tested : mutant.status ≠ .untested := by
      intro untested
      simp [CacheData.find?, isFile, isLine, isMutant, untested] at trusted
    exact name ▸ known file isFile line (List.mem_of_find?_eq_some isLine) mutant
      (List.mem_of_find?_eq_some isMutant) tested

section Changes

variable {change : CachedLine → CachedLine}

theorem mem_of_modifyLine? {lines changed : List CachedLine}
    (done : modifyLine? id change lines = some changed) {line : CachedLine}
    (member : line ∈ changed) :
    line ∈ lines ∨ ∃ old ∈ lines, old.isLineOf id = true ∧ line = change old := by
  induction lines generalizing changed with
  | nil => simp [modifyLine?] at done
  | cons first rest ih =>
    unfold modifyLine? at done
    split at done
    · rename_i isLine
      obtain rfl := Option.some.inj done
      obtain rfl | member := List.mem_cons.mp member
      · exact .inr ⟨first, List.mem_cons_self, isLine, rfl⟩
      · exact .inl (List.mem_cons_of_mem _ member)
    · obtain ⟨later, changedRest, rfl⟩ := Option.map_eq_some_iff.mp done
      obtain rfl | member := List.mem_cons.mp member
      · exact .inl List.mem_cons_self
      · obtain kept | ⟨old, isOld, isLine⟩ := ih changedRest member
        · exact .inl (List.mem_cons_of_mem _ kept)
        · exact .inr ⟨old, List.mem_cons_of_mem _ isOld, isLine⟩

theorem Known.changeLine? (known : data.Known told path) {changed : CacheData}
    (kept : ∀ line : CachedLine, line.isLineOf id = true → line.Known told → (change line).Known told)
    (done : data.changeLine? path id change = some changed) : changed.Known told path := by
  simp only [CacheData.changeLine?, Option.bind_eq_bind, Option.bind_eq_some_iff, Option.pure_def,
    Option.some.injEq] at done
  obtain ⟨file, isFile, lines, modified, rfl⟩ := done
  refine known_setFile fun line member => ?_
  obtain member | ⟨old, isOld, isLine, rfl⟩ := mem_of_modifyLine? modified member
  · exact known file isFile line member
  · exact kept old isLine (known file isFile old isOld)

end Changes

theorem Known.add? (known : data.Known told path) {status : Status} {digest? : Option String}
    (isTold : status ≠ .untested → told id) {added : CacheData}
    (done : data.add? path id status digest? = some added) : added.Known told path := by
  obtain ⟨changed, isChanged, rfl⟩ := Option.map_eq_some_iff.mp done
  have kept (line : CachedLine) (isLine : line.isLineOf id = true) (known : line.Known told) :
      CachedLine.Known told
        { line with mutants := line.mutants ++ [⟨data.nextNumber, id.index, status, digest?⟩] } := by
    intro mutant member tested
    obtain member | member := List.mem_append.mp member
    · exact known mutant member tested
    · obtain rfl := List.mem_singleton.mp member
      have name : line.idOf ⟨data.nextNumber, id.index, status, digest?⟩ = id :=
        CachedLine.idOf_eq isLine rfl
      exact name ▸ isTold tested
  have known : changed.Known told path := known.changeLine? kept isChanged
  exact known

/-- A name of which the cache does not have a mutant gets one that is untested. -/
theorem Known.register (known : data.Known told path) (ids : List MutantId) :
    (data.register path ids).2.Known told path := by
  induction ids generalizing data with
  | nil => exact known
  | cons id rest ih =>
    unfold CacheData.register
    split
    · exact known
    · split
      · cases added : data.add? path id .untested none with
        | none => exact known
        | some data => exact ih (known.add? (fun tested => absurd rfl tested) added)
      · exact ih known

theorem mem_modify {α : Type} {f : α → α} {i : Nat} {items : List α} {item : α}
    (member : item ∈ items.modify i f) :
    item ∈ items ∨ ∃ h : i < items.length, item = f items[i] := by
  obtain ⟨j, inside, rfl⟩ := List.getElem_of_mem member
  rw [List.getElem_modify]
  rw [List.length_modify] at inside
  split
  · rename_i same
    subst same
    exact .inr ⟨inside, rfl⟩
  · exact .inl (List.getElem_mem inside)

theorem known_restate {line : CachedLine} (isLine : line.isLineOf id = true) (known : line.Known told)
    (isTold : told id) (status : Status) (digest : String) :
    (restate id.index status digest line).Known told := by
  intro mutant member tested
  obtain member | ⟨inside, rfl⟩ := mem_modify member
  · exact known mutant member tested
  · have index := List.findIdx_getElem (w := inside)
    have name : line.idOf line.mutants[line.mutants.findIdx (·.index == id.index)] = id :=
      CachedLine.idOf_eq isLine (by simpa using index)
    rw [← name] at isTold
    exact isTold

theorem Known.setStatus (known : data.Known told path) (isTold : told id) {status : Status}
    {digest : String} {changed : CacheData}
    (done : data.setStatus path id status digest = .ok changed) : changed.Known told path := by
  unfold CacheData.setStatus at done
  dsimp only at done
  split at done
  · rename_i data added
    obtain rfl := Except.ok.inj done
    split at added
    · exact known.add? (fun _ => isTold) added
    · exact known.changeLine? (fun line isLine known => known_restate isLine known isTold _ _) added
  · contradiction

theorem known_alignChange {old : Array CachedLine} {current : Array String}
    (known : ∀ line ∈ old, line.Known told) (anyRow : ∀ id row, told id → told { id with row })
    (change : Diff.Change) : ∀ line ∈ alignChange old current change, line.Known told := by
  intro line member
  unfold alignChange at member
  split at member
  · obtain ⟨k, -, moved⟩ := List.mem_filterMap.mp member
    obtain ⟨stays, isOld, rfl⟩ := Option.map_eq_some_iff.mp moved
    exact (known stays (Array.mem_of_getElem? isOld)).move anyRow _
  · contradiction
  all_goals
    obtain ⟨k, -, isNew⟩ := List.mem_filterMap.mp member
    obtain ⟨text, -, rfl⟩ := Option.map_eq_some_iff.mp isNew
    exact CachedLine.known_fresh text _

theorem known_realign {old : List CachedLine} (known : ∀ line ∈ old, line.Known told)
    (anyRow : ∀ id row, told id → told { id with row }) (rows : List String) :
    ∀ line ∈ realign old rows, line.Known told := by
  intro line member
  unfold realign at member
  split at member
  · obtain ⟨row, inside, rfl⟩ := List.mem_mapIdx.mp member
    exact CachedLine.known_fresh _ row
  · obtain ⟨change, -, member⟩ := List.mem_flatMap.mp member
    exact known_alignChange (fun line member => known line (by simpa using member)) anyRow change line
      member

/-- Whatever has become of a file, what the cache knows of it was known before. -/
theorem Known.updateLines (known : data.Known told path)
    (anyRow : ∀ id row, told id → told { id with row }) (source : String) :
    (data.updateLines path source).Known told path := by
  refine known_setFile (known_realign (fun line member => ?_) anyRow (Text.rows source))
  split at member
  · rename_i file isFile
    exact known file isFile line member
  · contradiction

end CacheData

end MutationTesting
