import Mathlib.Data.List.Nodup
import Mathlib.Data.List.Perm.Basic
import MutationTesting.Proofs.Cache.Operations
/-! What a cache in order answers. A number leads to the mutant that has it and to no other one, the
name of that mutant leads back to the number, and the entries list each mutant once, in order. -/
namespace MutationTesting

namespace CacheEntry

/-- An entry stands before another one: in an earlier file, on an earlier row, or at an earlier place
of the row. -/
def Before (a b : CacheEntry) : Prop :=
  a.file.Before b.file ∨
    a.file = b.file ∧ (a.id.row < b.id.row ∨ a.id.row = b.id.row ∧ a.id.index < b.id.index)

end CacheEntry

namespace CacheData

/-- The mutants of all files, each with its file and its line. -/
def mutants (data : CacheData) : List (Path × CachedLine × CachedMutant) :=
  data.files.flatMap fun entry => entry.2.lines.flatMap fun line =>
    line.mutants.map fun mutant => (entry.1, line, mutant)

/-- The numbers of all mutants. -/
def numbers (data : CacheData) : List Nat :=
  data.mutants.map fun found => found.2.2.number

/-- A mutant as it is listed. -/
def entryOf (found : Path × CachedLine × CachedMutant) : CacheEntry :=
  ⟨found.2.2.number, found.1, found.2.1.idOf found.2.2, found.2.2.status⟩

variable {data : CacheData} {path : Path} {line : CachedLine} {mutant : CachedMutant}

theorem mem_mutants : (path, line, mutant) ∈ data.mutants ↔ data.Has path line mutant := by
  simp only [mutants, List.mem_flatMap, List.mem_map, Prod.mk.injEq]
  constructor
  · rintro ⟨⟨key, file⟩, isFile, other, isLine, found, isMutant, rfl, rfl, rfl⟩
    exact ⟨file, isFile, isLine, isMutant⟩
  · rintro ⟨file, isFile, isLine, isMutant⟩
    exact ⟨(path, file), isFile, line, isLine, mutant, isMutant, rfl, rfl, rfl⟩

theorem numbers_eq (data : CacheData) :
    data.numbers = data.files.flatMap fun entry => CachedLine.numbers entry.2.lines := by
  simp [numbers, mutants, CachedLine.numbers, List.map_flatMap, Function.comp_def]

theorem Sound.numbers_nodup (sound : data.Sound) : data.numbers.Nodup := by
  rw [numbers_eq]
  exact List.nodup_flatMap.mpr
    ⟨fun entry member => (sound.numbered entry member).distinct, sound.apart⟩

theorem Sound.numbers_lt (sound : data.Sound) : ∀ number ∈ data.numbers, number < data.nextNumber := by
  intro number member
  rw [numbers_eq] at member
  obtain ⟨entry, isFile, isNumber⟩ := List.mem_flatMap.mp member
  exact (sound.numbered entry isFile).below number isNumber

theorem Sound.unique (sound : data.Sound) {other : Path} {line' : CachedLine}
    {mutant' : CachedMutant} (has : data.Has path line mutant) (has' : data.Has other line' mutant')
    (same : mutant.number = mutant'.number) :
    (path, line, mutant) = (other, line', mutant') :=
  List.inj_on_of_nodup_map sound.numbers_nodup (mem_mutants.mpr has) (mem_mutants.mpr has') same

/-- The item of a list that has a property is found if there is one such item only. -/
theorem find?_of_unique {α : Type} {items : List α} {test : α → Bool} {item : α}
    (member : item ∈ items) (holds : test item = true)
    (unique : ∀ other ∈ items, test other = true → other = item) :
    items.find? test = some item := by
  cases found : items.find? test with
  | none => exact absurd holds (List.find?_eq_none.mp found item member)
  | some other => rw [unique other (List.mem_of_find?_eq_some found) (List.find?_some found)]

/-- The name of a mutant leads to it, however the path of its file is spelled. -/
theorem Sound.find?_eq (sound : data.Sound) (has : data.Has path line mutant) {name : Path}
    (isPath : path.same name = true) : data.find? name (line.idOf mutant) = some mutant := by
  obtain ⟨file, isFile, isLine, isMutant⟩ := has
  have numbered := sound.numbered _ isFile
  have foundFile : data.file? name = some file := by
    rw [file?, sound.sorted.find?_eq isFile isPath]
    rfl
  have foundLine : file.lines.find? (·.isLineOf (line.idOf mutant)) = some line := by
    have rows : (file.lines.map CachedLine.row).Nodup := numbered.rows ▸ List.nodup_range
    refine find?_of_unique isLine (CachedLine.isLineOf_iff.mpr ⟨rfl, rfl⟩) fun other isOther same => ?_
    exact List.inj_on_of_nodup_map rows isOther isLine (CachedLine.isLineOf_iff.mp same).1
  have foundMutant : line.mutant? mutant.index = some mutant := by
    refine find?_of_unique isMutant (beq_self_eq_true _) fun other isOther same => ?_
    exact List.inj_on_of_nodup_map (numbered.places line isLine) isOther isMutant
      (eq_of_beq same)
  simp only [find?, foundFile, Option.bind_eq_bind, Option.bind_some, foundLine]
  exact foundMutant

theorem has_of_find? {id : MutantId} (found : data.find? path id = some mutant) :
    ∃ key line, key.same path = true ∧ data.Has key line mutant ∧ line.idOf mutant = id := by
  simp only [find?, Option.bind_eq_bind, Option.bind_eq_some_iff] at found
  obtain ⟨file, isFile, line, isLine, isMutant⟩ := found
  unfold CachedLine.mutant? at isMutant
  obtain ⟨⟨key, _⟩, foundFile, rfl⟩ := Option.map_eq_some_iff.mp isFile
  have isKey := List.find?_some foundFile
  have isNamed := List.find?_some isLine
  have isPlace := List.find?_some isMutant
  exact ⟨key, line, isKey,
    ⟨_, List.mem_of_find?_eq_some foundFile, List.mem_of_find?_eq_some isLine,
      List.mem_of_find?_eq_some isMutant⟩,
    CachedLine.idOf_eq isNamed (eq_of_beq isPlace)⟩

theorem has_of_lookup {number : Nat} {id : MutantId} (found : data.lookup number = .ok (path, id)) :
    ∃ line mutant, data.Has path line mutant ∧ mutant.number = number ∧ line.idOf mutant = id := by
  unfold lookup at found
  split at found
  · rename_i isFound
    obtain rfl := Except.ok.inj found
    obtain ⟨⟨key, file⟩, isFile, isFound⟩ := List.exists_of_findSome?_eq_some isFound
    obtain ⟨id', inFile, same⟩ := Option.map_eq_some_iff.mp isFound
    obtain ⟨rfl, rfl⟩ := Prod.mk.inj same
    obtain ⟨line, isLine, onLine⟩ := List.exists_of_findSome?_eq_some inFile
    obtain ⟨mutant, isMutant, rfl⟩ := Option.map_eq_some_iff.mp onLine
    have isNumber := List.find?_some isMutant
    exact ⟨line, mutant, ⟨file, isFile, isLine, List.mem_of_find?_eq_some isMutant⟩,
      eq_of_beq isNumber, rfl⟩
  · contradiction

theorem lookup_isOk (has : data.Has path line mutant) :
    ∃ found, data.lookup mutant.number = .ok found := by
  obtain ⟨file, isFile, isLine, isMutant⟩ := has
  unfold lookup
  split
  · exact ⟨_, rfl⟩
  · rename_i none
    have notInFile := Option.map_eq_none_iff.mp (List.findSome?_eq_none_iff.mp none _ isFile)
    have notOnLine := Option.map_eq_none_iff.mp (List.findSome?_eq_none_iff.mp notInFile line isLine)
    exact absurd (beq_self_eq_true _) (List.find?_eq_none.mp notOnLine mutant isMutant)

theorem Sound.lookup_eq (sound : data.Sound) (has : data.Has path line mutant) :
    data.lookup mutant.number = .ok (path, line.idOf mutant) := by
  obtain ⟨⟨other, id⟩, found⟩ := lookup_isOk has
  obtain ⟨line', mutant', has', same, rfl⟩ := has_of_lookup found
  cases sound.unique has' has same
  exact found

theorem Sound.number?_of_lookup (sound : data.Sound) {number : Nat} {id : MutantId}
    (found : data.lookup number = .ok (path, id)) : data.number? path id = some number := by
  obtain ⟨line, mutant, has, rfl, rfl⟩ := has_of_lookup found
  rw [number?, sound.find?_eq has (by simp [Path.same])]
  rfl

theorem Sound.lookup_of_number? (sound : data.Sound) {number : Nat} {id : MutantId}
    (found : data.number? path id = some number) :
    ∃ key, key.same path = true ∧ data.lookup number = .ok (key, id) := by
  obtain ⟨mutant, isMutant, rfl⟩ := Option.map_eq_some_iff.mp found
  obtain ⟨key, line, isKey, has, rfl⟩ := has_of_find? isMutant
  exact ⟨key, isKey, sound.lookup_eq has⟩

theorem lineEntries_eq (path : Path) (line : CachedLine) :
    lineEntries path line =
      (line.mutants.mergeSort fun a b => a.index ≤ b.index).map fun mutant =>
        entryOf (path, line, mutant) :=
  rfl

theorem lineEntries_perm (path : Path) (line : CachedLine) :
    (lineEntries path line).Perm (line.mutants.map fun mutant => entryOf (path, line, mutant)) :=
  (List.mergeSort_perm _ _).map _

theorem entries_perm (data : CacheData) : data.entries.Perm (data.mutants.map entryOf) := by
  simp only [entries, mutants, List.map_flatMap, List.map_map]
  refine List.Perm.flatMap_left _ fun entry _ => List.Perm.flatMap_left _ fun line _ => ?_
  exact lineEntries_perm entry.1 line

/-- The mutants of a line that has one at most for a place are listed by their places. -/
theorem lineEntries_ordered (path : Path)
    (places : (line.mutants.map CachedMutant.index).Nodup) :
    (lineEntries path line).Pairwise CacheEntry.Before := by
  rw [lineEntries_eq, List.pairwise_map]
  have sorted : (line.mutants.mergeSort fun a b => a.index ≤ b.index).Pairwise fun a b =>
      a.index ≤ b.index := by
    refine List.Pairwise.imp of_decide_eq_true
      (List.pairwise_mergeSort (fun a b c => ?_) (fun a b => ?_) line.mutants)
    · simpa using Nat.le_trans
    · simpa using Nat.le_total a.index b.index
  have apart : (line.mutants.mergeSort fun a b => a.index ≤ b.index).Pairwise fun a b =>
      a.index ≠ b.index :=
    List.pairwise_map.mp (((List.mergeSort_perm _ _).map _).nodup_iff.mpr places)
  exact (sorted.and apart).imp fun ⟨le, ne⟩ => .inr ⟨rfl, .inr ⟨rfl, Nat.lt_of_le_of_ne le ne⟩⟩

theorem of_mem_lineEntries {entry : CacheEntry} (member : entry ∈ lineEntries path line) :
    entry.file = path ∧ entry.id.row = line.row := by
  obtain ⟨mutant, -, rfl⟩ := List.mem_map.mp member
  exact ⟨rfl, rfl⟩

theorem Sound.entries_ordered (sound : data.Sound) : data.entries.Pairwise CacheEntry.Before := by
  refine List.pairwise_flatMap.mpr ⟨fun ⟨path, file⟩ isFile => ?_, ?_⟩
  · have numbered := sound.numbered _ isFile
    have rows : file.lines.Pairwise fun a b => a.row < b.row :=
      List.pairwise_map.mp (numbered.rows ▸ List.pairwise_lt_range)
    refine List.pairwise_flatMap.mpr ⟨fun line isLine => ?_, rows.imp ?_⟩
    · exact lineEntries_ordered path (numbered.places line isLine)
    · intro a b lower first isFirst second isSecond
      obtain ⟨file, row⟩ := of_mem_lineEntries isFirst
      obtain ⟨file', row'⟩ := of_mem_lineEntries isSecond
      exact .inr ⟨file.trans file'.symm, .inl (by rw [row, row']; exact lower)⟩
  · refine sound.sorted.imp fun before first isFirst second isSecond => .inl ?_
    obtain ⟨line, -, isFirst⟩ := List.mem_flatMap.mp isFirst
    obtain ⟨line', -, isSecond⟩ := List.mem_flatMap.mp isSecond
    rw [(of_mem_lineEntries isFirst).1, (of_mem_lineEntries isSecond).1]
    exact before

end CacheData

end MutationTesting
