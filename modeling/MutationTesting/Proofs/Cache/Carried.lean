import Mathlib.Data.List.TakeWhile
import MutationTesting.Proofs.Cache.Aligned
import MutationTesting.Proofs.Cache.Found
import MutationTesting.Proofs.Cache.Listed
/-! The mutants that a cache has of a file once it has been brought in line with a text and names have been
registered for it: those on lines that stay in the text, on their present rows, and those that are
registered. -/
namespace MutationTesting.CacheData

open CachedLine (isLineOf_iff)

variable {data : CacheData} {path : Path} {source : String} {id : MutantId} {mutant : CachedMutant}

/-- The cached lines of a file that stay in a text: the place of each, and its row in the text. -/
def retained (data : CacheData) (path : Path) (source : String) : List (Nat × Nat) :=
  Diff.pairs
    (Diff.changes ((data.linesOf path).map CachedLine.text).toArray (Text.rows source).toArray)

theorem aligned_updateLines (data : CacheData) (path : Path) (source : String) :
    Aligned (Diff.changes ((data.linesOf path).map CachedLine.text).toArray
      (Text.rows source).toArray) (data.linesOf path)
      ((data.updateLines path source).linesOf path) (Text.rows source) := by
  have divides := Diff.partition_changes ((data.linesOf path).map CachedLine.text).toArray
    (Text.rows source).toArray
  simp only [List.size_toArray, List.length_map] at divides
  rw [show data.updateLines path source =
    data.setFile path ⟨realign (data.linesOf path) (Text.rows source)⟩ from rfl, linesOf_setFile]
  exact aligned_realignBy divides

section Rows

variable {lines : List CachedLine} {line : CachedLine}

/-- Where lines stand on their rows, the line of a name is the one on its row. -/
theorem find?_isLineOf {count : Nat} (stands : lines.map CachedLine.row = List.range count) :
    lines.find? (·.isLineOf id) = some line ↔ lines[id.row]? = some line ∧ line.text = id.line := by
  have rowOf {place : Nat} {other : CachedLine} (isPlace : lines[place]? = some other) :
      other.row = place := by
    have row := congrArg (·[place]?) stands
    simp only [List.getElem?_map, isPlace, Option.map_some] at row
    obtain ⟨inside, isRange⟩ := List.getElem?_eq_some_iff.mp row.symm
    rw [← isRange, List.getElem_range]
  constructor
  · intro found
    have isLine : line.isLineOf id = true := by simpa using List.find?_some found
    obtain ⟨row, text⟩ := isLineOf_iff.mp isLine
    obtain ⟨place, isPlace⟩ := List.mem_iff_getElem?.mp (List.mem_of_find?_eq_some found)
    obtain rfl := (rowOf isPlace).symm.trans row
    exact ⟨isPlace, text⟩
  · rintro ⟨isPlace, text⟩
    refine find?_of_unique (List.mem_iff_getElem?.mpr ⟨_, isPlace⟩)
      (isLineOf_iff.mpr ⟨rowOf isPlace, text⟩) fun other member isOther => ?_
    obtain ⟨place, isThere⟩ := List.mem_iff_getElem?.mp member
    obtain rfl := (rowOf isThere).symm.trans (isLineOf_iff.mp isOther).1
    exact Option.some.inj (isThere.symm.trans isPlace)

end Rows

/-- A name leads to the mutant that had its place on the line that is now on its row. -/
theorem find?_updateLines :
    (data.updateLines path source).find? path id = some mutant ↔
      ∃ place line, (place, id.row) ∈ data.retained path source ∧
        (data.linesOf path)[place]? = some line ∧ line.text = id.line ∧
        line.mutant? id.index = some mutant := by
  have aligned := aligned_updateLines data path source
  rw [find?_linesOf, mutantIn?, Option.bind_eq_some_iff]
  constructor
  · rintro ⟨line, isLine, isMutant⟩
    obtain ⟨isPlace, text⟩ := (find?_isLineOf aligned.rows).mp isLine
    by_cases stays : ∃ place, (place, id.row) ∈ data.retained path source
    · obtain ⟨place, isPair⟩ := stays
      obtain ⟨old, isOld, isNew⟩ := aligned.paired place id.row isPair
      obtain rfl := Option.some.inj (isPlace.symm.trans isNew)
      exact ⟨place, old, isPair, isOld, text, isMutant⟩
    · have none := aligned.unpaired id.row line isPlace fun place isPair => stays ⟨place, isPair⟩
      simp [CachedLine.mutant?, none] at isMutant
  · rintro ⟨place, old, isPair, isOld, text, isMutant⟩
    obtain ⟨line, isLine, isNew⟩ := aligned.paired place id.row isPair
    obtain rfl := Option.some.inj (isOld.symm.trans isLine)
    exact ⟨_, (find?_isLineOf aligned.rows).mpr ⟨isNew, text⟩, isMutant⟩

theorem hasLine_updateLines (isRow : (Text.rows source)[id.row]? = some id.line) :
    (data.updateLines path source).hasLine path id = true := by
  have aligned := aligned_updateLines data path source
  rw [← aligned.texts, List.getElem?_map, Option.map_eq_some_iff] at isRow
  obtain ⟨line, isPlace, text⟩ := isRow
  have found := (find?_isLineOf aligned.rows).mpr ⟨isPlace, text⟩
  rw [hasLine_linesOf, List.any_eq_true]
  exact ⟨line, List.mem_of_find?_eq_some found, by simpa using List.find?_some found⟩

section Registering

variable {ids : List MutantId}

theorem verdict_of_lines (lines : ∀ id ∈ ids, data.hasLine path id = true) :
    data.verdict path ids = .ok () := by
  unfold verdict
  rw [List.find?_eq_none.mpr fun id member => by simp [lines id member]]

/-- Names whose lines are there are found once they have been registered, and so is what was found
before. -/
theorem isSome_find?_register (lines : ∀ id ∈ ids, data.hasLine path id = true) :
    ((data.register path ids).2.find? path id).isSome = true ↔
      id ∈ ids ∨ (data.find? path id).isSome = true := by
  constructor
  · intro found
    obtain same | ⟨-, -, isNew, -⟩ := find?_register data path ids path id
    · exact .inr (same ▸ found)
    · exact .inl isNew
  · rintro (isNew | found)
    · have registered := registered_register data path ids
      have all : ids.takeWhile ((data.register path ids).2.hasLine path) = ids :=
        List.takeWhile_eq_self_iff.mpr fun id member =>
          (hasLine_register data path ids path id).trans (lines id member)
      unfold Registered at registered
      rw [all] at registered
      exact Option.isNone_eq_false_iff.mp (registered id isNew)
    · exact Option.isNone_eq_false_iff.mp
        (lacks_register (Option.isNone_eq_false_iff.mpr found) path ids)

end Registering

/-- The names of the mutants that are listed of a file. -/
def idsOf (data : CacheData) (path : Path) : List MutantId :=
  (data.entries.filter fun entry => entry.file.same path).map CacheEntry.id

theorem Sound.mem_idsOf (sound : data.Sound) :
    id ∈ data.idsOf path ↔ (data.find? path id).isSome = true := by
  have listed : id ∈ data.idsOf path ↔
      ∃ found ∈ data.mutants, found.1.same path = true ∧ found.2.1.idOf found.2.2 = id := by
    simp only [idsOf, List.mem_map, List.mem_filter, (entries_perm data).mem_iff]
    constructor
    · rintro ⟨entry, ⟨⟨found, member, rfl⟩, isPath⟩, named⟩
      exact ⟨found, member, isPath, named⟩
    · rintro ⟨found, member, isPath, named⟩
      exact ⟨entryOf found, ⟨⟨found, member, rfl⟩, isPath⟩, named⟩
  rw [listed]
  constructor
  · rintro ⟨⟨key, line, mutant⟩, member, isPath, rfl⟩
    rw [sound.find?_eq (mem_mutants.mp member) isPath]
    rfl
  · intro isSome
    obtain ⟨mutant, found⟩ := Option.isSome_iff_exists.mp isSome
    obtain ⟨key, line, isKey, has, named⟩ := has_of_find? found
    exact ⟨(key, line, mutant), mem_mutants.mpr has, isKey, named⟩

theorem Sound.nodup_idsOf (sound : data.Sound) (path : Path) : (data.idsOf path).Nodup := by
  refine List.pairwise_map.mpr ((List.pairwise_filter.mpr ?_))
  refine sound.entries_ordered.imp fun {a b} before isPath isOther same => ?_
  obtain above | ⟨-, above⟩ := before
  · have notSame := above.not_same
    rw [Path.same_iff.mpr ((Path.same_iff.mp isOther).trans (Path.same_iff.mp isPath).symm)] at notSame
    contradiction
  · rw [same] at above
    omega

/-- A name is that of a mutant that has been listed on a line that stays in a text. -/
def Carried (data : CacheData) (path : Path) (source : String) (id : MutantId) : Prop :=
  ∃ old ∈ data.idsOf path, (old.row, id.row) ∈ data.retained path source ∧
    old.line = id.line ∧ old.index = id.index

/-- Once a file has been brought in line with a text, the names that lead to a mutant are those that are
carried over. -/
theorem Sound.isSome_find?_updateLines (sound : data.Sound) :
    ((data.updateLines path source).find? path id).isSome = true ↔ data.Carried path source id := by
  have stands := (sound.numbered_linesOf path).rows
  have named {place : Nat} {line : CachedLine} (isPlace : (data.linesOf path)[place]? = some line)
      (index : Nat) : data.find? path ⟨line.text, index, place⟩ = line.mutant? index := by
    have isLine : (data.linesOf path).find? (·.isLineOf ⟨line.text, index, place⟩) = some line :=
      (find?_isLineOf stands).mpr ⟨isPlace, rfl⟩
    rw [find?_linesOf, mutantIn?, isLine, Option.bind_some]
  constructor
  · intro isSome
    obtain ⟨mutant, found⟩ := Option.isSome_iff_exists.mp isSome
    obtain ⟨place, line, isPair, isPlace, text, isMutant⟩ := find?_updateLines.mp found
    refine ⟨⟨line.text, id.index, place⟩, sound.mem_idsOf.mpr ?_, isPair, text, rfl⟩
    rw [named isPlace, isMutant]
    rfl
  · rintro ⟨old, isOld, isPair, text, index⟩
    obtain ⟨mutant, found⟩ := Option.isSome_iff_exists.mp (sound.mem_idsOf.mp isOld)
    rw [find?_linesOf, mutantIn?, Option.bind_eq_some_iff] at found
    obtain ⟨line, isLine, isMutant⟩ := found
    obtain ⟨isPlace, oldText⟩ := (find?_isLineOf stands).mp isLine
    rw [find?_updateLines.mpr ⟨old.row, line, isPair, isPlace, oldText.trans text, index ▸ isMutant⟩]
    rfl

end MutationTesting.CacheData
