import MutationTesting.Proofs.Cache.Found
import MutationTesting.Proofs.Cache.Stored
/-! The outline of a cache: all but what is known of its mutants and of the clean run. Setting the
status of a mutant that is there leaves the outline as it is. -/
namespace MutationTesting

/-- A line without what is known of its mutants. -/
def CachedLine.outline (line : CachedLine) : String × Nat × List (Nat × Nat) :=
  (line.text, line.row, line.keys)

namespace CacheData

/-- The files of a cache without what is known of their mutants. -/
def outline (data : CacheData) : List (Path × List (String × Nat × List (Nat × Nat))) :=
  data.files.map fun entry => (entry.1, entry.2.lines.map CachedLine.outline)

/-- Two caches with the same rows: the same mutants with the same numbers on the same lines, whatever
is known of them. -/
structure SameRows (data other : CacheData) : Prop where
  next : other.nextNumber = data.nextNumber
  outline : other.outline = data.outline

theorem SameRows.refl (data : CacheData) : SameRows data data :=
  ⟨rfl, rfl⟩

theorem SameRows.symm {data other : CacheData} (same : SameRows data other) : SameRows other data :=
  ⟨same.next.symm, same.outline.symm⟩

theorem SameRows.trans {first between last : CacheData} (same : SameRows first between)
    (further : SameRows between last) : SameRows first last :=
  ⟨further.next.trans same.next, further.outline.trans same.outline⟩

theorem sameRows_withBaseline (data : CacheData) (baseline? : Option Float) :
    SameRows data { data with baseline? } :=
  ⟨rfl, rfl⟩

variable {data changed other : CacheData} {path : Path} {id : MutantId}

theorem outline_restate (index : Nat) (status : Status) (digest : String) (line : CachedLine) :
    (restate index status digest line).outline = line.outline := by
  rw [CachedLine.outline, keys_restate]
  rfl

theorem sorted_iff_outline (data : CacheData) :
    Sorted data.files ↔ data.outline.Pairwise fun a b => a.1.Before b.1 := by
  rw [outline, List.pairwise_map]
  rfl

theorem SameRows.sorted (same : SameRows data other) (sorted : Sorted data.files) :
    Sorted other.files := by
  rw [sorted_iff_outline] at sorted ⊢
  rwa [same.outline]

theorem sameRows_setStatus (sorted : Sorted data.files) (there : data.lacks path id = false)
    {status : Status} {digest : String}
    (done : data.setStatus path id status digest = .ok changed) :
    SameRows data changed ∧ changed.baseline? = data.baseline? := by
  unfold setStatus at done
  simp only [there, Bool.false_eq_true, if_false] at done
  split at done
  · rename_i after isChanged
    obtain rfl := Except.ok.inj done
    simp only [changeLine?, Option.bind_eq_bind, Option.bind_eq_some_iff, Option.pure_def,
      Option.some.injEq] at isChanged
    obtain ⟨file, isFile, lines, modified, rfl⟩ := isChanged
    obtain ⟨before, line, behind, split, -, -, rfl⟩ := modifyLine?_split modified
    refine ⟨⟨rfl, ?_⟩, rfl⟩
    obtain ⟨front, key, old, back, files, isKey, put⟩ | ⟨-, -, -, others, -⟩ := putFile_cases sorted
      path ⟨before ++ restate id.index status digest line :: behind⟩
    · have found := sorted.find?_eq (files ▸ List.mem_append_right _ List.mem_cons_self) isKey
      rw [file?, found] at isFile
      obtain rfl : old = file := Option.some.inj isFile
      rw [outline, outline, setFile, put, files]
      simp [split, outline_restate]
    · have none : data.file? path = none := by
        rw [file?, Option.map_eq_none_iff, List.find?_eq_none]
        exact fun entry member => by simp [others entry member]
      simp [none] at isFile
  · contradiction

theorem keys_mutants (data : CacheData) :
    data.mutants.map (fun found => (found.2.2.number, found.2.2.index)) =
      data.outline.flatMap fun entry => entry.2.flatMap fun line => line.2.2 := by
  simp only [mutants, outline, List.map_flatMap, List.flatMap_map, List.map_map]
  rfl

theorem number?_outline (data : CacheData) (path : Path) (id : MutantId) :
    data.number? path id =
      (data.outline.find? fun entry => entry.1.same path).bind fun entry =>
        (entry.2.find? fun line => line.2.1 == id.row && line.1 == id.line).bind fun line =>
          (line.2.2.find? fun key => key.2 == id.index).map Prod.fst := by
  have onLine (line : CachedLine) : (line.mutant? id.index).map CachedMutant.number =
      (line.outline.2.2.find? fun key => key.2 == id.index).map Prod.fst := by
    simp only [CachedLine.mutant?, CachedLine.outline, CachedLine.keys, List.find?_map,
      Option.map_map]
    rfl
  have inFile (lines : List CachedLine) :
      ((lines.find? (·.isLineOf id)).bind (·.mutant? id.index)).map CachedMutant.number =
        ((lines.map CachedLine.outline).find? fun line => line.2.1 == id.row && line.1 == id.line).bind
          fun line => (line.2.2.find? fun key => key.2 == id.index).map Prod.fst := by
    rw [List.find?_map, Option.map_bind, Option.bind_map]
    exact Option.bind_congr fun line _ => onLine line
  rw [number?, find?, file?, outline, List.find?_map]
  simp only [Option.bind_eq_bind, Option.bind_map, Option.map_bind]
  exact Option.bind_congr fun entry _ => inFile entry.2.lines

/-- A name leads to the same number in caches with the same rows. -/
theorem SameRows.number? (same : SameRows data other) (path : Path) (id : MutantId) :
    other.number? path id = data.number? path id := by
  rw [number?_outline, number?_outline, same.outline]

theorem SameRows.heads (same : SameRows data other) (path : Path) :
    other.heads path = data.heads path := by
  have shape (data : CacheData) : data.heads path =
      (((data.outline.find? fun entry => entry.1.same path).map Prod.snd).getD []).map
        fun line => (line.1, line.2.1) := by
    rw [CacheData.heads, linesOf, file?, CacheData.outline, List.find?_map]
    simp only [Function.comp_def]
    cases data.files.find? fun entry => entry.1.same path with
    | none => rfl
    | some entry => simp [CachedLine.outline]
  rw [shape, shape, same.outline]

theorem lacks_eq (data : CacheData) (path : Path) (id : MutantId) :
    data.lacks path id = (data.number? path id).isNone := by
  simp [lacks, CacheData.number?]

theorem SameRows.lacks (same : SameRows data other) (path : Path) (id : MutantId) :
    other.lacks path id = data.lacks path id := by
  rw [lacks_eq, lacks_eq, same.number?]

theorem SameRows.exists_mutant (same : SameRows data other)
    {found : Path × CachedLine × CachedMutant} (isFound : found ∈ other.mutants) :
    ∃ before ∈ data.mutants, before.2.2.number = found.2.2.number ∧
      before.2.2.index = found.2.2.index := by
  have isKey := List.mem_map_of_mem (f := fun found : Path × CachedLine × CachedMutant =>
    (found.2.2.number, found.2.2.index)) isFound
  rw [keys_mutants, same.outline, ← keys_mutants] at isKey
  obtain ⟨before, isBefore, keys⟩ := List.mem_map.mp isKey
  exact ⟨before, isBefore, Prod.mk.inj keys⟩

theorem SameRows.fits (same : SameRows data other) (fits : data.Fits) : other.Fits where
  next := same.next ▸ fits.next
  rows entry isEntry line isLine := by
    have member : (entry.1, entry.2.lines.map CachedLine.outline) ∈ data.outline :=
      same.outline ▸ List.mem_map_of_mem isEntry
    obtain ⟨before, isBefore, shape⟩ := List.mem_map.mp member
    have isOutline : line.outline ∈ before.2.lines.map CachedLine.outline :=
      (Prod.mk.inj shape).2 ▸ List.mem_map_of_mem isLine
    obtain ⟨old, isOld, shapes⟩ := List.mem_map.mp isOutline
    have row : old.row = line.row := (Prod.mk.inj (Prod.mk.inj shapes).2).1
    exact row ▸ fits.rows before isBefore old isOld
  places found isFound := by
    obtain ⟨before, isBefore, -, place⟩ := same.exists_mutant isFound
    exact place ▸ fits.places before isBefore
  numbers found isFound := by
    obtain ⟨before, isBefore, number, -⟩ := same.exists_mutant isFound
    exact number ▸ fits.numbers before isBefore

end CacheData

end MutationTesting
