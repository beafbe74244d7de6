import MutationTesting.Proofs.Cache.Numbers
/-! What the operations on a cache keep. Lines that have been brought in line with the present text
of their file stand on its rows, and those that stay take their mutants along in their order. A
mutant is added under the next number and at a place that its line does not have yet; a status
changes neither number nor place. -/
namespace MutationTesting

namespace CachedLine

theorem filterMap_stretch {α β : Type} (items : List α) (place length : Nat) (make : Nat → α → β) :
    ((List.range length).filterMap fun k => items[place + k]?.map (make k)) =
      ((items.drop place).take length).mapIdx make := by
  induction length with
  | zero => simp
  | succ length ih =>
    rw [List.range_succ, List.filterMap_append, ih, List.take_add_one, List.mapIdx_append]
    congr 1
    rw [List.getElem?_drop]
    cases found : items[place + length]? with
    | none => simp [found]
    | some item =>
      have bound := (List.getElem?_eq_some_iff.mp found).1
      have full : ((items.drop place).take length).length = length := by
        rw [List.length_take, List.length_drop]
        omega
      simp [found, full]

end CachedLine

namespace CacheData

open CachedLine Diff

/-- Lines on a number of rows from one on that come from other lines: each has no mutants or is one of
those on another row, and no mutant comes twice. -/
structure Becomes (old lines : List CachedLine) (row length : Nat) : Prop where
  rows : lines.map CachedLine.row = List.range' row length
  numbers : (numbers lines).Sublist (numbers old)
  kept : ∀ line ∈ lines, line.mutants = [] ∨ ∃ before ∈ old, line = { before with row := line.row }

namespace Becomes

variable {old lines older later : List CachedLine} {row length further : Nat}

theorem append (here : Becomes old lines row length)
    (behind : Becomes older later (row + length) further) :
    Becomes (old ++ older) (lines ++ later) row (length + further) where
  rows := by rw [List.map_append, here.rows, behind.rows, List.range'_append_1]
  numbers := by
    rw [numbers_append, numbers_append]
    exact here.numbers.append behind.numbers
  kept line member := by
    obtain member | member := List.mem_append.mp member
    · obtain fresh | ⟨before, isOld, same⟩ := here.kept line member
      · exact .inl fresh
      · exact .inr ⟨before, List.mem_append_left _ isOld, same⟩
    · obtain fresh | ⟨before, isOld, same⟩ := behind.kept line member
      · exact .inl fresh
      · exact .inr ⟨before, List.mem_append_right _ isOld, same⟩

theorem fresh (old : List CachedLine) (texts : List String) (row : Nat) :
    Becomes old (texts.mapIdx fun k text => .fresh text (row + k)) row texts.length where
  rows := by
    apply List.ext_getElem <;> simp [CachedLine.fresh]
  numbers := by
    have none : CachedLine.numbers (texts.mapIdx fun k text => .fresh text (row + k)) = [] := by
      refine List.flatMap_eq_nil_iff.mpr fun line member => ?_
      obtain ⟨k, inside, rfl⟩ := List.mem_mapIdx.mp member
      rfl
    rw [none]
    exact List.nil_sublist _
  kept line member := by
    obtain ⟨k, inside, rfl⟩ := List.mem_mapIdx.mp member
    exact .inl rfl

theorem moved (old : List CachedLine) (row : Nat) :
    Becomes old (old.mapIdx fun k line => { line with row := row + k }) row old.length where
  rows := by
    apply List.ext_getElem <;> simp
  numbers := by
    have same : CachedLine.numbers (old.mapIdx fun k line => { line with row := row + k }) =
        CachedLine.numbers old := by
      rw [CachedLine.numbers, CachedLine.numbers, List.flatMap_def, List.flatMap_def]
      congr 1
      apply List.ext_getElem <;> simp
    exact same ▸ List.Sublist.refl _
  kept line member := by
    obtain ⟨k, inside, rfl⟩ := List.mem_mapIdx.mp member
    exact .inr ⟨old[k], List.getElem_mem inside, rfl⟩

end Becomes

variable {old : List CachedLine} {current : List String} {a b c d : Nat}

theorem alignChange_moved {change : Change} (kind : change.kind = .equal) :
    alignChange old.toArray current.toArray change =
      ((old.drop change.old).take change.oldLength).mapIdx fun k line =>
        { line with row := change.new + k } := by
  rw [← filterMap_stretch old change.old change.oldLength fun k line =>
    ({ line with row := change.new + k } : CachedLine)]
  simp only [alignChange, kind, List.getElem?_toArray]

theorem alignChange_fresh {change : Change} (kind : change.kind = .insert ∨ change.kind = .replace) :
    alignChange old.toArray current.toArray change =
      ((current.drop change.new).take change.newLength).mapIdx fun k text =>
        .fresh text (change.new + k) := by
  rw [← filterMap_stretch current change.new change.newLength fun k text =>
    CachedLine.fresh text (change.new + k)]
  obtain kind | kind := kind <;> simp only [alignChange, kind, List.getElem?_toArray]

/-- The lines that a change leads to come from those that it passes. -/
theorem becomes_alignChange {texts : Array String} {change : Change}
    (stands : change.StandsAt texts current.toArray a c)
    (inOld : a + change.oldLength ≤ old.length) (inNew : c + change.newLength ≤ current.length) :
    Becomes ((old.drop a).take change.oldLength)
      (alignChange old.toArray current.toArray change) c change.newLength := by
  have freshAt (kind : change.kind = .insert ∨ change.kind = .replace) (place : change.new = c) :
      Becomes ((old.drop a).take change.oldLength)
        (alignChange old.toArray current.toArray change) c change.newLength := by
    have length : ((current.drop c).take change.newLength).length = change.newLength := by
      rw [List.length_take, List.length_drop]
      omega
    have lines := Becomes.fresh ((old.drop a).take change.oldLength)
      ((current.drop c).take change.newLength) c
    rwa [length, ← place, ← alignChange_fresh kind, place] at lines
  unfold Change.StandsAt at stands
  cases kind : change.kind with
  | equal =>
    rw [kind] at stands
    obtain ⟨placeOld, placeNew, lengths, -⟩ := stands
    have length : ((old.drop a).take change.oldLength).length = change.newLength := by
      rw [List.length_take, List.length_drop]
      omega
    have lines := Becomes.moved ((old.drop a).take change.oldLength) c
    rwa [length, ← placeOld, ← placeNew, ← alignChange_moved kind, placeOld, placeNew] at lines
  | delete =>
    rw [kind] at stands
    rw [stands.2, alignChange, kind]
    exact ⟨rfl, List.nil_sublist _, by simp⟩
  | insert =>
    rw [kind] at stands
    exact freshAt (.inl kind) stands.1
  | replace =>
    rw [kind] at stands
    exact freshAt (.inr kind) stands.2

theorem Partition.le {α : Type} {first second : Array α} {changes : List Change}
    (partition : Diff.Partition first second a c changes b d) : a ≤ b ∧ c ≤ d := by
  induction changes generalizing a c with
  | nil => exact ⟨Nat.le_of_eq partition.1, Nat.le_of_eq partition.2⟩
  | cons change rest ih =>
    obtain ⟨le, leNew⟩ := ih partition.2
    exact ⟨Nat.le_trans (Nat.le_add_right _ _) le, Nat.le_trans (Nat.le_add_right _ _) leNew⟩

theorem becomes_align {texts : Array String} {changes : List Change}
    (partition : Diff.Partition texts current.toArray a c changes b d) (inOld : b ≤ old.length)
    (inNew : d ≤ current.length) :
    Becomes (old.drop a) (align changes old.toArray current.toArray) c (d - c) := by
  induction changes generalizing a c with
  | nil =>
    obtain ⟨rfl, rfl⟩ := partition
    rw [Nat.sub_self]
    exact ⟨rfl, List.nil_sublist _, by simp [align]⟩
  | cons change rest ih =>
    obtain ⟨stands, partition⟩ := partition
    obtain ⟨le, leNew⟩ := Partition.le partition
    have here : Becomes ((old.drop a).take change.oldLength) _ c change.newLength :=
      becomes_alignChange stands (by omega) (by omega)
    have whole := here.append (ih partition)
    rw [← List.drop_drop, List.take_append_drop] at whole
    rw [show d - c = change.newLength + (d - (c + change.newLength)) by omega]
    exact whole

/-- The lines of a file after an alignment come from those that it had. -/
theorem becomes_realign (old : List CachedLine) (rows : List String) :
    Becomes old (realign old rows) 0 rows.length := by
  unfold realign
  split
  · have lines := Becomes.fresh old rows 0
    simp only [Nat.zero_add] at lines
    exact lines
  · have lines : Becomes (old.drop 0) _ 0 (rows.toArray.size - 0) :=
      becomes_align (partition_changes (old.map CachedLine.text).toArray rows.toArray) (by simp)
        (by simp)
    rwa [List.drop_zero] at lines

theorem Becomes.numbered {lines : List CachedLine} {length next : Nat}
    (becomes : Becomes old lines 0 length) (numbered : Numbered old next) :
    Numbered lines next ∧ Continues old lines next := by
  refine ⟨⟨?_, ?_, numbered.distinct.sublist becomes.numbers, ?_⟩, ?_⟩
  · have rows := becomes.rows
    have same := congrArg List.length rows
    rw [List.length_map, List.length_range'] at same
    rw [rows, List.range_eq_range', same]
  · intro line member
    obtain fresh | ⟨before, isOld, same⟩ := becomes.kept line member
    · rw [fresh]
      exact .nil
    · rw [same]
      exact numbered.places before isOld
  · exact fun number member => numbered.below number (becomes.numbers.subset member)
  · intro line member mutant isMutant _
    obtain fresh | ⟨before, isOld, same⟩ := becomes.kept line member
    · rw [fresh] at isMutant
      contradiction
    · rw [same] at isMutant
      exact ⟨before, isOld, by rw [same], mutant, isMutant, rfl, rfl⟩

/-- Bringing a file in line with its present text keeps a cache in order. -/
theorem Sound.updateLines {data : CacheData} (sound : data.Sound) (path : Path)
    (source : String) :
    (data.updateLines path source).Sound ∧ data.Keeps (data.updateLines path source) := by
  obtain ⟨numbered, continues⟩ :=
    (becomes_realign (data.linesOf path) (Text.rows source)).numbered (sound.numbered_linesOf path)
  exact sound.withLines numbered (Nat.le_refl _) continues

end CacheData

namespace CachedLine

/-- The numbers and the places of the mutants of a line. -/
def keys (line : CachedLine) : List (Nat × Nat) :=
  line.mutants.map fun mutant => (mutant.number, mutant.index)

/-- A line with one more mutant. -/
def extended (line : CachedLine) (mutant : CachedMutant) : CachedLine :=
  { line with mutants := line.mutants ++ [mutant] }

variable {before behind : List CachedLine} {line changed : CachedLine} {next : Nat}

theorem numbers_singleton (line : CachedLine) : numbers [line] = line.keys.map Prod.fst := by
  simp [numbers, keys, Function.comp_def]

theorem places_eq (line : CachedLine) :
    line.mutants.map CachedMutant.index = line.keys.map Prod.snd := by
  simp [keys, Function.comp_def]

theorem numbers_exchange (before behind : List CachedLine) (line : CachedLine) :
    numbers (before ++ line :: behind) =
      numbers before ++ (line.keys.map Prod.fst ++ numbers behind) := by
  rw [← List.singleton_append, numbers_append, numbers_append, numbers_singleton]

theorem Continues.exchange (text : changed.text = line.text)
    (known : ∀ mutant ∈ changed.mutants, mutant.number < next →
      ∃ known ∈ line.mutants, known.number = mutant.number ∧ known.index = mutant.index) :
    Continues (before ++ line :: behind) (before ++ changed :: behind) next := by
  intro other member mutant isMutant below
  have stays (isOther : other ∈ before ++ line :: behind) :
      ∃ old ∈ before ++ line :: behind, old.text = other.text ∧
        ∃ known ∈ old.mutants, known.number = mutant.number ∧ known.index = mutant.index :=
    ⟨other, isOther, rfl, mutant, isMutant, rfl, rfl⟩
  obtain isBefore | member := List.mem_append.mp member
  · exact stays (List.mem_append_left _ isBefore)
  · obtain rfl | isBehind := List.mem_cons.mp member
    · exact ⟨line, by simp, text.symm, known mutant isMutant below⟩
    · exact stays (List.mem_append_right _ (List.mem_cons_of_mem _ isBehind))

theorem Numbered.exchange {further : Nat} (numbered : Numbered (before ++ line :: behind) next)
    (row : changed.row = line.row) (places : (changed.mutants.map CachedMutant.index).Nodup)
    (distinct : (numbers (before ++ changed :: behind)).Nodup)
    (below : ∀ number ∈ numbers (before ++ changed :: behind), number < further) :
    Numbered (before ++ changed :: behind) further where
  rows := by simpa [row] using numbered.rows
  places other member := by
    obtain isBefore | member := List.mem_append.mp member
    · exact numbered.places other (List.mem_append_left _ isBefore)
    · obtain rfl | isBehind := List.mem_cons.mp member
      · exact places
      · exact numbered.places other (List.mem_append_right _ (List.mem_cons_of_mem _ isBehind))
  distinct := distinct
  below := below

/-- A line on which numbers and places are the same takes the place of another one. -/
theorem Numbered.restated (numbered : Numbered (before ++ line :: behind) next)
    (same : changed.keys = line.keys) (row : changed.row = line.row)
    (text : changed.text = line.text) :
    Numbered (before ++ changed :: behind) next ∧
      Continues (before ++ line :: behind) (before ++ changed :: behind) next := by
  have sameNumbers : numbers (before ++ changed :: behind) = numbers (before ++ line :: behind) := by
    rw [numbers_exchange, numbers_exchange, same]
  refine ⟨numbered.exchange row ?_ (sameNumbers ▸ numbered.distinct)
    (sameNumbers ▸ numbered.below), .exchange text fun mutant isMutant _ => ?_⟩
  · rw [places_eq, same, ← places_eq]
    exact numbered.places line (by simp)
  · have isKey : (mutant.number, mutant.index) ∈ line.keys :=
      same ▸ List.mem_map_of_mem isMutant
    obtain ⟨known, isKnown, equal⟩ := List.mem_map.mp isKey
    exact ⟨known, isKnown, Prod.mk.inj equal⟩

/-- A line gets a mutant under the next number, at a place that it does not have. -/
theorem Numbered.extended (numbered : Numbered (before ++ line :: behind) next)
    (mutant : CachedMutant) (isNext : mutant.number = next)
    (lacks : line.mutant? mutant.index = none) :
    Numbered (before ++ line.extended mutant :: behind) (next + 1) ∧
      Continues (before ++ line :: behind) (before ++ line.extended mutant :: behind) next := by
  have moreNumbers : (numbers (before ++ line.extended mutant :: behind)).Perm
      (next :: numbers (before ++ line :: behind)) := by
    have keys : (line.extended mutant).keys.map Prod.fst = line.keys.map Prod.fst ++ [next] := by
      simp [CachedLine.extended, CachedLine.keys, isNext]
    rw [numbers_exchange, numbers_exchange, keys, List.append_assoc]
    refine (List.Perm.append_left _ ?_).trans List.perm_middle
    exact List.perm_middle
  refine ⟨numbered.exchange rfl ?_ ?_ ?_, .exchange rfl fun known isMutant below => ?_⟩
  · have apart : mutant.index ∉ line.mutants.map CachedMutant.index := by
      intro isPlace
      obtain ⟨other, isOther, same⟩ := List.mem_map.mp isPlace
      exact absurd same (by simpa using List.find?_eq_none.mp lacks other isOther)
    rw [CachedLine.extended, List.map_append]
    refine List.nodup_append.mpr
      ⟨numbered.places line (by simp), List.pairwise_singleton _ _, fun place isPlace new isNew => ?_⟩
    obtain rfl := List.mem_singleton.mp isNew
    exact fun same => apart (same ▸ isPlace)
  · have isNew : next ∉ numbers (before ++ line :: behind) := fun member =>
      absurd (numbered.below next member) (Nat.lt_irrefl next)
    exact moreNumbers.nodup_iff.mpr (List.nodup_cons.mpr ⟨isNew, numbered.distinct⟩)
  · intro number member
    obtain rfl | member := List.mem_cons.mp (moreNumbers.mem_iff.mp member)
    · exact Nat.lt_succ_self _
    · exact Nat.lt_succ_of_lt (numbered.below number member)
  · obtain isOld | isNew := List.mem_append.mp isMutant
    · exact ⟨known, isOld, rfl, rfl⟩
    · obtain rfl := List.mem_singleton.mp isNew
      exact absurd below (Nat.not_lt.mpr (Nat.le_of_eq isNext.symm))

end CachedLine

namespace CacheData

open CachedLine

variable {data changed : CacheData} {path : Path} {id : MutantId}
  {change : CachedLine → CachedLine}

theorem modifyLine?_eq {lines after : List CachedLine}
    (done : modifyLine? id change lines = some after) :
    ∃ before line behind, lines = before ++ line :: behind ∧
      lines.find? (·.isLineOf id) = some line ∧ after = before ++ change line :: behind := by
  induction lines generalizing after with
  | nil => simp [modifyLine?] at done
  | cons first rest ih =>
    unfold modifyLine? at done
    split at done
    · rename_i isLine
      exact ⟨[], first, rest, rfl, List.find?_cons_of_pos isLine, (Option.some.inj done).symm⟩
    · rename_i isOther
      obtain ⟨later, changedRest, rfl⟩ := Option.map_eq_some_iff.mp done
      obtain ⟨before, line, behind, rfl, found, rfl⟩ := ih changedRest
      exact ⟨first :: before, line, behind, rfl, by
        rw [List.find?_cons_of_neg (by exact isOther), found], rfl⟩

theorem changeLine?_eq (done : data.changeLine? path id change = some changed) :
    ∃ before line behind, data.linesOf path = before ++ line :: behind ∧
      data.find? path id = line.mutant? id.index ∧
      changed = data.withLines path (before ++ change line :: behind) data.nextNumber := by
  simp only [changeLine?, Option.bind_eq_bind, Option.bind_eq_some_iff, Option.pure_def,
    Option.some.injEq] at done
  obtain ⟨file, isFile, lines, modified, rfl⟩ := done
  obtain ⟨before, line, behind, split, found, rfl⟩ := modifyLine?_eq modified
  refine ⟨before, line, behind, by rw [linesOf, isFile, ← split], ?_, rfl⟩
  simp [find?, isFile, found]

theorem Sound.add? (sound : data.Sound) (lacks : data.lacks path id = true) {status : Status}
    {digest? : Option String} (done : data.add? path id status digest? = some changed) :
    changed.Sound ∧ data.Keeps changed := by
  obtain ⟨_, isChanged, rfl⟩ := Option.map_eq_some_iff.mp done
  obtain ⟨before, line, behind, split, found, rfl⟩ := changeLine?_eq isChanged
  have lacksPlace : line.mutant? id.index = none := by
    rwa [CacheData.lacks, found, Option.isNone_iff_eq_none] at lacks
  have numbered := sound.numbered_linesOf path
  rw [split] at numbered
  obtain ⟨numbered, continues⟩ := numbered.extended
    ⟨data.nextNumber, id.index, status, digest?⟩ rfl lacksPlace
  rw [← split] at continues
  exact sound.withLines numbered (Nat.le_succ _) continues

/-- Registering names keeps a cache in order, also where it ends early. -/
theorem Sound.register (sound : data.Sound) (path : Path) (ids : List MutantId) :
    (data.register path ids).2.Sound ∧ data.Keeps (data.register path ids).2 := by
  induction ids generalizing data with
  | nil => exact ⟨sound, .refl data⟩
  | cons id rest ih =>
    unfold CacheData.register
    split
    · exact ⟨sound, .refl data⟩
    · split
      · rename_i lacks
        cases added : data.add? path id .untested none with
        | none => exact ⟨sound, .refl data⟩
        | some changed =>
          obtain ⟨sound, keeps⟩ := sound.add? lacks added
          obtain ⟨further, later⟩ := ih sound
          exact ⟨further, keeps.trans later⟩
      · exact ih sound

theorem keys_restate (index : Nat) (status : Status) (digest : String) (line : CachedLine) :
    (restate index status digest line).keys = line.keys := by
  apply List.ext_getElem
  · simp [restate, CachedLine.keys]
  · intro k _ _
    simp only [restate, CachedLine.keys, List.getElem_map, List.getElem_modify]
    split <;> rfl

theorem Sound.setStatus (sound : data.Sound) {status : Status} {digest : String}
    (done : data.setStatus path id status digest = .ok changed) :
    changed.Sound ∧ data.Keeps changed := by
  unfold CacheData.setStatus at done
  dsimp only at done
  split at done
  · rename_i after isChanged
    obtain rfl := Except.ok.inj done
    split at isChanged
    · rename_i lacks
      exact sound.add? lacks isChanged
    · obtain ⟨before, line, behind, split, -, rfl⟩ := changeLine?_eq isChanged
      have numbered := sound.numbered_linesOf path
      rw [split] at numbered
      have same := keys_restate id.index status digest line
      obtain ⟨numbered, continues⟩ := numbered.restated same rfl rfl
      rw [← split] at continues
      exact sound.withLines numbered (Nat.le_refl _) continues
  · contradiction

end CacheData

end MutationTesting
