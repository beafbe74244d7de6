import MutationTesting.Proofs.Cache.Operations
/-! What becomes of the mutants of a file when its lines are brought in line with another text. A line
that the changes between both texts pair with a cached one takes over its mutants as they are; all
others go, and new lines have none. This holds whatever the changes are, as long as they divide
both texts and pair equal lines only. -/
namespace MutationTesting

namespace Diff

/-- The places in both sequences of the items that a change pairs: those of equal stretches. -/
def Change.pairs (change : Change) : List (Nat × Nat) :=
  if change.kind = .equal then
    (List.range change.oldLength).map fun k => (change.old + k, change.new + k)
  else []

/-- The places of the items that changes pair. -/
def pairs (changes : List Change) : List (Nat × Nat) :=
  changes.flatMap Change.pairs

end Diff

namespace CachedLine

/-- The mutants of lines, each with the text of its line. -/
def held (lines : List CachedLine) : List (String × CachedMutant) :=
  lines.flatMap fun line => line.mutants.map fun mutant => (line.text, mutant)

theorem held_append (first later : List CachedLine) :
    held (first ++ later) = held first ++ held later :=
  List.flatMap_append

theorem held_mapIdx (lines : List CachedLine) (row : Nat → Nat) :
    held (lines.mapIdx fun k line => { line with row := row k }) = held lines := by
  rw [held, held, List.flatMap_def, List.flatMap_def]
  congr 1
  apply List.ext_getElem <;> simp

end CachedLine

namespace CacheData

open CachedLine Diff

/-- How the lines of a text, counted from `c` on, come from cached ones, counted from `a` on. A line
that is paired with a cached one has its mutants, any other line has none, and so no mutant comes
twice and none passes another one. -/
structure Carries (pairs : List (Nat × Nat)) (old lines : List CachedLine) (texts : List String)
    (a c : Nat) : Prop where
  texts : lines.map CachedLine.text = texts
  rows : lines.map CachedLine.row = List.range' c lines.length
  paired : ∀ pair ∈ pairs, ∃ i k line, pair = (a + i, c + k) ∧ old[i]? = some line ∧
    lines[k]? = some { line with row := c + k }
  unpaired : ∀ k line, lines[k]? = some line → (∀ i, (a + i, c + k) ∉ pairs) → line.mutants = []
  held : (held lines).Sublist (held old)

namespace Carries

variable {pairs further : List (Nat × Nat)} {old older lines later : List CachedLine}
  {texts others : List String} {a c : Nat}

theorem append (here : Carries pairs old lines texts a c)
    (behind : Carries further older later others (a + old.length) (c + lines.length)) :
    Carries (pairs ++ further) (old ++ older) (lines ++ later) (texts ++ others) a c where
  texts := by rw [List.map_append, here.texts, behind.texts]
  rows := by rw [List.map_append, here.rows, behind.rows, List.range'_append_1, List.length_append]
  paired pair member := by
    obtain member | member := List.mem_append.mp member
    · obtain ⟨i, k, line, place, isOld, isLine⟩ := here.paired pair member
      have inOld := (List.getElem?_eq_some_iff.mp isOld).1
      have inLines := (List.getElem?_eq_some_iff.mp isLine).1
      refine ⟨i, k, line, place, ?_, ?_⟩
      · rwa [List.getElem?_append_left inOld]
      · rwa [List.getElem?_append_left inLines]
    · obtain ⟨i, k, line, place, isOld, isLine⟩ := behind.paired pair member
      refine ⟨old.length + i, lines.length + k, line, ?_, ?_, ?_⟩
      · rw [place, Nat.add_assoc, Nat.add_assoc]
      · rwa [List.getElem?_append_right (Nat.le_add_right _ _), Nat.add_sub_cancel_left]
      · rwa [List.getElem?_append_right (Nat.le_add_right _ _), Nat.add_sub_cancel_left,
          ← Nat.add_assoc]
  unpaired k line isLine alone := by
    by_cases inside : k < lines.length
    · rw [List.getElem?_append_left inside] at isLine
      exact here.unpaired k line isLine fun i member => alone i (List.mem_append_left _ member)
    · obtain ⟨k, rfl⟩ := Nat.exists_eq_add_of_le (Nat.le_of_not_lt inside)
      rw [List.getElem?_append_right (Nat.le_add_right _ _), Nat.add_sub_cancel_left] at isLine
      refine behind.unpaired k line isLine fun i member => alone (old.length + i) ?_
      rw [← Nat.add_assoc, ← Nat.add_assoc]
      exact List.mem_append_right _ member
  held := by
    rw [held_append, held_append]
    exact here.held.append behind.held

theorem fresh (old : List CachedLine) (texts : List String) (a c : Nat) :
    Carries [] old (texts.mapIdx fun k text => .fresh text (c + k)) texts a c where
  texts := by apply List.ext_getElem <;> simp [CachedLine.fresh]
  rows := by apply List.ext_getElem <;> simp [CachedLine.fresh]
  paired pair member := by contradiction
  unpaired k line isLine _ := by
    obtain ⟨inside, rfl⟩ := List.getElem?_eq_some_iff.mp isLine
    simp [CachedLine.fresh]
  held := by
    have none : CachedLine.held (texts.mapIdx fun k text => .fresh text (c + k)) = [] := by
      refine List.flatMap_eq_nil_iff.mpr fun line member => ?_
      obtain ⟨k, inside, rfl⟩ := List.mem_mapIdx.mp member
      rfl
    rw [none]
    exact List.nil_sublist _

theorem moved (old : List CachedLine) (a c : Nat) :
    Carries ((List.range old.length).map fun k => (a + k, c + k)) old
      (old.mapIdx fun k line => { line with row := c + k }) (old.map CachedLine.text) a c where
  texts := by apply List.ext_getElem <;> simp
  rows := by apply List.ext_getElem <;> simp
  paired pair member := by
    obtain ⟨k, inside, rfl⟩ := List.mem_map.mp member
    have inOld := List.mem_range.mp inside
    exact ⟨k, k, old[k], rfl, by simp [inOld], by simp [inOld]⟩
  unpaired k line isLine alone := by
    have inside := (List.getElem?_eq_some_iff.mp isLine).1
    rw [List.length_mapIdx] at inside
    exact absurd (List.mem_map.mpr ⟨k, List.mem_range.mpr inside, rfl⟩) (alone k)
  held := by rw [held_mapIdx]

end Carries

variable {old : List CachedLine} {current : List String} {a b c d : Nat}

theorem carries_alignChange {change : Change}
    (stands : change.StandsAt (old.map CachedLine.text).toArray current.toArray a c)
    (inOld : a + change.oldLength ≤ old.length) :
    Carries change.pairs ((old.drop a).take change.oldLength)
      (alignChange old.toArray current.toArray change) ((current.drop c).take change.newLength)
      a c := by
  have freshAt (kind : change.kind = .insert ∨ change.kind = .replace) (place : change.new = c) :
      Carries change.pairs ((old.drop a).take change.oldLength)
        (alignChange old.toArray current.toArray change)
        ((current.drop c).take change.newLength) a c := by
    have none : change.pairs = [] := by
      obtain kind | kind := kind <;> simp [Change.pairs, kind]
    have lines := Carries.fresh ((old.drop a).take change.oldLength)
      ((current.drop c).take change.newLength) a c
    rwa [none, alignChange_fresh kind, place]
  unfold Change.StandsAt at stands
  cases kind : change.kind with
  | equal =>
    rw [kind] at stands
    obtain ⟨placeOld, placeNew, lengths, agree⟩ := stands
    have length : ((old.drop a).take change.oldLength).length = change.oldLength := by
      rw [List.length_take, List.length_drop]
      omega
    have texts : ((old.drop a).take change.oldLength).map CachedLine.text =
        (current.drop c).take change.newLength := by
      rw [lengths]
      refine List.ext_getElem? fun k => ?_
      by_cases inside : k < change.oldLength
      · obtain ⟨item, isOld, isNew⟩ := agree k inside
        rw [List.getElem?_toArray, List.getElem?_map] at isOld
        rw [List.getElem?_toArray] at isNew
        simp [inside, isOld, isNew]
      · have beyond := Nat.le_of_not_lt inside
        rw [List.getElem?_map, List.getElem?_take_eq_none beyond,
          List.getElem?_take_eq_none beyond]
        rfl
    have lines := Carries.moved ((old.drop a).take change.oldLength) a c
    rw [length, texts] at lines
    rwa [alignChange_moved kind, Change.pairs, if_pos kind, placeOld, placeNew]
  | delete =>
    rw [kind] at stands
    have none : change.pairs = [] := by simp [Change.pairs, kind]
    rw [stands.2, alignChange, kind, none]
    exact ⟨rfl, rfl, by simp, by simp, List.nil_sublist _⟩
  | insert =>
    rw [kind] at stands
    exact freshAt (.inl kind) stands.1
  | replace =>
    rw [kind] at stands
    exact freshAt (.inr kind) stands.2

theorem carries_align {changes : List Change}
    (partition : Diff.Partition (old.map CachedLine.text).toArray current.toArray a c changes b d)
    (inOld : b ≤ old.length) (inNew : d ≤ current.length) :
    Carries (pairs changes) (old.drop a) (align changes old.toArray current.toArray)
      ((current.drop c).take (d - c)) a c := by
  induction changes generalizing a c with
  | nil =>
    obtain ⟨rfl, rfl⟩ := partition
    rw [Nat.sub_self]
    exact ⟨rfl, rfl, by simp [pairs], by simp [align], List.nil_sublist _⟩
  | cons change rest ih =>
    obtain ⟨stands, partition⟩ := partition
    obtain ⟨le, leNew⟩ := Partition.le partition
    have here := carries_alignChange stands (by omega)
    have behind := ih partition
    have length := congrArg List.length here.texts
    rw [List.length_map, List.length_take, List.length_drop, Nat.min_eq_left (by omega)] at length
    have passed : ((old.drop a).take change.oldLength).length = change.oldLength := by
      rw [List.length_take, List.length_drop]
      omega
    rw [← passed, ← length] at behind
    have whole := here.append behind
    rw [passed, length, ← List.drop_drop, List.take_append_drop, ← List.drop_drop,
      ← List.take_add, show change.newLength + (d - (c + change.newLength)) = d - c by omega] at whole
    exact whole

/-- The lines of a text that come from cached ones by changes. They stand on the rows of the text. A
line that is paired with a cached one has its mutants, any other one has none; so a mutant goes
only with a line that is not paired. The mutants keep their order and none comes twice. -/
structure Aligned (changes : List Change) (old lines : List CachedLine) (rows : List String) :
    Prop where
  texts : lines.map CachedLine.text = rows
  rows : lines.map CachedLine.row = List.range rows.length
  paired : ∀ place row, (place, row) ∈ pairs changes → ∃ line, old[place]? = some line ∧
    lines[row]? = some { line with row }
  unpaired : ∀ row line, lines[row]? = some line → (∀ place, (place, row) ∉ pairs changes) →
    line.mutants = []
  held : (held lines).Sublist (held old)

/-- The lines of a file for its present rows, given the lines it had and the changes that lead from
their texts to the rows. -/
def realignBy (changes : List Change) (old : List CachedLine) (rows : List String) :
    List CachedLine :=
  if old.isEmpty then freshLines rows else align changes old.toArray rows.toArray

/-- Changes that divide the texts of cached lines and the rows of a text. -/
def Divides (old : List CachedLine) (rows : List String) (changes : List Change) : Prop :=
  Diff.Partition (old.map CachedLine.text).toArray rows.toArray 0 0 changes old.length rows.length

theorem Carries.aligned {changes : List Change} {lines : List CachedLine} {rows : List String}
    (carries : Carries (pairs changes) old lines rows 0 0) : Aligned changes old lines rows where
  texts := carries.texts
  rows := by
    have length := congrArg List.length carries.texts
    rw [List.length_map] at length
    rw [carries.rows, length, List.range_eq_range']
  paired place row member := by
    obtain ⟨i, k, line, same, isOld, isLine⟩ := carries.paired _ member
    rw [Nat.zero_add, Nat.zero_add] at same
    obtain ⟨rfl, rfl⟩ := Prod.mk.inj same
    rw [Nat.zero_add] at isLine
    exact ⟨line, isOld, isLine⟩
  unpaired row line isLine alone := carries.unpaired row line isLine fun place => by
    rw [Nat.zero_add, Nat.zero_add]
    exact alone place
  held := carries.held

theorem aligned_realignBy {changes : List Change} {rows : List String}
    (divides : Divides old rows changes) : Aligned changes old (realignBy changes old rows) rows := by
  have whole := carries_align divides (Nat.le_refl _) (Nat.le_refl _)
  simp only [List.drop_zero, Nat.sub_zero, List.take_length] at whole
  unfold realignBy
  split
  · rename_i isEmpty
    obtain rfl := List.isEmpty_iff.mp isEmpty
    -- there is nothing to pair a line with
    have none : pairs changes = [] := by
      refine List.eq_nil_iff_forall_not_mem.mpr fun pair member => ?_
      obtain ⟨i, k, line, -, isOld, -⟩ := whole.paired pair member
      simp at isOld
    have lines := Carries.fresh [] rows 0 0
    simp only [Nat.zero_add] at lines
    exact Carries.aligned (none ▸ lines)
  · exact whole.aligned

theorem realign_texts (old : List CachedLine) :
    realign old (old.map CachedLine.text) = old.mapIdx fun row line => { line with row } := by
  cases old with
  | nil => rfl
  | cons first rest =>
    have some : ((first :: rest).map CachedLine.text).toArray.size ≠ 0 := by simp
    have lines : alignChange (first :: rest).toArray
        ((first :: rest).map CachedLine.text).toArray
        ⟨.equal, 0, (first :: rest).length, 0, (first :: rest).length⟩ = _ := alignChange_moved rfl
    simp only [List.drop_zero, List.take_length, Nat.zero_add] at lines
    rw [realign, if_neg (by simp)]
    dsimp only
    rw [changes_self _ some, align, List.flatMap_singleton, ← lines]
    simp

theorem realign_self {rows : List String} (texts : old.map CachedLine.text = rows)
    (stands : old.map CachedLine.row = List.range old.length) : realign old rows = old := by
  rw [← texts, realign_texts]
  refine List.ext_getElem (by simp) fun k _ inside => ?_
  have row : old[k].row = k := by
    have same := List.getElem_of_eq stands (by simpa using inside)
    rwa [List.getElem_map, List.getElem_range] at same
  rw [List.getElem_mapIdx]
  exact congrArg (fun row => ({ old[k] with row } : CachedLine)) row.symm

variable {data : CacheData} {path : Path}

theorem linesOf_setFile (data : CacheData) (path : Path) (file : CachedFile) :
    (data.setFile path file).linesOf path = file.lines := by
  rw [linesOf, file?_setFile]

theorem setFile_linesOf (sorted : Sorted data.files) (cached : data.linesOf path ≠ []) :
    data.setFile path ⟨data.linesOf path⟩ = data := by
  obtain ⟨before, key, old, behind, files, isKey, put⟩ | ⟨-, -, -, others, -⟩ :=
    putFile_cases sorted path ⟨data.linesOf path⟩
  · have lines := linesOf_eq sorted (files ▸ List.mem_append_right _ List.mem_cons_self) isKey
    rw [setFile, put, lines, ← files]
  · exact absurd (linesOf_eq_nil others) cached

theorem rows_ne_nil (source : String) : Text.rows source ≠ [] := by
  simp [Text.rows, Text.splitAt, Text.pieces_ne_nil]

end CacheData

end MutationTesting
