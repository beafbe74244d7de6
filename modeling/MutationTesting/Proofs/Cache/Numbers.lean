import MutationTesting.Proofs.Cache.Known
import MutationTesting.Proofs.Diff.Partition
/-! The files of a cache stand in the order of their paths, each place once. A file is put in the
place of the one of the same path, or between its neighbours. -/
namespace MutationTesting

namespace Component

theorem compare_lt {a b : Component} :
    a.compare b = .lt ↔ a.rank < b.rank ∨
      ∃ first second, a = name first ∧ b = name second ∧ Ord.compare first second = .lt := by
  cases a <;> cases b <;> simp [compare, rank, Nat.compare_eq_lt]

theorem compare_gt {a b : Component} (greater : a.compare b = .gt) : b.compare a = .lt := by
  cases a <;> cases b <;>
    simp_all [compare, rank, Nat.compare_eq_lt, Std.OrientedCmp.gt_iff_lt]

theorem compare_lt_trans {a b c : Component} (first : a.compare b = .lt)
    (second : b.compare c = .lt) : a.compare c = .lt := by
  rw [compare_lt] at *
  obtain first | ⟨x, y, rfl, rfl, first⟩ := first
  · obtain second | ⟨y, z, rfl, rfl, second⟩ := second
    · exact .inl (Nat.lt_trans first second)
    · exact .inl first
  · obtain second | ⟨y, z, same, rfl, second⟩ := second
    · exact .inl second
    · obtain rfl := Component.name.inj same
      exact .inr ⟨x, z, rfl, rfl, Std.TransCmp.lt_trans first second⟩

end Component

namespace Path

theorem compareComponents_gt {as bs : List Component} (greater : compareComponents as bs = .gt) :
    compareComponents bs as = .lt := by
  induction as generalizing bs with
  | nil => cases bs <;> simp [compareComponents] at greater
  | cons a as ih =>
    cases bs with
    | nil => rfl
    | cons b bs =>
      simp only [compareComponents, Ordering.then_eq_gt, Ordering.then_eq_lt] at greater ⊢
      obtain greater | ⟨same, greater⟩ := greater
      · exact .inl (Component.compare_gt greater)
      · obtain rfl := (Component.compare_eq a b).mp same
        exact .inr ⟨same, ih greater⟩

theorem compareComponents_lt_trans {as bs cs : List Component}
    (first : compareComponents as bs = .lt) (second : compareComponents bs cs = .lt) :
    compareComponents as cs = .lt := by
  induction as generalizing bs cs with
  | nil =>
    cases bs with
    | nil => contradiction
    | cons b bs => cases cs <;> simp_all [compareComponents]
  | cons a as ih =>
    cases bs with
    | nil => contradiction
    | cons b bs =>
      cases cs with
      | nil => contradiction
      | cons c cs =>
        simp only [compareComponents, Ordering.then_eq_lt] at *
        obtain first | ⟨same, first⟩ := first
        · obtain second | ⟨same', second⟩ := second
          · exact .inl (Component.compare_lt_trans first second)
          · obtain rfl := (Component.compare_eq b c).mp same'
            exact .inl first
        · obtain rfl := (Component.compare_eq a b).mp same
          obtain second | ⟨same', second⟩ := second
          · exact .inl second
          · exact .inr ⟨same', ih first second⟩

/-- A path stands before another one. -/
def Before (a b : Path) : Prop :=
  a.compare b = .lt

theorem Before.trans {a b c : Path} (first : a.Before b) (second : b.Before c) : a.Before c :=
  compareComponents_lt_trans first second

theorem before_of_gt {a b : Path} (greater : a.compare b = .gt) : b.Before a :=
  compareComponents_gt greater

theorem same_symm {a b : Path} : a.same b = b.same a := by
  simp [same, Bool.beq_comm]

theorem Before.not_same {a b : Path} (before : a.Before b) : b.same a = false := by
  rw [← Bool.not_eq_true, ← compare_eq, show a.compare b = .lt from before]
  simp

theorem Before.gt {a b : Path} (before : a.Before b) : b.compare a = .gt := by
  cases order : b.compare a with
  | lt => exact absurd (Before.trans before order).not_same (by simp [same])
  | eq =>
    have isSame := (compare_eq b a).mp order
    rw [same_symm, before.not_same] at isSame
    contradiction
  | gt => rfl

end Path

namespace CacheData

/-- Files in the order of their paths. -/
def Sorted (files : List (Path × CachedFile)) : Prop :=
  files.Pairwise fun a b => a.1.Before b.1

variable {path : Path} {files : List (Path × CachedFile)} {file : CachedFile}

/-- Putting a file under a path replaces the one that is there, whose path keeps its spelling, or
adds one. -/
theorem putFile_cases (sorted : Sorted files) (path : Path) (file : CachedFile) :
    (∃ before key old after, files = before ++ (key, old) :: after ∧ key.same path = true ∧
      putFile path file files = before ++ (key, file) :: after) ∨
    ∃ before after, files = before ++ after ∧
      (∀ entry ∈ files, entry.1.same path = false) ∧
      putFile path file files = before ++ (path, file) :: after ∧
      Sorted (putFile path file files) := by
  induction files with
  | nil => exact .inr ⟨[], [], rfl, by simp, rfl, List.pairwise_singleton _ _⟩
  | cons entry rest ih =>
    obtain ⟨other, old⟩ := entry
    obtain ⟨ahead, sorted⟩ := List.pairwise_cons.mp sorted
    unfold putFile
    cases order : path.compare other with
    | lt =>
      have before : ∀ entry ∈ (other, old) :: rest, path.Before entry.1 := by
        intro entry member
        obtain rfl | member := List.mem_cons.mp member
        · exact order
        · exact Path.Before.trans order (ahead entry member)
      exact .inr ⟨[], (other, old) :: rest, rfl,
        fun entry member => (before entry member).not_same, rfl,
        List.pairwise_cons.mpr ⟨before, List.pairwise_cons.mpr ⟨ahead, sorted⟩⟩⟩
    | eq => exact .inl ⟨[], other, old, rest, rfl, (Path.compare_eq path other).mp order, rfl⟩
    | gt =>
      have behind := Path.before_of_gt order
      obtain ⟨before, key, old', after, rfl, isKey, put⟩ | ⟨before, after, rfl, others, put, further⟩ :=
        ih sorted
      · exact .inl ⟨(other, old) :: before, key, old', after, rfl, isKey, by rw [put]; rfl⟩
      · refine .inr ⟨(other, old) :: before, after, rfl, ?_, by rw [put]; rfl, ?_⟩
        · intro entry member
          obtain rfl | member := List.mem_cons.mp member
          · rw [Path.same_symm]
            exact behind.not_same
          · exact others entry member
        · refine List.pairwise_cons.mpr ⟨fun entry member => ?_, further⟩
          rw [put] at member
          obtain member | member := List.mem_append.mp member
          · exact ahead entry (List.mem_append_left _ member)
          · obtain rfl | member := List.mem_cons.mp member
            · exact behind
            · exact ahead entry (List.mem_append_right _ member)

/-- A file with the same path takes the place of another one in the order. -/
theorem Sorted.exchange {before after : List (Path × CachedFile)} {key : Path} {old : CachedFile}
    (sorted : Sorted (before ++ (key, old) :: after)) (file : CachedFile) :
    Sorted (before ++ (key, file) :: after) := by
  obtain ⟨front, back, across⟩ := List.pairwise_append.mp sorted
  obtain ⟨ahead, back⟩ := List.pairwise_cons.mp back
  refine List.pairwise_append.mpr ⟨front, List.pairwise_cons.mpr ⟨ahead, back⟩, ?_⟩
  intro a isBefore b isBehind
  obtain rfl | isBehind := List.mem_cons.mp isBehind
  · exact across a isBefore (key, old) List.mem_cons_self
  · exact across a isBefore b (List.mem_cons_of_mem _ isBehind)

theorem Sorted.putFile (sorted : Sorted files) (path : Path) (file : CachedFile) :
    Sorted (putFile path file files) := by
  obtain ⟨before, key, old, after, rfl, -, put⟩ | ⟨before, after, -, -, -, further⟩ :=
    putFile_cases sorted path file
  · rw [put]
    exact sorted.exchange file
  · exact further

theorem Sorted.find?_eq {key : Path} (sorted : Sorted files) (member : (key, file) ∈ files)
    (isKey : key.same path = true) :
    (files.find? fun (other, _) => other.same path) = some (key, file) := by
  induction files with
  | nil => contradiction
  | cons entry rest ih =>
    obtain ⟨ahead, sorted⟩ := List.pairwise_cons.mp sorted
    obtain rfl | member := List.mem_cons.mp member
    · exact List.find?_cons_of_pos isKey
    · have before := ahead (key, file) member
      have other : entry.1.same path = false := by
        have components : key.components = path.components := by simpa [Path.same] using isKey
        have apart := Path.Before.not_same before
        rw [Path.same_symm, Path.same, components] at apart
        exact apart
      rw [List.find?_cons_of_neg (by simp [other])]
      exact ih sorted member

end CacheData

end MutationTesting

/-! The numbers of the mutants of a cache. No two mutants have one number, and a number that has
been given away is never given to another mutant: new ones are taken from a counter that only grows,
and a line that moves takes its mutants along. -/
namespace MutationTesting

namespace CachedLine

/-- The numbers of the mutants of lines. -/
def numbers (lines : List CachedLine) : List Nat :=
  lines.flatMap fun line => line.mutants.map CachedMutant.number

/-- The lines of a file stand on the rows from zero on, a line has one mutant at most for a place,
and the numbers of the mutants differ and are below the next one. -/
structure Numbered (lines : List CachedLine) (next : Nat) : Prop where
  rows : lines.map CachedLine.row = List.range lines.length
  places : ∀ line ∈ lines, (line.mutants.map CachedMutant.index).Nodup
  distinct : (numbers lines).Nodup
  below : ∀ number ∈ numbers lines, number < next

/-- A mutant with a number below the next one was on a line of the same text and at the same place
before. -/
def Continues (old lines : List CachedLine) (next : Nat) : Prop :=
  ∀ line ∈ lines, ∀ mutant ∈ line.mutants, mutant.number < next →
    ∃ before ∈ old, before.text = line.text ∧
      ∃ known ∈ before.mutants, known.number = mutant.number ∧ known.index = mutant.index

variable {old lines : List CachedLine} {next : Nat}

theorem mem_numbers {number : Nat} :
    number ∈ numbers lines ↔ ∃ line ∈ lines, ∃ mutant ∈ line.mutants, mutant.number = number := by
  simp [numbers]

theorem numbers_append (first later : List CachedLine) :
    numbers (first ++ later) = numbers first ++ numbers later :=
  List.flatMap_append

theorem Numbered.mono {further : Nat} (numbered : Numbered lines next) (le : next ≤ further) :
    Numbered lines further :=
  { numbered with below := fun number member => Nat.lt_of_lt_of_le (numbered.below number member) le }

theorem Numbered.nil (next : Nat) : Numbered [] next :=
  ⟨rfl, by simp, .nil, by simp [numbers]⟩

theorem Continues.mem_numbers (continues : Continues old lines next) {number : Nat}
    (member : number ∈ numbers lines) (below : number < next) : number ∈ numbers old := by
  obtain ⟨line, isLine, mutant, isMutant, rfl⟩ := CachedLine.mem_numbers.mp member
  obtain ⟨before, isOld, -, known, isKnown, same, -⟩ := continues line isLine mutant isMutant below
  exact CachedLine.mem_numbers.mpr ⟨before, isOld, known, isKnown, same⟩

end CachedLine

namespace CacheData

open CachedLine (Numbered Continues numbers)

/-- The lines that a cache has of a file. -/
def linesOf (data : CacheData) (path : Path) : List CachedLine :=
  match data.file? path with
  | some file => file.lines
  | none => []

/-- A cache in order: its files stand in the order of their paths, their lines are numbered, and no
two of them share a number. -/
structure Sound (data : CacheData) : Prop where
  sorted : Sorted data.files
  numbered : ∀ entry ∈ data.files, Numbered entry.2.lines data.nextNumber
  apart : data.files.Pairwise fun a b =>
    ∀ number ∈ numbers a.2.lines, number ∉ numbers b.2.lines

/-- A mutant stands on a line of a file in the cache. -/
def Has (data : CacheData) (path : Path) (line : CachedLine) (mutant : CachedMutant) : Prop :=
  ∃ file, (path, file) ∈ data.files ∧ line ∈ file.lines ∧ mutant ∈ line.mutants

/-- What has become of a cache: numbers that had been given away belong, if at all, to mutants that
had them before, in the same file, on a line of the same text and at the same place. -/
structure Keeps (earlier later : CacheData) : Prop where
  next : earlier.nextNumber ≤ later.nextNumber
  known : ∀ path line mutant, later.Has path line mutant → mutant.number < earlier.nextNumber →
    ∃ before known, earlier.Has path before known ∧ before.text = line.text ∧
      known.number = mutant.number ∧ known.index = mutant.index

theorem Keeps.refl (data : CacheData) : Keeps data data :=
  ⟨Nat.le_refl _, fun _ line mutant has _ => ⟨line, mutant, has, rfl, rfl, rfl⟩⟩

theorem Keeps.trans {first between last : CacheData} (keeps : Keeps first between)
    (further : Keeps between last) : Keeps first last where
  next := Nat.le_trans keeps.next further.next
  known path line mutant has below := by
    obtain ⟨middle, mutant', has, text, number, index⟩ :=
      further.known path line mutant has (Nat.lt_of_lt_of_le below keeps.next)
    obtain ⟨before, known, has, text', number', index'⟩ :=
      keeps.known path middle mutant' has (number ▸ below)
    exact ⟨before, known, has, text'.trans text, number'.trans number, index'.trans index⟩

theorem sound_empty : Sound .empty :=
  ⟨.nil, by simp [empty], .nil⟩

variable {data : CacheData} {path : Path} {lines : List CachedLine} {next : Nat}

/-- The time of the clean run has nothing to do with the mutants. -/
theorem Sound.withBaseline (sound : data.Sound) (baseline? : Option Float) :
    Sound { data with baseline? } ∧ data.Keeps { data with baseline? } :=
  ⟨⟨sound.sorted, sound.numbered, sound.apart⟩, ⟨Nat.le_refl _, (Keeps.refl data).known⟩⟩

theorem linesOf_eq (sorted : Sorted data.files) {key : Path} {file : CachedFile}
    (member : (key, file) ∈ data.files) (isKey : key.same path = true) :
    data.linesOf path = file.lines := by
  rw [linesOf, file?, sorted.find?_eq member isKey]
  rfl

theorem linesOf_eq_nil (others : ∀ entry ∈ data.files, entry.1.same path = false) :
    data.linesOf path = [] := by
  have none : data.file? path = none := by
    rw [file?, Option.map_eq_none_iff, List.find?_eq_none]
    exact fun entry member => by simp [others entry member]
  rw [linesOf, none]

theorem Sound.numbered_linesOf (sound : data.Sound) (path : Path) :
    Numbered (data.linesOf path) data.nextNumber := by
  unfold linesOf
  cases found : data.file? path with
  | none => exact .nil _
  | some file =>
    obtain ⟨entry, isEntry, rfl⟩ := Option.map_eq_some_iff.mp found
    exact sound.numbered entry (List.mem_of_find?_eq_some isEntry)

/-- The data with other lines of a file and another next number. -/
def withLines (data : CacheData) (path : Path) (lines : List CachedLine) (next : Nat) : CacheData :=
  { data.setFile path ⟨lines⟩ with nextNumber := next }

/-- Where the lines of a file are put: the other files stay, and none of them shares a number with
the lines that the file had. -/
theorem Sound.place (sound : data.Sound) (path : Path) (file : CachedFile) :
    ∃ before key after, putFile path file data.files = before ++ (key, file) :: after ∧
      (before ++ after).Sublist data.files ∧
      (∀ entry ∈ before ++ after, ∀ number ∈ numbers entry.2.lines,
        number ∉ numbers (data.linesOf path)) ∧
      ∀ line ∈ data.linesOf path, ∀ mutant ∈ line.mutants, data.Has key line mutant := by
  obtain ⟨before, key, old, after, files, isKey, put⟩ | ⟨before, after, files, others, put, -⟩ :=
    putFile_cases sound.sorted path file
  · have member : (key, old) ∈ data.files := by simp [files]
    have lines := linesOf_eq sound.sorted member isKey
    refine ⟨before, key, after, put, ?_, ?_, ?_⟩
    · rw [files]
      exact (List.Sublist.refl _).append (List.sublist_cons_self _ _)
    · have apart := sound.apart
      rw [files] at apart
      obtain ⟨-, back, across⟩ := List.pairwise_append.mp apart
      intro entry isOther number isNumber
      rw [lines]
      obtain isBefore | isBehind := List.mem_append.mp isOther
      · exact across entry isBefore (key, old) List.mem_cons_self number isNumber
      · exact fun isOld => (List.pairwise_cons.mp back).1 entry isBehind number isOld isNumber
    · intro line isLine mutant isMutant
      exact ⟨old, member, lines ▸ isLine, isMutant⟩
  · rw [linesOf_eq_nil others]
    exact ⟨before, path, after, put, files ▸ List.Sublist.refl _, by simp [numbers], by simp⟩

/-- A cache stays in order if the lines of a file give way to lines that continue them. -/
theorem Sound.withLines (sound : data.Sound) (numbered : Numbered lines next)
    (le : data.nextNumber ≤ next)
    (continues : Continues (data.linesOf path) lines data.nextNumber) :
    (data.withLines path lines next).Sound ∧ data.Keeps (data.withLines path lines next) := by
  obtain ⟨before, key, after, put, stay, apart, had⟩ := sound.place path ⟨lines⟩
  have files : (data.withLines path lines next).files = before ++ (key, ⟨lines⟩) :: after := put
  -- an old number of the new lines is one of the old lines, and a new one is greater than all
  have fresh : ∀ entry ∈ before ++ after, ∀ number ∈ numbers entry.2.lines,
      number ∉ numbers lines := by
    intro entry isOther number isNumber isNew
    have below := (sound.numbered entry (stay.subset isOther)).below number isNumber
    exact apart entry isOther number isNumber (continues.mem_numbers isNew below)
  refine ⟨⟨sound.sorted.putFile path ⟨lines⟩, ?_, ?_⟩, le, ?_⟩
  · intro entry member
    rw [files] at member
    obtain isBefore | member := List.mem_append.mp member
    · exact (sound.numbered entry (stay.subset (List.mem_append_left _ isBefore))).mono le
    · obtain rfl | isBehind := List.mem_cons.mp member
      · exact numbered
      · exact (sound.numbered entry (stay.subset (List.mem_append_right _ isBehind))).mono le
  · rw [files]
    obtain ⟨front, back, across⟩ := List.pairwise_append.mp (sound.apart.sublist stay)
    refine List.pairwise_append.mpr ⟨front, List.pairwise_cons.mpr ⟨?_, back⟩, ?_⟩
    · exact fun entry isBehind number isNew isNumber =>
        fresh entry (List.mem_append_right _ isBehind) number isNumber isNew
    · intro entry isBefore other isOther
      obtain rfl | isBehind := List.mem_cons.mp isOther
      · exact fresh entry (List.mem_append_left _ isBefore)
      · exact across entry isBefore other isBehind
  · rintro path line mutant ⟨file, member, isLine, isMutant⟩ below
    rw [files] at member
    have stays (isOther : (path, file) ∈ before ++ after) : data.Has path line mutant :=
      ⟨file, stay.subset isOther, isLine, isMutant⟩
    obtain isBefore | member := List.mem_append.mp member
    · exact ⟨line, mutant, stays (List.mem_append_left _ isBefore), rfl, rfl, rfl⟩
    · obtain same | isBehind := List.mem_cons.mp member
      · obtain ⟨rfl, rfl⟩ := Prod.mk.inj same
        obtain ⟨before, isOld, text, known, isKnown, number, index⟩ :=
          continues line isLine mutant isMutant below
        exact ⟨before, known, had before isOld known isKnown, text, number, index⟩
      · exact ⟨line, mutant, stays (List.mem_append_right _ isBehind), rfl, rfl, rfl⟩

end CacheData

end MutationTesting
