import MutationTesting.Proofs.Cache.Found
import MutationTesting.Proofs.Cache.Listed
/-! A mutant that has been killed once. Its number goes along with its line, and no operation gives it
another status, since a status is only set for a mutant on which the cache cannot be relied. -/
namespace MutationTesting.CacheData

/-- Among some lines, whatever mutant has a number is killed. -/
def KilledOn (number : Nat) (lines : List CachedLine) : Prop :=
  ∀ line ∈ lines, ∀ mutant ∈ line.mutants, mutant.number = number → mutant.status = .killed

/-- A number has been given away, and whatever mutant has it is killed. -/
structure Slain (number : Nat) (data : CacheData) : Prop where
  given : number < data.nextNumber
  killed : ∀ entry ∈ data.files, KilledOn number entry.2.lines

variable {data changed : CacheData} {path : Path} {id : MutantId} {number : Nat}
  {lines : List CachedLine}

theorem slain_iff : Slain number data ↔ number < data.nextNumber ∧
    ∀ found ∈ data.mutants, found.2.2.number = number → found.2.2.status = .killed := by
  constructor
  · rintro ⟨given, killed⟩
    refine ⟨given, ?_⟩
    rintro ⟨path, line, mutant⟩ isFound
    obtain ⟨file, isFile, isLine, isMutant⟩ := mem_mutants.mp isFound
    exact killed _ isFile line isLine mutant isMutant
  · rintro ⟨given, killed⟩
    refine ⟨given, fun entry isFile line isLine mutant isMutant => ?_⟩
    exact killed (entry.1, line, mutant) (mem_mutants.mpr ⟨entry.2, isFile, isLine, isMutant⟩)

theorem Sound.slain (sound : data.Sound) {found : Path × CachedLine × CachedMutant}
    (isFound : found ∈ data.mutants) (killed : found.2.2.status = .killed) :
    Slain found.2.2.number data := by
  refine slain_iff.mpr ⟨sound.numbers_lt _ (List.mem_map_of_mem isFound), fun other isOther same => ?_⟩
  exact List.inj_on_of_nodup_map sound.numbers_nodup isOther isFound same ▸ killed

theorem Slain.trustedStatus (slain : Slain number data) (isNumber : data.number? path id = some number)
    (digest : String) : data.trustedStatus path id digest = .killed := by
  obtain ⟨mutant, found, rfl⟩ := Option.map_eq_some_iff.mp isNumber
  obtain ⟨key, line, -, has, -⟩ := has_of_find? found
  have killed : mutant.status = .killed :=
    (slain_iff.mp slain).2 (key, line, mutant) (mem_mutants.mpr has) rfl
  simp [CacheData.trustedStatus, found, killed]

theorem exists_killed {digest : String} (isKilled : data.trustedStatus path id digest = .killed) :
    ∃ mutant, data.find? path id = some mutant ∧ mutant.status = .killed := by
  unfold CacheData.trustedStatus at isKilled
  split at isKilled
  · contradiction
  · rename_i mutant found
    refine ⟨mutant, found, ?_⟩
    split at isKilled
    · assumption
    · split at isKilled
      · exact isKilled
      · contradiction

theorem Sound.slain_of_trusted (sound : data.Sound) (isNumber : data.number? path id = some number)
    {digest : String} (isKilled : data.trustedStatus path id digest = .killed) :
    Slain number data := by
  obtain ⟨mutant, found, killed⟩ := exists_killed isKilled
  obtain ⟨key, line, -, has, -⟩ := has_of_find? found
  have same : mutant.number = number := by simpa [number?, found] using isNumber
  exact same ▸ sound.slain (mem_mutants.mpr has) killed

theorem Sound.names_of_number? (sound : data.Sound) {other : Path} {name : MutantId}
    (isNumber : data.number? path id = some number)
    (isOther : data.number? other name = some number) : Names path id other name := by
  obtain ⟨mutant, found, rfl⟩ := Option.map_eq_some_iff.mp isNumber
  obtain ⟨mutant', found', same⟩ := Option.map_eq_some_iff.mp isOther
  obtain ⟨key, line, isKey, has, rfl⟩ := has_of_find? found
  obtain ⟨key', line', isKey', has', rfl⟩ := has_of_find? found'
  obtain ⟨rfl, rfl, rfl⟩ : key' = key ∧ line' = line ∧ mutant' = mutant := by
    simpa using sound.unique has' has same
  refine ⟨?_, rfl⟩
  rw [Path.same_iff] at isKey isKey' ⊢
  exact isKey'.symm.trans isKey

theorem Slain.linesOf (slain : Slain number data) (path : Path) :
    KilledOn number (data.linesOf path) := by
  unfold CacheData.linesOf
  cases found : data.file? path with
  | none => simp [KilledOn]
  | some file =>
    obtain ⟨entry, isEntry, rfl⟩ := Option.map_eq_some_iff.mp found
    exact slain.killed entry (List.mem_of_find?_eq_some isEntry)

theorem mem_putFile {file : CachedFile} {files : List (Path × CachedFile)}
    {entry : Path × CachedFile} (member : entry ∈ putFile path file files) :
    entry ∈ files ∨ entry.2 = file := by
  induction files with
  | nil => exact .inr (List.mem_singleton.mp member ▸ rfl)
  | cons first rest ih =>
    unfold putFile at member
    split at member
    · obtain rfl | member := List.mem_cons.mp member
      · exact .inr rfl
      · exact .inl member
    · obtain rfl | member := List.mem_cons.mp member
      · exact .inr rfl
      · exact .inl (List.mem_cons_of_mem _ member)
    · obtain rfl | member := List.mem_cons.mp member
      · exact .inl List.mem_cons_self
      · exact (ih member).imp_left (List.mem_cons_of_mem _)

theorem Slain.withLines (slain : Slain number data) (killed : KilledOn number lines) {next : Nat}
    (le : data.nextNumber ≤ next) : Slain number (data.withLines path lines next) where
  given := Nat.lt_of_lt_of_le slain.given le
  killed entry member := by
    obtain member | same := mem_putFile member
    · exact slain.killed entry member
    · exact same ▸ killed

theorem Slain.updateLines (slain : Slain number data) (path : Path) (source : String) :
    Slain number (data.updateLines path source) := by
  have killed : KilledOn number (realign (data.linesOf path) (Text.rows source)) := by
    intro line member
    obtain fresh | ⟨before, isOld, same⟩ :=
      (becomes_realign (data.linesOf path) (Text.rows source)).kept line member
    · simp [fresh]
    · rw [same]
      exact slain.linesOf path before isOld
  exact slain.withLines killed (Nat.le_refl _)

/-- One line is changed to one on which the number still belongs to killed mutants only. -/
theorem Slain.exchange (slain : Slain number data) {before behind : List CachedLine}
    {line other : CachedLine} (split : data.linesOf path = before ++ line :: behind)
    (killed : KilledOn number [other]) {next : Nat} (le : data.nextNumber ≤ next) :
    Slain number (data.withLines path (before ++ other :: behind) next) := by
  have was := slain.linesOf path
  rw [split] at was
  refine slain.withLines (fun found member => ?_) le
  obtain isBefore | member := List.mem_append.mp member
  · exact was found (List.mem_append_left _ isBefore)
  · obtain rfl | isBehind := List.mem_cons.mp member
    · exact killed found List.mem_cons_self
    · exact was found (List.mem_append_right _ (List.mem_cons_of_mem _ isBehind))

theorem Slain.add? (slain : Slain number data) {status : Status} {digest? : Option String}
    (done : data.add? path id status digest? = some changed) : Slain number changed := by
  obtain ⟨_, isChanged, rfl⟩ := Option.map_eq_some_iff.mp done
  obtain ⟨before, line, behind, split, -, rfl⟩ := changeLine?_eq isChanged
  refine slain.exchange split ?_ (Nat.le_succ _)
  intro other isOther mutant isMutant same
  obtain rfl := List.mem_singleton.mp isOther
  obtain isOld | isNew := List.mem_append.mp isMutant
  · exact slain.linesOf path line (split ▸ by simp) mutant isOld same
  · -- the new mutant has the next number
    obtain rfl := List.mem_singleton.mp isNew
    exact absurd same (Nat.ne_of_gt slain.given)

theorem Slain.register (slain : Slain number data) (path : Path) (ids : List MutantId) :
    Slain number (data.register path ids).2 := by
  induction ids generalizing data with
  | nil => exact slain
  | cons id rest ih =>
    unfold CacheData.register
    split
    · exact slain
    · split
      · cases added : data.add? path id .untested none with
        | none => exact slain
        | some changed => exact ih (slain.add? added)
      · exact ih slain

/-- A status is set for a mutant on which the cache cannot be relied, so for none that is killed. -/
theorem Slain.setStatus (slain : Slain number data) {status : Status} {digest : String}
    (unknown : data.trustedStatus path id digest = .untested)
    (done : data.setStatus path id status digest = .ok changed) : Slain number changed := by
  unfold CacheData.setStatus at done
  dsimp only at done
  split at done
  · rename_i after isChanged
    obtain rfl := Except.ok.inj done
    split at isChanged
    · exact slain.add? isChanged
    · obtain ⟨before, line, behind, split, found, rfl⟩ := changeLine?_eq isChanged
      have was := slain.linesOf path line (split ▸ by simp)
      refine slain.exchange split ?_ (Nat.le_refl _)
      intro other isOther mutant isMutant same
      obtain rfl := List.mem_singleton.mp isOther
      obtain isOld | ⟨inside, rfl⟩ := mem_modify isMutant
      · exact was mutant isOld same
      · -- the mutant that is changed is the one that the name leads to
        have isFound : data.number? path id = some number := by
          rw [number?, found, CachedLine.mutant?, List.find?_eq_getElem?_findIdx,
            List.getElem?_eq_getElem inside, Option.map_some]
          exact congrArg some same
        rw [slain.trustedStatus isFound] at unknown
        contradiction
  · contradiction

end MutationTesting.CacheData
