import Mathlib.Data.List.Basic
import MutationTesting.Exclusion.Patch
/-! Where a counter overflows as a patch is read. The counts of the lines that are left stop at zero,
but the number of the next line is raised with each line of the new side, wherever the header lets it
start. -/
namespace MutationTesting.Exclusion

section Counters

theorem raise_eq (counter : Counter) (count : UInt64) :
    counter.raise count =
      if count.toNat + 1 < UInt64.size then .ok (count + 1) else .error counter := by
  unfold Counter.raise
  by_cases fits : count.toNat + 1 < UInt64.size
  · rw [if_neg (Nat.not_le.mpr fits), if_pos fits]
  · rw [if_pos (Nat.not_lt.mp fits), if_neg fits]

/-- A count that stops at zero is never lowered below it. -/
theorem lowerToZero_eq (counter : Counter) (count : UInt64) :
    counter.lowerToZero count = .ok (Hunk.less count) := by
  unfold Counter.lowerToZero Counter.lower Hunk.less
  by_cases isZero : count = 0
  · rw [if_pos isZero, if_pos isZero]
  · rw [if_neg isZero, if_neg isZero, if_neg isZero]

theorem passNewChecked_eq (hunk : Hunk) :
    hunk.passNewChecked =
      if hunk.newLine.toNat + 1 < UInt64.size then .ok hunk.passNew else .error .newLine := by
  unfold Hunk.passNewChecked
  rw [raise_eq, lowerToZero_eq]
  split
  · rfl
  · rfl

theorem passOldChecked_eq (hunk : Hunk) : hunk.passOldChecked = .ok hunk.passOld := by
  rw [Hunk.passOldChecked, lowerToZero_eq]
  rfl

end Counters

/-- Whether a line of a body belongs to the new side. -/
def isNew (line : String) : Bool :=
  match line.toList with
  | '+' :: _ => true
  | '-' :: _ => false
  | '\\' :: _ => false
  | _ => true

/-- Whether a line of a body belongs to the old side. -/
def isOld (line : String) : Bool :=
  match line.toList with
  | '+' :: _ => false
  | '-' :: _ => true
  | '\\' :: _ => false
  | _ => true

/-- How many lines it takes until none is left of either side. If there are too few, it takes all. -/
def lengthUpTo (newLeft oldLeft : Nat) : List String → Nat
  | [] => 0
  | line :: rest =>
    if newLeft = 0 ∧ oldLeft = 0 then 0
    else lengthUpTo (newLeft - (isNew line).toNat) (oldLeft - (isOld line).toNat) rest + 1

/-- How many of the lines behind the header of a hunk are its body. -/
def Hunk.bodyLength (hunk : Hunk) (lines : List String) : Nat :=
  lengthUpTo hunk.newLeft.toNat hunk.oldLeft.toNat lines

/-- A hunk as it is announced, and its body. -/
structure Announced where
  hunk : Hunk
  body : List String

/-- The hunks of a patch. A header inside a body is none. -/
def hunks : List String → List Announced
  | [] => []
  | line :: rest =>
    match (Text.stripLead? "@@ " line).bind Hunk.ofHeader? with
    | none => hunks rest
    | some hunk =>
      ⟨hunk, rest.take (hunk.bodyLength rest)⟩ :: hunks (rest.drop (hunk.bodyLength rest))
  termination_by lines => lines.length
  decreasing_by
    · simp
    · simp only [List.length_drop, List.length_cons]
      omega

/-- Whether 64 bits hold the number of the line behind the last one of the new side. -/
def Announced.Fits (announced : Announced) : Prop :=
  announced.hunk.newLine.toNat + announced.body.countP isNew < UInt64.size

instance (announced : Announced) : Decidable announced.Fits :=
  inferInstanceAs (Decidable (_ < _))

section Lines

variable {state : PatchState} {hunk : Hunk} {line : String}

/-- The hunk behind a line of its body. -/
def pass (hunk : Hunk) (line : String) : Hunk :=
  match line.toList with
  | '+' :: _ => hunk.passNew
  | '-' :: _ => hunk.passOld
  | '\\' :: _ => hunk
  | _ => hunk.passNew.passOld

theorem passChecked_eq (hunk : Hunk) (line : String) :
    hunk.passChecked line =
      if hunk.newLine.toNat + (isNew line).toNat < UInt64.size then .ok (pass hunk line)
      else .error .newLine := by
  have bound : hunk.newLine.toNat < UInt64.size := hunk.newLine.toNat_lt
  unfold Hunk.passChecked pass isNew
  generalize line.toList = cs
  split
  case h_1 => exact passNewChecked_eq hunk
  case h_2 => simp [bound, passOldChecked_eq]
  case h_3 => simp [bound]
  case h_4 =>
    rw [passNewChecked_eq]
    by_cases fits : hunk.newLine.toNat + 1 < UInt64.size
    · simp [fits, passOldChecked_eq, bind, Except.bind]
    · simp [fits, bind, Except.bind]

theorem hunk?_stepInside (inside : state.hunk? = some hunk) :
    (state.stepInside hunk line).hunk? = some (pass hunk line) := by
  unfold PatchState.stepInside pass
  generalize line.toList = cs
  split
  case h_1 => rfl
  case h_2 => rfl
  case h_3 => exact inside
  case h_4 => simp

/-- Inside a hunk a line is read as without checks, unless the number of the next line is too large. -/
theorem stepChecked_inside (inside : state.hunk? = some hunk) (going : hunk.isDone = false) :
    state.stepChecked line =
      if hunk.newLine.toNat + (isNew line).toNat < UInt64.size then .ok (state.step line)
      else .error .newLine := by
  have same : { state.stepInside hunk line with hunk? := some (pass hunk line) } =
      state.stepInside hunk line := by
    rw [← hunk?_stepInside inside]
  rw [PatchState.stepChecked, PatchState.step, inside]
  dsimp only
  rw [going, if_neg Bool.false_ne_true, if_neg Bool.false_ne_true, passChecked_eq]
  split
  · exact congrArg Except.ok same
  · rfl

/-- Whether no hunk is in progress. -/
def IsOutside (state : PatchState) : Prop :=
  ∀ hunk, state.hunk? = some hunk → hunk.isDone = true

theorem step_outside (outside : IsOutside state) (line : String) :
    state.step line = state.stepOutside line ∧
      state.stepChecked line = .ok (state.stepOutside line) := by
  unfold PatchState.step PatchState.stepChecked
  cases inside : state.hunk? with
  | none => exact ⟨rfl, rfl⟩
  | some hunk =>
    dsimp only
    rw [outside hunk inside, if_pos rfl, if_pos rfl]
    exact ⟨rfl, rfl⟩

theorem outside_stepOutside (outside : IsOutside state)
    (noHunk : (Text.stripLead? "@@ " line).bind Hunk.ofHeader? = none) :
    IsOutside (state.stepOutside line) := by
  intro hunk inside
  unfold PatchState.stepOutside at inside
  split at inside
  · exact outside hunk inside
  · split at inside
    · rename_i header isHeader
      rw [isHeader, Option.bind_some] at noHunk
      dsimp only at inside
      rw [noHunk] at inside
      contradiction
    · exact outside hunk inside

theorem hunk?_stepOutside (state : PatchState)
    (isHunk : (Text.stripLead? "@@ " line).bind Hunk.ofHeader? = some hunk) :
    (state.stepOutside line).hunk? = some hunk := by
  obtain ⟨text, header, isHunk⟩ := Option.bind_eq_some_iff.mp isHunk
  have noFile : Text.stripLead? "+++ " line = none := by
    obtain ⟨rest, isRest, -⟩ := Option.map_eq_some_iff.mp header
    rw [Text.stripLead?, Text.eq_append_of_afterLead? isRest]
    rfl
  unfold PatchState.stepOutside
  simp only [noFile, header, isHunk]

theorem less_toNat (count : UInt64) : (Hunk.less count).toNat = count.toNat - 1 := by
  unfold Hunk.less
  split
  · rename_i isZero
    rw [isZero]
    rfl
  · rename_i positive
    have atLeast : 1 ≤ count := by
      rw [UInt64.le_iff_toNat_le]
      have notZero : count.toNat ≠ 0 := by
        intro isZero
        exact positive (UInt64.toNat_inj.mp isZero)
      exact Nat.pos_of_ne_zero notZero
    rw [UInt64.toNat_sub_of_le _ _ atLeast]
    rfl

theorem pass_left (hunk : Hunk) (line : String) :
    (pass hunk line).newLeft.toNat = hunk.newLeft.toNat - (isNew line).toNat ∧
      (pass hunk line).oldLeft.toNat = hunk.oldLeft.toNat - (isOld line).toNat := by
  unfold pass isNew isOld
  generalize line.toList = cs
  split <;> simp [Hunk.passNew, Hunk.passOld, less_toNat]

theorem pass_newLine (fits : hunk.newLine.toNat + (isNew line).toNat < UInt64.size) :
    (pass hunk line).newLine.toNat = hunk.newLine.toNat + (isNew line).toNat := by
  have raised (fits : hunk.newLine.toNat + 1 < UInt64.size) :
      (hunk.newLine + 1).toNat = hunk.newLine.toNat + 1 := by
    rw [UInt64.toNat_add]
    exact Nat.mod_eq_of_lt fits
  revert fits
  unfold pass isNew
  generalize line.toList = cs
  split
  case h_1 => exact raised
  case h_2 => simp [Hunk.passOld]
  case h_3 => simp
  case h_4 =>
    intro fits
    simp only [Bool.toNat_true] at fits ⊢
    exact raised fits

theorem isDone_iff (hunk : Hunk) :
    hunk.isDone = true ↔ hunk.newLeft.toNat = 0 ∧ hunk.oldLeft.toNat = 0 := by
  unfold Hunk.isDone
  rw [Bool.and_eq_true, beq_iff_eq, beq_iff_eq, ← UInt64.toNat_inj, ← UInt64.toNat_inj]
  rfl

end Lines

section Runs

variable {state : PatchState} {hunk : Hunk} {lines : List String}

theorem fits_cons {line : String} {body : List String}
    (fits : hunk.newLine.toNat + (isNew line).toNat < UInt64.size) :
    Announced.Fits ⟨hunk, line :: body⟩ ↔ Announced.Fits ⟨pass hunk line, body⟩ := by
  unfold Announced.Fits
  rw [pass_newLine fits, List.countP_cons]
  cases isNew line <;> simp [Nat.add_assoc, Nat.add_comm]

theorem fits_of_fits_cons {line : String} {body : List String}
    (fits : Announced.Fits ⟨hunk, line :: body⟩) :
    hunk.newLine.toNat + (isNew line).toNat < UInt64.size := by
  unfold Announced.Fits at fits
  rw [List.countP_cons] at fits
  cases isLine : isNew line with
  | false => exact hunk.newLine.toNat_lt
  | true =>
    simp only [isLine, if_true] at fits
    rw [Bool.toNat_true]
    omega

/-- The lines of a body are read as without checks if the hunk fits, and then no hunk is in progress
unless nothing is left. -/
theorem foldlM_body (lines : List String) (inside : state.hunk? = some hunk) {length : Nat}
    (isLength : hunk.bodyLength lines = length) :
    (lines.foldlM PatchState.stepChecked state =
      if Announced.Fits ⟨hunk, lines.take length⟩ then
        (lines.drop length).foldlM PatchState.stepChecked
          ((lines.take length).foldl PatchState.step state)
      else .error .newLine) ∧
    (lines.drop length ≠ [] → IsOutside ((lines.take length).foldl PatchState.step state)) := by
  have fitsNothing : Announced.Fits ⟨hunk, []⟩ := hunk.newLine.toNat_lt
  induction lines generalizing state hunk length with
  | nil =>
    rw [List.take_nil, if_pos fitsNothing, List.drop_nil]
    exact ⟨rfl, fun some => absurd rfl some⟩
  | cons line rest ih =>
    rw [Hunk.bodyLength, lengthUpTo] at isLength
    by_cases isDone : hunk.newLeft.toNat = 0 ∧ hunk.oldLeft.toNat = 0
    · rw [if_pos isDone] at isLength
      subst isLength
      rw [List.take_zero, if_pos fitsNothing]
      refine ⟨rfl, ?_⟩
      intro _ other isOther
      obtain rfl := Option.some.inj (inside.symm.trans isOther)
      exact (isDone_iff hunk).mpr isDone
    · have going : hunk.isDone = false := by
        rw [← Bool.not_eq_true, isDone_iff]
        exact isDone
      have isStep : state.step line = state.stepInside hunk line := by
        rw [PatchState.step, inside]
        dsimp only
        rw [going, if_neg Bool.false_ne_true]
      -- The hunk behind this line has less left by what the line counts, so its body is the rest of
      -- this one.
      rw [if_neg isDone] at isLength
      subst isLength
      obtain ⟨newLeft, oldLeft⟩ := pass_left hunk line
      have insideNext : (state.stepInside hunk line).hunk? = some (pass hunk line) :=
        hunk?_stepInside inside
      have next := ih insideNext rfl (pass hunk line).newLine.toNat_lt
      rw [Hunk.bodyLength, newLeft, oldLeft] at next
      rw [List.take_succ_cons, List.drop_succ_cons, List.foldl_cons, List.foldlM_cons,
        stepChecked_inside inside going, isStep]
      by_cases fits : hunk.newLine.toNat + (isNew line).toNat < UInt64.size
      · rw [if_pos fits]
        simp only [fits_cons fits]
        exact next
      · have noFit (body : List String) : ¬ Announced.Fits ⟨hunk, line :: body⟩ := by
          intro all
          exact fits (fits_of_fits_cons all)
        rw [if_neg fits, if_neg (noFit _)]
        exact ⟨rfl, next.2⟩

theorem foldlM_outside (outside : IsOutside state) :
    lines.foldlM PatchState.stepChecked state =
      if ∀ announced ∈ hunks lines, announced.Fits then .ok (lines.foldl PatchState.step state)
      else .error .newLine := by
  induction lines using hunks.induct generalizing state with
  | case1 =>
    rw [hunks]
    exact (if_pos nofun).symm
  | case2 line rest noHunk ih =>
    obtain ⟨isStep, isChecked⟩ := step_outside outside line
    rw [hunks, noHunk, List.foldlM_cons, isChecked, List.foldl_cons, isStep]
    exact ih (outside_stepOutside outside noHunk)
  | case3 line rest hunk isHunk ih =>
    obtain ⟨isStep, isChecked⟩ := step_outside outside line
    obtain ⟨body, behind⟩ := foldlM_body rest (hunk?_stepOutside state isHunk) rfl
    rw [hunks, isHunk, List.foldlM_cons, isChecked, List.foldl_cons, isStep]
    dsimp only [bind, Except.bind]
    rw [body]
    simp only [List.forall_mem_cons]
    by_cases fits : Announced.Fits ⟨hunk, rest.take (hunk.bodyLength rest)⟩
    · have whole : rest.foldl PatchState.step (state.stepOutside line) =
          (rest.drop (hunk.bodyLength rest)).foldl PatchState.step
            ((rest.take (hunk.bodyLength rest)).foldl PatchState.step (state.stepOutside line)) := by
        rw [← List.foldl_append, List.take_append_drop]
      simp only [fits, if_true, true_and]
      -- Where the patch ends inside the body the hunk may still be in progress.
      by_cases isLast : rest.drop (hunk.bodyLength rest) = []
      · rw [isLast] at whole ⊢
        rw [hunks, if_pos nofun, whole]
        rfl
      · rw [ih (behind isLast), whole]
    · simp only [fits, if_false, false_and]

end Runs

/-- A patch is read to its end with all counters in 64 bits just if every hunk fits, and then as it is
without checks. Otherwise the number of the next line overflows; the other two counters never do. -/
theorem ofPatchChecked_eq (patch : String) :
    CoveredLines.ofPatchChecked patch =
      if ∀ announced ∈ hunks (Text.lines patch), announced.Fits then .ok (CoveredLines.ofPatch patch)
      else .error .newLine := by
  have outside : IsOutside .start := by
    intro hunk inside
    contradiction
  rw [CoveredLines.ofPatchChecked, foldlM_outside outside]
  split
  · rfl
  · rfl

/-- A hunk that starts at the last number that 64 bits hold does not fit with two lines. -/
theorem last_start_overflows :
    CoveredLines.ofPatchChecked "+++ b/a.py\n@@ -0,0 +18446744073709551615,2 @@\n+a\n+b\n" =
      .error .newLine := by
  decide +kernel

end MutationTesting.Exclusion
