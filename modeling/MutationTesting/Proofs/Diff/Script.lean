import MutationTesting.Diff.Change
/-! Edits that follow each other from one place of two sequences to another. The search finds such
edits, and moving one of them leads to such edits again. -/
namespace MutationTesting.Diff

variable {α : Type} {old new : Array α}

/-- Stretches of both sequences with equal items. -/
def Agree (old new : Array α) (a c length : Nat) : Prop :=
  ∀ k < length, ∃ item, old[a + k]? = some item ∧ new[c + k]? = some item

namespace Agree

variable {a c length further : Nat}

theorem zero (old new : Array α) (a c : Nat) : Agree old new a c 0 :=
  fun _ inside => absurd inside (Nat.not_lt_zero _)

theorem append (here : Agree old new a c length)
    (behind : Agree old new (a + length) (c + length) further) :
    Agree old new a c (length + further) := by
  intro k inside
  by_cases first : k < length
  · exact here k first
  · obtain ⟨item, isOld, isNew⟩ := behind (k - length) (by omega)
    refine ⟨item, ?_, ?_⟩
    · rwa [show a + length + (k - length) = a + k by omega] at isOld
    · rwa [show c + length + (k - length) = c + k by omega] at isNew

theorem take (agree : Agree old new a c length) (shorter : further ≤ length) :
    Agree old new a c further :=
  fun k inside => agree k (Nat.lt_of_lt_of_le inside shorter)

theorem drop (agree : Agree old new a c length) (count : Nat) :
    Agree old new (a + count) (c + count) (length - count) := by
  intro k inside
  obtain ⟨item, isOld, isNew⟩ := agree (count + k) (by omega)
  exact ⟨item, by rwa [Nat.add_assoc], by rwa [Nat.add_assoc]⟩

theorem le_size (agree : Agree old new a c length) (some : 0 < length) : a + length ≤ old.size := by
  obtain ⟨item, isOld, -⟩ := agree (length - 1) (by omega)
  have bound := (Array.getElem?_eq_some_iff.mp isOld).1
  omega

variable [DecidableEq α]

theorem commonAhead {limit : Nat} (inOld : a + limit ≤ old.size) :
    Agree old new a c (commonAhead old new limit a c) := by
  induction limit generalizing a c with
  | zero => exact zero old new a c
  | succ limit ih =>
    unfold Diff.commonAhead
    split
    · rename_i same
      have item : old[a]? = some old[a] := Array.getElem?_eq_getElem (by omega)
      have first : Agree old new a c 1 := by
        intro k inside
        obtain rfl : k = 0 := by omega
        exact ⟨old[a], item, same.symm.trans item⟩
      exact first.append (ih (by omega))
    · exact zero old new a c

theorem commonBehind {limit b d : Nat} (inFront : limit ≤ b) (inFrontNew : limit ≤ d)
    (inOld : b ≤ old.size) :
    Agree old new (b - commonBehind old new limit b d) (d - commonBehind old new limit b d)
      (commonBehind old new limit b d) := by
  induction limit generalizing b d with
  | zero => exact zero old new _ _
  | succ limit ih =>
    unfold Diff.commonBehind
    split
    · rename_i same
      have bound := commonBehind_le old new limit (b - 1) (d - 1)
      have inner := ih (b := b - 1) (d := d - 1) (by omega) (by omega) (by omega)
      generalize Diff.commonBehind old new limit (b - 1) (d - 1) = count at *
      have item : old[b - 1]? = some old[b - 1] := Array.getElem?_eq_getElem (by omega)
      have last : Agree old new (b - 1) (d - 1) 1 := by
        intro k inside
        obtain rfl : k = 0 := by omega
        exact ⟨old[b - 1], item, same.symm.trans item⟩
      rw [show b - (1 + count) = b - 1 - count by omega,
        show d - (1 + count) = d - 1 - count by omega, Nat.add_comm 1 count]
      refine inner.append ?_
      rwa [show b - 1 - count + count = b - 1 by omega,
        show d - 1 - count + count = d - 1 by omega]
    · exact zero old new _ _

end Agree

namespace Edit

/-- The items of the old sequence that an edit passes. -/
def oldLength (edit : Edit) : Nat :=
  if edit.action = .insert then 0 else edit.length

/-- The items of the new sequence that an edit passes. -/
def newLength (edit : Edit) : Nat :=
  if edit.action = .delete then 0 else edit.length

/-- An edit stands at a place of each sequence: what it takes from a sequence begins there, and what
it keeps is equal in both. -/
def StandsAt (old new : Array α) (a c : Nat) (edit : Edit) : Prop :=
  match edit.action with
  | .keep => edit.old = a ∧ edit.new = c ∧ Agree old new a c edit.length
  | .delete => edit.old = a
  | .insert => edit.new = c

end Edit

/-- Edits that follow each other from a place of each sequence to another place. -/
def Script (old new : Array α) : (a c : Nat) → List Edit → (b d : Nat) → Prop
  | a, c, [], b, d => a = b ∧ c = d
  | a, c, edit :: rest, b, d =>
    edit.StandsAt old new a c ∧
      Script old new (a + edit.oldLength) (c + edit.newLength) rest b d

namespace Script

variable {a b c d x y : Nat} {edits later : List Edit}

theorem append (first : Script old new a c edits x y) (second : Script old new x y later b d) :
    Script old new a c (edits ++ later) b d := by
  induction edits generalizing a c with
  | nil =>
    obtain ⟨rfl, rfl⟩ := first
    exact second
  | cons edit rest ih => exact ⟨first.1, ih first.2⟩

theorem split (whole : Script old new a c (edits ++ later) b d) :
    ∃ x y, Script old new a c edits x y ∧ Script old new x y later b d := by
  induction edits generalizing a c with
  | nil => exact ⟨a, c, ⟨rfl, rfl⟩, whole⟩
  | cons edit rest ih =>
    obtain ⟨x, y, first, second⟩ := ih whole.2
    exact ⟨x, y, ⟨whole.1, first⟩, second⟩

theorem keep {length : Nat} (agree : Agree old new a c length) :
    Script old new a c (keep a c length) (a + length) (c + length) := by
  unfold Diff.keep
  split
  · rename_i empty
    subst empty
    exact ⟨rfl, rfl⟩
  · exact ⟨⟨rfl, rfl, agree⟩, rfl, rfl⟩

theorem delete (old new : Array α) (forward : a ≤ b) (place : Nat) :
    Script old new a c [⟨.delete, a, place, b - a⟩] b c :=
  ⟨rfl, Nat.add_sub_cancel' forward, rfl⟩

theorem insert (old new : Array α) (forward : c ≤ d) (place : Nat) :
    Script old new a c [⟨.insert, place, c, d - c⟩] a d :=
  ⟨rfl, rfl, Nat.add_sub_cancel' forward⟩

end Script

section

variable [DecidableEq α]

theorem script_editsWithin (old new : Array α) (box : Box) (forward : box.a ≤ box.b)
    (forwardNew : box.c ≤ box.d) (inOld : box.b ≤ old.size) :
    Script old new box.a box.c (editsWithin old new box) box.b box.d := by
  have limit : min box.oldLength box.newLength ≤ box.b - box.a := Nat.min_le_left _ _
  have limitNew : min box.oldLength box.newLength ≤ box.d - box.c := Nat.min_le_right _ _
  have aheadLe := commonAhead_le old new (min box.oldLength box.newLength) box.a box.c
  have agreeAhead : Agree old new box.a box.c _ :=
    .commonAhead (show box.a + min box.oldLength box.newLength ≤ old.size by omega)
  have front := Script.keep agreeAhead
  rw [editsWithin]
  generalize commonAhead old new (min box.oldLength box.newLength) box.a box.c = ahead at *
  have behindLe := commonBehind_le old new (min (box.b - (box.a + ahead)) (box.d - (box.c + ahead)))
    box.b box.d
  have agreeBehind : Agree old new (box.b - _) (box.d - _) _ :=
    .commonBehind (show min (box.b - (box.a + ahead)) (box.d - (box.c + ahead)) ≤ box.b by omega)
      (by omega) inOld
  have back := Script.keep agreeBehind
  generalize commonBehind old new (min (box.b - (box.a + ahead)) (box.d - (box.c + ahead)))
    box.b box.d = behind at *
  rw [Nat.sub_add_cancel (show behind ≤ box.b by omega),
    Nat.sub_add_cancel (show behind ≤ box.d by omega)] at back
  refine (front.append ?_).append back
  have left : box.a + ahead ≤ box.b - behind := by omega
  have leftNew : box.c + ahead ≤ box.d - behind := by omega
  -- what is deleted and inserted if the rest is not divided
  have exchanged := (Script.delete old new left (box.c + ahead)).append
    (Script.insert old new leftNew (box.a + ahead))
  split
  · exact ⟨by omega, by omega⟩
  · split
    · have same : box.c + ahead = box.d - behind := by omega
      exact same ▸ Script.delete old new left (box.c + ahead)
    · split
      · have same : box.a + ahead = box.b - behind := by omega
        exact same ▸ Script.insert old new leftNew (box.a + ahead)
      · split
        · rename_i x y _
          split
          · rename_i inside
            obtain ⟨⟨has, hasNew⟩, smaller, smaller'⟩ := inside
            exact (script_editsWithin old new ⟨box.a + ahead, x, box.c + ahead, y⟩ has.1 hasNew.1
              (Nat.le_trans has.2 (by dsimp only; omega))).append
              (script_editsWithin old new ⟨x, box.b - behind, y, box.d - behind⟩ has.2 hasNew.2
                (by dsimp only; omega))
          · exact exchanged
        · exact exchanged
  termination_by box.size

end

/-- The edits in front of a focus, the edit, and the edits behind it. -/
def Focus.edits (focus : Focus) : List Edit :=
  focus.front.reverse ++ focus.edit :: focus.back

variable {a b c d : Nat}

namespace Edit

variable {edit : Edit}

theorem standsAt_keep (isKeep : edit.action = .keep) :
    edit.StandsAt old new a c ↔ edit.old = a ∧ edit.new = c ∧ Agree old new a c edit.length := by
  simp [StandsAt, isKeep]

theorem standsAt_insert (isInsert : edit.action = .insert) :
    edit.StandsAt old new a c ↔ edit.new = c := by
  simp [StandsAt, isInsert]

theorem standsAt_delete (isDelete : edit.action = .delete) :
    edit.StandsAt old new a c ↔ edit.old = a := by
  simp [StandsAt, isDelete]

theorem lengths_keep (isKeep : edit.action = .keep) :
    edit.oldLength = edit.length ∧ edit.newLength = edit.length := by
  simp [oldLength, newLength, isKeep]

theorem lengths_insert (isInsert : edit.action = .insert) :
    edit.oldLength = 0 ∧ edit.newLength = edit.length := by
  simp [oldLength, newLength, isInsert]

theorem lengths_delete (isDelete : edit.action = .delete) :
    edit.oldLength = edit.length ∧ edit.newLength = 0 := by
  simp [oldLength, newLength, isDelete]

end Edit

theorem script_keepBehind {count : Nat} {back : List Edit} (agree : Agree old new a c count)
    (script : Script old new (a + count) (c + count) back b d) :
    Script old new a c (keepBehind a c count back) b d := by
  have kept : (⟨.keep, a, c, count⟩ : Edit).StandsAt old new a c := ⟨rfl, rfl, agree⟩
  cases back with
  | nil => exact ⟨kept, script⟩
  | cons next rest =>
    obtain ⟨stands, script⟩ := script
    simp only [keepBehind]
    split
    · rename_i isKeep
      obtain ⟨placeOld, placeNew, further⟩ := (Edit.standsAt_keep isKeep).mp stands
      obtain ⟨lengthOld, lengthNew⟩ := Edit.lengths_keep isKeep
      rw [lengthOld, lengthNew, Nat.add_assoc, Nat.add_assoc, Nat.add_comm count] at script
      have grown : (growFront next count).action = .keep := isKeep
      refine ⟨(Edit.standsAt_keep grown).mpr ⟨?_, ?_, ?_⟩, ?_⟩
      · simp only [growFront, placeOld, Nat.add_sub_cancel]
      · simp only [growFront, placeNew, Nat.add_sub_cancel]
      · simp only [growFront]
        rw [Nat.add_comm]
        exact agree.append further
      · rw [(Edit.lengths_keep grown).1, (Edit.lengths_keep grown).2]
        exact script
    · exact ⟨kept, stands, script⟩

theorem script_keepInFront {x y count : Nat} {front : List Edit}
    (script : Script old new a c front.reverse x y) (agree : Agree old new x y count) :
    Script old new a c (keepInFront x y count front).reverse (x + count) (y + count) := by
  have kept : Script old new x y [⟨.keep, x, y, count⟩] (x + count) (y + count) :=
    ⟨⟨rfl, rfl, agree⟩, rfl, rfl⟩
  cases front with
  | nil =>
    obtain ⟨rfl, rfl⟩ := script
    exact kept
  | cons next rest =>
    simp only [keepInFront]
    split
    · rename_i isKeep
      rw [List.reverse_cons] at script ⊢
      obtain ⟨x', y', before, stands, endOld, endNew⟩ := script.split
      obtain ⟨placeOld, placeNew, earlier⟩ := (Edit.standsAt_keep isKeep).mp stands
      obtain ⟨lengthOld, lengthNew⟩ := Edit.lengths_keep isKeep
      rw [lengthOld] at endOld
      rw [lengthNew] at endNew
      have grown : (growBack next count).action = .keep := isKeep
      refine before.append ⟨(Edit.standsAt_keep grown).mpr ⟨placeOld, placeNew, ?_⟩, ?_, ?_⟩
      · exact earlier.append (endOld ▸ endNew ▸ agree)
      · rw [(Edit.lengths_keep grown).1, ← endOld, Nat.add_assoc]
        rfl
      · rw [(Edit.lengths_keep grown).2, ← endNew, Nat.add_assoc]
        rfl
    · rw [List.reverse_cons]
      exact script.append kept

theorem split_front {next edit : Edit} {rest back : List Edit}
    (script : Script old new a c (Focus.edits ⟨next :: rest, edit, back⟩) b d) :
    ∃ x y, Script old new a c rest.reverse x y ∧
      Script old new x y (next :: edit :: back) b d := by
  rw [Focus.edits, List.reverse_cons, List.append_assoc] at script
  exact script.split

theorem join_front {x y : Nat} {next edit : Edit} {rest back : List Edit}
    (before : Script old new a c rest.reverse x y)
    (script : Script old new x y (next :: edit :: back) b d) :
    Script old new a c (Focus.edits ⟨next :: rest, edit, back⟩) b d := by
  rw [Focus.edits, List.reverse_cons, List.append_assoc]
  exact before.append script

theorem script_merge {next edit : Edit} {back : List Edit} (notKeep : next.action ≠ .keep)
    (same : next.action = edit.action) (script : Script old new a c (next :: edit :: back) b d) :
    Script old new a c ({ next with length := next.length + edit.length } :: back) b d := by
  obtain ⟨action, placeOld, placeNew, length⟩ := next
  obtain ⟨action', placeOld', placeNew', length'⟩ := edit
  obtain rfl : action = action' := same
  obtain ⟨stands, -, script⟩ := script
  cases action with
  | keep => contradiction
  | delete => exact ⟨stands, by simpa [Edit.oldLength, Edit.newLength, Nat.add_assoc] using script⟩
  | insert => exact ⟨stands, by simpa [Edit.oldLength, Edit.newLength, Nat.add_assoc] using script⟩

theorem script_swap {next edit : Edit} {back : List Edit} (notKeep : next.action ≠ .keep)
    (moves : edit.action ≠ .keep) (other : next.action ≠ edit.action)
    (script : Script old new a c (next :: edit :: back) b d) :
    Script old new a c (edit :: next :: back) b d := by
  obtain ⟨action, placeOld, placeNew, length⟩ := next
  obtain ⟨action', placeOld', placeNew', length'⟩ := edit
  obtain ⟨stands, standsToo, script⟩ := script
  cases action <;> cases action' <;> first
    | contradiction
    | exact ⟨standsToo, stands, by simpa [Edit.oldLength, Edit.newLength] using script⟩

/-- An insertion that slides to the front along kept items leaves them behind it. -/
theorem script_insertBefore {count : Nat} {kept edit : Edit} {back : List Edit}
    (isInsert : edit.action = .insert) (place : edit.new = kept.new + kept.length)
    (within : count ≤ kept.length) (fits : count ≤ edit.length)
    (agree : Agree old new (kept.old + kept.length - count) (edit.new + edit.length - count) count)
    (script : Script old new (kept.old + kept.length) (edit.new + edit.length) back b d) :
    Script old new (kept.old + kept.length - count) (kept.new + kept.length - count)
      ({ edit with old := edit.old - count, new := edit.new - count } ::
        keepBehind (kept.old + kept.length - count) (edit.new + edit.length - count) count back)
      b d := by
  have moved : { edit with old := edit.old - count, new := edit.new - count }.action = .insert :=
    isInsert
  refine ⟨(Edit.standsAt_insert moved).mpr (by simp only [place]), ?_⟩
  rw [(Edit.lengths_insert moved).1, (Edit.lengths_insert moved).2]
  have behind : kept.new + kept.length - count + edit.length = edit.new + edit.length - count := by
    omega
  simp only [Nat.add_zero, behind]
  refine script_keepBehind agree ?_
  rwa [Nat.sub_add_cancel (by omega), Nat.sub_add_cancel (by omega)]

theorem agree_next {front rest : List Edit} {edit next : Edit} (isKeep : next.action = .keep)
    (script : Script old new a c (Focus.edits ⟨front, edit, next :: rest⟩) b d) :
    Agree old new next.old next.new next.length := by
  obtain ⟨x, y, -, -, keeps, -⟩ := script.split
  obtain ⟨placeOld, placeNew, equal⟩ := (Edit.standsAt_keep isKeep).mp keeps
  exact placeOld ▸ placeNew ▸ equal

/-- The edits in front of an insertion, the insertion, and the edits behind the next one, which
keeps items. -/
theorem split_insertion {front rest : List Edit} {edit next : Edit}
    (isInsert : edit.action = .insert) (isKeep : next.action = .keep)
    (script : Script old new a c (Focus.edits ⟨front, edit, next :: rest⟩) b d) :
    Script old new a c front.reverse next.old edit.new ∧
      next.new = edit.new + edit.length ∧
      Script old new (next.old + next.length) (next.new + next.length) rest b d := by
  obtain ⟨x, y, before, stands, keeps, further⟩ := script.split
  obtain ⟨placeOld, placeNew, -⟩ := (Edit.standsAt_keep isKeep).mp keeps
  have place := (Edit.standsAt_insert isInsert).mp stands
  obtain ⟨lengthOld, lengthNew⟩ := Edit.lengths_insert isInsert
  dsimp only at placeOld placeNew place further
  rw [lengthOld, Nat.add_zero] at placeOld
  rw [lengthNew, ← place] at placeNew
  rw [lengthOld, lengthNew, (Edit.lengths_keep isKeep).1, (Edit.lengths_keep isKeep).2,
    Nat.add_zero, ← placeOld, ← place, ← placeNew] at further
  exact ⟨placeOld ▸ place ▸ before, placeNew, further⟩

/-- An insertion that slides to the back along kept items leaves them in front of it. -/
theorem script_insertBehind {x count : Nat} {front back : List Edit} {edit : Edit}
    (isInsert : edit.action = .insert) (before : Script old new a c front.reverse x edit.new)
    (agree : Agree old new x edit.new count)
    (script : Script old new (x + count) (edit.new + edit.length + count) back b d) :
    Script old new a c
      (Focus.edits ⟨keepInFront x edit.new count front,
        { edit with old := edit.old + count, new := edit.new + count }, back⟩) b d := by
  have moved : { edit with old := edit.old + count, new := edit.new + count }.action = .insert :=
    isInsert
  refine (script_keepInFront before agree).append ⟨(Edit.standsAt_insert moved).mpr rfl, ?_⟩
  rw [(Edit.lengths_insert moved).1, (Edit.lengths_insert moved).2, Nat.add_zero,
    Nat.add_right_comm]
  exact script

variable [DecidableEq α]

theorem slackFront_spec {edit kept : Edit} (room : 0 < slackFront old new edit kept)
    (equal : Agree old new kept.old kept.new kept.length) :
    edit.action = .insert ∧ slackFront old new edit kept ≤ kept.length ∧
      slackFront old new edit kept ≤ edit.length ∧
      Agree old new (kept.old + kept.length - slackFront old new edit kept)
        (edit.new + edit.length - slackFront old new edit kept) (slackFront old new edit kept) := by
  unfold slackFront at *
  split at room
  · rename_i isInsert
    have bound := commonBehind_le old new (min kept.length edit.length)
      (kept.old + kept.length) (edit.new + edit.length)
    have inOld := equal.le_size (by omega)
    rw [if_pos isInsert]
    exact ⟨isInsert, by omega, by omega, Agree.commonBehind (by omega) (by omega) inOld⟩
  · contradiction

theorem script_slideFront (front : List Edit) (edit : Edit) (back : List Edit)
    (moves : edit.action ≠ .keep)
    (script : Script old new a c (Focus.edits ⟨front, edit, back⟩) b d) :
    Script old new a c (slideFront old new front edit back).edits b d ∧
      (slideFront old new front edit back).edit.action = edit.action := by
  fun_induction slideFront old new front edit back with
  | case1 edit back => exact ⟨script, rfl⟩
  | case2 edit back next rest isKeep count room behind moved all ih =>
    obtain ⟨x, y, before, keeps, stands, script⟩ := split_front script
    obtain ⟨rfl, rfl, equal⟩ := (Edit.standsAt_keep isKeep).mp keeps
    obtain ⟨isInsert, within, fits, agree⟩ := slackFront_spec room equal
    rw [(Edit.lengths_keep isKeep).1, (Edit.lengths_keep isKeep).2] at stands script
    rw [(Edit.lengths_insert isInsert).1, (Edit.lengths_insert isInsert).2] at script
    have place := (Edit.standsAt_insert isInsert).mp stands
    have all : count = next.length := Nat.le_antisymm within all
    have script := script_insertBefore isInsert place within fits agree (place ▸ script)
    rw [show slackFront old new edit next = next.length from all, Nat.add_sub_cancel,
      Nat.add_sub_cancel] at script
    refine ih moves (before.append ?_)
    simpa only [moved, behind, all, Nat.add_sub_cancel] using script
  | case3 edit back next rest isKeep count room behind moved part ih =>
    obtain ⟨x, y, before, keeps, stands, script⟩ := split_front script
    obtain ⟨rfl, rfl, equal⟩ := (Edit.standsAt_keep isKeep).mp keeps
    obtain ⟨isInsert, within, fits, agree⟩ := slackFront_spec room equal
    rw [(Edit.lengths_keep isKeep).1, (Edit.lengths_keep isKeep).2] at stands script
    rw [(Edit.lengths_insert isInsert).1, (Edit.lengths_insert isInsert).2] at script
    have place := (Edit.standsAt_insert isInsert).mp stands
    have script := script_insertBefore isInsert place within fits agree (place ▸ script)
    have kept : { next with length := next.length - count }.action = .keep := isKeep
    refine ih moves (join_front before
      ⟨(Edit.standsAt_keep kept).mpr ⟨rfl, rfl, equal.take (Nat.sub_le _ _)⟩, ?_⟩)
    rw [(Edit.lengths_keep kept).1, (Edit.lengths_keep kept).2, ← Nat.add_sub_assoc within,
      ← Nat.add_sub_assoc within]
    exact script
  | case4 edit back next rest isKeep count noRoom empty ih =>
    obtain ⟨x, y, before, keeps, script⟩ := split_front script
    rw [(Edit.lengths_keep isKeep).1, (Edit.lengths_keep isKeep).2, empty] at script
    exact ih moves (before.append script)
  | case5 edit back next rest isKeep count noRoom stays => exact ⟨script, rfl⟩
  | case6 edit back next rest notKeep same ih =>
    obtain ⟨x, y, before, script⟩ := split_front script
    obtain ⟨moved, action⟩ := ih notKeep (before.append (script_merge notKeep same script))
    exact ⟨moved, action.trans same⟩
  | case7 edit back next rest notKeep other ih =>
    obtain ⟨x, y, before, script⟩ := split_front script
    exact ih moves (before.append (script_swap notKeep moves other script))

theorem slackBack_spec {edit kept : Edit} (room : 0 < slackBack old new edit kept)
    (equal : Agree old new kept.old kept.new kept.length) :
    edit.action = .insert ∧ slackBack old new edit kept ≤ kept.length ∧
      slackBack old new edit kept ≤ edit.length ∧
      Agree old new kept.old edit.new (slackBack old new edit kept) := by
  unfold slackBack at *
  split at room
  · rename_i isInsert
    have bound := commonAhead_le old new (min kept.length edit.length) kept.old edit.new
    have inOld := equal.le_size (by omega)
    rw [if_pos isInsert]
    exact ⟨isInsert, by omega, by omega, Agree.commonAhead (by omega)⟩
  · contradiction

theorem script_slideBack (front : List Edit) (edit : Edit) (back : List Edit)
    (moves : edit.action ≠ .keep)
    (script : Script old new a c (Focus.edits ⟨front, edit, back⟩) b d) :
    Script old new a c (slideBack old new front edit back).edits b d ∧
      (slideBack old new front edit back).edit.action = edit.action := by
  fun_induction slideBack old new front edit back with
  | case1 front edit => exact ⟨script, rfl⟩
  | case2 front edit next rest isKeep count room before moved all ih =>
    obtain ⟨isInsert, within, fits, agree⟩ := slackBack_spec room (agree_next isKeep script)
    obtain ⟨inFront, place, further⟩ := split_insertion isInsert isKeep script
    have all : next.length = count := Nat.le_antisymm all within
    rw [all, place] at further
    exact ih moves (script_insertBehind isInsert inFront agree further)
  | case3 front edit next rest isKeep count room before moved part ih =>
    have equal := agree_next isKeep script
    obtain ⟨isInsert, within, fits, agree⟩ := slackBack_spec room equal
    obtain ⟨inFront, place, further⟩ := split_insertion isInsert isKeep script
    have kept : { next with
        old := next.old + count, new := next.new + count, length := next.length - count }.action =
        .keep := isKeep
    refine ih moves (script_insertBehind isInsert inFront agree
      ⟨(Edit.standsAt_keep kept).mpr ⟨rfl, by simp only [place], place ▸ equal.drop count⟩, ?_⟩)
    rw [(Edit.lengths_keep kept).1, (Edit.lengths_keep kept).2, ← place, Nat.add_assoc,
      Nat.add_assoc, Nat.add_sub_cancel' within]
    exact further
  | case4 front edit next rest isKeep count noRoom empty ih =>
    obtain ⟨x, y, script, stands, keeps, further⟩ := script.split
    rw [(Edit.lengths_keep isKeep).1, (Edit.lengths_keep isKeep).2, empty] at further
    exact ih moves (script.append ⟨stands, further⟩)
  | case5 front edit next rest isKeep count noRoom stays => exact ⟨script, rfl⟩
  | case6 front edit next rest notKeep same ih =>
    obtain ⟨x, y, script, further⟩ := script.split
    exact ih moves (script.append (script_merge moves same.symm further))
  | case7 front edit next rest notKeep other ih =>
    obtain ⟨x, y, script, further⟩ := script.split
    exact ih moves (join_front script
      (script_swap moves notKeep (fun same => other same.symm) further))

/-- Moved edits lead where they led before. -/
theorem script_slideAll {action : Action} (moves : action ≠ .keep) (limit : Nat)
    (front back : List Edit) (script : Script old new a c (front.reverse ++ back) b d) :
    Script old new a c (slideAll old new action limit front back) b d := by
  fun_induction slideAll old new action limit front back with
  | case1 front back => exact script
  | case2 limit front => simpa using script
  | case3 limit front edit back isMoved first second ih =>
    obtain ⟨script, same⟩ := script_slideFront front edit back (isMoved ▸ moves) script
    obtain ⟨script, -⟩ := script_slideBack first.front first.edit first.back
      (same.trans isMoved ▸ moves) script
    exact ih (by simpa [Focus.edits] using script)
  | case4 limit front edit back stays ih => exact ih (by simpa using script)

theorem script_slide {edits : List Edit} (script : Script old new a c edits b d) :
    Script old new a c (slide old new edits) b d :=
  script_slideAll (by decide) _ [] _ (script_slideAll (by decide) _ [] edits script)

end MutationTesting.Diff
