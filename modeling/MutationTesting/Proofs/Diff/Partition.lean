import MutationTesting.Diff.Change
import MutationTesting.Proofs.Diff.Script
import Mathlib.Data.List.SplitBy
/-! The changes between two sequences divide both of them. They follow each other without gaps from
the start to the end of both, and what they call equal is. -/
namespace MutationTesting.Diff

variable {α : Type} {old new : Array α} {a b c d : Nat}

/-- A change stands at a place of each sequence: what it takes from a sequence begins there, and it
takes nothing from the other one unless it replaces. -/
def Change.StandsAt (old new : Array α) (a c : Nat) (change : Change) : Prop :=
  match change.kind with
  | .equal => change.old = a ∧ change.new = c ∧ change.newLength = change.oldLength ∧
      Agree old new a c change.oldLength
  | .delete => change.old = a ∧ change.newLength = 0
  | .insert => change.new = c ∧ change.oldLength = 0
  | .replace => change.old = a ∧ change.new = c

/-- Changes that follow each other from a place of each sequence to another place. -/
def Partition (old new : Array α) : (a c : Nat) → List Change → (b d : Nat) → Prop
  | a, c, [], b, d => a = b ∧ c = d
  | a, c, change :: rest, b, d =>
    change.StandsAt old new a c ∧
      Partition old new (a + change.oldLength) (c + change.newLength) rest b d

theorem Script.kept {edits : List Edit} (script : Script old new a c edits b d)
    (all : ∀ edit ∈ edits, edit.action = .keep) :
    a + total edits = b ∧ c + total edits = d ∧ Agree old new a c (total edits) := by
  induction edits generalizing a c with
  | nil => exact ⟨script.1, script.2, .zero old new a c⟩
  | cons edit rest ih =>
    have isKeep := all edit List.mem_cons_self
    obtain ⟨stands, script⟩ := script
    obtain ⟨-, -, agree⟩ := (Edit.standsAt_keep isKeep).mp stands
    rw [(Edit.lengths_keep isKeep).1, (Edit.lengths_keep isKeep).2] at script
    obtain ⟨endOld, endNew, further⟩ := ih script fun edit member =>
      all edit (List.mem_cons_of_mem _ member)
    rw [total, ← Nat.add_assoc, ← Nat.add_assoc]
    exact ⟨endOld, endNew, agree.append further⟩

theorem Script.exchanged {edits : List Edit} (script : Script old new a c edits b d)
    (all : ∀ edit ∈ edits, edit.action ≠ .keep) :
    a + total (edits.filter (·.action = .delete)) = b ∧
      c + total (edits.filter (·.action = .insert)) = d ∧
      (∀ edit ∈ (edits.filter (·.action = .delete)).head?, edit.old = a) ∧
      ∀ edit ∈ (edits.filter (·.action = .insert)).head?, edit.new = c := by
  induction edits generalizing a c with
  | nil => exact ⟨script.1, script.2, by simp, by simp⟩
  | cons edit rest ih =>
    obtain ⟨stands, script⟩ := script
    obtain ⟨endOld, endNew, firstOld, firstNew⟩ := ih script fun edit member =>
      all edit (List.mem_cons_of_mem _ member)
    cases action : edit.action with
    | keep => exact absurd action (all edit List.mem_cons_self)
    | delete =>
      have place := (Edit.standsAt_delete action).mp stands
      rw [(Edit.lengths_delete action).1] at endOld
      rw [(Edit.lengths_delete action).2] at endNew firstNew
      simp only [List.filter_cons, action, decide_true, if_true, reduceCtorEq, decide_false,
        Bool.false_eq_true, if_false, total, List.head?_cons, Option.mem_some_iff]
      exact ⟨by rw [← endOld, Nat.add_assoc], endNew, fun _ same => same ▸ place, firstNew⟩
    | insert =>
      have place := (Edit.standsAt_insert action).mp stands
      rw [(Edit.lengths_insert action).1] at endOld firstOld
      rw [(Edit.lengths_insert action).2] at endNew
      simp only [List.filter_cons, action, decide_true, if_true, reduceCtorEq, decide_false,
        Bool.false_eq_true, if_false, total, List.head?_cons, Option.mem_some_iff]
      exact ⟨endOld, by rw [← endNew, Nat.add_assoc], firstOld, fun _ same => same ▸ place⟩

/-- Edits that all keep or all do not keep. -/
def IsRun (edits : List Edit) : Prop :=
  (∀ edit ∈ edits, edit.action = .keep) ∨ ∀ edit ∈ edits, edit.action ≠ .keep

theorem partition_ofRun? {edits : List Edit} (isRun : IsRun edits)
    (script : Script old new a c edits b d) :
    Partition old new a c (Change.ofRun? edits).toList b d := by
  unfold Change.ofRun?
  obtain all | all := isRun
  · obtain ⟨endOld, endNew, agree⟩ := script.kept all
    have kept : edits.filter (·.action = .keep) = edits :=
      List.filter_eq_self.mpr fun edit member => decide_eq_true (all edit member)
    rw [kept]
    cases edits with
    | nil => exact script
    | cons first rest =>
      obtain ⟨placeOld, placeNew, -⟩ :=
        (Edit.standsAt_keep (all first List.mem_cons_self)).mp script.1
      exact ⟨⟨placeOld, placeNew, rfl, agree⟩, endOld, endNew⟩
  · obtain ⟨endOld, endNew, firstOld, firstNew⟩ := script.exchanged all
    have kept : edits.filter (·.action = .keep) = [] :=
      List.filter_eq_nil_iff.mpr fun edit member => by simpa using all edit member
    rw [kept]
    dsimp only
    cases deleted : edits.filter (·.action = .delete) with
    | nil =>
      rw [deleted] at endOld
      cases inserted : edits.filter (·.action = .insert) with
      | nil =>
        rw [inserted] at endNew
        exact ⟨endOld, endNew⟩
      | cons first rest =>
        rw [inserted] at endNew firstNew
        exact ⟨⟨firstNew first rfl, rfl⟩, endOld, endNew⟩
    | cons first rest =>
      rw [deleted] at endOld firstOld
      cases inserted : edits.filter (·.action = .insert) with
      | nil =>
        rw [inserted] at endNew
        exact ⟨⟨firstOld first rfl, rfl⟩, endOld, endNew⟩
      | cons firstInserted others =>
        rw [inserted] at endNew firstNew
        exact ⟨⟨firstOld first rfl, firstNew firstInserted rfl⟩, endOld, endNew⟩

theorem Partition.append {first later : List Change} {x y : Nat}
    (here : Partition old new a c first x y) (further : Partition old new x y later b d) :
    Partition old new a c (first ++ later) b d := by
  induction first generalizing a c with
  | nil =>
    obtain ⟨rfl, rfl⟩ := here
    exact further
  | cons change rest ih => exact ⟨here.1, ih here.2⟩

theorem partition_runs {runs : List (List Edit)} (areRuns : ∀ run ∈ runs, IsRun run)
    (script : Script old new a c runs.flatten b d) :
    Partition old new a c (runs.filterMap Change.ofRun?) b d := by
  induction runs generalizing a c with
  | nil => exact script
  | cons run rest ih =>
    obtain ⟨x, y, first, later⟩ := Script.split script
    have here := partition_ofRun? (areRuns run List.mem_cons_self) first
    have further := ih (fun run member => areRuns run (List.mem_cons_of_mem _ member)) later
    have whole := here.append further
    cases found : Change.ofRun? run with
    | none =>
      rw [found] at whole
      rwa [List.filterMap_cons_none found]
    | some change =>
      rw [found] at whole
      rwa [List.filterMap_cons_some found]

theorem isRun_of_isChain {edits : List Edit}
    (chain : edits.IsChain fun a b => (a.action == .keep) = (b.action == .keep)) :
    IsRun edits := by
  induction edits with
  | nil => exact .inl (by simp)
  | cons first rest ih =>
    cases rest with
    | nil =>
      by_cases isKeep : first.action = .keep
      · exact .inl (by simpa using isKeep)
      · exact .inr (by simpa using isKeep)
    | cons second later =>
      obtain ⟨same, chain⟩ := List.isChain_cons_cons.mp chain
      have same : first.action = .keep ↔ second.action = .keep := by
        simpa only [beq_iff_eq] using Bool.eq_iff_iff.mp same
      obtain all | all := ih chain
      · exact .inl (List.forall_mem_cons.mpr ⟨same.mpr (all second List.mem_cons_self), all⟩)
      · exact .inr (List.forall_mem_cons.mpr
          ⟨fun isKeep => all second List.mem_cons_self (same.mp isKeep), all⟩)

/-- The changes between two sequences divide both of them. -/
theorem partition_changes [DecidableEq α] (old new : Array α) :
    Partition old new 0 0 (changes old new) old.size new.size := by
  have script := script_slide (script_editsWithin old new ⟨0, old.size, 0, new.size⟩
    (Nat.zero_le _) (Nat.zero_le _) (Nat.le_refl _))
  unfold changes changesOf
  refine partition_runs (fun run member => ?_) (by rwa [List.flatten_splitBy])
  have chain := List.isChain_of_mem_splitBy member
  exact isRun_of_isChain (chain.imp fun a b same => by simpa using same)

section

variable {α : Type} [DecidableEq α]

theorem commonAhead_self (items : Array α) (limit a : Nat) :
    commonAhead items items limit a a = limit := by
  induction limit generalizing a with
  | zero => rfl
  | succ limit ih => rw [commonAhead, if_pos rfl, ih, Nat.add_comm]

/-- A sequence is kept as it is if there is nothing to change in it. -/
theorem editsWithin_self (items : Array α) :
    editsWithin items items ⟨0, items.size, 0, items.size⟩ = keep 0 0 items.size := by
  rw [editsWithin]
  simp [Box.oldLength, Box.newLength, commonAhead_self, commonBehind, keep]

theorem slide_keep (old new : Array α) (length : Nat) :
    slide old new (keep 0 0 length) = keep 0 0 length := by
  unfold keep
  split <;> simp [slide, slideAll, weight]

theorem changes_self (items : Array α) (some : items.size ≠ 0) :
    changes items items = [⟨.equal, 0, items.size, 0, items.size⟩] := by
  rw [changes, editsWithin_self, slide_keep, keep, if_neg some]
  rfl

end

end MutationTesting.Diff
