import MutationTesting.Exclusion.Policy
/-! What a set of lines holds after lines have been put into it one after another, in any order and
some of them more than once. -/
namespace MutationTesting.CoveredLines

/-- The set with further lines of files. -/
def insertAll (covered : CoveredLines) (found : List (List Component × Nat)) : CoveredLines :=
  found.foldl (fun covered (file, line) => covered.insert file line) covered

theorem insertAll_append (covered : CoveredLines) (found more : List (List Component × Nat)) :
    covered.insertAll (found ++ more) = (covered.insertAll found).insertAll more :=
  List.foldl_append

variable {covered : CoveredLines} {file other : List Component} {line n : Nat}
  {lines : List Nat} {files : List (List Component × List Nat)}

theorem mem_insertLine : n ∈ insertLine line lines ↔ n = line ∨ n ∈ lines := by
  fun_induction insertLine line lines <;> grind

theorem insertLine_ne_nil : insertLine line lines ≠ [] := by
  fun_cases insertLine line lines <;> simp

theorem pairwise_insertLine (increasing : lines.Pairwise (· < ·)) :
    (insertLine line lines).Pairwise (· < ·) := by
  induction lines with
  | nil => exact List.pairwise_singleton _ _
  | cons first rest ih =>
    obtain ⟨above, later⟩ := List.pairwise_cons.mp increasing
    unfold insertLine
    split
    · rename_i below
      exact List.pairwise_cons.mpr ⟨fun m member =>
        (List.mem_cons.mp member).elim (· ▸ below) fun behind =>
          Nat.lt_trans below (above m behind), increasing⟩
    · split
      · exact increasing
      · rename_i notBelow differs
        refine List.pairwise_cons.mpr ⟨fun m member => ?_, ih later⟩
        obtain rfl | behind := mem_insertLine.mp member
        · omega
        · exact above m behind

theorem lookup_insertInto :
    (insertInto file line files).lookup other =
      if other = file then some (insertLine line ((files.lookup file).getD []))
      else files.lookup other := by
  induction files with
  | nil =>
    unfold insertInto
    grind [insertLine]
  | cons entry rest ih =>
    obtain ⟨key, lines⟩ := entry
    unfold insertInto
    grind

theorem key_of_mem_insertInto {entry : List Component × List Nat}
    (member : entry ∈ insertInto file line files) :
    entry.1 = file ∨ ∃ old ∈ files, old.1 = entry.1 := by
  induction files with
  | nil => exact .inl (List.mem_singleton.mp member ▸ rfl)
  | cons first rest ih =>
    unfold insertInto at member
    grind

/-- A set holds exactly the lines found: those of a file in increasing order, and no file without
any. -/
structure Lists (covered : CoveredLines) (found : List (List Component × Nat)) : Prop where
  absent : ∀ file, covered.files.lookup file = none → ∀ n, (file, n) ∉ found
  present : ∀ file lines, covered.files.lookup file = some lines →
    lines ≠ [] ∧ lines.Pairwise (· < ·) ∧ ∀ n, n ∈ lines ↔ (file, n) ∈ found
  named : ∀ entry ∈ covered.files, ∃ n, (entry.1, n) ∈ found

theorem lists_empty : empty.Lists [] :=
  ⟨by simp, by simp [empty], by simp [empty]⟩

theorem Lists.insert {found : List (List Component × Nat)} (lists : covered.Lists found)
    (file : List Component) (line : Nat) :
    (covered.insert file line).Lists (found ++ [(file, line)]) := by
  refine ⟨fun other isAbsent n => ?_, fun other lines isPresent => ?_, fun entry member => ?_⟩
  · simp only [CoveredLines.insert, lookup_insertInto] at isAbsent
    split at isAbsent
    · contradiction
    · have notThere := lists.absent other isAbsent n
      grind
  · simp only [CoveredLines.insert, lookup_insertInto] at isPresent
    split at isPresent
    · rename_i same
      obtain rfl := Option.some.inj isPresent
      subst same
      cases earlier : covered.files.lookup other with
      | none =>
        have notThere := lists.absent other earlier
        refine ⟨insertLine_ne_nil, pairwise_insertLine List.Pairwise.nil, fun n => ?_⟩
        simp only [Option.getD_none, mem_insertLine]
        grind
      | some old =>
        obtain ⟨-, increasing, members⟩ := lists.present other old earlier
        refine ⟨insertLine_ne_nil, pairwise_insertLine increasing, fun n => ?_⟩
        simp only [Option.getD_some, mem_insertLine, members]
        grind
    · obtain ⟨nonempty, increasing, members⟩ := lists.present other lines isPresent
      refine ⟨nonempty, increasing, fun n => ?_⟩
      rw [members]
      grind
  · obtain same | ⟨old, isOld, same⟩ := key_of_mem_insertInto member
    · exact ⟨line, by simp [same]⟩
    · obtain ⟨n, isFound⟩ := lists.named old isOld
      exact ⟨n, List.mem_append_left _ (same ▸ isFound)⟩

theorem lists_insertAll {earlier : List (List Component × Nat)} (lists : covered.Lists earlier)
    (found : List (List Component × Nat)) : (covered.insertAll found).Lists (earlier ++ found) := by
  induction found generalizing covered earlier with
  | nil => simpa [insertAll] using lists
  | cons first rest ih =>
    rw [List.append_cons]
    exact ih (lists.insert first.1 first.2)

end MutationTesting.CoveredLines
