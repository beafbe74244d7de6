import MutationTesting.Decimal.Numeral
import MutationTesting.Exclusion.Patch
import MutationTesting.Proofs.Exclusion.Covered
import MutationTesting.Proofs.Exclusion.UnifiedDiff
import MutationTesting.Proofs.Text.Rows
/-! What is read of a unified diff. Within a hunk the two counts of lines still to come say where
the body ends, so no line of a body is taken for a header and none behind it for one of the body,
whatever they look like. The lines found are those that the diff adds, file by file. -/
namespace MutationTesting.Exclusion

namespace Hunk

/-! The header of a hunk. -/

variable {numeral : UnifiedDiff.Numeral} {range : UnifiedDiff.Range}

theorem word?_digits (bound : numeral.value ≤ UnifiedDiff.Range.bound) :
    word? (String.ofList numeral.digits) = some (UInt64.ofNat numeral.value) := by
  have unsigned : Decimal.unsigned? 10 numeral.digits = Decimal.digits? 10 numeral.digits := by
    unfold Decimal.unsigned?
    split
    · rename_i rest found
      exact absurd (found ▸ List.mem_cons_self) (numeral.not_mem_digits (c := '+') (by decide))
    · rfl
  have small : numeral.value < Nat.pow 2 64 := Nat.lt_of_le_of_lt bound (by decide)
  rw [word?, String.toList_ofList, Decimal.word?, unsigned,
    Decimal.digits?_ten numeral.decimal numeral.written, ← UnifiedDiff.Numeral.value,
    Option.filter_some, if_pos (decide_eq_true small), Option.map_some]

theorem range?_chars (firstBound : range.first.value ≤ UnifiedDiff.Range.bound)
    (countBound : range.count ≤ UnifiedDiff.Range.bound) :
    range? (String.ofList range.chars) =
      some (UInt64.ofNat range.first.value, UInt64.ofNat range.count) := by
  have noComma : ',' ∉ range.first.digits := range.first.not_mem_digits (by decide)
  rw [UnifiedDiff.Range.count] at countBound ⊢
  rw [range?, UnifiedDiff.Range.chars, Text.splitOnce?, show ",".toList = [','] from rfl]
  cases counted : range.count? with
  | none =>
    dsimp only
    rw [String.toList_ofList, Text.around?_of_not_mem noComma]
    simp only [Option.map_none, word?_digits firstBound]
    rfl
  | some count =>
    rw [counted] at countBound
    dsimp only
    rw [String.toList_ofList, Text.around?_append_mark noComma]
    simp only [Option.map_some, word?_digits firstBound,
      word?_digits (show count.value ≤ _ from countBound)]
    rfl

theorem noBlank_range (c : Char) (member : c ∈ range.chars) : Text.isBlank c = false := by
  have noBlank {numeral : UnifiedDiff.Numeral} (isDigit : c ∈ numeral.digits) :
      Text.isBlank c = false := by
    cases blank : Text.isBlank c with
    | false => rfl
    | true =>
      have decimal := numeral.decimal c isDigit
      have bounds : 48 ≤ c.toNat ∧ c.toNat ≤ 57 := by
        simpa [Decimal.isDigit, Char.le_def, UInt32.le_iff_toNat_le] using decimal
      simp [Text.isBlank] at blank
      omega
  unfold UnifiedDiff.Range.chars at member
  split at member
  · obtain first | rfl | count := by simpa using member
    · exact noBlank first
    · decide
    · exact noBlank count
  · exact noBlank member

theorem ofHeader?_header (hunk : UnifiedDiff.Hunk) :
    ofHeader? (String.ofList hunk.header) =
      some ⟨UInt64.ofNat hunk.new.first.value, UInt64.ofNat hunk.new.count,
        UInt64.ofNat hunk.old.count⟩ := by
  have words : ∃ further, Text.words (String.ofList hunk.header) =
      String.ofList ('-' :: hunk.old.chars) :: String.ofList ('+' :: hunk.new.chars) :: further := by
    have noBlank {sign : Char} (noBlank : Text.isBlank sign = false) (range : UnifiedDiff.Range) :
        ∀ c ∈ sign :: range.chars, Text.isBlank c = false := fun c member =>
      (List.mem_cons.mp member).elim (· ▸ noBlank) (noBlank_range c)
    rw [Text.words, String.toList_ofList, UnifiedDiff.Hunk.header,
      Text.wordsFrom_nil_append (List.cons_ne_nil _ _) (noBlank rfl hunk.old) rfl,
      Text.wordsFrom_nil_append (List.cons_ne_nil _ _) (noBlank rfl hunk.new) rfl]
    exact ⟨_, rfl⟩
  obtain ⟨further, words⟩ := words
  have oldBound := hunk.oldBound
  have newBound := hunk.newBound
  have stripped (sign : Char) (range : UnifiedDiff.Range) :
      Text.afterLead? [sign] (sign :: range.chars) = some range.chars :=
    Text.afterLead?_append [sign] range.chars
  rw [ofHeader?, words]
  simp only [Text.stripLead?, String.toList_ofList]
  rw [show "-".toList = ['-'] from rfl, show "+".toList = ['+'] from rfl, stripped, stripped]
  simp only [Option.map_some, Option.bind_some]
  rw [range?_chars (by omega) (by omega), range?_chars (by omega) (by omega)]
  rfl

/-! A hunk in progress. -/

/-- The hunk with the next line of the new side and the lines that either side still lacks. -/
def ofCounts (next newLeft oldLeft : Nat) : Hunk :=
  ⟨UInt64.ofNat next, UInt64.ofNat newLeft, UInt64.ofNat oldLeft⟩

variable {next newLeft oldLeft : Nat}

theorem newLine_ofCounts (bound : next < UInt64.size) :
    (ofCounts next newLeft oldLeft).newLine.toNat = next :=
  UInt64.toNat_ofNat_of_lt' bound

theorem isDone_ofCounts (newBound : newLeft < UInt64.size) (oldBound : oldLeft < UInt64.size) :
    (ofCounts next newLeft oldLeft).isDone = true ↔ newLeft = 0 ∧ oldLeft = 0 := by
  have isZero {n : Nat} (bound : n < UInt64.size) : UInt64.ofNat n = 0 ↔ n = 0 := by
    rw [← UInt64.toNat_inj, UInt64.toNat_ofNat_of_lt' bound, UInt64.toNat_zero]
  simp only [isDone, ofCounts, Bool.and_eq_true, beq_iff_eq, isZero newBound, isZero oldBound]

theorem ofNat_succ (n : Nat) : UInt64.ofNat (n + 1) = UInt64.ofNat n + 1 :=
  UInt64.ofNat_add n 1

theorem less_ofNat {n : Nat} (bound : n + 1 < UInt64.size) :
    less (UInt64.ofNat (n + 1)) = UInt64.ofNat n := by
  have value := UInt64.toNat_ofNat_of_lt' bound
  have positive : UInt64.ofNat (n + 1) ≠ 0 := fun isZero => by
    rw [isZero, UInt64.toNat_zero] at value
    omega
  rw [less, if_neg positive, ofNat_succ, UInt64.add_sub_cancel]

theorem passNew_ofCounts (bound : newLeft + 1 < UInt64.size) :
    (ofCounts next (newLeft + 1) oldLeft).passNew = ofCounts (next + 1) newLeft oldLeft := by
  simp only [passNew, ofCounts, less_ofNat bound, ofNat_succ next]

theorem passOld_ofCounts (bound : oldLeft + 1 < UInt64.size) :
    (ofCounts next newLeft (oldLeft + 1)).passOld = ofCounts next newLeft oldLeft := by
  simp only [passOld, ofCounts, less_ofNat bound]

end Hunk

namespace PatchState

/-- The state after lines, each given by its characters. -/
def after (state : PatchState) (lines : List (List Char)) : PatchState :=
  lines.foldl (fun state line => state.step (String.ofList line)) state

@[simp] theorem after_nil (state : PatchState) : state.after [] = state := rfl

@[simp] theorem after_cons (state : PatchState) (line : List Char) (rest : List (List Char)) :
    state.after (line :: rest) = (state.step (String.ofList line)).after rest := rfl

@[simp] theorem after_append (state : PatchState) (front back : List (List Char)) :
    state.after (front ++ back) = (state.after front).after back :=
  List.foldl_append

section Ends

/-! A carriage return at the end of a line and an empty last line make no difference. -/

variable (state : PatchState) (cs : List Char)

theorem fileOfHeader?_return :
    fileOfHeader? (String.ofList (cs ++ ['\r'])) = fileOfHeader? (String.ofList cs) := by
  have path : Text.trim ((Text.splitAt '\t' (String.ofList (cs ++ ['\r']))).headD "") =
      Text.trim ((Text.splitAt '\t' (String.ofList cs)).headD "") := by
    obtain ⟨lead, last, found⟩ : ∃ lead last, Text.pieces '\t' cs = lead ++ [last] :=
      ⟨_, _, (List.dropLast_concat_getLast (Text.pieces_ne_nil '\t' cs)).symm⟩
    have free : '\t' ∉ last :=
      Text.not_mem_of_mem_pieces (found ▸ List.mem_append_right _ List.mem_cons_self)
    have freeReturn : '\t' ∉ last ++ ['\r'] := List.not_mem_append free (by decide)
    simp only [Text.splitAt, String.toList_ofList, Text.pieces_append_left found, found,
      Text.pieces_of_not_mem freeReturn]
    cases lead with
    | nil => exact Text.trim_concat (by decide) last
    | cons first others => rfl
  simp only [fileOfHeader?, path]

/-- A line between hunks is read for the marks that it may begin with. -/
theorem stepOutside_ofList :
    state.stepOutside (String.ofList cs) =
      match Text.afterLead? UnifiedDiff.fileMark cs with
      | some name => { state with file? := fileOfHeader? (String.ofList name) }
      | none =>
        match Text.afterLead? UnifiedDiff.hunkMark cs with
        | some header => { state with hunk? := Hunk.ofHeader? (String.ofList header) }
        | none => state := by
  simp only [stepOutside, Text.stripLead?, String.toList_ofList,
    show "+++ ".toList = UnifiedDiff.fileMark from rfl,
    show "@@ ".toList = UnifiedDiff.hunkMark from rfl]
  cases Text.afterLead? UnifiedDiff.fileMark cs with
  | some name => rfl
  | none => cases Text.afterLead? UnifiedDiff.hunkMark cs <;> rfl

theorem stepOutside_return :
    state.stepOutside (String.ofList (cs ++ ['\r'])) = state.stepOutside (String.ofList cs) := by
  simp only [stepOutside_ofList]
  cases isFile : Text.afterLead? UnifiedDiff.fileMark cs with
  | some name => simp only [Text.afterLead?_append_right isFile, fileOfHeader?_return]
  | none =>
    rw [Text.afterLead?_append_absent (by decide) isFile []]
    cases isHunk : Text.afterLead? UnifiedDiff.hunkMark cs with
    | some header =>
      simp only [Text.afterLead?_append_right isHunk, Hunk.ofHeader?,
        Text.words_concat (show Text.isBlank '\r' = true by decide) header]
    | none => rw [Text.afterLead?_append_absent (by decide) isHunk []]

theorem stepInside_return (hunk : Hunk) :
    state.stepInside hunk (String.ofList (cs ++ ['\r'])) =
      state.stepInside hunk (String.ofList cs) := by
  simp only [stepInside, String.toList_ofList]
  cases cs with
  | nil => rfl
  | cons c rest => grind

theorem step_return :
    state.step (String.ofList (cs ++ ['\r'])) = state.step (String.ofList cs) := by
  simp only [step, stepOutside_return, stepInside_return]

theorem covered_step_empty : (state.step (String.ofList [])).covered = state.covered := by
  unfold step
  split
  · split
    · rfl
    · rfl
  · rfl

theorem covered_lines (patch : String) :
    ((Text.lines patch).foldl step state).covered =
      (state.after (Text.pieces '\n' patch.toList)).covered := by
  have sameStep (line : List Char) (state : PatchState) :
      state.step (String.ofList ((Text.dropFinal? '\r' line).getD line)) =
        state.step (String.ofList line) := by
    unfold Text.dropFinal?
    split
    · rename_i ends
      obtain ⟨front, rfl⟩ := List.getLast?_eq_some_iff.mp ends
      rw [Option.getD_some, List.dropLast_concat, step_return]
    · rfl
  obtain ⟨ended, rest, all⟩ : ∃ ended rest, Text.pieces '\n' patch.toList = ended ++ [rest] :=
    ⟨_, _, (List.dropLast_concat_getLast (Text.pieces_ne_nil '\n' patch.toList)).symm⟩
  simp only [Text.lines, all, List.dropLast_concat, List.getLast?_concat, Option.getD_some,
    after_append, after_cons, after_nil]
  split
  · rename_i isEmpty
    rw [isEmpty, covered_step_empty]
    simp only [List.map_map, List.foldl_map, Function.comp_apply, sameStep, after]
  · simp only [List.map_append, List.map_map, List.foldl_append, List.foldl_map,
      Function.comp_apply, sameStep, after, List.map_cons, List.map_nil, List.foldl_cons,
      List.foldl_nil]

end Ends

/-! Between hunks. -/

/-- The state of a reader that no line of a hunk is expected by. -/
def IsIdle (state : PatchState) : Prop :=
  ∀ hunk, state.hunk? = some hunk → hunk.isDone = true

theorem isIdle_start : start.IsIdle :=
  fun _ found => nomatch found

section Idle

variable {state : PatchState} {cs : List Char} (idle : state.IsIdle)

include idle in
theorem step_of_isIdle (line : String) : state.step line = state.stepOutside line := by
  unfold step
  split
  · rename_i hunk found
    rw [if_pos (idle hunk found)]
  · rfl

theorem afterLead?_of_not_prefix {lead : List Char} (differs : ¬ lead <+: cs) :
    Text.afterLead? lead cs = none := by
  cases found : Text.afterLead? lead cs with
  | none => rfl
  | some rest => exact absurd ⟨rest, (Text.eq_append_of_afterLead? found).symm⟩ differs

theorem stepOutside_other (state : PatchState) (noFile : ¬ UnifiedDiff.fileMark <+: cs)
    (noHunk : ¬ UnifiedDiff.hunkMark <+: cs) : state.stepOutside (String.ofList cs) = state := by
  rw [stepOutside_ofList, afterLead?_of_not_prefix noFile, afterLead?_of_not_prefix noHunk]

theorem stepOutside_file (state : PatchState) (name : List Char) :
    state.stepOutside (String.ofList (UnifiedDiff.fileMark ++ name)) =
      { state with file? := fileOfHeader? (String.ofList name) } := by
  rw [stepOutside_ofList, Text.afterLead?_append]

theorem stepOutside_hunk (state : PatchState) (header : List Char) :
    state.stepOutside (String.ofList (UnifiedDiff.hunkMark ++ header)) =
      { state with hunk? := Hunk.ofHeader? (String.ofList header) } := by
  have noFile : ¬ UnifiedDiff.fileMark <+: UnifiedDiff.hunkMark ++ header := by
    simp [UnifiedDiff.fileMark, UnifiedDiff.hunkMark]
  rw [stepOutside_ofList, afterLead?_of_not_prefix noFile, Text.afterLead?_append]

include idle in
theorem after_others (others : List UnifiedDiff.OtherLine) :
    state.after (others.map fun other => other.line.1) = state := by
  induction others with
  | nil => rfl
  | cons other rest ih =>
    rw [List.map_cons, after_cons, step_of_isIdle idle,
      stepOutside_other state other.noFile other.noHunk, ih]

end Idle

/-! The name of a file. -/

theorem noBlank_chars (file : UnifiedDiff.NamedFile) :
    (∀ c ∈ file.chars.head?, Text.isBlank c = false) ∧
      ∀ c ∈ file.chars.getLast?, Text.isBlank c = false := by
  have outer := file.noBlank
  unfold UnifiedDiff.NamedFile.chars
  split
  · refine ⟨by simp [UnifiedDiff.sideMark, Text.isBlank], fun c last => ?_⟩
    rw [List.getLast?_append] at last
    cases inPath : file.path.1.getLast? with
    | none =>
      obtain rfl : '/' = c := by simpa [inPath, UnifiedDiff.sideMark] using last
      decide
    | some other =>
      obtain rfl : other = c := by simpa [inPath] using last
      exact outer other (by simp [inPath])
  · exact ⟨fun c first => outer c (by simp [Option.mem_def.mp first]),
      fun c last => outer c (by simp [Option.mem_def.mp last])⟩

theorem stripLead?_chars (file : UnifiedDiff.NamedFile) :
    (Text.stripLead? "b/" (String.ofList file.chars)).getD (String.ofList file.chars) =
      String.ofList file.path.1 := by
  simp only [Text.stripLead?, String.toList_ofList]
  rw [show "b/".toList = UnifiedDiff.sideMark from rfl]
  cases isMarked : file.marked with
  | true => simp [UnifiedDiff.NamedFile.chars, isMarked, Text.afterLead?_append]
  | false =>
    have differs := (file.plain isMarked).1
    simp [UnifiedDiff.NamedFile.chars, isMarked, afterLead?_of_not_prefix differs]

theorem chars_ne_noFile (file : UnifiedDiff.NamedFile) : file.chars ≠ UnifiedDiff.noFile := by
  cases isMarked : file.marked with
  | true => simp [UnifiedDiff.NamedFile.chars, isMarked, UnifiedDiff.sideMark, UnifiedDiff.noFile]
  | false => simpa [UnifiedDiff.NamedFile.chars, isMarked] using (file.plain isMarked).2

theorem noTab_chars (file : UnifiedDiff.NamedFile) : '\t' ∉ file.chars := by
  unfold UnifiedDiff.NamedFile.chars
  split
  · exact List.not_mem_append (by decide) file.noTab
  · exact file.noTab

theorem headD_splitAt {name : List Char} (noTab : '\t' ∉ name) (part : UnifiedDiff.Section) :
    (Text.splitAt '\t' (String.ofList (name ++ part.trail))).headD "" = String.ofList name := by
  rw [Text.splitAt, String.toList_ofList, UnifiedDiff.Section.trail]
  cases part.stamp? with
  | none => simp [Text.pieces_of_not_mem noTab]
  | some stamp =>
    dsimp only
    rw [Text.pieces_append_of_not_mem noTab (Text.pieces_mark '\t' stamp.1), List.append_nil]
    rfl

theorem fileOfHeader?_name (part : UnifiedDiff.Section) :
    fileOfHeader? (String.ofList part.name) =
      part.file?.map UnifiedDiff.NamedFile.components := by
  rw [fileOfHeader?, UnifiedDiff.Section.name]
  cases part.file? with
  | none =>
    have trimmed : Text.trim (String.ofList UnifiedDiff.noFile) = "/dev/null" :=
      Text.trim_eq_self (by simp [UnifiedDiff.noFile, Text.isBlank])
        (by simp [UnifiedDiff.noFile, Text.isBlank])
    rw [Option.map_none, Option.getD_none, headD_splitAt (by decide), trimmed]
    rfl
  | some file =>
    have trimmed := Text.trim_eq_self (noBlank_chars file).1 (noBlank_chars file).2
    have isFile : String.ofList file.chars ≠ "/dev/null" := fun same =>
      chars_ne_noFile file (String.ofList_injective same)
    rw [Option.map_some, Option.getD_some, headD_splitAt (noTab_chars file), trimmed]
    simp only [if_neg isFile, stripLead?_chars]
    rfl

/-! The body of a hunk. -/

/-- Lines of a file, each with its file. -/
def foundIn (file? : Option (List Component)) (lines : List Nat) : List (List Component × Nat) :=
  match file? with
  | some file => lines.map (file, ·)
  | none => []

/-- The state after further lines of the file have been found. -/
def finding (state : PatchState) (lines : List Nat) : PatchState :=
  { state with covered := state.covered.insertAll (foundIn state.file? lines) }

@[simp] theorem finding_nil (state : PatchState) : state.finding [] = state := by
  obtain ⟨covered, _ | file, hunk?⟩ := state <;> rfl

theorem finding_finding (state : PatchState) (lines more : List Nat) :
    (state.finding lines).finding more = state.finding (lines ++ more) := by
  obtain ⟨covered, _ | file, hunk?⟩ := state
  · rfl
  · simp only [finding, foundIn, List.map_append, CoveredLines.insertAll_append]

/-- The state within a hunk: the number of the next line of the new side, and how many lines either
side still lacks. -/
def within (state : PatchState) (next newLeft oldLeft : Nat) : PatchState :=
  { state with hunk? := some (Hunk.ofCounts next newLeft oldLeft) }

section Body

variable {state : PatchState} {next newLeft oldLeft : Nat}

theorem step_within (newBound : newLeft < UInt64.size) (oldBound : oldLeft < UInt64.size)
    (open_ : 0 < newLeft + oldLeft) (line : String) :
    (state.within next newLeft oldLeft).step line =
      (state.within next newLeft oldLeft).stepInside (Hunk.ofCounts next newLeft oldLeft) line := by
  have notDone : ¬ (Hunk.ofCounts next newLeft oldLeft).isDone = true := by
    rw [Hunk.isDone_ofCounts newBound oldBound]
    omega
  simp only [step, within, if_neg notDone]

theorem isIdle_within (state : PatchState) (next : Nat) : (state.within next 0 0).IsIdle := by
  intro hunk found
  obtain rfl := Option.some.inj found
  exact (Hunk.isDone_ofCounts (by decide) (by decide)).mpr ⟨rfl, rfl⟩

theorem step_context {line : List Char} (isContext : line = [] ∨ ∃ rest, line = ' ' :: rest)
    (newBound : newLeft + 1 < UInt64.size) (oldBound : oldLeft + 1 < UInt64.size) :
    (state.within next (newLeft + 1) (oldLeft + 1)).step (String.ofList line) =
      state.within (next + 1) newLeft oldLeft := by
  have passed : (Hunk.ofCounts next (newLeft + 1) (oldLeft + 1)).passNew.passOld =
      Hunk.ofCounts (next + 1) newLeft oldLeft := by
    rw [Hunk.passNew_ofCounts newBound, Hunk.passOld_ofCounts oldBound]
  rw [step_within newBound oldBound (by omega), stepInside, String.toList_ofList]
  obtain rfl | ⟨rest, rfl⟩ := isContext <;>
    exact congrArg (fun hunk => { state with hunk? := some hunk }) passed

theorem step_removed (line : List Char) (newBound : newLeft < UInt64.size)
    (oldBound : oldLeft + 1 < UInt64.size) :
    (state.within next newLeft (oldLeft + 1)).step (String.ofList ('-' :: line)) =
      state.within next newLeft oldLeft := by
  rw [step_within newBound oldBound (by omega), stepInside, String.toList_ofList,
    Hunk.passOld_ofCounts oldBound]
  rfl

theorem step_added (line : List Char) (nextBound : next < UInt64.size)
    (newBound : newLeft + 1 < UInt64.size) (oldBound : oldLeft < UInt64.size) :
    (state.within next (newLeft + 1) oldLeft).step (String.ofList ('+' :: line)) =
      (state.finding [next]).within (next + 1) newLeft oldLeft := by
  rw [step_within newBound oldBound (by omega), stepInside, String.toList_ofList,
    Hunk.passNew_ofCounts newBound, Hunk.newLine_ofCounts nextBound]
  obtain ⟨covered, _ | file, hunk?⟩ := state <;> rfl

/-- A remark counts for neither side, be it within a hunk or behind its last line. -/
theorem step_remark (line : List Char) :
    (state.within next newLeft oldLeft).step (String.ofList ('\\' :: line)) =
      state.within next newLeft oldLeft := by
  simp only [step, within]
  split
  · exact stepOutside_other _ (by simp [UnifiedDiff.fileMark]) (by simp [UnifiedDiff.hunkMark])
  · simp only [stepInside, String.toList_ofList]

/-- A body is read to its end. Its added lines are found, and neither side lacks a line any more. -/
theorem after_body (body : List UnifiedDiff.BodyLine)
    (newBound : next + body.countP UnifiedDiff.BodyLine.isNew ≤ UnifiedDiff.Range.bound)
    (oldBound : body.countP UnifiedDiff.BodyLine.isOld ≤ UnifiedDiff.Range.bound) :
    (state.within next (body.countP UnifiedDiff.BodyLine.isNew)
        (body.countP UnifiedDiff.BodyLine.isOld)).after (body.map UnifiedDiff.BodyLine.chars) =
      (state.finding (UnifiedDiff.Hunk.addedFrom next body)).within
        (next + body.countP UnifiedDiff.BodyLine.isNew) 0 0 := by
  have small {n : Nat} (bound : n ≤ UnifiedDiff.Range.bound) : n < UInt64.size :=
    Nat.lt_of_le_of_lt bound (by decide)
  induction body generalizing state next with
  | nil => rw [UnifiedDiff.Hunk.addedFrom, finding_nil]; rfl
  | cons line rest ih =>
    rw [List.map_cons, after_cons]
    -- A line counts for the sides that it belongs to.
    simp only [List.countP_cons] at newBound oldBound ⊢
    cases line with
    | context line =>
      simp only [UnifiedDiff.BodyLine.isNew, UnifiedDiff.BodyLine.isOld, if_true] at *
      rw [UnifiedDiff.BodyLine.chars,
        step_context (.inr ⟨line.1, rfl⟩) (small (by omega)) (small oldBound),
        ih (by omega) (by omega), Nat.add_right_comm]
      rfl
    | stripped =>
      simp only [UnifiedDiff.BodyLine.isNew, UnifiedDiff.BodyLine.isOld, if_true] at *
      rw [UnifiedDiff.BodyLine.chars, step_context (.inl rfl) (small (by omega)) (small oldBound),
        ih (by omega) (by omega), Nat.add_right_comm]
      rfl
    | removed line =>
      simp only [UnifiedDiff.BodyLine.isNew, UnifiedDiff.BodyLine.isOld, if_true,
        Bool.false_eq_true, if_false, Nat.add_zero] at newBound oldBound ⊢
      rw [UnifiedDiff.BodyLine.chars, step_removed line.1 (small (by omega)) (small oldBound),
        ih newBound (by omega)]
      rfl
    | added line =>
      simp only [UnifiedDiff.BodyLine.isNew, UnifiedDiff.BodyLine.isOld, if_true,
        Bool.false_eq_true, if_false, Nat.add_zero] at newBound oldBound ⊢
      rw [UnifiedDiff.BodyLine.chars,
        step_added line.1 (small (by omega)) (small (by omega)) (small oldBound),
        ih (by omega) oldBound, Nat.add_right_comm, finding_finding]
      rfl
    | remark line =>
      simp only [UnifiedDiff.BodyLine.isNew, UnifiedDiff.BodyLine.isOld,
        Bool.false_eq_true, if_false, Nat.add_zero] at newBound oldBound ⊢
      rw [UnifiedDiff.BodyLine.chars, step_remark, ih newBound oldBound]
      rfl

end Body

/-! Hunks, sections and whole diffs. -/

section Whole

variable {state : PatchState} (idle : state.IsIdle)

include idle in
theorem after_hunk (hunk : UnifiedDiff.Hunk) :
    state.after hunk.lines =
      (state.finding hunk.added).within (hunk.new.first.value + hunk.new.count) 0 0 := by
  have newBound := hunk.newBound
  have oldBound := hunk.oldBound
  have opened : state.step (String.ofList (UnifiedDiff.hunkMark ++ hunk.header)) =
      state.within hunk.new.first.value hunk.new.count hunk.old.count := by
    rw [step_of_isIdle idle, stepOutside_hunk, Hunk.ofHeader?_header]
    rfl
  rw [UnifiedDiff.Hunk.lines, after_cons, opened]
  rw [← hunk.newCount, ← hunk.oldCount] at *
  exact after_body hunk.body newBound (by omega)

include idle in
theorem after_hunks (hunks : List (List UnifiedDiff.OtherLine × UnifiedDiff.Hunk)) :
    let last := state.after (hunks.flatMap fun (lead, hunk) =>
      lead.map (fun other => other.line.1) ++ hunk.lines)
    last.IsIdle ∧
      last.covered = (state.finding (hunks.flatMap fun (_, hunk) => hunk.added)).covered := by
  induction hunks generalizing state with
  | nil =>
    rw [List.flatMap_nil, List.flatMap_nil, finding_nil]
    exact ⟨idle, rfl⟩
  | cons first rest ih =>
    obtain ⟨lead, hunk⟩ := first
    simp only [List.flatMap_cons, after_append, after_others idle, after_hunk idle]
    obtain ⟨isIdle, covered⟩ := ih (isIdle_within (state.finding hunk.added)
      (hunk.new.first.value + hunk.new.count))
    refine ⟨isIdle, covered.trans ?_⟩
    rw [← finding_finding]
    rfl

/-- The lines that a section adds, each with the file that they are looked up under. -/
def foundBy (part : UnifiedDiff.Section) : List (List Component × Nat) :=
  foundIn (part.file?.map UnifiedDiff.NamedFile.components) part.added

include idle in
theorem after_section (part : UnifiedDiff.Section) :
    (state.after part.lines).IsIdle ∧
      (state.after part.lines).covered = state.covered.insertAll (foundBy part) := by
  have noFile : ¬ UnifiedDiff.fileMark <+: '-' :: '-' :: '-' :: ' ' :: part.old.1 := by
    simp [UnifiedDiff.fileMark]
  have noHunk : ¬ UnifiedDiff.hunkMark <+: '-' :: '-' :: '-' :: ' ' :: part.old.1 := by
    simp [UnifiedDiff.hunkMark]
  have ofFile : state.step (String.ofList (UnifiedDiff.fileMark ++ part.name)) =
      { state with file? := part.file?.map UnifiedDiff.NamedFile.components } := by
    rw [step_of_isIdle idle, stepOutside_file, fileOfHeader?_name]
  rw [UnifiedDiff.Section.lines, after_append, after_others idle, after_cons, step_of_isIdle idle,
    stepOutside_other state noFile noHunk, after_cons, ofFile]
  have named :
      IsIdle { state with file? := part.file?.map UnifiedDiff.NamedFile.components } := idle
  exact after_hunks named part.hunks

include idle in
theorem after_sections (sections : List UnifiedDiff.Section) :
    (state.after (sections.flatMap UnifiedDiff.Section.lines)).IsIdle ∧
      (state.after (sections.flatMap UnifiedDiff.Section.lines)).covered =
        state.covered.insertAll (sections.flatMap foundBy) := by
  induction sections generalizing state with
  | nil => exact ⟨idle, rfl⟩
  | cons part rest ih =>
    obtain ⟨partIdle, partCovered⟩ := after_section idle part
    obtain ⟨isIdle, covered⟩ := ih partIdle
    rw [List.flatMap_cons, after_append, List.flatMap_cons, CoveredLines.insertAll_append,
      ← partCovered]
    exact ⟨isIdle, covered⟩

end Whole

end PatchState

end MutationTesting.Exclusion

namespace MutationTesting

namespace UnifiedDiff

theorem mem_added {diff : UnifiedDiff} {file : List Component} {n : Nat} :
    n ∈ diff.added file ↔ (file, n) ∈ diff.sections.flatMap Exclusion.PatchState.foundBy := by
  simp only [added, List.mem_flatMap]
  refine exists_congr fun part => and_congr_right fun _ => ?_
  unfold Exclusion.PatchState.foundBy Exclusion.PatchState.foundIn
  cases part.file? with
  | none => simp
  | some named =>
    by_cases same : named.components = file
    · simp [same]
    · simp [same]

end UnifiedDiff

namespace CoveredLines

open Exclusion in
/-- What is read of a diff. -/
theorem ofPatch_text (diff : UnifiedDiff) (ended : Bool) :
    ofPatch (diff.text ended) = empty.insertAll (diff.sections.flatMap PatchState.foundBy) := by
  obtain ⟨idle, covered⟩ := PatchState.after_sections PatchState.isIdle_start diff.sections
  have read : (PatchState.start.after diff.lines).covered =
      empty.insertAll (diff.sections.flatMap PatchState.foundBy) := by
    rw [UnifiedDiff.lines, PatchState.after_append, PatchState.after_others idle, covered]
    rfl
  rw [ofPatch, PatchState.covered_lines]
  obtain pieces | pieces := diff.pieces_text ended
  · rw [pieces, read]
  · rw [pieces, PatchState.after_append, PatchState.after_cons, PatchState.after_nil,
      PatchState.covered_step_empty, read]

/-- Of a diff the lines that it adds to a file are found, all of them and no others, in increasing
order, and there is no entry for a file to which it adds no line. -/
theorem ofPatch_lists_added (diff : UnifiedDiff) (ended : Bool) :
    (∀ file : Path,
      match (ofPatch (diff.text ended)).lines? file with
      | none => diff.added file.plainComponents = []
      | some lines => lines ≠ [] ∧ lines.Pairwise (· < ·) ∧
          ∀ n, n ∈ lines ↔ n ∈ diff.added file.plainComponents) ∧
      ∀ entry ∈ (ofPatch (diff.text ended)).files, diff.added entry.1 ≠ [] := by
  have lists := lists_insertAll lists_empty (diff.sections.flatMap Exclusion.PatchState.foundBy)
  rw [List.nil_append, ← ofPatch_text diff ended] at lists
  refine ⟨fun file => ?_, fun entry member => ?_⟩
  · unfold lines?
    split
    · rename_i absent
      exact List.eq_nil_iff_forall_not_mem.mpr fun n added =>
        lists.absent _ absent n (UnifiedDiff.mem_added.mp added)
    · rename_i lines present
      obtain ⟨nonempty, increasing, members⟩ := lists.present _ lines present
      exact ⟨nonempty, increasing, fun n => (members n).trans UnifiedDiff.mem_added.symm⟩
  · obtain ⟨n, found⟩ := lists.named entry member
    exact List.ne_nil_of_mem (UnifiedDiff.mem_added.mpr found)

/-- A line of a body that looks like the name of a file is a line of the body. -/
example : ofPatch "--- a/x\n+++ b/x\n@@ -1 +1,2 @@\n--- y\n+++ z\n+\n+++ w\n" =
    ⟨[((Path.mk "x").plainComponents, [1, 2])]⟩ := by
  decide +kernel

end CoveredLines

end MutationTesting
