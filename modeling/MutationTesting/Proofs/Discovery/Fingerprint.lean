import MutationTesting.Cache.Basic
import MutationTesting.Discovery.TestDirectories
import MutationTesting.Proofs.FileSystem.Lookup
/-! What the digest of the tests tells apart. The bytes that are digested are paths and contents one
behind the other, with nothing between them. So a change shows in them unless it moves a division
between a path and a content: what one file ends with may be what the next one starts with. -/
namespace MutationTesting.Digest

theorem hexadecimal_inj {bytes others : List UInt8}
    (same : hexadecimal bytes = hexadecimal others) : bytes = others := by
  have digits := String.ofList_injective same
  clear same
  induction bytes generalizing others with
  | nil =>
    cases others with
    | nil => rfl
    | cons other rest => simp at digits
  | cons byte bytes ih =>
    cases others with
    | nil => simp at digits
    | cons other rest =>
      simp only [List.flatMap_cons, List.cons_append, List.nil_append, List.cons.injEq] at digits
      obtain ⟨high, low, digits⟩ := digits
      have inj : ∀ m < 16, ∀ n < 16, Nat.digitChar m = Nat.digitChar n → m = n := by decide
      have highBelow (b : UInt8) : b.toNat / 16 < 16 := by
        have below := b.toNat_lt
        omega
      have sameHigh := inj _ (highBelow byte) _ (highBelow other) high
      have sameLow := inj _ (Nat.mod_lt _ (by decide)) _ (Nat.mod_lt _ (by decide)) low
      have sameByte : byte = other := by
        apply UInt8.toNat_inj.mp
        omega
      rw [sameByte, ih digits]

end MutationTesting.Digest

namespace MutationTesting.Discovery

section Bytes

theorem toList_loop (bytes : ByteArray) (start : Nat) (read : List UInt8) :
    ByteArray.toList.loop bytes start read = read.reverse ++ bytes.data.toList.drop start := by
  fun_induction ByteArray.toList.loop bytes start read with
  | case1 start read inside ih =>
    have inData : start < bytes.data.toList.length := by simpa using inside
    rw [ih, List.reverse_cons, List.append_assoc, List.drop_eq_getElem_cons inData]
    simp [ByteArray.get!, inside]
  | case2 start read outside =>
    simp [Nat.le_of_not_lt outside]

theorem toList_eq (bytes : ByteArray) : bytes.toList = bytes.data.toList := by
  simp [ByteArray.toList, toList_loop]

theorem toList_inj {bytes others : ByteArray} (same : bytes.toList = others.toList) :
    bytes = others := by
  rw [toList_eq, toList_eq] at same
  exact ByteArray.ext (Array.toList_inj.mp same)

end Bytes

/-- The bytes of one file: its path and its content. -/
def fileBytes (file : Path × ByteArray) : List UInt8 :=
  file.1.text.toUTF8.toList ++ file.2.toList

/-- Where the bytes of files are divided: how many there are of each path and of each content. -/
def divisions (files : List (Path × ByteArray)) : List (Nat × Nat) :=
  files.map fun file => (file.1.text.toUTF8.toList.length, file.2.toList.length)

/-- Changes of the files of tests that show in their bytes. -/
inductive Shows : List (Path × ByteArray) → List (Path × ByteArray) → Prop where
  /-- There are more files, and those that were there are as they were. -/
  | added {files more : List (Path × ByteArray)} (others : files.Sublist more)
      (changed : files ≠ more) : Shows files more
  /-- There are fewer files, and those that are there are as they were. -/
  | removed {files fewer : List (Path × ByteArray)} (others : fewer.Sublist files)
      (changed : files ≠ fewer) : Shows files fewer
  /-- A file has another content. -/
  | content (path : Path) {content other : ByteArray} (changed : content ≠ other) :
      Shows [(path, content)] [(path, other)]
  /-- A file has another path, by which it comes at the same place of the walk. -/
  | path (content : ByteArray) {path other : Path} (changed : path ≠ other) :
      Shows [(path, content)] [(other, content)]
  /-- Whatever has changed, all paths and contents are as long as they were. -/
  | lengths {files others : List (Path × ByteArray)} (same : divisions files = divisions others)
      (changed : files ≠ others) : Shows files others
  /-- The change is one of these, and the files in front and behind are as they were. -/
  | inside (front rest : List (Path × ByteArray)) {files others : List (Path × ByteArray)}
      (shows : Shows files others) : Shows (front ++ files ++ rest) (front ++ others ++ rest)

section Files

variable {files others more : List (Path × ByteArray)} {workspace : Workspace}
  {directories : List Path}

theorem testBytes_cons (file : Path × ByteArray) (rest : List (Path × ByteArray)) :
    testBytes (file :: rest) = fileBytes file ++ testBytes rest := rfl

theorem testBytes_append (front rest : List (Path × ByteArray)) :
    testBytes (front ++ rest) = testBytes front ++ testBytes rest :=
  List.flatMap_append

theorem path_eq {path other : Path} (bytes : path.text.toUTF8.toList = other.text.toUTF8.toList) :
    path = other := by
  rw [Path.mk.injEq]
  exact String.toByteArray_inj.mp (toList_inj bytes)

/-- The bytes and where they are divided tell the files. -/
theorem files_eq_of_divisions (same : divisions files = divisions others)
    (bytes : testBytes files = testBytes others) : files = others := by
  induction files generalizing others with
  | nil =>
    cases others with
    | nil => rfl
    | cons other rest => simp [divisions] at same
  | cons file files ih =>
    cases others with
    | nil => simp [divisions] at same
    | cons other rest =>
      simp only [divisions, List.map_cons, List.cons.injEq, Prod.mk.injEq] at same
      obtain ⟨⟨pathLength, contentLength⟩, same⟩ := same
      rw [testBytes_cons, testBytes_cons] at bytes
      have length : (fileBytes file).length = (fileBytes other).length := by
        rw [fileBytes, fileBytes, List.length_append, List.length_append, pathLength, contentLength]
      obtain ⟨first, later⟩ := List.append_inj bytes length
      obtain ⟨path, content⟩ := List.append_inj first pathLength
      rw [Prod.ext (path_eq path) (toList_inj content), ih same later]

theorem length_testBytes_le (fewer : files.Sublist more) :
    (testBytes files).length ≤ (testBytes more).length := by
  induction fewer with
  | slnil => exact Nat.le_refl _
  | cons file fewer ih => simp only [testBytes_cons, List.length_append]; omega
  | cons_cons file fewer ih => simp only [testBytes_cons, List.length_append]; omega

/-- Fewer files have fewer bytes, since no path is empty. -/
theorem files_eq_of_sublist (named : ∀ file ∈ more, file.1.text ≠ "") (fewer : files.Sublist more)
    (bytes : (testBytes files).length = (testBytes more).length) : files = more := by
  induction fewer with
  | slnil => rfl
  | @cons files more file fewer ih =>
    -- The file that is not among them would have had to have no bytes, and it has a path.
    exfalso
    have isNamed := named file List.mem_cons_self
    have atMost := length_testBytes_le fewer
    have someBytes : 0 < file.1.text.toUTF8.toList.length := by
      rw [toList_eq, Array.length_toList, ByteArray.size_data]
      exact Nat.pos_of_ne_zero fun empty => isNamed (String.utf8ByteSize_eq_zero_iff.mp empty)
    rw [testBytes_cons, List.length_append, fileBytes, List.length_append] at bytes
    omega
  | @cons_cons files more file fewer ih =>
    rw [testBytes_cons, testBytes_cons, List.length_append, List.length_append] at bytes
    rw [ih (fun other member => named other (List.mem_cons_of_mem _ member)) (by omega)]

/-- A change that shows leads to other bytes. -/
theorem Shows.testBytes_ne (shows : Shows files others) (named : ∀ file ∈ files, file.1.text ≠ "")
    (othersNamed : ∀ file ∈ others, file.1.text ≠ "") : testBytes files ≠ testBytes others := by
  induction shows with
  | added fewer changed =>
    intro bytes
    exact changed (files_eq_of_sublist othersNamed fewer (by rw [bytes]))
  | removed fewer changed =>
    intro bytes
    exact changed (files_eq_of_sublist named fewer (by rw [bytes])).symm
  | content path changed =>
    intro bytes
    rw [testBytes_cons, testBytes_cons] at bytes
    exact changed (toList_inj (List.append_cancel_left (List.append_cancel_right bytes)))
  | path content changed =>
    intro bytes
    rw [testBytes_cons, testBytes_cons] at bytes
    have paths := List.append_cancel_right (List.append_cancel_right bytes)
    exact changed (path_eq paths)
  | lengths same changed =>
    intro bytes
    exact changed (files_eq_of_divisions same bytes)
  | inside front rest shows ih =>
    intro bytes
    simp only [testBytes_append] at bytes
    refine ih (fun file member => named file ?_) (fun file member => othersNamed file ?_)
      (List.append_cancel_left (List.append_cancel_right bytes))
    · exact List.mem_append_left _ (List.mem_append_right _ member)
    · exact List.mem_append_left _ (List.mem_append_right _ member)

theorem join_named {path : Path} (named : path.text ≠ "") (below : Path) :
    (path.join below).text ≠ "" := by
  unfold Path.join
  split
  · rename_i isAbsolute
    intro empty
    simp [Path.isAbsolute, empty] at isAbsolute
  · split <;> simp [named]

mutual
/-- What a walk comes to below a path that is not empty has no empty path either. -/
theorem named_of_mem_walk {keep : Walked → Bool} {path : Path} (named : path.text ≠ "") :
    ∀ (entry : Entry) {walked : Walked}, walked ∈ entry.walk keep path → walked.path.text ≠ ""
  | .file content, _, member => by simp [Entry.walk] at member
  | .directory entries, _, member => named_of_mem_walkAll named entries (by
      simpa only [Entry.walk] using member)

theorem named_of_mem_walkAll {keep : Walked → Bool} {path : Path} (named : path.text ≠ "") :
    ∀ (entries : List (String × Entry)) {walked : Walked},
      walked ∈ Entry.walkAll keep path entries → walked.path.text ≠ ""
  | [], _, member => by simp [Entry.walkAll] at member
  | (name, entry) :: rest, walked, member => by
    simp only [Entry.walkAll, List.mem_append] at member
    obtain inside | later := member
    · split at inside
      · obtain rfl | below := List.mem_cons.mp inside
        · exact join_named named _
        · exact named_of_mem_walk (join_named named _) entry below
      · contradiction
    · exact named_of_mem_walkAll named rest later
end

theorem named_of_testFiles (listed : testFiles workspace directories = .ok files) :
    ∀ file ∈ files, file.1.text ≠ "" := by
  induction directories generalizing files with
  | nil =>
    obtain rfl := Except.ok.inj listed
    simp
  | cons directory rest ih =>
    unfold testFiles at listed
    cases found : workspace.find directory with
    | error fault => simp [found, bind, Except.bind, throw, throwThe, MonadExceptOf.throw] at listed
    | ok entry =>
      have named : directory.text ≠ "" := by
        intro empty
        simp [Workspace.find, Workspace.address, empty, bind, Except.bind] at found
      simp only [found, pure_bind] at listed
      obtain ⟨others, others_listed, listed⟩ := Workspace.ok_of_bind listed
      obtain rfl := Except.ok.inj listed
      intro file member
      obtain isHere | isLater := List.mem_append.mp member
      · obtain ⟨walked, isWalked, isFile⟩ := List.mem_filterMap.mp isHere
        split at isFile
        · contradiction
        · obtain ⟨content, -, rfl⟩ := Option.map_eq_some_iff.mp isFile
          obtain rfl | below := List.mem_cons.mp isWalked
          · exact named
          · exact named_of_mem_walk named entry below
      · exact ih others_listed file isLater

end Files

/-- What a change of the files of tests that shows does to results, if the digest tells the bytes
before and after apart: the digest of the tests is another one, and of what was found with the
earlier one only kills can be relied on. -/
theorem shown_changes_untrust {before after : Workspace} {directories others : List Path}
    {files changed : List (Path × ByteArray)} (listed : testFiles before directories = .ok files)
    (relisted : testFiles after others = .ok changed) (shows : Shows files changed)
    (noCollision : Digest.sha256 (testBytes files) = Digest.sha256 (testBytes changed) →
      testBytes files = testBytes changed) :
    testBytes files ≠ testBytes changed ∧
      ∃ digest renewed, testsDigest before directories = .ok digest ∧
        testsDigest after others = .ok renewed ∧ digest ≠ renewed ∧
        ∀ (data : CacheData) (path : Path) (id : MutantId) (mutant : CachedMutant),
          data.find? path id = some mutant → mutant.digest? = some digest →
          data.trustedStatus path id renewed =
            if mutant.status = .killed then .killed else .untested := by
  have bytes := shows.testBytes_ne (named_of_testFiles listed) (named_of_testFiles relisted)
  refine ⟨bytes, _, _, by rw [testsDigest, listed]; rfl, by rw [testsDigest, relisted]; rfl, ?_, ?_⟩
  · intro same
    exact bytes (noCollision (Digest.hexadecimal_inj same))
  · intro data path id mutant found isDigest
    have differs : mutant.digest? ≠ some (Digest.hexadecimal (Digest.sha256 (testBytes changed))) := by
      rw [isDigest]
      intro same
      exact bytes (noCollision (Digest.hexadecimal_inj (Option.some.inj same)))
    simp only [CacheData.trustedStatus, found, if_neg differs]

/-- A workspace with scripts in its directory of tests. -/
def withTests (scripts : List (String × String)) : Workspace :=
  ⟨.directory [("tests", .directory (scripts.map fun (name, text) => (name, .file text.toUTF8)))],
    [], []⟩

def scripts : Path := ⟨"tests"⟩

/-- A script that is added shows: the tests have another digest. -/
theorem added_script_untrusts :
    let first : Path × ByteArray := (⟨"tests/a.sh"⟩, "true\n".toUTF8)
    let second : Path × ByteArray := (⟨"tests/b.sh"⟩, "grep -q 'x = 1' a.py\n".toUTF8)
    let before := withTests [("a.sh", "true\n")]
    let after := withTests [("a.sh", "true\n"), ("b.sh", "grep -q 'x = 1' a.py\n")]
    testFiles before [scripts] = .ok [first] ∧ testFiles after [scripts] = .ok [first, second] ∧
      Shows [first] [first, second] ∧
      (Digest.sha256 (testBytes [first]) = Digest.sha256 (testBytes [first, second]) →
        testBytes [first] = testBytes [first, second]) ∧
      ∃ digest renewed, testsDigest before [scripts] = .ok digest ∧
        testsDigest after [scripts] = .ok renewed ∧ digest ≠ renewed := by
  intro first second before after
  have listed : testFiles before [scripts] = .ok [first] := rfl
  have relisted : testFiles after [scripts] = .ok [first, second] := rfl
  have shows : Shows [first] [first, second] := .added (by simp) (by simp)
  have apart : Digest.sha256 (testBytes [first]) ≠ Digest.sha256 (testBytes [first, second]) := by
    decide +kernel
  have noCollision (same : Digest.sha256 (testBytes [first]) =
      Digest.sha256 (testBytes [first, second])) : testBytes [first] = testBytes [first, second] :=
    absurd same apart
  obtain ⟨-, digest, renewed, isDigest, isRenewed, differs, -⟩ :=
    shown_changes_untrust listed relisted shows noCollision
  exact ⟨listed, relisted, shows, noCollision, digest, renewed, isDigest, isRenewed, differs⟩

/-- The end of one script as a script of its own does not show: the bytes are the same, and so is
the digest. -/
theorem moved_division_unseen :
    let before := withTests [("a.sh", "true\n#tests/b.shgrep -q 'x = 1' a.py\n")]
    let after := withTests [("a.sh", "true\n#"), ("b.sh", "grep -q 'x = 1' a.py\n")]
    ∃ files others, testFiles before [scripts] = .ok files ∧ testFiles after [scripts] = .ok others ∧
      files ≠ others ∧ testBytes files = testBytes others ∧
      testsDigest before [scripts] = testsDigest after [scripts] := by
  intro before after
  have listed : testFiles before [scripts] =
      .ok [(⟨"tests/a.sh"⟩, "true\n#tests/b.shgrep -q 'x = 1' a.py\n".toUTF8)] := rfl
  have relisted : testFiles after [scripts] =
      .ok [(⟨"tests/a.sh"⟩, "true\n#".toUTF8),
        (⟨"tests/b.sh"⟩, "grep -q 'x = 1' a.py\n".toUTF8)] := rfl
  have bytes : testBytes [(⟨"tests/a.sh"⟩, "true\n#tests/b.shgrep -q 'x = 1' a.py\n".toUTF8)] =
      testBytes [(⟨"tests/a.sh"⟩, "true\n#".toUTF8),
        (⟨"tests/b.sh"⟩, "grep -q 'x = 1' a.py\n".toUTF8)] := by
    decide +kernel
  refine ⟨_, _, listed, relisted, by simp, bytes, ?_⟩
  rw [testsDigest, testsDigest, listed, relisted]
  simp only [Except.map, bytes]

end MutationTesting.Discovery
