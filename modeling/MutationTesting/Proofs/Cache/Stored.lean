import MutationTesting.Cache.Store
import MutationTesting.Proofs.Cache.Listed
import MutationTesting.Proofs.Json.Rendered
/-! Caches that are stored and read back. All of a cache comes back but for the time of the clean
run, of which the last place may differ. -/
namespace MutationTesting.CacheData

open Json (mapM_map printable_natural natural?_natural parse?_pretty)

/-- The numbers, rows and places of a cache are words of a machine. -/
structure InWords (data : CacheData) : Prop where
  next : data.nextNumber < Nat.pow 2 wordWidth
  rows : ∀ entry ∈ data.files, ∀ line ∈ entry.2.lines, line.row < Nat.pow 2 wordWidth
  places : ∀ found ∈ data.mutants, found.2.2.index < Nat.pow 2 wordWidth

/-- All numbers of a cache are words of a machine, those of its mutants included. -/
structure Fits (data : CacheData) : Prop extends InWords data where
  numbers : ∀ found ∈ data.mutants, found.2.2.number < Nat.pow 2 wordWidth

instance (data : CacheData) : Decidable data.InWords :=
  decidable_of_iff (data.nextNumber < Nat.pow 2 wordWidth ∧
      (∀ entry ∈ data.files, ∀ line ∈ entry.2.lines, line.row < Nat.pow 2 wordWidth) ∧
      ∀ found ∈ data.mutants, found.2.2.index < Nat.pow 2 wordWidth)
    ⟨fun ⟨next, rows, places⟩ => ⟨next, rows, places⟩, fun inWords =>
      ⟨inWords.next, inWords.rows, inWords.places⟩⟩

instance (data : CacheData) : Decidable data.Fits :=
  decidable_of_iff
    (data.InWords ∧ ∀ found ∈ data.mutants, found.2.2.number < Nat.pow 2 wordWidth)
    ⟨fun ⟨inWords, numbers⟩ => ⟨inWords, numbers⟩, fun fits => ⟨fits.toInWords, fits.numbers⟩⟩

section Printable

theorem printable_nullable {α : Type} {write : α → Json} (printable : ∀ value, (write value).Printable)
    (value? : Option α) : (nullable write value?).Printable := by
  cases value? with
  | none => exact .null
  | some value => exact printable value

theorem printable_mutantJson (mutant : CachedMutant) : (mutantJson mutant).Printable := by
  refine .object fun field member => ?_
  simp only [List.mem_cons, List.not_mem_nil, or_false] at member
  obtain rfl | rfl | rfl | rfl := member
  · exact printable_natural _
  · exact printable_natural _
  · exact .text _
  · exact printable_nullable .text _

theorem printable_lineJson (line : CachedLine) : (lineJson line).Printable := by
  refine .object fun field member => ?_
  simp only [List.mem_cons, List.not_mem_nil, or_false] at member
  obtain rfl | rfl | rfl := member
  · exact .text _
  · exact printable_natural _
  · refine .array fun item isItem => ?_
    obtain ⟨mutant, -, rfl⟩ := List.mem_map.mp isItem
    exact printable_mutantJson mutant

theorem printable_fileJson (file : CachedFile) : (fileJson file).Printable := by
  refine .object fun field member => ?_
  obtain rfl := List.mem_singleton.mp member
  refine .array fun item isItem => ?_
  obtain ⟨line, -, rfl⟩ := List.mem_map.mp isItem
  exact printable_lineJson line

theorem printable_toJson (data : CacheData) : data.toJson.Printable := by
  refine .object fun field member => ?_
  simp only [List.mem_cons, List.not_mem_nil, or_false] at member
  obtain rfl | rfl | rfl | rfl := member
  · exact printable_natural _
  · exact printable_nullable Json.printable_float _
  · exact printable_natural _
  · refine .object fun file isFile => ?_
    obtain ⟨entry, -, rfl⟩ := List.mem_map.mp isFile
    exact printable_fileJson entry.2

end Printable

section Read

theorem lookup_zip {names : List String} {values : List Json} (distinct : names.Nodup)
    (length : names.length = values.length) :
    (names.map fun name => (names.zip values).lookup name) = values.map some := by
  induction names generalizing values with
  | nil => rw [List.eq_nil_of_length_eq_zero length.symm]; rfl
  | cons name names ih =>
    cases values with
    | nil => contradiction
    | cons value values =>
      obtain ⟨isNew, distinct⟩ := List.nodup_cons.mp distinct
      have others : (names.map fun other => ((name, value) :: names.zip values).lookup other) =
          names.map fun other => (names.zip values).lookup other := by
        refine List.map_congr_left fun other member => ?_
        have differs : (other == name) = false := beq_false_of_ne fun same => isNew (same ▸ member)
        rw [List.lookup_cons, differs]
      rw [List.zip_cons_cons, List.map_cons, List.map_cons, others,
        ih distinct (Nat.succ.inj length), List.lookup_cons_self]

theorem members?_zip {names : List String} (values : List Json) (distinct : names.Nodup)
    (length : names.length = values.length) :
    members? names (.object (names.zip values)) = some (values.map some) := by
  have once : (names.any fun name => 1 < ((names.zip values).map Prod.fst).count name) = false := by
    refine List.any_eq_false.mpr fun name _ => ?_
    rw [List.map_fst_zip (Nat.le_of_eq length), decide_eq_true_eq, Nat.not_lt]
    exact List.nodup_iff_count.mp distinct name
  rw [members?, once, lookup_zip distinct length]
  rfl

theorem mutant?_mutantJson {mutant : CachedMutant} (number : mutant.number < Nat.pow 2 wordWidth)
    (index : mutant.index < Nat.pow 2 wordWidth) : mutant? (mutantJson mutant) = some mutant := by
  have named : members? ["id", "index", "status", "tested_against_hash"] (mutantJson mutant) =
      some [some (.natural mutant.number), some (.natural mutant.index),
        some (.text mutant.status.code), some (nullable .text mutant.digest?)] :=
    members?_zip [_, _, _, _] (by decide) rfl
  have status : status? (.text mutant.status.code) = some mutant.status :=
    Status.ofCode?_code mutant.status
  have digest : optional? Json.text? (some (nullable .text mutant.digest?)) = some mutant.digest? := by
    cases mutant.digest? <;> rfl
  simp only [mutant?, named, natural?_natural number, natural?_natural index, status, digest,
    Option.bind_eq_bind, Option.bind_some, Option.pure_def]

theorem line?_lineJson {line : CachedLine} (row : line.row < Nat.pow 2 wordWidth)
    (numbers : ∀ mutant ∈ line.mutants, mutant.number < Nat.pow 2 wordWidth)
    (places : ∀ mutant ∈ line.mutants, mutant.index < Nat.pow 2 wordWidth) :
    line? (lineJson line) = some line := by
  have named : members? ["line", "line_number", "mutants"] (lineJson line) =
      some [some (.text line.text), some (.natural line.row),
        some (.array (line.mutants.map mutantJson))] :=
    members?_zip [_, _, _] (by decide) rfl
  have mutants : (line.mutants.map mutantJson).mapM mutant? = some line.mutants :=
    mapM_map fun mutant member => mutant?_mutantJson (numbers mutant member) (places mutant member)
  have text : (Json.text line.text).text? = some line.text := rfl
  simp only [line?, named, natural?_natural row, text, Json.items?, mutants, Option.bind_eq_bind,
    Option.bind_some, Option.pure_def]

theorem readFile?_fileJson {file : CachedFile}
    (back : ∀ line ∈ file.lines, line? (lineJson line) = some line) :
    readFile? (fileJson file) = some file := by
  have named : members? ["lines"] (fileJson file) =
      some [some (.array (file.lines.map lineJson))] :=
    members?_zip [_] (by decide) rfl
  simp only [readFile?, named, Json.items?, mapM_map back, Option.bind_eq_bind, Option.bind_some,
    Option.pure_def]

theorem putFile_last {files : List (Path × CachedFile)} {path : Path} {file : CachedFile}
    (last : ∀ entry ∈ files, entry.1.Before path) :
    putFile path file files = files ++ [(path, file)] := by
  induction files with
  | nil => rfl
  | cons entry rest ih =>
    obtain ⟨other, old⟩ := entry
    rw [putFile, (last (other, old) List.mem_cons_self).gt]
    dsimp only
    rw [ih fun entry member => last entry (List.mem_cons_of_mem _ member)]
    rfl

/-- The files that are read one after the other are those in front of them and themselves. -/
theorem foldlM_files {before files : List (Path × CachedFile)} (sorted : Sorted (before ++ files))
    (back : ∀ entry ∈ files, readFile? (fileJson entry.2) = some entry.2) :
    (files.map fun entry => (entry.1.text, fileJson entry.2)).foldlM
      (fun files (path, value) => (readFile? value).map fun file => putFile ⟨path⟩ file files)
      before = some (before ++ files) := by
  induction files generalizing before with
  | nil => simp
  | cons entry rest ih =>
    obtain ⟨path, file⟩ := entry
    have last : putFile path file before = before ++ [(path, file)] := by
      refine putFile_last fun entry member => ?_
      exact (List.pairwise_append.mp sorted).2.2 entry member _ List.mem_cons_self
    have first : readFile? (fileJson file) = some file := back (path, file) List.mem_cons_self
    have further := ih (show Sorted ((before ++ [(path, file)]) ++ rest) by simpa using sorted)
      fun entry member => back entry (List.mem_cons_of_mem _ member)
    rw [List.map_cons, List.foldlM_cons]
    simp only [first, Option.map_some, last, Option.bind_eq_bind, Option.bind_some, further]
    simp

theorem sorted_files? {value : Json} {files : List (Path × CachedFile)}
    (read : files? value = some files) : Sorted files := by
  unfold files? at read
  split at read
  · rename_i members
    suffices further : ∀ before, Sorted before →
        members.foldlM (fun files (path, value) =>
          (readFile? value).map fun file => putFile ⟨path⟩ file files) before = some files →
        Sorted files from further [] .nil read
    clear read
    induction members with
    | nil => exact fun before sorted read => Option.some.inj read ▸ sorted
    | cons member rest ih =>
      intro before sorted read
      rw [List.foldlM_cons, Option.bind_eq_bind, Option.bind_eq_some_iff] at read
      obtain ⟨between, first, others⟩ := read
      obtain ⟨file, -, rfl⟩ := Option.map_eq_some_iff.mp first
      exact ih _ (sorted.putFile ⟨member.1⟩ file) others
  · contradiction

theorem sorted_ofJson? {value : Json} {data : CacheData} (read : ofJson? value = some data) :
    Sorted data.files := by
  unfold ofJson? at read
  simp only [Option.bind_eq_bind, Option.pure_def] at read
  split at read
  · obtain ⟨members, -, read⟩ := Option.bind_eq_some_iff.mp read
    split at read
    · obtain ⟨version, -, read⟩ := Option.bind_eq_some_iff.mp read
      split at read
      · obtain ⟨baseline?, -, read⟩ := Option.bind_eq_some_iff.mp read
        obtain ⟨next, -, read⟩ := Option.bind_eq_some_iff.mp read
        obtain ⟨files, isFiles, read⟩ := Option.bind_eq_some_iff.mp read
        obtain rfl := Option.some.inj read
        exact sorted_files? isFiles
      · contradiction
    · contradiction
  · contradiction

/-- What is opened is in order, whatever has been stored. -/
theorem sorted_decode (text : String) : Sorted (decode text).files := by
  unfold decode
  cases read : (Json.parse? text).bind ofJson? with
  | none => exact List.Pairwise.nil
  | some data =>
    obtain ⟨value, -, isData⟩ := Option.bind_eq_some_iff.mp read
    exact sorted_ofJson? isData

end Read

variable {data : CacheData}

theorem Sound.fits (sound : data.Sound) (inWords : data.InWords) : data.Fits where
  toInWords := inWords
  numbers _ isFound :=
    Nat.lt_trans (sound.numbers_lt _ (List.mem_map_of_mem isFound)) inWords.next

theorem Fits.files?_toJson (fits : data.Fits) (sorted : Sorted data.files) :
    files? (.object (data.files.map fun (path, file) => (path.text, fileJson file))) =
      some data.files := by
  refine foldlM_files (show Sorted ([] ++ data.files) from sorted) fun entry isFile => ?_
  refine readFile?_fileJson fun line isLine => ?_
  have isFound (mutant : CachedMutant) (isMutant : mutant ∈ line.mutants) :
      (entry.1, line, mutant) ∈ data.mutants :=
    mem_mutants.mpr ⟨entry.2, isFile, isLine, isMutant⟩
  exact line?_lineJson (fits.rows entry isFile line isLine)
    (fun mutant isMutant => fits.numbers _ (isFound mutant isMutant))
    fun mutant isMutant => fits.places _ (isFound mutant isMutant)

/-- The time of a clean run is read as one if it is stored, which it is if it is finite. -/
theorem baseline_read (baseline? : Option Float) :
    ∃ read, optional? Json.float? (some (nullable .float baseline?)) = some read ∧
      ∀ seconds, baseline? = some seconds → Decimal.isFinite seconds = true → read.isSome := by
  cases baseline? with
  | none => exact ⟨none, rfl, by simp⟩
  | some x =>
    by_cases finite : Decimal.isFinite x = true
    · obtain ⟨y, read⟩ := Json.float?_float finite
      refine ⟨some y, ?_, fun _ _ _ => rfl⟩
      have isNumber : Json.float x = .number (Json.floatLayout.render x) := if_pos finite
      rw [isNumber] at read
      rw [nullable, isNumber, optional?, read]
      · rfl
      · exact fun null => nomatch null
    · refine ⟨none, ?_, fun seconds same isFinite => ?_⟩
      · have isNull : Json.float x = .null := if_neg finite
        rw [nullable, isNull]
        rfl
      · exact absurd (Option.some.inj same ▸ isFinite) finite

/-- The value of a cache holds its data, with the time of the clean run that is read. -/
theorem Fits.ofJson?_toJson (fits : data.Fits) (sorted : Sorted data.files)
    {baseline? : Option Float}
    (read : optional? Json.float? (some (nullable .float data.baseline?)) = some baseline?) :
    ofJson? data.toJson = some { data with baseline? } := by
  have named : members? ["version", "baseline_time", "next_id", "files"] data.toJson =
      some [some (.natural formatVersion), some (nullable .float data.baseline?),
        some (.natural data.nextNumber),
        some (.object (data.files.map fun (path, file) => (path.text, fileJson file)))] :=
    members?_zip [_, _, _, _] (by decide) rfl
  have version : (Json.natural formatVersion).natural? 32 = some formatVersion :=
    natural?_natural (by decide)
  unfold ofJson?
  rw [toJson] at named ⊢
  simp only [named, version, read, natural?_natural fits.next, fits.files?_toJson sorted,
    Option.bind_eq_bind, Option.bind_some, Option.pure_def, if_true]

/-- What was stored of a cache is read back, with the time of the clean run that is read. -/
theorem Fits.decode_encode_of_read (fits : data.Fits) (sorted : Sorted data.files)
    {baseline? : Option Float}
    (read : optional? Json.float? (some (nullable .float data.baseline?)) = some baseline?) :
    decode data.encode = { data with baseline? } := by
  rw [decode, encode, parse?_pretty (printable_toJson data), Option.bind_some,
    fits.ofJson?_toJson sorted read]
  rfl

/-- What was stored of a cache is read back, but for the last place of the time of the clean run. -/
theorem Fits.decode_encode (fits : data.Fits) (sorted : Sorted data.files) :
    ∃ baseline?, decode data.encode = { data with baseline? } ∧
      ∀ seconds, data.baseline? = some seconds → Decimal.isFinite seconds = true →
        baseline?.isSome := by
  obtain ⟨baseline?, baseline, isRead⟩ := baseline_read data.baseline?
  exact ⟨baseline?, fits.decode_encode_of_read sorted baseline, isRead⟩

theorem Sound.decode_encode (sound : data.Sound) (inWords : data.InWords) :
    ∃ baseline?, decode data.encode = { data with baseline? } := by
  obtain ⟨baseline?, same, -⟩ := (sound.fits inWords).decode_encode sound.sorted
  exact ⟨baseline?, same⟩

end MutationTesting.CacheData

namespace MutationTesting.Cache

theorem sorted_openIn {workspace : Workspace} {directory : Path} {cache : Cache}
    (opens : openIn workspace directory = .ok cache) : CacheData.Sorted cache.data.files := by
  unfold openIn at opens
  dsimp only at opens
  split at opens
  · exact (Except.ok.inj opens ▸ CacheData.sorted_decode _)
  · exact (Except.ok.inj opens ▸ List.Pairwise.nil)
  · contradiction

end MutationTesting.Cache
