import Mathlib.Data.List.Forall2
import MutationTesting.Proofs.Cache.Stored
import MutationTesting.Proofs.FileSystem.Lookup
/-! What is opened of a stored cache. A value of JSON describes the data of a cache if it has the present
version and describes all members, which it may do in more than one way: as records stand objects as well
as arrays, what may be missing may also be null, and further members do not count. -/
namespace MutationTesting

theorem Status.ofCode?_eq_some {code : String} {status : Status} :
    ofCode? code = some status ↔ code = status.code := by
  constructor
  · intro found
    unfold ofCode? at found
    have isCode := List.find?_some found
    exact (beq_iff_eq.mp isCode).symm
  · rintro rfl
    exact ofCode?_code status

namespace CacheData

section Described

theorem mapM_eq_some_iff {α β : Type} {read? : α → Option β} {items : List α} {values : List β} :
    items.mapM read? = some values ↔
      List.Forall₂ (fun item value => read? item = some value) items values := by
  induction items generalizing values with
  | nil =>
    rw [List.forall₂_nil_left_iff]
    simp [eq_comm]
  | cons item rest ih =>
    rw [List.mapM_cons, List.forall₂_cons_left_iff]
    simp only [Option.bind_eq_bind, Option.bind_eq_some_iff, ih, Option.pure_def, Option.some.injEq]
    grind

variable {members : List (String × Json)} {names : List String} {name : String} {value : Json}

/-- What all members of an object with a name are: none, or one with a value. -/
def Under (members : List (String × Json)) (name : String) (value? : Option Json) : Prop :=
  (members.filter (·.1 == name)).map Prod.snd = value?.toList

theorem lookup_eq_head? (members : List (String × Json)) (name : String) :
    members.lookup name = ((members.filter (·.1 == name)).map Prod.snd).head? := by
  induction members with
  | nil => rfl
  | cons member rest ih =>
    rw [List.lookup_cons, List.filter_cons, ih, Bool.beq_comm]
    cases member.1 == name <;> rfl

theorem under_iff {value? : Option Json} :
    Under members name value? ↔
      (members.map Prod.fst).count name ≤ 1 ∧ members.lookup name = value? := by
  have count : (members.map Prod.fst).count name =
      ((members.filter (·.1 == name)).map Prod.snd).length := by
    rw [List.length_map, ← List.countP_eq_length_filter, List.count, List.countP_map]
    rfl
  rw [Under, count, lookup_eq_head?]
  generalize (members.filter (·.1 == name)).map Prod.snd = values
  obtain - | ⟨value, - | ⟨other, rest⟩⟩ := values <;> cases value? <;> simp

/-- The values of a record with the given names: an object, whatever else it has, or an array of all
values in the order of the names. -/
inductive Record (names : List String) : Json → List (Option Json) → Prop where
  | object {members : List (String × Json)} {values : List (Option Json)}
    (under : List.Forall₂ (Under members) names values) : Record names (.object members) values
  | array {items : List Json} (all : items.length = names.length) :
    Record names (.array items) (items.map some)

theorem members?_iff {values : List (Option Json)} :
    members? names value = some values ↔ Record names value values := by
  constructor
  · intro read
    unfold members? at read
    split at read
    · rename_i members
      split at read
      · contradiction
      · rename_i once
        obtain rfl := Option.some.inj read
        refine .object (List.forall₂_map_right_iff.mpr (List.forall₂_same.mpr fun name isName => ?_))
        refine under_iff.mpr ⟨Nat.not_lt.mp fun twice => once ?_, rfl⟩
        exact List.any_eq_true.mpr ⟨name, isName, decide_eq_true twice⟩
    · split at read
      · rename_i all
        obtain rfl := Option.some.inj read
        exact .array all
      · contradiction
    · contradiction
  · rintro (⟨under⟩ | ⟨all⟩)
    · rename_i members
      have each : (∀ name ∈ names, (members.map Prod.fst).count name ≤ 1) ∧
          (names.map fun name => members.lookup name) = values := by
        induction under with
        | nil => simp
        | cons first _ ih =>
          obtain ⟨single, rfl⟩ := under_iff.mp first
          exact ⟨List.forall_mem_cons.mpr ⟨single, ih.1⟩, by rw [List.map_cons, ih.2]⟩
      have once : (names.any fun name => 1 < (members.map Prod.fst).count name) = false :=
        List.any_eq_false.mpr fun name isName => by simpa using each.1 name isName
      rw [members?, once, each.2]
      rfl
    · exact if_pos all

/-- What a value that may be missing or null describes. -/
inductive Optionally {α : Type} (reads : Json → α → Prop) : Option Json → Option α → Prop where
  | missing : Optionally reads none none
  | null : Optionally reads (some .null) none
  | given {value : Json} {result : α} (notNull : value ≠ .null) (read : reads value result) :
    Optionally reads (some value) (some result)

theorem optional?_iff {α : Type} {read? : Json → Option α} {value? : Option Json} {result? : Option α} :
    optional? read? value? = some result? ↔
      Optionally (fun value result => read? value = some result) value? result? := by
  constructor
  · intro read
    unfold optional? at read
    split at read
    · obtain rfl := Option.some.inj read
      exact .missing
    · obtain rfl := Option.some.inj read
      exact .null
    · rename_i value notNull
      obtain ⟨result, isRead, rfl⟩ := Option.map_eq_some_iff.mp read
      exact .given notNull isRead
  · rintro (- | - | ⟨notNull, read⟩)
    · rfl
    · rfl
    · rw [optional?, read]
      · rfl
      · exact notNull

/-- A status is described by its word, or by an object with nothing under its word. -/
inductive DescribesStatus : Json → Status → Prop where
  | word (status : Status) : DescribesStatus (.text status.code) status
  | tagged (status : Status) : DescribesStatus (.object [(status.code, .null)]) status

theorem status?_iff {status : Status} : status? value = some status ↔ DescribesStatus value status := by
  constructor
  · intro read
    unfold status? at read
    split at read
    · obtain ⟨code, rfl, isCode⟩ := Option.bind_eq_some_iff.mp read
      obtain rfl := Status.ofCode?_eq_some.mp isCode
      exact .word status
    · obtain rfl := Status.ofCode?_eq_some.mp read
      exact .tagged status
    · contradiction
  · rintro (- | -) <;> exact Status.ofCode?_code status

inductive DescribesMutant : Json → CachedMutant → Prop where
  | record {value number index status : Json} {digest? : Option Json} {mutant : CachedMutant}
    (members : Record ["id", "index", "status", "tested_against_hash"] value
      [some number, some index, some status, digest?])
    (isNumber : number.natural? wordWidth = some mutant.number)
    (isIndex : index.natural? wordWidth = some mutant.index)
    (isStatus : DescribesStatus status mutant.status)
    (isDigest : Optionally (fun value text => value.text? = some text) digest? mutant.digest?) :
    DescribesMutant value mutant

theorem mutant?_iff {mutant : CachedMutant} : mutant? value = some mutant ↔ DescribesMutant value mutant := by
  constructor
  · intro read
    unfold mutant? at read
    obtain ⟨values, members, read⟩ := Option.bind_eq_some_iff.mp read
    split at read
    · obtain ⟨number, isNumber, read⟩ := Option.bind_eq_some_iff.mp read
      obtain ⟨index, isIndex, read⟩ := Option.bind_eq_some_iff.mp read
      obtain ⟨status, isStatus, read⟩ := Option.bind_eq_some_iff.mp read
      obtain ⟨digest?, isDigest, read⟩ := Option.bind_eq_some_iff.mp read
      obtain rfl := Option.some.inj read
      exact .record (members?_iff.mp members) isNumber isIndex (status?_iff.mp isStatus)
        (optional?_iff.mp isDigest)
    · contradiction
  · rintro ⟨members, isNumber, isIndex, isStatus, isDigest⟩
    simp only [mutant?, members?_iff.mpr members, isNumber, isIndex, status?_iff.mpr isStatus,
      optional?_iff.mpr isDigest, Option.bind_eq_bind, Option.bind_some, Option.pure_def]

theorem items?_iff {items : List Json} : value.items? = some items ↔ value = .array items := by
  cases value <;> simp [Json.items?]

inductive DescribesLine : Json → CachedLine → Prop where
  | record {value text row : Json} {mutants : List Json} {line : CachedLine}
    (members : Record ["line", "line_number", "mutants"] value
      [some text, some row, some (.array mutants)])
    (isText : text.text? = some line.text) (isRow : row.natural? wordWidth = some line.row)
    (areMutants : List.Forall₂ DescribesMutant mutants line.mutants) : DescribesLine value line

theorem line?_iff {line : CachedLine} : line? value = some line ↔ DescribesLine value line := by
  constructor
  · intro read
    unfold line? at read
    obtain ⟨values, members, read⟩ := Option.bind_eq_some_iff.mp read
    split at read
    · obtain ⟨text, isText, read⟩ := Option.bind_eq_some_iff.mp read
      obtain ⟨row, isRow, read⟩ := Option.bind_eq_some_iff.mp read
      obtain ⟨items, areItems, read⟩ := Option.bind_eq_some_iff.mp read
      obtain ⟨mutants, areMutants, read⟩ := Option.bind_eq_some_iff.mp read
      obtain rfl := Option.some.inj read
      obtain rfl := items?_iff.mp areItems
      refine .record (members?_iff.mp members) isText isRow ?_
      exact (mapM_eq_some_iff.mp areMutants).imp fun _ _ => mutant?_iff.mp
    · contradiction
  · rintro ⟨members, isText, isRow, areMutants⟩
    have mutants := mapM_eq_some_iff.mpr (areMutants.imp fun _ _ => mutant?_iff.mpr)
    simp only [line?, members?_iff.mpr members, isText, isRow, Json.items?, mutants,
      Option.bind_eq_bind, Option.bind_some, Option.pure_def]

inductive DescribesFile : Json → CachedFile → Prop where
  | record {value : Json} {lines : List Json} {file : CachedFile}
    (members : Record ["lines"] value [some (.array lines)])
    (areLines : List.Forall₂ DescribesLine lines file.lines) : DescribesFile value file

theorem readFile?_iff {file : CachedFile} : readFile? value = some file ↔ DescribesFile value file := by
  constructor
  · intro read
    unfold readFile? at read
    obtain ⟨values, members, read⟩ := Option.bind_eq_some_iff.mp read
    split at read
    · obtain ⟨items, areItems, read⟩ := Option.bind_eq_some_iff.mp read
      obtain ⟨lines, areLines, read⟩ := Option.bind_eq_some_iff.mp read
      obtain rfl := Option.some.inj read
      obtain rfl := items?_iff.mp areItems
      refine .record (members?_iff.mp members) ?_
      exact (mapM_eq_some_iff.mp areLines).imp fun _ _ => line?_iff.mp
    · contradiction
  · rintro ⟨members, areLines⟩
    have lines := mapM_eq_some_iff.mpr (areLines.imp fun _ _ => line?_iff.mpr)
    simp only [readFile?, members?_iff.mpr members, Json.items?, lines,
      Option.bind_eq_bind, Option.bind_some, Option.pure_def]

/-- Files are put under their paths one after the other, so of two with one path the later one counts. -/
inductive DescribesFiles : Json → List (Path × CachedFile) → Prop where
  | object {members : List (String × Json)} {files : List CachedFile}
    (areFiles : List.Forall₂ (fun member file => DescribesFile member.2 file) members files) :
    DescribesFiles (.object members)
      ((members.zip files).foldl (fun files (member, file) => putFile ⟨member.1⟩ file files) [])

theorem foldlM_eq_some_iff {before files : List (Path × CachedFile)} :
    members.foldlM (fun files (path, value) =>
        (readFile? value).map fun file => putFile ⟨path⟩ file files) before = some files ↔
      ∃ read : List CachedFile,
        List.Forall₂ (fun member file => DescribesFile member.2 file) members read ∧
        (members.zip read).foldl (fun files (member, file) => putFile ⟨member.1⟩ file files) before =
          files := by
  induction members generalizing before with
  | nil => simp
  | cons member rest ih =>
    rw [List.foldlM_cons]
    simp only [Option.bind_eq_bind, Option.bind_eq_some_iff, Option.map_eq_some_iff, readFile?_iff]
    constructor
    · rintro ⟨between, ⟨file, isFile, rfl⟩, others⟩
      obtain ⟨read, areFiles, rfl⟩ := ih.mp others
      exact ⟨file :: read, .cons isFile areFiles, rfl⟩
    · rintro ⟨read, areFiles, rfl⟩
      obtain ⟨isFile, areFiles⟩ | _ := areFiles
      exact ⟨_, ⟨_, ‹_›, rfl⟩, ih.mpr ⟨_, ‹_›, rfl⟩⟩

theorem files?_iff {files : List (Path × CachedFile)} :
    files? value = some files ↔ DescribesFiles value files := by
  constructor
  · intro read
    unfold files? at read
    split at read
    · obtain ⟨files, areFiles, rfl⟩ := foldlM_eq_some_iff.mp read
      exact .object areFiles
    · contradiction
  · rintro ⟨areFiles⟩
    exact foldlM_eq_some_iff.mpr ⟨_, areFiles, rfl⟩

/-- A value of the present version describes data. -/
inductive Describes : Json → CacheData → Prop where
  | object {members : List (String × Json)} {version next files : Json} {baseline? : Option Json}
    {data : CacheData}
    (named : Record ["version", "baseline_time", "next_id", "files"] (.object members)
      [some version, baseline?, some next, some files])
    (isVersion : version.natural? 32 = some formatVersion)
    (isBaseline : Optionally (fun value time => value.float? = some time) baseline? data.baseline?)
    (isNext : next.natural? wordWidth = some data.nextNumber)
    (areFiles : DescribesFiles files data.files) : Describes (.object members) data

theorem ofJson?_iff {data : CacheData} : ofJson? value = some data ↔ Describes value data := by
  constructor
  · intro read
    unfold ofJson? at read
    simp only [Option.bind_eq_bind, Option.pure_def] at read
    split at read
    · obtain ⟨values, members, read⟩ := Option.bind_eq_some_iff.mp read
      split at read
      · obtain ⟨version, isVersion, read⟩ := Option.bind_eq_some_iff.mp read
        split at read
        · rename_i same
          obtain ⟨baseline?, isBaseline, read⟩ := Option.bind_eq_some_iff.mp read
          obtain ⟨next, isNext, read⟩ := Option.bind_eq_some_iff.mp read
          obtain ⟨files, areFiles, read⟩ := Option.bind_eq_some_iff.mp read
          obtain rfl := Option.some.inj read
          exact .object (members?_iff.mp members) (same ▸ isVersion) (optional?_iff.mp isBaseline)
            isNext (files?_iff.mp areFiles)
        · contradiction
      · contradiction
    · contradiction
  · rintro ⟨members, isVersion, isBaseline, isNext, areFiles⟩
    simp only [ofJson?, members?_iff.mpr members, isVersion, optional?_iff.mpr isBaseline, isNext,
      files?_iff.mpr areFiles, Option.bind_eq_bind, Option.bind_some, Option.pure_def, if_true]

end Described

/-- A text that stores data. -/
def Stores (text : String) (data : CacheData) : Prop :=
  ∃ value, Json.parse? text = some value ∧ Describes value data

/-- What a text stores is what is decoded of it. -/
theorem decode_of_stores {text : String} {data : CacheData} (stores : Stores text data) :
    decode text = data := by
  obtain ⟨value, isValue, describes⟩ := stores
  rw [decode, isValue, Option.bind_some, ofJson?_iff.mpr describes]
  rfl

/-- A text that stores nothing stands for an empty cache. -/
theorem decode_of_not_stores {text : String} (nothing : ∀ data, ¬ Stores text data) :
    decode text = .empty := by
  rw [decode]
  cases read : (Json.parse? text).bind ofJson? with
  | none => rfl
  | some data =>
    obtain ⟨value, isValue, isData⟩ := Option.bind_eq_some_iff.mp read
    exact absurd ⟨value, isValue, ofJson?_iff.mp isData⟩ (nothing data)

/-- What is saved of a cache is stored, but for the last place of the time of the clean run. -/
theorem Fits.stores_encode {data : CacheData} (fits : data.Fits) (sorted : Sorted data.files) :
    ∃ baseline?, Stores data.encode { data with baseline? } ∧
      (data.baseline? = none → baseline? = none) := by
  obtain ⟨baseline?, read, -⟩ := baseline_read data.baseline?
  refine ⟨baseline?, ⟨data.toJson, Json.parse?_pretty (printable_toJson data),
    ofJson?_iff.mp (fits.ofJson?_toJson sorted read)⟩, fun noTime => ?_⟩
  rw [noTime] at read
  exact (Option.some.inj read).symm

end CacheData

namespace Cache

variable {workspace : Workspace} {directory : Path} {content : ByteArray}

/-- A stored cache whose bytes are a text is opened, with the data that the text stores, or empty if
there are none. One whose bytes are no text is not opened. -/
theorem openIn_spec (found : workspace.find (directory.join fileName) = .ok (.file content)) :
    (∀ text : String, content = text.toUTF8 →
        (∀ data, CacheData.Stores text data →
          openIn workspace directory = .ok ⟨directory.join fileName, data⟩) ∧
        ((∀ data, ¬ CacheData.Stores text data) →
          openIn workspace directory = .ok ⟨directory.join fileName, .empty⟩)) ∧
      ((∀ text : String, content ≠ text.toUTF8) →
        openIn workspace directory = .error (.fault .invalidText)) := by
  constructor
  · rintro text rfl
    rw [openIn, Workspace.readText_of_find found]
    constructor
    · intro data stores
      rw [← CacheData.decode_of_stores stores]
    · intro nothing
      rw [← CacheData.decode_of_not_stores nothing]
  · intro noText
    rw [openIn, Workspace.readText_of_noText found noText]

/-- A directory with a stored cache. -/
def holding (content : ByteArray) : Workspace :=
  ⟨.directory [(fileName.text, .file content)], [], []⟩

/-- A cache with one mutant, which has been tested. -/
def tested : CacheData :=
  ⟨none, 2, [(⟨"a.py"⟩, ⟨[⟨"x = 1", 0, [⟨1, 0, .killed, some "h1"⟩]⟩]⟩)]⟩

/-- A stored cache of which only the first character is left. -/
def cutOff : String := "\x7b"

theorem tested_opens :
    let path := Path.join ⟨"."⟩ fileName
    CacheData.Stores tested.encode tested ∧ (∀ data, ¬ CacheData.Stores cutOff data) ∧
      openIn (holding tested.encode.toUTF8) ⟨"."⟩ = .ok ⟨path, tested⟩ ∧
      openIn (holding cutOff.toUTF8) ⟨"."⟩ = .ok ⟨path, .empty⟩ := by
  intro path
  have stores : CacheData.Stores tested.encode tested := by
    obtain ⟨baseline?, stores, noTime⟩ :=
      CacheData.Fits.stores_encode (by decide : tested.Fits) (List.pairwise_singleton _ _)
    obtain rfl := noTime rfl
    exact stores
  have nothing (data : CacheData) : ¬ CacheData.Stores cutOff data := by
    rintro ⟨value, isValue, -⟩
    have noValue : (Json.parse? cutOff).isNone = true := by decide
    exact absurd (isValue ▸ noValue) (by simp)
  have found (content : ByteArray) :
      (holding content).find (Path.join ⟨"."⟩ fileName) = .ok (.file content) := rfl
  obtain ⟨whole, -⟩ := openIn_spec (found tested.encode.toUTF8)
  obtain ⟨other, -⟩ := openIn_spec (found cutOff.toUTF8)
  exact ⟨stores, nothing, (whole tested.encode rfl).1 tested stores, (other cutOff rfl).2 nothing⟩

/-- A byte that is no text is not taken for an empty cache. -/
theorem byte_not_opened :
    let stored := holding (ByteArray.mk #[0xff])
    stored.find (Path.join ⟨"."⟩ fileName) = .ok (.file (ByteArray.mk #[0xff])) ∧
      openIn stored ⟨"."⟩ = .error (.fault .invalidText) := by
  have noText : (holding (ByteArray.mk #[0xff])).readText (Path.join ⟨"."⟩ fileName) =
    .error .invalidText := rfl
  exact ⟨rfl, by rw [openIn, noText]⟩

end Cache

end MutationTesting
