import MutationTesting.Proofs.Cache.Carried
import MutationTesting.Proofs.Cache.Outline
import MutationTesting.Proofs.FileSystem.Frame
import MutationTesting.Proofs.Python.Names
import MutationTesting.Proofs.Sequence
import MutationTesting.Proofs.Suite.History
import MutationTesting.Suite.Generation
/-! Listing the mutants of files as a function of their texts and of the cache. Files that have been
listed are listed again with the same outcome, and the cache stays as it is. -/
namespace MutationTesting

open Sequence

theorem Workspace.readText_same {workspace : Workspace} {path other : Path} {text further : String}
    (same : path.same other = true) (isText : workspace.readText path = .ok text)
    (isFurther : workspace.readText other = .ok further) : text = further := by
  have stands := stand_of_find (find_of_readText isText)
  have standsToo := stand_of_find (find_of_readText isFurther)
  rw [target, Path.same_iff.mp same] at stands
  rw [target, stands] at standsToo
  simpa [← String.toByteArray_inj] using standsToo

namespace CacheData

variable {data : CacheData} {path other : Path}

theorem updateLines_eq (data : CacheData) (path : Path) (source : String) :
    data.updateLines path source =
      data.setFile path ⟨realign (data.linesOf path) (Text.rows source)⟩ := rfl

theorem sorted_updateLines (sorted : Sorted data.files) (path : Path) (source : String) :
    Sorted (data.updateLines path source).files :=
  sorted.putFile path _

theorem linesOf_updateLines_of_not_same (apart : path.same other = false) (data : CacheData)
    (source : String) : (data.updateLines path source).linesOf other = data.linesOf other := by
  simp only [updateLines_eq, linesOf, file?_setFile_of_not_same apart]

theorem heads_updateLines (data : CacheData) (path : Path) (source : String) :
    (data.updateLines path source).heads path = (Text.rows source).zipIdx := by
  have aligned := aligned_updateLines data path source
  rw [heads, ← List.zip_map', aligned.texts, aligned.rows, List.zipIdx_eq_zip_range',
    List.range_eq_range']

/-- A file whose lines have the texts and the rows of its present text stays as it is. -/
theorem updateLines_eq_self (sorted : Sorted data.files) {source : String}
    (heads : data.heads path = (Text.rows source).zipIdx) : data.updateLines path source = data := by
  have texts : (data.linesOf path).map CachedLine.text = Text.rows source := by
    have first := congrArg (List.map Prod.fst) heads
    rwa [CacheData.heads, List.map_map, List.zipIdx_map_fst] at first
  have rows : (data.linesOf path).map CachedLine.row = List.range (data.linesOf path).length := by
    have second := congrArg (List.map Prod.snd) heads
    rw [CacheData.heads, List.map_map, List.zipIdx_map_snd, ← texts, List.length_map,
      ← List.range_eq_range'] at second
    exact second
  have cached : data.linesOf path ≠ [] := by
    intro none
    rw [none] at texts
    exact rows_ne_nil source texts.symm
  rw [updateLines_eq, realign_self texts rows, setFile_linesOf sorted cached]

end CacheData

/-- A bench with other data in its cache. -/
def Bench.withData (bench : Bench) (data : CacheData) : Bench :=
  { bench with cache := { bench.cache with data } }

namespace Mutator

variable {mutator : Mutator} {workspace : Workspace} {file other : Path} {data : CacheData}

/-- Lists the mutants of a file of a workspace and adds them to the data of a cache. -/
def listFile (mutator : Mutator) (workspace : Workspace) (file : Path) (data : CacheData) :
    Except Error FileMutants × CacheData :=
  match workspace.readText file with
  | .error fault => (.error (.fault fault), data)
  | .ok source =>
    match mutator.ids file source with
    | .error error => (.error error, data)
    | .ok ids =>
      let (result, data) := (data.updateLines file source).register file ids
      (result.map fun () => ⟨file, ids⟩, data)

/-- Lists the mutants of files of a workspace and adds them to the data of a cache. -/
def listFiles (mutator : Mutator) (keepGoing : Bool) (workspace : Workspace) :
    List Path → CacheData → Except Error (List FileMutants) × CacheData
  | [], data => (.ok [], data)
  | file :: rest, data =>
    match mutator.listFile workspace file data with
    | (.ok mutants, data) =>
      let (result, data) := mutator.listFiles keepGoing workspace rest data
      (result.map (mutants :: ·), data)
    | (.error cause, data) =>
      if keepGoing then mutator.listFiles keepGoing workspace rest data
      else (.error (.generation file cause), data)

theorem addFile_eq (mutator : Mutator) (file : Path) (bench : Bench) :
    mutator.addFile file bench =
      let (result, data) := mutator.listFile bench.workspace file bench.cache.data
      (result, bench.withData data) := by
  unfold addFile listFile
  rw [bind_apply]
  simp only [OnBench.files, OnDisk.look]
  cases bench.workspace.readText file with
  | error fault => rfl
  | ok source =>
    dsimp only
    rw [bind_apply]
    cases mutator.ids file source with
    | error error => rfl
    | ok ids =>
      dsimp only
      generalize registered : (bench.cache.data.updateLines file source).register file ids = outcome
      obtain ⟨result, data⟩ := outcome
      have later : (do
          let (result, data) := (← OnBench.cached).register file ids
          OnBench.recache data
          let () ← result
          return ⟨file, ids⟩ : OnBench FileMutants)
          (bench.withData (bench.cache.data.updateLines file source)) =
          (result.map fun () => ⟨file, ids⟩, bench.withData data) := by
        simp only [bind_apply, OnBench.cached]
        rw [show (bench.withData (bench.cache.data.updateLines file source)).cache.data.register file
          ids = (result, data) from registered]
        cases result <;> rfl
      exact later

theorem addFiles_eq (mutator : Mutator) (keepGoing : Bool) (files : List Path) (bench : Bench) :
    mutator.addFiles keepGoing files bench =
      let (result, data) := mutator.listFiles keepGoing bench.workspace files bench.cache.data
      (result, bench.withData data) := by
  induction files generalizing bench with
  | nil => rfl
  | cons file rest ih =>
    unfold addFiles listFiles
    rw [bind_apply]
    simp only [OnBench.attempt, addFile_eq]
    generalize mutator.listFile bench.workspace file bench.cache.data = listed
    obtain ⟨error | mutants, data⟩ := listed
    · dsimp only
      split
      · exact ih (bench.withData data)
      · rfl
    · dsimp only
      rw [bind_apply, ih (bench.withData data)]
      dsimp only [Bench.withData]
      generalize mutator.listFiles keepGoing bench.workspace rest data = further
      obtain ⟨error | others, last⟩ := further <;> rfl

theorem generate_eq (mutator : Mutator) (files : List Path) (keepGoing : Bool) (bench : Bench) :
    mutator.generate files keepGoing bench =
      match mutator.listFiles keepGoing bench.workspace files bench.cache.data with
      | (.error error, data) => (.error error, bench.withData data)
      | (.ok mutants, data) =>
        let (saved, workspace) := (bench.withData data).cache.save bench.workspace
        (saved.map fun () => mutants, { bench.withData data with workspace }) := by
  unfold generate
  rw [bind_apply, addFiles_eq]
  generalize mutator.listFiles keepGoing bench.workspace files bench.cache.data = listed
  obtain ⟨error | mutants, data⟩ := listed
  · rfl
  · dsimp only
    rw [bind_apply, OnBench.save]
    generalize saves : (bench.withData data).cache.save (bench.withData data).workspace = saved
    have saves : (bench.withData data).cache.save bench.workspace = saved := saves
    obtain ⟨error | _, workspace⟩ := saved <;> rw [saves] <;> rfl

theorem generate_of_listFiles (bench : Bench) {files : List Path} {keepGoing : Bool}
    {mutants : List FileMutants}
    (listed : mutator.listFiles keepGoing bench.workspace files bench.cache.data =
      (.ok mutants, data)) :
    (∃ fault, mutator.generate files keepGoing bench =
          (.error (.fault fault), bench.withData data) ∧
        bench.workspace.replace bench.cache.path data.encode.toUTF8 = .error fault) ∨
      ∃ workspace, mutator.generate files keepGoing bench =
          (.ok mutants, { bench.withData data with workspace }) ∧
        bench.workspace.replace bench.cache.path data.encode.toUTF8 = .ok workspace := by
  have saves : (bench.withData data).cache.save = OnDisk.change fun workspace =>
      workspace.replace bench.cache.path data.encode.toUTF8 := rfl
  rw [generate_eq, listed]
  dsimp only
  rw [saves]
  cases replaced : bench.workspace.replace bench.cache.path data.encode.toUTF8 with
  | error fault =>
    rw [change_error replaced]
    exact .inl ⟨fault, rfl, rfl⟩
  | ok workspace =>
    rw [change_ok replaced]
    exact .inr ⟨workspace, rfl, rfl⟩

theorem listFile_ok {source : String} {ids : List MutantId}
    (isText : workspace.readText file = .ok source) (isIds : mutator.ids file source = .ok ids)
    (data : CacheData) :
    mutator.listFile workspace file data =
      (((data.updateLines file source).verdict file ids).map fun () => ⟨file, ids⟩,
        ((data.updateLines file source).register file ids).2) := by
  simp only [listFile, isText, isIds, ← CacheData.register_fst]

/-- What bringing a file in line with its text and registering names keep is kept by listing. -/
theorem listFile_rule (holds : CacheData → Prop) (start : holds data)
    (updates : ∀ data path source, holds data → holds (data.updateLines path source))
    (registers : ∀ data path ids, holds data → holds (data.register path ids).2)
    (mutator : Mutator) (workspace : Workspace) (file : Path) :
    holds (mutator.listFile workspace file data).2 := by
  unfold listFile
  split
  · exact start
  · split
    · exact start
    · exact registers _ file _ (updates data file _ start)

theorem listFiles_rule (holds : CacheData → Prop) (start : holds data)
    (updates : ∀ data path source, holds data → holds (data.updateLines path source))
    (registers : ∀ data path ids, holds data → holds (data.register path ids).2)
    (mutator : Mutator) (keepGoing : Bool) (workspace : Workspace) (files : List Path) :
    holds (mutator.listFiles keepGoing workspace files data).2 := by
  induction files generalizing data with
  | nil => exact start
  | cons file rest ih =>
    unfold listFiles
    have further := listFile_rule holds start updates registers mutator workspace file
    generalize mutator.listFile workspace file data = listed at further
    obtain ⟨error | mutants, between⟩ := listed
    · dsimp only
      split
      · exact ih further
      · exact further
    · exact ih further

theorem sorted_listFile (sorted : CacheData.Sorted data.files) (mutator : Mutator)
    (workspace : Workspace) (file : Path) :
    CacheData.Sorted (mutator.listFile workspace file data).2.files :=
  listFile_rule (fun data => CacheData.Sorted data.files) sorted
    (fun _ path source sorted => CacheData.sorted_updateLines sorted path source)
    (fun _ path ids sorted => CacheData.sorted_register sorted path ids) mutator workspace file

theorem sorted_listFiles (sorted : CacheData.Sorted data.files) (mutator : Mutator)
    (keepGoing : Bool) (workspace : Workspace) (files : List Path) :
    CacheData.Sorted (mutator.listFiles keepGoing workspace files data).2.files :=
  listFiles_rule (fun data => CacheData.Sorted data.files) sorted
    (fun _ path source sorted => CacheData.sorted_updateLines sorted path source)
    (fun _ path ids sorted => CacheData.sorted_register sorted path ids) mutator keepGoing workspace
    files

/-- A file is listed with an outcome and without any change to the cache. -/
def Lists (mutator : Mutator) (workspace : Workspace) (file : Path)
    (outcome : Except Error FileMutants) (data : CacheData) : Prop :=
  mutator.listFile workspace file data = (outcome, data)

variable {outcome : Except Error FileMutants}

theorem lists_listFile (sorted : CacheData.Sorted data.files) (mutator : Mutator)
    (workspace : Workspace) (file : Path) :
    mutator.Lists workspace file (mutator.listFile workspace file data).1
      (mutator.listFile workspace file data).2 := by
  unfold Lists
  cases isText : workspace.readText file with
  | error fault => simp only [listFile, isText]
  | ok source =>
    cases isIds : mutator.ids file source with
    | error error => simp only [listFile, isText, isIds]
    | ok ids =>
      simp only [listFile_ok isText isIds]
      have sortedUpdate := CacheData.sorted_updateLines sorted file source
      have same := (data.updateLines file source).heads_register file ids file
      have heads : ((data.updateLines file source).register file ids).2.heads file =
          (Text.rows source).zipIdx := same.trans (data.heads_updateLines file source)
      rw [CacheData.updateLines_eq_self (CacheData.sorted_register sortedUpdate file ids) heads,
        CacheData.register_of_registered (CacheData.registered_register _ file ids),
        CacheData.verdict_of_heads same]

/-- Whether a file is listed without any change depends on its lines and on the mutants that are
lacking. -/
theorem Lists.transfer {further : CacheData} (lists : mutator.Lists workspace file outcome data)
    (sorted : CacheData.Sorted further.files)
    (stays : ∀ source, workspace.readText file = .ok source →
      data.heads file = (Text.rows source).zipIdx →
      further.heads file = data.heads file ∧
        ∀ id, data.lacks file id = false → further.lacks file id = false) :
    mutator.Lists workspace file outcome further := by
  unfold Lists at lists ⊢
  cases isText : workspace.readText file with
  | error fault =>
    simp only [listFile, isText] at lists ⊢
    rw [(Prod.mk.inj lists).1]
  | ok source =>
    cases isIds : mutator.ids file source with
    | error error =>
      simp only [listFile, isText, isIds] at lists ⊢
      rw [(Prod.mk.inj lists).1]
    | ok ids =>
      rw [listFile_ok isText isIds] at lists ⊢
      obtain ⟨verdict, unchanged⟩ := Prod.mk.inj lists
      have registered := CacheData.registered_register (data.updateLines file source) file ids
      have updated := (data.updateLines file source).heads_register file ids file
      rw [unchanged] at registered updated
      have follows := updated.trans (data.heads_updateLines file source)
      obtain ⟨same, there⟩ := stays source isText follows
      rw [CacheData.updateLines_eq_self sorted (same.trans follows),
        CacheData.register_of_registered (registered.transfer same there),
        CacheData.verdict_of_heads same, CacheData.verdict_of_heads updated, verdict]

theorem Lists.listFile (lists : mutator.Lists workspace file outcome data)
    (sorted : CacheData.Sorted data.files) (other : Path) :
    mutator.Lists workspace file outcome (mutator.listFile workspace other data).2 := by
  cases isText : workspace.readText other with
  | error fault => simpa only [Mutator.listFile, isText] using lists
  | ok source =>
    cases isIds : mutator.ids other source with
    | error error => simpa only [Mutator.listFile, isText, isIds] using lists
    | ok ids =>
      have sortedBehind := sorted_listFile sorted mutator workspace other
      rw [listFile_ok isText isIds] at sortedBehind ⊢
      cases same : other.same file with
      | false =>
        -- the lines of the file are not touched
        have lines := CacheData.linesOf_updateLines_of_not_same same data source
        refine lists.transfer sortedBehind fun _ _ _ => ⟨?_, fun id there => ?_⟩
        · rw [CacheData.heads_register, CacheData.heads, CacheData.heads, lines]
        · refine CacheData.lacks_register ?_ other ids
          rwa [CacheData.lacks, CacheData.find?_linesOf, lines, ← CacheData.find?_linesOf]
      | true =>
        -- the file has been brought in line with its text already
        refine lists.transfer sortedBehind fun further isFurther follows => ?_
        obtain rfl := Workspace.readText_same same isText isFurther
        rw [← CacheData.heads_congr same] at follows
        rw [CacheData.updateLines_eq_self sorted follows]
        exact ⟨CacheData.heads_register .., fun id there => CacheData.lacks_register there other ids⟩

theorem Lists.listFiles (lists : mutator.Lists workspace file outcome data)
    (sorted : CacheData.Sorted data.files) (keepGoing : Bool) (files : List Path) :
    mutator.Lists workspace file outcome (mutator.listFiles keepGoing workspace files data).2 := by
  induction files generalizing data with
  | nil => exact lists
  | cons other rest ih =>
    unfold Mutator.listFiles
    have further := lists.listFile sorted other
    have sortedFurther := sorted_listFile sorted mutator workspace other
    generalize mutator.listFile workspace other data = listed at further sortedFurther
    obtain ⟨error | mutants, between⟩ := listed
    · dsimp only
      split
      · exact ih further sortedFurther
      · exact further
    · exact ih further sortedFurther

/-- The mutants that have been listed are those of the file, and each is in the cache. -/
theorem Lists.spec {mutants : FileMutants}
    (lists : mutator.Lists workspace file (.ok mutants) data) :
    mutants.file = file ∧ ∀ id ∈ mutants.ids, data.lacks mutants.file id = false := by
  unfold Lists at lists
  cases isText : workspace.readText file with
  | error fault => simp [Mutator.listFile, isText] at lists
  | ok source =>
    cases isIds : mutator.ids file source with
    | error error => simp [Mutator.listFile, isText, isIds] at lists
    | ok ids =>
      rw [listFile_ok isText isIds] at lists
      obtain ⟨listed, isBehind⟩ := Prod.mk.inj lists
      cases verdict : (data.updateLines file source).verdict file ids with
      | error error => simp [verdict, Except.map] at listed
      | ok _ =>
        simp only [verdict, Except.map, Except.ok.injEq] at listed
        obtain rfl := listed
        have registered := CacheData.registered_register (data.updateLines file source) file ids
        rw [isBehind] at registered
        have allLines : ∀ id ∈ ids, data.hasLine file id = true := by
          intro id member
          rw [← isBehind, CacheData.hasLine_register]
          unfold CacheData.verdict at verdict
          split at verdict
          · contradiction
          · rename_i none
            simpa using List.find?_eq_none.mp none id member
        unfold CacheData.Registered at registered
        rw [List.takeWhile_eq_self_iff.mpr allLines] at registered
        exact ⟨rfl, registered⟩

theorem Lists.heads {mutants : FileMutants} {source : String}
    (lists : mutator.Lists workspace file (.ok mutants) data)
    (isText : workspace.readText file = .ok source) :
    data.heads file = (Text.rows source).zipIdx := by
  unfold Lists at lists
  cases isIds : mutator.ids file source with
  | error error => simp [Mutator.listFile, isText, isIds] at lists
  | ok ids =>
    rw [listFile_ok isText isIds] at lists
    have updated := (data.updateLines file source).heads_register file ids file
    rw [(Prod.mk.inj lists).2] at updated
    exact updated.trans (data.heads_updateLines file source)

theorem lists_of_listFiles (sorted : CacheData.Sorted data.files) {keepGoing : Bool}
    {files : List Path} {mutants : List FileMutants} {further : CacheData}
    (listed : mutator.listFiles keepGoing workspace files data = (.ok mutants, further)) :
    ∀ first ∈ mutants, ∃ file ∈ files, mutator.Lists workspace file (.ok first) further := by
  induction files generalizing data mutants with
  | nil =>
    obtain ⟨same, -⟩ := Prod.mk.inj listed
    obtain rfl := Except.ok.inj same
    simp
  | cons file rest ih =>
    have lists := lists_listFile sorted mutator workspace file
    have sortedBetween := sorted_listFile sorted mutator workspace file
    unfold Mutator.listFiles at listed
    generalize mutator.listFile workspace file data = one at lists sortedBetween listed
    obtain ⟨outcome, between⟩ := one
    have lasts := lists.listFiles sortedBetween keepGoing rest
    have later {mutants : List FileMutants}
        (listed : mutator.listFiles keepGoing workspace rest between = (.ok mutants, further)) :
        ∀ first ∈ mutants, ∃ other ∈ file :: rest,
          mutator.Lists workspace other (.ok first) further := fun first member => by
      obtain ⟨other, isOther, lists⟩ := ih sortedBetween listed first member
      exact ⟨other, List.mem_cons_of_mem _ isOther, lists⟩
    cases outcome with
    | error cause =>
      dsimp only at listed
      split at listed
      · exact later listed
      · exact absurd (Prod.mk.inj listed).1 (by simp)
    | ok found =>
      dsimp only at listed
      generalize rests : mutator.listFiles keepGoing workspace rest between = remaining at listed
      obtain ⟨error | more, last⟩ := remaining
      · exact absurd (Prod.mk.inj listed).1 (by simp [Except.map])
      · obtain ⟨same, rfl⟩ := Prod.mk.inj listed
        obtain rfl := Except.ok.inj same
        rw [rests] at lasts
        exact List.forall_mem_cons.mpr ⟨⟨file, List.mem_cons_self, lasts⟩, later rests⟩

/-- Files that have been listed are listed again, in any cache in which each of them is, and the cache
stays as it is. -/
theorem listFiles_again (sorted : CacheData.Sorted data.files) {keepGoing : Bool}
    {files : List Path} {mutants : List FileMutants} {further : CacheData}
    (listed : mutator.listFiles keepGoing workspace files data = (.ok mutants, further))
    {later : CacheData}
    (again : ∀ file ∈ files, ∀ outcome, mutator.Lists workspace file outcome further →
      mutator.Lists workspace file outcome later) :
    mutator.listFiles keepGoing workspace files later = (.ok mutants, later) := by
  induction files generalizing data mutants with
  | nil =>
    obtain ⟨same, -⟩ := Prod.mk.inj listed
    rw [← same]
    rfl
  | cons file rest ih =>
    have lists := lists_listFile sorted mutator workspace file
    have sortedBetween := sorted_listFile sorted mutator workspace file
    unfold Mutator.listFiles at listed
    generalize mutator.listFile workspace file data = first at lists sortedBetween listed
    obtain ⟨outcome, between⟩ := first
    have lasts := lists.listFiles sortedBetween keepGoing rest
    have others : ∀ other ∈ rest, ∀ outcome, mutator.Lists workspace other outcome further →
        mutator.Lists workspace other outcome later :=
      fun other member => again other (List.mem_cons_of_mem _ member)
    unfold Mutator.listFiles
    cases outcome with
    | error cause =>
      dsimp only at listed
      split at listed
      · rename_i goes
        rw [listed] at lasts
        have same : mutator.listFile workspace file later = (.error cause, later) :=
          again file List.mem_cons_self _ lasts
        simp only [same, if_pos goes]
        exact ih sortedBetween listed others
      · exact absurd (Prod.mk.inj listed).1 (by simp)
    | ok found =>
      dsimp only at listed
      generalize rests : mutator.listFiles keepGoing workspace rest between = remaining at listed
      obtain ⟨error | more, last⟩ := remaining
      · exact absurd (Prod.mk.inj listed).1 (by simp [Except.map])
      · obtain ⟨same, rfl⟩ := Prod.mk.inj listed
        rw [rests] at lasts
        have first : mutator.listFile workspace file later = (.ok found, later) :=
          again file List.mem_cons_self _ lasts
        simp only [first, ih sortedBetween rests others, same]

theorem listFiles_congr {further : Workspace} {files : List Path}
    (same : ∀ file ∈ files, further.readText file = workspace.readText file) (mutator : Mutator)
    (keepGoing : Bool) (data : CacheData) :
    mutator.listFiles keepGoing further files data =
      mutator.listFiles keepGoing workspace files data := by
  induction files generalizing data with
  | nil => rfl
  | cons file rest ih =>
    obtain ⟨first, others⟩ := List.forall_mem_cons.mp same
    have sameFile : mutator.listFile further file data = mutator.listFile workspace file data := by
      simp only [listFile, first]
    unfold Mutator.listFiles
    simp only [sameFile, ih others]

theorem Lists.sameRows {later : CacheData} (lists : mutator.Lists workspace file outcome data)
    (sorted : CacheData.Sorted data.files) (same : CacheData.SameRows data later) :
    mutator.Lists workspace file outcome later :=
  lists.transfer (same.sorted sorted) fun _ _ _ =>
    ⟨same.heads file, fun id there => (same.lacks file id).trans there⟩

end Mutator

end MutationTesting

/-! Histories of a file whose mutants are listed for one content after the other. The cache has the
mutants of the last content, and with them those that stood on a line that has stayed: what is around
that line may have changed, so the last content need not have them any more. -/
namespace MutationTesting

open CacheData (Carried)

/-- Benches on which the mutants of a file have been listed for given contents, the last one first. The
cache was empty at the start; between two listings nothing is done to it. -/
inductive Generations (mutator : Mutator) (file : Path) : List String → Bench → Prop where
  | start {bench : Bench} (empty : bench.cache.data = .empty) : Generations mutator file [] bench
  | next {contents : List String} {last bench after : Bench} {source : String}
      {outcome : Except Error FileMutants} (earlier : Generations mutator file contents last)
      (cache : bench.cache = last.cache) (isText : bench.workspace.readText file = .ok source)
      (added : mutator.addFile file bench = (outcome, after)) :
      Generations mutator file (source :: contents) after

/-- What a cache has of a file after names have been listed for a content, behind a history of
contents. -/
structure Mutator.Registers (mutator : Mutator) (file : Path) (contents : List String)
    (source : String) (last : CacheData) (ids : List MutantId) (after : CacheData) : Prop where
  distinct : (after.idsOf file).Nodup
  /-- It has the mutants that are listed and those on lines that have stayed. -/
  names : ∀ id, id ∈ after.idsOf file ↔ id ∈ ids ∨ last.Carried file source id
  /-- So it has the listed ones alone if and only if those on lines that have stayed are among them. -/
  exact : (∀ id, id ∈ after.idsOf file ↔ id ∈ ids) ↔ ∀ id, last.Carried file source id → id ∈ ids
  stands : ∀ id ∈ after.idsOf file, (Text.rows source)[id.row]? = some id.line
  /-- Each of them has been listed for one of the contents, at the same place of a line of the same
  text. -/
  origin : ∀ id ∈ after.idsOf file, ∃ content ∈ source :: contents, ∃ listed,
    mutator.ids file content = .ok listed ∧
      ∃ first ∈ listed, first.line = id.line ∧ first.index = id.index

namespace Generations

variable {mutator : Mutator} {file : Path} {contents : List String} {bench last : Bench}
  {source : String} {ids : List MutantId}

theorem sound (history : Generations mutator file contents bench) : bench.cache.data.Sound := by
  induction history with
  | start empty => exact empty ▸ CacheData.sound_empty
  | next _ cache _ added ih =>
    rw [Mutator.addFile_eq] at added
    obtain ⟨-, rfl⟩ := Prod.mk.inj added
    exact Mutator.listFile_rule (fun data => data.Sound) (cache ▸ ih)
      (fun _ path source sound => (sound.updateLines path source).1)
      (fun _ path ids sound => (sound.register path ids).1) mutator _ file

theorem addFile_ok (isText : bench.workspace.readText file = .ok source)
    (isIds : mutator.ids file source = .ok ids)
    (rows : ∀ id ∈ ids, (Text.rows source)[id.row]? = some id.line) :
    mutator.addFile file bench = (.ok ⟨file, ids⟩,
      bench.withData ((bench.cache.data.updateLines file source).register file ids).2) := by
  have lines (id : MutantId) (member : id ∈ ids) :
      (bench.cache.data.updateLines file source).hasLine file id = true :=
    CacheData.hasLine_updateLines (rows id member)
  rw [Mutator.addFile_eq, Mutator.listFile_ok isText isIds, CacheData.verdict_of_lines lines]
  rfl

/-- What a cache has of the file behind a history was listed for one of the contents. -/
theorem origin (history : Generations mutator file contents bench) {id : MutantId}
    (isCached : (bench.cache.data.find? file id).isSome = true) :
    ∃ content ∈ contents, ∃ listed, mutator.ids file content = .ok listed ∧
      ∃ first ∈ listed, first.line = id.line ∧ first.index = id.index := by
  induction history generalizing id with
  | start empty =>
    rw [empty] at isCached
    contradiction
  | @next contents last bench after source outcome earlier cache isText added ih =>
    have further {id : MutantId} (isCached : (last.cache.data.find? file id).isSome = true) :
        ∃ content ∈ source :: contents, ∃ listed, mutator.ids file content = .ok listed ∧
          ∃ first ∈ listed, first.line = id.line ∧ first.index = id.index := by
      obtain ⟨content, member, rest⟩ := ih isCached
      exact ⟨content, List.mem_cons_of_mem _ member, rest⟩
    rw [Mutator.addFile_eq, cache] at added
    cases isIds : mutator.ids file source with
    | error error =>
      simp only [Mutator.listFile, isText, isIds] at added
      obtain ⟨-, rfl⟩ := Prod.mk.inj added
      exact further isCached
    | ok ids =>
      rw [Mutator.listFile_ok isText isIds] at added
      obtain ⟨-, rfl⟩ := Prod.mk.inj added
      dsimp only [Bench.withData] at isCached
      obtain same | ⟨-, -, isNew, -⟩ := CacheData.find?_register
        (last.cache.data.updateLines file source) file ids file id
      · -- it stood on a line that has stayed
        rw [same] at isCached
        obtain ⟨old, isOld, -, text, index⟩ :=
          earlier.sound.isSome_find?_updateLines.mp isCached
        obtain ⟨content, member, listed, isListed, first, isFirst, sameText, sameIndex⟩ :=
          further (earlier.sound.mem_idsOf.mp isOld)
        exact ⟨content, member, listed, isListed, first, isFirst, sameText.trans text,
          sameIndex.trans index⟩
      · exact ⟨source, List.mem_cons_self, ids, isIds, id, isNew, rfl, rfl⟩

theorem registers (history : Generations mutator file contents last)
    (cache : bench.cache = last.cache) (isText : bench.workspace.readText file = .ok source)
    (isIds : mutator.ids file source = .ok ids)
    (rows : ∀ id ∈ ids, (Text.rows source)[id.row]? = some id.line) :
    mutator.Registers file contents source last.cache.data ids
      ((last.cache.data.updateLines file source).register file ids).2 := by
  have lines (id : MutantId) (member : id ∈ ids) :
      (last.cache.data.updateLines file source).hasLine file id = true :=
    CacheData.hasLine_updateLines (rows id member)
  have after : Generations mutator file (source :: contents) (bench.withData
      ((last.cache.data.updateLines file source).register file ids).2) :=
    .next history cache isText (cache ▸ addFile_ok isText isIds rows)
  have all (id : MutantId) :
      id ∈ ((last.cache.data.updateLines file source).register file ids).2.idsOf file ↔
        id ∈ ids ∨ last.cache.data.Carried file source id :=
    after.sound.mem_idsOf.trans ((CacheData.isSome_find?_register lines).trans
      (or_congr_right history.sound.isSome_find?_updateLines))
  refine ⟨after.sound.nodup_idsOf file, all, ?_, fun id member => ?_, fun id member => ?_⟩
  · constructor
    · intro same id carried
      exact (same id).mp ((all id).mpr (.inr carried))
    · intro among id
      exact (all id).trans ⟨fun some => some.elim (fun isListed => isListed) (among id), .inl⟩
  · obtain isListed | carried := (all id).mp member
    · exact rows id isListed
    · have isSome := history.sound.isSome_find?_updateLines.mpr carried
      rw [CacheData.find?_linesOf, CacheData.mutantIn?, Option.isSome_bind] at isSome
      have aligned := CacheData.aligned_updateLines last.cache.data file source
      cases found : ((last.cache.data.updateLines file source).linesOf file).find?
          (·.isLineOf id) with
      | none => simp [found] at isSome
      | some line =>
        obtain ⟨isPlace, text⟩ := (CacheData.find?_isLineOf aligned.rows).mp found
        rw [← aligned.texts, List.getElem?_map, isPlace, Option.map_some, text]
  · exact after.origin (after.sound.mem_idsOf.mp member)

/-- For each content that can be parsed, whatever the contents before it were, listing the mutants
succeeds. The cache then has the mutants that are listed and those that it had on lines that have
stayed, and none else; so it has a mutant that is not listed if and only if one of the latter is not
listed again. -/
theorem listed_or_carried {trees : String → Option Python.ParseTree} {table : RuleTable}
    {policy : Policy} {tree : Python.ParseTree}
    (history : Generations ⟨Python.frontend trees, table, policy⟩ file contents last)
    (cache : bench.cache = last.cache) (isText : bench.workspace.readText file = .ok source)
    (parsed : trees source = some tree) (sound : tree.hasError = false) :
    ∃ ids after,
      Mutator.ids ⟨Python.frontend trees, table, policy⟩ file source = .ok ids ∧
      Mutator.addFile ⟨Python.frontend trees, table, policy⟩ file bench =
        (.ok ⟨file, ids⟩, after) ∧
      Mutator.Registers ⟨Python.frontend trees, table, policy⟩ file contents source
        last.cache.data ids after.cache.data := by
  have made := Python.mutants_of_parsed table policy file parsed sound
  have isIds := congrArg (Except.map (List.map Mutant.id)) made
  have rows : ∀ id ∈ (Walk.mutants (Mutator.setting ⟨Python.frontend trees, table, policy⟩ file source
      (Python.sourceTree source.toList tree)) (Python.sourceTree source.toList tree).root).map Mutant.id,
      (Text.rows source)[id.row]? = some id.line := by
    rintro id member
    obtain ⟨mutant, isMutant, rfl⟩ := List.mem_map.mp member
    exact Python.line_of_mem_mutants isMutant
  exact ⟨_, _, isIds, addFile_ok isText isIds rows, cache ▸ history.registers cache isText isIds rows⟩

/-- An empty cache, and a call of `dict` as the content of the file. -/
def dictBench : Bench :=
  ⟨(keywordRound "dict").workspace, ⟨Path.join ⟨"."⟩ Cache.fileName, .empty⟩, 0, []⟩

/-- The bench on which the mutants of the call have been listed. -/
def dictListed : Bench :=
  (keywordMutator.addFile Campaign.plain dictBench).2

/-- The same after the function has been renamed. -/
def renamedBench : Bench :=
  { dictListed with workspace := (keywordRound "foo").workspace }

theorem dict_generations :
    Generations keywordMutator Campaign.plain [keywordText "dict"] dictListed :=
  .next (.start rfl) rfl (ok_of_toOption (by decide)) (Prod.ext rfl rfl)

/-- The cache follows when the function is renamed. -/
theorem renamed_listed_or_carried :
    Generations keywordMutator Campaign.plain [keywordText "dict"] dictListed ∧
    ∃ ids after, keywordMutator.ids Campaign.plain (keywordText "foo") = .ok ids ∧
      keywordMutator.addFile Campaign.plain renamedBench = (.ok ⟨Campaign.plain, ids⟩, after) ∧
      keywordMutator.Registers Campaign.plain [keywordText "dict"] (keywordText "foo")
        dictListed.cache.data ids after.cache.data :=
  ⟨dict_generations, dict_generations.listed_or_carried rfl (ok_of_toOption (by decide))
    rfl rfl⟩

/-- It keeps mutants that the call of `foo` does not have. -/
theorem renamed_keeps_lost :
    let outcome := keywordMutator.addFile Campaign.plain renamedBench
    Generations keywordMutator Campaign.plain [keywordText "foo", keywordText "dict"] outcome.2 ∧
      outcome.1.toOption.map FileMutants.ids =
        some [⟨"    a=1, b=2", 0, 1⟩, ⟨"    a=1, b=2", 1, 1⟩] ∧
      ∀ index ∈ [2, 3], ⟨"    a=1, b=2", index, 1⟩ ∈ outcome.2.cache.data.idsOf Campaign.plain := by
  have history : Generations keywordMutator Campaign.plain [keywordText "foo", keywordText "dict"]
      (keywordMutator.addFile Campaign.plain renamedBench).2 :=
    .next dict_generations (show renamedBench.cache = dictListed.cache from rfl)
      (ok_of_toOption (by decide +kernel)) (Prod.ext rfl rfl)
  refine ⟨history, by decide +kernel, fun index member => history.sound.mem_idsOf.mpr ?_⟩
  revert index
  decide +kernel

end Generations

end MutationTesting
