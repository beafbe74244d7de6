import MutationTesting.Proofs.Suite.Session
import MutationTesting.Proofs.Suite.Yielded
/-! Sessions over Python sources that nothing else touches, not even the session's own files. All
mutants are listed and known to the cache by number, and each is tested once at the most, as the
walk over its file has yielded it. Where a source is one of the session's own files, tests may be
started on the original. -/
namespace MutationTesting

open Campaign (Sheltered Unwritable)
open CacheData (Names)

namespace Session

/-- The files of a session can be parsed into trees whose nodes stand in order, and the commands leave
them and the places of their backups alone. -/
structure Undisturbed (session : Session) (trees : String → Option Python.ParseTree) : Prop where
  parses : ∀ file ∈ session.files, ∃ source tree,
    session.workspace.readText file = .ok source ∧ trees source = some tree ∧
      tree.hasError = false ∧ tree.InOrder source.toList
  alone : session.campaign.executor.LeavesAlone session.files

/-- What is more, no file is one of the session's own files or at the place of a backup. -/
structure Shelters (session : Session) (trees : String → Option Python.ParseTree) : Prop
    extends Undisturbed session trees where
  own : ∀ path, Campaign.Keeps session.campaign.settings session.place session.files path →
    ∀ file ∈ session.files, session.workspace.target path ≠ session.workspace.target file
  backups : ∀ file ∈ session.files, ∀ other ∈ session.files,
    session.workspace.target file ≠ session.workspace.target (Backup.pathOf other)

variable {session : Session} {trees : String → Option Python.ParseTree} {walks : List FileWalk}
  {listed : Bench}

theorem Shelters.readText (shelters : session.Shelters trees) {mutants : List FileMutants}
    (lists : session.Lists mutants listed) {file : Path} (isFile : file ∈ session.files) :
    listed.workspace.readText file = session.workspace.readText file := by
  obtain ⟨source, -, isText, -⟩ := shelters.parses file isFile
  rw [isText]
  refine Workspace.readText_of_find (lists.files.find_file ?_ (Workspace.find_of_readText isText))
  exact (shelters.own _ .cache file isFile).symm

theorem Shelters.sheltered (shelters : session.Shelters trees)
    (files : walks.map FileWalk.file = session.files)
    (areOf : ∀ walk ∈ walks, walk.IsOf session.campaign.mutator session.workspace)
    (lists : session.Lists (walks.map FileWalk.listed) listed) :
    Sheltered session.campaign walks session.files listed := by
  have isFile (walk : FileWalk) (isWalk : walk ∈ walks) : walk.file ∈ session.files :=
    files ▸ List.mem_map_of_mem isWalk
  have listedFiles : (walks.map FileWalk.listed).map FileMutants.file = session.files := by
    rw [List.map_map, ← files]
    rfl
  have keeps {address : List String}
      (isOwn : Campaign.Own session.campaign (walks.map FileWalk.listed) listed address) :
      ∃ path, Campaign.Keeps session.campaign.settings session.place session.files path ∧
        address = session.workspace.target path := by
    obtain ⟨path, keeps, rfl⟩ := isOwn
    rw [listedFiles, lists.path] at keeps
    exact ⟨path, keeps, lists.files.target path⟩
  refine ⟨shelters.alone, fun walk isWalk => ⟨isFile walk isWalk, ?_⟩, ⟨?_, ?_, ?_⟩, ?_,
    lists.sorted, ?_⟩
  · exact (areOf walk isWalk).congr (shelters.readText lists (isFile walk isWalk))
  · intro file isFile
    obtain ⟨source, -, isText, -⟩ := shelters.parses file isFile
    rw [← shelters.readText lists isFile] at isText
    exact ⟨_, Workspace.find_of_readText isText⟩
  · intro file isFile isOwn
    obtain ⟨path, isKept, same⟩ := keeps isOwn
    rw [lists.files.target] at same
    exact shelters.own path isKept file isFile same.symm
  · intro file isFile isOwn
    obtain ⟨path, isKept, same⟩ := keeps isOwn
    rw [lists.files.target] at same
    exact isKept.target_ne_backup file session.workspace same.symm
  · simpa only [lists.files.target] using shelters.backups
  · intro walk isWalk mutant member
    refine (lists.mem_keys (walk.file, mutant.id) (List.mem_flatMap.mpr
      ⟨walk.listed, List.mem_map_of_mem isWalk, ?_⟩)).2
    exact List.mem_map_of_mem (List.mem_map_of_mem member)

/-- The parse trees of sources that all consist of one assignment. -/
def assignments : String → Option Python.ParseTree :=
  fun _ => some Campaign.assignment

end Session

end MutationTesting
