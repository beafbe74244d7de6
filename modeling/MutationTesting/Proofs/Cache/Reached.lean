import Mathlib.Logic.Relation
import MutationTesting.Cache.Store
import MutationTesting.Proofs.Cache.Found
import MutationTesting.Proofs.Cache.Stored
import MutationTesting.Proofs.FileSystem.Frame
import MutationTesting.Proofs.Sequence
/-! Caches that are reached by the operations on them, those that fail included, and by storing them
and opening them again. The numbers of their mutants are given for good, and all of a cache that is
saved is there when it is opened again. -/
namespace MutationTesting.Cache

open Relation (ReflTransGen)

/-- What a cache is after the status of a mutant has been set, or could not be. -/
def afterStatus (data : CacheData) (path : Path) (id : MutantId) (status : Status) (digest : String) :
    CacheData :=
  match data.setStatus path id status digest with
  | .ok changed => changed
  | .error _ => data

/-- The operations on a cache. One that also stores the cache has changed it before it stores it, so
what becomes of the cache does not depend on whether that succeeds. -/
inductive Step : Cache → Cache → Prop where
  | updateLines (cache : Cache) (path : Path) (source : String) :
    Step cache { cache with data := cache.data.updateLines path source }
  | register (cache : Cache) (path : Path) (ids : List MutantId) :
    Step cache { cache with data := (cache.data.register path ids).2 }
  | setStatus (cache : Cache) (path : Path) (id : MutantId) (status : Status) (digest : String) :
    Step cache { cache with data := afterStatus cache.data path id status digest }
  | setBaseline (cache : Cache) (baseline? : Option Float) :
    Step cache { cache with data := { cache.data with baseline? } }
  | reopen {cache opened : Cache} {workspace saved : Workspace} {directory : Path}
    (here : cache.path = directory.join fileName) (inWords : cache.data.InWords)
    (isSaved : cache.save workspace = (.ok (), saved))
    (isOpened : openIn saved directory = .ok opened) : Step cache opened

theorem openIn_congr {workspace other : Workspace} {directory : Path}
    (same : other.find (directory.join fileName) = workspace.find (directory.join fileName)) :
    openIn other directory = openIn workspace directory := by
  simp only [openIn, Workspace.readText_congr same]

theorem openIn_of_find {data : CacheData} {workspace : Workspace} {directory : Path}
    (found : workspace.find (directory.join fileName) = .ok (.file data.encode.toUTF8)) :
    openIn workspace directory = .ok ⟨directory.join fileName, .decode data.encode⟩ := by
  simp only [openIn, Workspace.readText_of_find found]

/-- A save stores the text of the data and touches nothing else. -/
theorem save_spec {cache : Cache} {workspace saved : Workspace}
    (isSaved : cache.save workspace = (.ok (), saved)) :
    workspace.SameBut (· = workspace.target cache.path) saved ∧
      saved.find cache.path = .ok (.file cache.data.encode.toUTF8) := by
  unfold save at isSaved
  exact Workspace.replace_spec (Sequence.of_change isSaved)

theorem openIn_save {cache : Cache} {workspace saved : Workspace} {directory : Path}
    (here : cache.path = directory.join fileName)
    (isSaved : cache.save workspace = (.ok (), saved)) :
    openIn saved directory = .ok ⟨cache.path, .decode cache.data.encode⟩ := by
  have stored := (save_spec isSaved).2
  rw [here] at stored ⊢
  exact openIn_of_find stored

/-- No operation brings a cache out of order or gives a number away twice. -/
theorem Step.keeps {cache next : Cache} (step : Step cache next) (sound : cache.data.Sound) :
    next.data.Sound ∧ cache.data.Keeps next.data := by
  cases step with
  | updateLines path source => exact sound.updateLines path source
  | register path ids => exact sound.register path ids
  | setStatus path id status digest =>
    unfold afterStatus
    split
    · exact sound.setStatus ‹_›
    · exact ⟨sound, .refl _⟩
  | setBaseline baseline? => exact sound.withBaseline baseline?
  | reopen here inWords isSaved isOpened =>
    rw [openIn_save here isSaved] at isOpened
    obtain rfl := Except.ok.inj isOpened
    obtain ⟨baseline?, same⟩ := sound.decode_encode inWords
    rw [same]
    exact sound.withBaseline baseline?

/-- What holds of each operation holds of any number of them. -/
theorem keeps_of_reached {cache later : Cache} (reached : ReflTransGen Step cache later)
    (sound : cache.data.Sound) : later.data.Sound ∧ cache.data.Keeps later.data := by
  induction reached with
  | refl => exact ⟨sound, .refl _⟩
  | tail _ step ih =>
    obtain ⟨sound, keeps⟩ := ih
    obtain ⟨sound, further⟩ := step.keeps sound
    exact ⟨sound, keeps.trans further⟩

/-- Of a cache that is reached from an empty one: No two mutants have one number, and all numbers are
below the next one. Whatever becomes of the cache, no number that was given away goes to another
mutant. The lines of a file stand on the rows from zero on, and a line has one mutant at most for a
place. The entries list each mutant once, by file, row and place. A number leads to the name of its
mutant, and that name leads to the number. -/
theorem numbers_given_for_good {path : Path} {cache : Cache}
    (reached : ReflTransGen Step ⟨path, .empty⟩ cache) :
    (cache.data.numbers.Nodup ∧ ∀ number ∈ cache.data.numbers, number < cache.data.nextNumber) ∧
    (∀ later, ReflTransGen Step cache later → cache.data.Keeps later.data) ∧
    (∀ entry ∈ cache.data.files,
      entry.2.lines.map CachedLine.row = List.range entry.2.lines.length ∧
      ∀ line ∈ entry.2.lines, (line.mutants.map CachedMutant.index).Nodup) ∧
    (cache.data.entries.Perm (cache.data.mutants.map CacheData.entryOf) ∧
      cache.data.entries.Pairwise CacheEntry.Before) ∧
    (∀ number file id, cache.data.lookup number = .ok (file, id) →
      cache.data.number? file id = some number) ∧
    ∀ number file id, cache.data.number? file id = some number →
      ∃ key : Path, key.same file = true ∧ cache.data.lookup number = .ok (key, id) := by
  have sound := (keeps_of_reached reached CacheData.sound_empty).1
  refine ⟨⟨sound.numbers_nodup, sound.numbers_lt⟩, fun later further => ?_, fun entry isFile => ?_,
    ⟨cache.data.entries_perm, sound.entries_ordered⟩, fun _ _ _ => sound.number?_of_lookup,
    fun _ _ _ => sound.lookup_of_number?⟩
  · exact (keeps_of_reached further sound).2
  · exact ⟨(sound.numbered entry isFile).rows, (sound.numbered entry isFile).places⟩

/-- A file of which two lines are known. Registering ends at a line that is not there. -/
def halfRegistered : CacheData :=
  ((CacheData.empty.updateLines ⟨"pkg/mod.py"⟩ "a = 1\nb = 2").register ⟨"pkg/mod.py"⟩
    [⟨"a = 1", 0, 0⟩, ⟨"c = 3", 0, 2⟩, ⟨"b = 2", 0, 1⟩]).2

/-- The same with a status for the second line. -/
def halfTested : CacheData :=
  afterStatus halfRegistered ⟨"pkg/./mod.py"⟩ ⟨"b = 2", 0, 1⟩ .survived "a digest"

/-- The same after the first line has gone and another one has come. -/
def renewed : CacheData :=
  ((halfTested.updateLines ⟨"pkg/mod.py"⟩ "b = 2\nc = 3").register ⟨"pkg/mod.py"⟩
    [⟨"c = 3", 0, 1⟩]).2

theorem renewed_numbers : renewed.numbers = [2, 3] ∧
    renewed.number? ⟨"pkg//mod.py"⟩ ⟨"b = 2", 0, 0⟩ = some 2 := by
  decide +kernel

theorem renewed_inWords : renewed.InWords := by
  decide +kernel

def storedPath : Path :=
  Path.join ⟨"."⟩ fileName

theorem renewed_reached : ReflTransGen Step ⟨storedPath, .empty⟩ ⟨storedPath, renewed⟩ := by
  have registered : ReflTransGen Step ⟨storedPath, .empty⟩ ⟨storedPath, halfRegistered⟩ :=
    (ReflTransGen.single (.updateLines ⟨storedPath, .empty⟩ _ _)).tail
      (.register ⟨storedPath, CacheData.empty.updateLines _ _⟩ _ _)
  have tested : ReflTransGen Step ⟨storedPath, .empty⟩ ⟨storedPath, halfTested⟩ :=
    registered.tail (.setStatus ⟨storedPath, halfRegistered⟩ _ _ _ _)
  exact (tested.tail (.updateLines ⟨storedPath, halfTested⟩ _ _)).tail
    (.register ⟨storedPath, halfTested.updateLines _ _⟩ _ _)

theorem renewed_saved : ∃ saved,
    save ⟨storedPath, renewed⟩ ⟨.directory [], [], []⟩ = (.ok (), saved) := by
  have way : Workspace.fileAddress ⟨.directory [], [], []⟩ storedPath =
      .ok [".mutator-cache.json"] := by
    rfl
  exact ⟨_, Sequence.change_ok (by rw [Workspace.replace, way]; rfl)⟩

theorem reopened_reached :
    ReflTransGen Step ⟨storedPath, .empty⟩ ⟨storedPath, .decode renewed.encode⟩ := by
  obtain ⟨saved, isSaved⟩ := renewed_saved
  have here : (Cache.mk storedPath renewed).path = Path.join ⟨"."⟩ fileName := rfl
  exact renewed_reached.tail (.reopen here renewed_inWords isSaved (openIn_save here isSaved))

theorem reopened_numbers :
    ReflTransGen Step ⟨storedPath, .empty⟩ ⟨storedPath, .decode renewed.encode⟩ ∧
      (CacheData.decode renewed.encode).numbers = [2, 3] ∧
      (CacheData.decode renewed.encode).numbers.Nodup ∧
      ∃ key : Path, key.same ⟨"pkg//mod.py"⟩ = true ∧
        (CacheData.decode renewed.encode).lookup 2 = .ok (key, ⟨"b = 2", 0, 0⟩) := by
  have sound := (keeps_of_reached renewed_reached CacheData.sound_empty).1
  obtain ⟨baseline?, same⟩ := sound.decode_encode renewed_inWords
  obtain ⟨⟨distinct, -⟩, -, -, -, -, leads⟩ := numbers_given_for_good reopened_reached
  have numbers : (CacheData.decode renewed.encode).numbers = [2, 3] := by
    rw [same]
    exact renewed_numbers.1
  have number : (CacheData.decode renewed.encode).number? ⟨"pkg//mod.py"⟩ ⟨"b = 2", 0, 0⟩ = some 2 := by
    rw [same]
    exact renewed_numbers.2
  exact ⟨reopened_reached, numbers, distinct, leads _ _ _ number⟩

end MutationTesting.Cache

namespace MutationTesting

namespace CacheData

variable {data : CacheData}

/-- The time of the clean run, if there is one, is read as it is written. -/
def KeepsTime (data : CacheData) : Prop :=
  ∀ seconds, data.baseline? = some seconds → (Json.float seconds).float? = some seconds

theorem KeepsTime.read (keeps : data.KeepsTime) :
    optional? Json.float? (some (nullable .float data.baseline?)) = some data.baseline? := by
  cases isTime : data.baseline? with
  | none => rfl
  | some seconds =>
    have read := keeps seconds isTime
    have isNumber : Json.float seconds ≠ .null := by
      intro isNull
      rw [isNull] at read
      contradiction
    rw [nullable, optional?, read]
    · rfl
    · exact isNumber

theorem Fits.decode_encode_self (fits : data.Fits) (sorted : Sorted data.files)
    (keeps : data.KeepsTime) : decode data.encode = data :=
  fits.decode_encode_of_read sorted keeps.read

/-- Setting the status of a mutant changes one line of one file at most. -/
theorem sorted_setStatus {changed : CacheData} (sorted : Sorted data.files) {path : Path}
    {id : MutantId} {status : Status} {digest : String}
    (done : data.setStatus path id status digest = .ok changed) : Sorted changed.files := by
  unfold setStatus at done
  dsimp only at done
  split at done
  · rename_i after isChanged
    obtain rfl := Except.ok.inj done
    split at isChanged
    · exact sorted_add? sorted isChanged
    · exact sorted_changeLine? sorted isChanged
  · contradiction

end CacheData

namespace Cache

open Relation (ReflTransGen)

variable {first cache next opened : Cache} {start workspace saved : Workspace} {directory : Path}

theorem Step.path_sorted (step : Step cache next) (sorted : CacheData.Sorted cache.data.files) :
    next.path = cache.path ∧ CacheData.Sorted next.data.files := by
  cases step with
  | updateLines path source => exact ⟨rfl, sorted.putFile path _⟩
  | register path ids => exact ⟨rfl, CacheData.sorted_register sorted path ids⟩
  | setStatus path id status digest =>
    refine ⟨rfl, ?_⟩
    show CacheData.Sorted (afterStatus _ _ _ _ _).files
    unfold afterStatus
    split
    · exact CacheData.sorted_setStatus sorted ‹_›
    · exact sorted
  | setBaseline baseline? => exact ⟨rfl, sorted⟩
  | reopen here inWords isSaved isOpened =>
    exact ⟨(path_of_openIn isOpened).trans here.symm, sorted_openIn isOpened⟩

theorem path_sorted_of_reached (reached : ReflTransGen Step first cache)
    (sorted : CacheData.Sorted first.data.files) :
    cache.path = first.path ∧ CacheData.Sorted cache.data.files := by
  induction reached with
  | refl => exact ⟨rfl, sorted⟩
  | tail _ step ih =>
    obtain ⟨path, sorted⟩ := ih
    obtain ⟨further, sorted⟩ := step.path_sorted sorted
    exact ⟨further.trans path, sorted⟩

theorem save_of_find {content : ByteArray} (found : workspace.find cache.path = .ok (.file content)) :
    ∃ again, cache.save workspace = (.ok (), again) := by
  obtain ⟨again, replaced⟩ := Workspace.replace_of_find found cache.data.encode.toUTF8
  exact ⟨again, Sequence.change_ok replaced⟩

/-- Whatever text a cache was opened from and whatever was done to it since: If it is saved, opening
its directory gives the cache as it is, and saving that one again leaves the same bytes. The numbers of
the cache are words of a machine, and the time of the clean run is one that is read as it is written. -/
theorem openIn_save_of_reached (opens : openIn start directory = .ok first)
    (reached : ReflTransGen Step first cache) (fits : cache.data.Fits)
    (keeps : cache.data.KeepsTime) (isSaved : cache.save workspace = (.ok (), saved)) :
    openIn saved directory = .ok cache ∧
      saved.find cache.path = .ok (.file cache.data.encode.toUTF8) ∧
      ∃ again, cache.save saved = (.ok (), again) ∧
        again.find cache.path = .ok (.file cache.data.encode.toUTF8) := by
  obtain ⟨path, sorted⟩ := path_sorted_of_reached reached (sorted_openIn opens)
  have here : cache.path = directory.join fileName := path.trans (path_of_openIn opens)
  have stored := (save_spec isSaved).2
  obtain ⟨again, isAgain⟩ := save_of_find stored
  refine ⟨?_, stored, again, isAgain, (save_spec isAgain).2⟩
  rw [openIn_save here isSaved, fits.decode_encode_self sorted keeps]

/-- A path and two lines full of marks. -/
def marked : Path :=
  ⟨"d/\"ä\\\n\".py"⟩

def firstMarked : String :=
  "x = \"\u0007\t\""

def secondMarked : String :=
  "y = '\u001b€'"

/-- A cache that can give away one more number. -/
def nearlyFull : CacheData where
  baseline? := none
  nextNumber := 18446744073709551614
  files := [(marked, ⟨[⟨firstMarked, 0, [⟨18446744073709551613, 4, .timedOut, some "…"⟩]⟩]⟩)]

/-- The same after a second line has come and its mutant has been killed. -/
def untimed : CacheData :=
  afterStatus (nearlyFull.updateLines marked (firstMarked ++ "\n" ++ secondMarked))
    ⟨"d/./\"ä\\\n\".py"⟩ ⟨secondMarked, 0, 1⟩ .killed "\u0000"

/-- The same after a clean run. -/
def full : CacheData :=
  { untimed with baseline? := some 1.5 }

/-- A workspace in which the first of these caches is stored. -/
def storing : Workspace :=
  ⟨.directory [(".mutator-cache.json", .file nearlyFull.encode.toUTF8)], [], []⟩

theorem find_storing : storing.find storedPath = .ok (.file nearlyFull.encode.toUTF8) := by
  have leads : storing.address storedPath = .ok [".mutator-cache.json"] := by
    rfl
  exact Workspace.find_file_iff.mpr ⟨_, leads, rfl, by decide⟩

theorem nearlyFull_opens : openIn storing ⟨"."⟩ = .ok ⟨storedPath, nearlyFull⟩ := by
  have fits : nearlyFull.Fits := by
    decide
  have keeps : nearlyFull.KeepsTime := fun _ isTime => nomatch isTime
  have back : CacheData.decode nearlyFull.encode = nearlyFull :=
    fits.decode_encode_self (List.pairwise_singleton _ _) keeps
  rw [openIn_of_find find_storing, back]
  rfl

theorem full_reached : ReflTransGen Step ⟨storedPath, nearlyFull⟩ ⟨storedPath, full⟩ := by
  have updated : ReflTransGen Step ⟨storedPath, nearlyFull⟩ _ :=
    .single (.updateLines ⟨storedPath, nearlyFull⟩ marked (firstMarked ++ "\n" ++ secondMarked))
  have killed : ReflTransGen Step ⟨storedPath, nearlyFull⟩ ⟨storedPath, untimed⟩ :=
    updated.tail (.setStatus _ _ _ _ _)
  exact killed.tail (.setBaseline ⟨storedPath, untimed⟩ (some 1.5))

theorem full_fits : full.Fits := by
  decide +kernel

theorem full_keepsTime : full.KeepsTime := by
  intro seconds isTime
  obtain rfl : 1.5 = seconds := Option.some.inj isTime
  decide +kernel

theorem full_reopened :
    ∃ saved, openIn storing ⟨"."⟩ = .ok ⟨storedPath, nearlyFull⟩ ∧
      ReflTransGen Step ⟨storedPath, nearlyFull⟩ ⟨storedPath, full⟩ ∧ full.Fits ∧ full.KeepsTime ∧
      save ⟨storedPath, full⟩ storing = (.ok (), saved) ∧
      openIn saved ⟨"."⟩ = .ok ⟨storedPath, full⟩ ∧
      ∃ again, save ⟨storedPath, full⟩ saved = (.ok (), again) ∧
        again.find storedPath = saved.find storedPath := by
  obtain ⟨saved, isSaved⟩ : ∃ saved, save ⟨storedPath, full⟩ storing = (.ok (), saved) :=
    save_of_find find_storing
  obtain ⟨opens, stored, again, isAgain, storedAgain⟩ :=
    openIn_save_of_reached nearlyFull_opens full_reached full_fits full_keepsTime isSaved
  exact ⟨saved, nearlyFull_opens, full_reached, full_fits, full_keepsTime, isSaved, opens, again,
    isAgain, storedAgain.trans stored.symm⟩

end Cache

end MutationTesting
