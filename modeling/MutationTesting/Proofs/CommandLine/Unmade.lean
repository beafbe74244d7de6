import MutationTesting.Proofs.CommandLine.Applied
/-! Mutants that cannot be made from their files as they are now. The cache is left as it was, or brought
in line with the text of the file: then the mutants of the lines that have gone are lost, those of
the lines that stay keep their results, and nothing else in it changes. On disk there is either
what there was or the cache as it is in memory. -/
namespace MutationTesting

open Sequence

/-- Data in which one file has been brought in line with a text: lines that stay keep their mutants,
other files and all else stay as they are, and so does the file if it has the text already. -/
structure CacheData.Realigned (data : CacheData) (file : Path) (source : String)
    (after : CacheData) : Prop where
  lines : Aligned (Diff.changes ((data.linesOf file).map CachedLine.text).toArray
    (Text.rows source).toArray) (data.linesOf file) (after.linesOf file) (Text.rows source)
  others : ∀ other, file.same other = false → after.linesOf other = data.linesOf other
  baseline : after.baseline? = data.baseline?
  nextNumber : after.nextNumber = data.nextNumber
  unedited : Sorted data.files → data.heads file = (Text.rows source).zipIdx → after = data

theorem CacheData.realigned_updateLines (data : CacheData) (file : Path) (source : String) :
    data.Realigned file source (data.updateLines file source) where
  lines := aligned_updateLines data file source
  others _ apart := linesOf_updateLines_of_not_same apart data source
  baseline := rfl
  nextNumber := rfl
  unedited sorted heads := updateLines_eq_self sorted heads

theorem CacheData.unknown_of_lookup {data : CacheData} {number : Nat} {error : Error}
    (fails : data.lookup number = .error error) : error = .unknownMutant number := by
  unfold lookup at fails
  split at fails
  · contradiction
  · exact (Except.error.inj fails).symm

/-- Files in which a cache has been stored, and which are otherwise as they were. -/
structure Cache.StoredIn (cache : Cache) (workspace after : Workspace) : Prop where
  same : workspace.SameBut (· = workspace.target cache.path) after
  found : after.find cache.path = .ok (.file cache.data.encode.toUTF8)

/-- The file of the mutant with a number is a text, and the data of the cache is brought in line with
this text. -/
structure Cache.Refreshes (cache : Cache) (number : Nat) (workspace : Workspace) (file : Path)
    (source : String) (data : CacheData) : Prop where
  looked : ∃ id, cache.data.lookup number = .ok (file, id)
  isText : workspace.readText file = .ok source
  realigned : cache.data.Realigned file source data

theorem Mutant.writePermanently_failed {mutant : Mutant} {backup : Bool} {before after : Workspace}
    {error : Error} (failed : mutant.writePermanently backup before = (.error error, after)) :
    (∃ fault, error = .fault fault) ∧
      before.SameBut (· = before.target (Backup.pathOf mutant.file)) after := by
  have wrote {between : Workspace}
      (failed : (do
        OnDisk.change fun workspace => workspace.writeText mutant.file mutant.mutated
        OnDisk.adjust (Backup.clearBytecode mutant.file) : OnDisk Unit) between =
          (.error error, after)) : (∃ fault, error = .fault fault) ∧ between = after := by
    rw [bind_apply] at failed
    cases written : between.writeText mutant.file mutant.mutated with
    | error fault =>
      rw [change_error written] at failed
      obtain ⟨same, rfl⟩ := Prod.mk.inj failed
      exact ⟨⟨fault, (Except.error.inj same).symm⟩, rfl⟩
    | ok last =>
      rw [change_ok written] at failed
      exact absurd (Prod.mk.inj failed).1 (by simp)
  cases backup with
  | false =>
    obtain ⟨isFault, rfl⟩ := wrote failed
    exact ⟨isFault, .refl _ _⟩
  | true =>
    unfold writePermanently at failed
    simp only [if_true] at failed
    rw [bind_apply] at failed
    cases kept : before.writeText (Backup.pathOf mutant.file) mutant.source with
    | error fault =>
      rw [change_error kept] at failed
      obtain ⟨same, rfl⟩ := Prod.mk.inj failed
      exact ⟨⟨fault, (Except.error.inj same).symm⟩, .refl _ _⟩
    | ok between =>
      rw [change_ok kept] at failed
      obtain ⟨isFault, rfl⟩ := wrote failed
      exact ⟨isFault, (Workspace.write_spec kept).1⟩

namespace Mutator

/-- How it fails to make the mutant with a number, where its file can be parsed, and what is left of the
files and of the cache. -/
inductive Unmade (mutator : Mutator) (number : Nat) (workspace : Workspace) (cache : Cache) :
    Error → Workspace → Cache → Prop
  | unknown (unknown : cache.data.lookup number = .error (.unknownMutant number)) :
    Unmade mutator number workspace cache (.unknownMutant number) workspace cache
  | unreadable {file : Path} {id : MutantId} {fault : Fault}
    (looked : cache.data.lookup number = .ok (file, id))
    (fails : workspace.readText file = .error fault) :
    Unmade mutator number workspace cache (.fault fault) workspace cache
  | unstored {file : Path} {source : String} {data : CacheData} {fault : Fault}
    (refreshes : cache.Refreshes number workspace file source data)
    (fails : workspace.replace cache.path data.encode.toUTF8 = .error fault) :
    Unmade mutator number workspace cache (.fault fault) workspace { cache with data }
  | gone {file : Path} {source : String} {data : CacheData} {after : Workspace}
    (refreshes : cache.Refreshes number workspace file source data)
    (stored : Cache.StoredIn { cache with data } workspace after)
    (gone : data.lookup number = .error (.unknownMutant number)) :
    Unmade mutator number workspace cache (.unknownMutant number) after { cache with data }
  | notFound {file : Path} {source : String} {data : CacheData} {after : Workspace} {id : MutantId}
    (refreshes : cache.Refreshes number workspace file source data)
    (stored : Cache.StoredIn { cache with data } workspace after)
    (stays : ∃ other, data.lookup number = .ok (other, id))
    (notFound : mutator.find? file source id = .ok none) :
    Unmade mutator number workspace cache (.mutantNotFound file id) after { cache with data }

/-- How it fails to write the mutant with a number for good. -/
inductive Unapplied (mutator : Mutator) (number : Nat) (workspace : Workspace) (cache : Cache) :
    Error → Workspace → Cache → Prop
  | unmade {error : Error} {after : Workspace} {further : Cache}
    (unmade : Unmade mutator number workspace cache error after further) :
    Unapplied mutator number workspace cache error after further
  | backed {file : Path} {id : MutantId} (looked : cache.data.lookup number = .ok (file, id))
    (backed : workspace.has (Backup.pathOf file) = true) :
    Unapplied mutator number workspace cache (.orphanedBackup file (Backup.pathOf file)) workspace
      cache
  | unwritten {file : Path} {source : String} {data : CacheData} {between after : Workspace}
    {fault : Fault} (refreshes : cache.Refreshes number workspace file source data)
    (stored : Cache.StoredIn { cache with data } workspace between)
    (same : between.SameBut (· = between.target (Backup.pathOf file)) after) :
    Unapplied mutator number workspace cache (.fault fault) after { cache with data }

variable {mutator : Mutator} {number : Nat} {before after : Bench} {file : Path} {source : String}
  {error : Error}

/-- An error that is not that the file of the mutant with a number cannot be parsed. -/
def NotSyntax (mutator : Mutator) (number : Nat) (bench : Bench) (error : Error) : Prop :=
  ∀ file id source, bench.cache.data.lookup number = .ok (file, id) →
    bench.workspace.readText file = .ok source →
    mutator.frontend.parse file source ≠ .error error

/-- It fails to look for a mutant of a text only where the text cannot be parsed. -/
theorem parse_of_find? {id : MutantId} (failed : mutator.find? file source id = .error error) :
    mutator.frontend.parse file source = .error error := by
  unfold find? at failed
  cases parsed : mutator.frontend.parse file source with
  | error cause =>
    rw [parsed] at failed
    exact congrArg Except.error (Except.error.inj failed)
  | ok tree =>
    rw [parsed] at failed
    contradiction

theorem remade_failed {data : CacheData}
    (failed : mutator.remade number file source data = .error error) :
    (data.lookup number = .error (.unknownMutant number) ∧ error = .unknownMutant number) ∨
      (∃ other id, data.lookup number = .ok (other, id) ∧
        mutator.find? file source id = .ok none ∧ error = .mutantNotFound file id) ∨
      mutator.frontend.parse file source = .error error := by
  unfold remade at failed
  cases looked : data.lookup number with
  | error cause =>
    rw [looked] at failed
    obtain rfl := CacheData.unknown_of_lookup looked
    exact .inl ⟨rfl, (Except.error.inj failed).symm⟩
  | ok found =>
    simp only [looked, bind, Except.bind] at failed
    cases isFound : mutator.find? file source found.2 with
    | error cause =>
      rw [isFound] at failed
      obtain rfl := Except.error.inj failed
      exact .inr (.inr (parse_of_find? isFound))
    | ok found? =>
      rw [isFound] at failed
      cases found? with
      | none => exact .inr (.inl ⟨found.1, found.2, rfl, isFound, (Except.error.inj failed).symm⟩)
      | some mutant => contradiction

/-- It fails to make a mutant in one of these ways, or its file cannot be parsed. -/
theorem unmade_of_failed (failed : mutator.mutantOf number before = (.error error, after))
    (notSyntax : NotSyntax mutator number before error) :
    Unmade mutator number before.workspace before.cache error after.workspace after.cache := by
  rw [mutantOf_eq] at failed
  cases looked : before.cache.data.lookup number with
  | error cause =>
    rw [looked] at failed
    obtain ⟨same, rfl⟩ := Prod.mk.inj failed
    obtain rfl := CacheData.unknown_of_lookup looked
    obtain rfl := Except.error.inj same
    exact .unknown looked
  | ok found =>
    obtain ⟨file, id⟩ := found
    rw [looked] at failed
    dsimp only at failed
    cases isText : before.workspace.readText file with
    | error fault =>
      rw [isText] at failed
      obtain ⟨same, rfl⟩ := Prod.mk.inj failed
      obtain rfl := Except.error.inj same
      exact .unreadable looked isText
    | ok source =>
      rw [isText] at failed
      dsimp only at failed
      have refreshes : before.cache.Refreshes number before.workspace file source
          (before.cache.data.updateLines file source) :=
        ⟨⟨id, looked⟩, isText, CacheData.realigned_updateLines _ file source⟩
      cases replaced : before.workspace.replace before.cache.path
        (before.cache.data.updateLines file source).encode.toUTF8 with
      | error fault =>
        rw [replaced] at failed
        obtain ⟨same, rfl⟩ := Prod.mk.inj failed
        obtain rfl := Except.error.inj same
        exact .unstored refreshes replaced
      | ok workspace =>
        rw [replaced] at failed
        obtain ⟨same, rfl⟩ := Prod.mk.inj failed
        obtain ⟨sameBut, isFound⟩ := Workspace.replace_spec replaced
        obtain ⟨gone, rfl⟩ | ⟨other, id, stays, notFound, rfl⟩ | unparsed := remade_failed same
        · exact .gone refreshes ⟨sameBut, isFound⟩ gone
        · exact .notFound refreshes ⟨sameBut, isFound⟩ ⟨other, stays⟩ notFound
        · exact absurd unparsed (notSyntax file id source looked isText)

/-- What is left of the files and of the cache by a mutant that has been made. -/
theorem refreshes_of_made {mutant : Mutant}
    (made : mutator.mutantOf number before = (.ok mutant, after)) :
    ∃ data, before.cache.Refreshes number before.workspace mutant.file mutant.source data ∧
      after.cache = { before.cache with data } ∧
      after.cache.StoredIn before.workspace after.workspace := by
  obtain ⟨id, workspace, looked, isText, -, replaced, rfl⟩ := mutantOf_ok made
  obtain ⟨sameBut, isFound⟩ := Workspace.replace_spec replaced
  exact ⟨_, ⟨⟨id, looked⟩, isText, CacheData.realigned_updateLines _ _ _⟩, rfl, sameBut, isFound⟩

/-- It fails to write a mutant for good in one of these ways, or its file cannot be parsed. -/
theorem unapplied_of_failed {backup : Bool}
    (failed : mutator.applyNumber number backup before = (.error error, after))
    (notSyntax : NotSyntax mutator number before error) :
    Unapplied mutator number before.workspace before.cache error after.workspace after.cache := by
  rw [applyNumber_eq] at failed
  cases looked : before.cache.data.lookup number with
  | error cause =>
    rw [looked] at failed
    obtain ⟨same, rfl⟩ := Prod.mk.inj failed
    obtain rfl := CacheData.unknown_of_lookup looked
    obtain rfl := Except.error.inj same
    exact .unmade (.unknown looked)
  | ok found =>
    obtain ⟨file, id⟩ := found
    rw [looked] at failed
    dsimp only at failed
    cases backed : before.workspace.has (Backup.pathOf file) with
    | true =>
      rw [if_pos backed] at failed
      obtain ⟨same, rfl⟩ := Prod.mk.inj failed
      obtain rfl := Except.error.inj same
      exact .backed looked backed
    | false =>
      rw [if_neg (by simp [backed])] at failed
      cases made : mutator.mutantOf number before with
      | mk result between =>
        rw [made] at failed
        cases result with
        | error cause =>
          obtain ⟨same, rfl⟩ := Prod.mk.inj failed
          obtain rfl := Except.error.inj same
          exact .unmade (unmade_of_failed made notSyntax)
        | ok mutant =>
          obtain ⟨data, refreshes, isCache, stored⟩ := refreshes_of_made made
          dsimp only at failed
          cases written : mutant.writePermanently backup between.workspace with
          | mk outcome workspace =>
            rw [written] at failed
            cases outcome with
            | ok _ => exact absurd (Prod.mk.inj failed).1 (by simp [Except.map])
            | error cause =>
              obtain ⟨same, rfl⟩ := Prod.mk.inj failed
              obtain rfl := Except.error.inj same
              obtain ⟨⟨fault, rfl⟩, sameBut⟩ := Mutant.writePermanently_failed written
              rw [isCache] at stored ⊢
              exact .unwritten refreshes stored sameBut

end Mutator

namespace CommandLine

open Mutator (NotSyntax Unmade Unapplied)

/-- A diff that cannot be shown leaves the files as the mutant does that cannot be made. -/
theorem showDiff_failed {tools : Tools} {number : Nat} {synonyms : List String}
    {terminal after : Terminal} {message : String} {cache : Cache}
    (opens : Cache.openIn terminal.workspace ⟨"."⟩ = .ok cache)
    (failed : showDiff tools number synonyms terminal = (.error message, after)) :
    ∃ error bench, (mutatorFor tools synonyms).mutantOf number ⟨terminal.workspace, cache, 0, []⟩ =
      (.error error, bench) ∧ message = Work.messageOf error ∧ after.workspace = bench.workspace := by
  unfold showDiff at failed
  rw [bind_apply, onBench_apply, opens] at failed
  dsimp only at failed
  generalize (mutatorFor tools synonyms).mutantOf number ⟨terminal.workspace, cache, 0, []⟩ = made
    at failed ⊢
  obtain ⟨error | mutant, bench⟩ := made
  · obtain ⟨same, rfl⟩ := Prod.mk.inj failed
    exact ⟨error, bench, rfl, (Except.error.inj same).symm, rfl⟩
  · exact absurd (Prod.mk.inj failed).1 (by simp)

/-- Unless it is that its file cannot be parsed, a failure to make a mutant, to show its diff or to write
it for good leaves the cache as it was, or brings it in line with the text of the file and loses
nothing but what it has of lines that are no longer there. -/
theorem failure_keeps_lines (mutator : Mutator) (number : Nat) (before : Bench) :
    (∀ error after, mutator.mutantOf number before = (.error error, after) →
      NotSyntax mutator number before error →
      Unmade mutator number before.workspace before.cache error after.workspace after.cache) ∧
    (∀ tools synonyms terminal message after, mutator = mutatorFor tools synonyms →
      terminal.workspace = before.workspace →
      Cache.openIn before.workspace ⟨"."⟩ = .ok before.cache →
      showDiff tools number synonyms terminal = (.error message, after) →
      ∃ error cache, message = Work.messageOf error ∧
        (NotSyntax mutator number before error →
          Unmade mutator number before.workspace before.cache error after.workspace cache)) ∧
    ∀ backup error after, mutator.applyNumber number backup before = (.error error, after) →
      NotSyntax mutator number before error →
      Unapplied mutator number before.workspace before.cache error after.workspace after.cache := by
  refine ⟨fun error after failed => Mutator.unmade_of_failed failed, ?_,
    fun backup error after failed => Mutator.unapplied_of_failed failed⟩
  rintro tools synonyms terminal message after rfl same opens failed
  rw [← same] at opens
  obtain ⟨error, bench, unmade, isMessage, sameFiles⟩ := showDiff_failed opens failed
  rw [same] at unmade
  refine ⟨error, bench.cache, isMessage, fun notSyntax => ?_⟩
  have left := Mutator.unmade_of_failed unmade notSyntax
  exact sameFiles ▸ left

/-- A file of which the first line has been removed since its mutants were tested. -/
def shortened : Bench where
  workspace := ⟨.directory [("a.py", .file "y = 2\n".toUTF8)], [], []⟩
  cache :=
    let lines : List CachedLine := [
      ⟨"x = 1", 0, [⟨1, 0, .killed, some "h1"⟩]⟩, ⟨"y = 2", 1, [⟨2, 0, .killed, some "h1"⟩]⟩,
      ⟨"", 2, []⟩]
    ⟨Cache.storedPath, ⟨none, 3, [(Campaign.plain, ⟨lines⟩)]⟩⟩
  turn := 0
  log := []

/-- The first mutant cannot be made, and the second one is kept on its present row. -/
theorem shortened_keeps_lines :
    let mutator := mutatorFor idleTools []
    let after := (mutator.mutantOf 1 shortened).2
    mutator.mutantOf 1 shortened = (.error (.unknownMutant 1), after) ∧
      Unmade mutator 1 shortened.workspace shortened.cache (.unknownMutant 1) after.workspace
        after.cache ∧
      after.cache.data.entries = [⟨2, Campaign.plain, ⟨"y = 2", 0, 0⟩, .killed⟩] := by
  intro mutator after
  have fails : (mutator.mutantOf 1 shortened).1 = .error (.unknownMutant 1) := by decide +kernel
  have failed : mutator.mutantOf 1 shortened = (.error (.unknownMutant 1), after) :=
    Prod.ext fails rfl
  obtain ⟨unmade, -⟩ := failure_keeps_lines mutator 1 shortened
  exact ⟨failed, unmade _ _ failed fun _ _ _ _ _ => nofun, by decide +kernel⟩

/-- A failure loses what the cache has of a mutant whose line has been removed, and stores the cache
without it. -/
theorem shortened_loses_line :
    let mutator := mutatorFor idleTools []
    let result := mutator.mutantOf 1 shortened
    result.1 = .error (.unknownMutant 1) ∧
      shortened.cache.data.entries = [⟨1, Campaign.plain, ⟨"x = 1", 0, 0⟩, .killed⟩,
        ⟨2, Campaign.plain, ⟨"y = 2", 0, 1⟩, .killed⟩] ∧
      result.2.cache.data.entries = [⟨2, Campaign.plain, ⟨"y = 2", 0, 0⟩, .killed⟩] ∧
      shortened.workspace.has Cache.storedPath = false ∧
      result.2.workspace.has Cache.storedPath = true := by
  intro mutator result
  exact ⟨by decide +kernel, by decide +kernel, by decide +kernel, by decide +kernel,
    by decide +kernel⟩

end CommandLine

end MutationTesting
