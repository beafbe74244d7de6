import MutationTesting.Proofs.CommandLine.Findings
import MutationTesting.Proofs.Suite.Restored
import MutationTesting.Proofs.Suite.Spared
/-! Backups that are there before a run. A run that would mutate a file with a backup is refused
before it does anything, and one that is not refused leaves every backup alone. The files that are
looked at are those that the run has found: one mutant that is asked for by its number may be of
another file, and the backup of that file is overwritten. A file that has no backup has none at any
address at which another one could be overwritten. -/
namespace MutationTesting

open OnBench Sequence

/-- What is started by an event is started on files with a property. -/
def Event.Starts (holds : Workspace → Prop) : Event → Prop
  | .started _ _ workspace => holds workspace
  | _ => True

variable {here : List String} {file other : Path} {content old : ByteArray} {workspace : Workspace}

theorem Backup.target_ne_join {below : Path} {c : Char} (ends : below.text.toList.getLast? = some c)
    (isOther : c ∉ ['k', '/', '.']) (file above : Path) (workspace : Workspace) :
    workspace.target (pathOf file) ≠ workspace.target (above.join below) := by
  simp only [List.mem_cons, List.not_mem_nil, or_false, not_or] at isOther
  obtain ⟨noBackup, noSlash, noDot⟩ := isOther
  exact Workspace.target_ne_of_getLast? (getLast?_pathOf file) (Path.getLast?_join above ends)
    (by decide) (by simp [noSlash, noDot]) (Ne.symm noBackup) workspace

/-- The backup of another file is not one that a file would get, if the file has none. -/
theorem Clear.of_noBackup (spared : Spared here (Backup.pathOf other) content workspace)
    (found : workspace.find file = .ok (.file old))
    (noBackup : workspace.has (Backup.pathOf file) = false)
    (extended : file.extension? = some "py") : Clear here (Backup.pathOf other) file := by
  have backupNamed : ∃ front name, (Backup.pathOf other).components = front ++ [.name name] ∧
      name.toList.getLast? = some 'k' :=
    Path.exists_name_of_getLast? (Backup.getLast?_pathOf other) (by decide) (by decide)
  have fileNamed := Path.exists_name_of_extension? extended (by decide : _ = some 'y')
  constructor
  case target =>
    intro later _
    exact Workspace.target_ne_of_ends fileNamed backupNamed (by decide)
  case compiled =>
    intro later compiled _ isCompiled
    exact Workspace.target_ne_of_getLast? isCompiled.getLast? (Backup.getLast?_pathOf other)
      (by decide) (by decide) (by decide) later
  case backup =>
    rintro later address isHere leads rfl
    -- Its place would be that of the other backup, so the file would have one already.
    obtain ⟨place, leadsFile, thereFile, plain⟩ := Workspace.find_file_iff.mp found
    obtain ⟨front, name, shape, -, -⟩ := Workspace.parent_of_address leadsFile (by simp [thereFile])
    obtain ⟨backupPlace, leadsNow⟩ := Workspace.address_sibling shape
      (Backup.components_pathOf shape plain).1 leadsFile leads
    have sameTarget :
        workspace.target (Backup.pathOf file) = workspace.target (Backup.pathOf other) := by
      have same := Workspace.address_eq leads
      simp only [Workspace.target, isHere, spared.here] at same ⊢
      exact same.symm
    have stands := Workspace.stand_of_find spared.found
    rw [← sameTarget, ← Workspace.address_eq leadsNow] at stands
    have has : workspace.has (Backup.pathOf file) = true :=
      Workspace.has_iff.mpr ⟨backupPlace, leadsNow, by simp [stands],
        by simp [Backup.namesDirectory_pathOf]⟩
    rw [noBackup] at has
    contradiction

namespace Campaign

variable {campaign : Campaign} {start : Bench} {mutants : List FileMutants} {directory : Path}

/-- A bench of a campaign whose commands are all started while the backup of a file is there. -/
abbrev Backed (start : Bench) (here : List String) (other : Path) (content : ByteArray) :
    Bench → Prop :=
  Holds (Event.Starts (Spared here (Backup.pathOf other) content)) start
    (Spared here (Backup.pathOf other) content)

theorem leads_save_backed (stored : start.cache.path = directory.join Cache.fileName) :
    Preserves (Backed start here other content) save :=
  leads_save fun _ workspace _ spared replaced => by
    rw [stored] at replaced
    exact spared.sameBut (Workspace.replace_spec replaced).1
      (Backup.target_ne_join (by decide : _ = some 'n') (by decide) other directory workspace)

section Commands

variable (stored : start.cache.path = directory.join Cache.fileName)
  (keeps : campaign.executor.Keeps (Spared here (Backup.pathOf other) content))
include stored keeps

theorem leads_baseline_backed : Preserves (Backed start here other content) campaign.baseline := by
  refine baseline_rule (fun _ held _ => held) (fun _ held => held)
    (leads_execute_kept keeps _ _ none fun _ spared => spared) (fun _ => leads_note trivial)
    (fun _ => leads_note trivial) (fun _ => ?_)
    fun _ => setBaseline_rule (leads_save_backed stored) _
  exact leads_snapshot_kept (fun now _ => Backup.target_ne_join (by decide : _ = some 'l')
    (by decide) other _ now) rfl

omit stored in
theorem leads_runMutant_backed (limit? : Option Duration) (mutant : Mutant) :
    Preserves (Backed start here other content)
      (campaign.settings.runner.runMutant campaign.executor limit? (some mutant)) := by
  refine runMutant_rule (fun _ => leads_begin fun _ spared => spared) (fun _ => ?_)
    (leads_execute_kept keeps _ _ limit? fun _ spared => spared) fun _ => leads_note trivial
  exact leads_snapshot_kept (fun now _ => Backup.target_ne_join (by decide : _ = some 'a')
    (by decide) other _ now) rfl

theorem leads_test_backed (clear : Clear here (Backup.pathOf other) file) (baseline : Duration)
    (source? : Option String) (id : MutantId) :
    Preserves (Backed start here other content) (campaign.test baseline file source? id) := by
  refine test_spares (fun _ held => held) fun mutant sameFile =>
    runTests_spares (sameFile ▸ clear)
      (leads_hook_kept keeps · (fun _ _ spared => spared) fun _ => trivial)
      (leads_runMutant_backed keeps · mutant) fun status => ?_
  exact setStatus_rule (leads_save_backed stored) mutant.file mutant.id status _

/-- A campaign leaves the backup of a file alone if it tests no mutant of that file. -/
theorem leads_run_backed
    (clear : ∀ listed ∈ mutants, Clear here (Backup.pathOf other) listed.file) :
    Preserves (Backed start here other content) (campaign.run mutants) :=
  campaign_rule (leads_baseline_backed stored keeps) (fun _ => leads_note trivial)
    (fun _ _ held => held) fun baseline tally =>
      testFiles_keeps (fun _ => leads_note trivial) (fun _ _ _ => leads_note trivial)
        (fun listed member id _ source? =>
          leads_test_backed stored keeps (clear listed member) baseline source? id) tally

end Commands

end Campaign

end MutationTesting

namespace MutationTesting.CommandLine

open OnBench Sequence Work

namespace Findings

variable (found : Findings) (tools : Tools) (options : RunOptions) (workspace : Workspace)

/-- The mutants that a run tests. -/
def picked : Except Error (List FileMutants) := do
  let cache ← Cache.openIn workspace ⟨"."⟩
  (mutantsToTest (found.mutator tools options) options found.files ⟨workspace, cache, 0, []⟩).1

/-- The bench that a run leaves. -/
def ended : Except Error Bench := do
  let digest ← Discovery.testsDigest workspace found.tests
  let cache ← Cache.openIn workspace ⟨"."⟩
  return (found.course tools options digest ⟨workspace, cache, 0, []⟩).2

/-- No mutant that a run tests is of a file for which what stands at a path would be written. -/
def Avoids (path : Path) : Prop :=
  ∀ mutants, found.picked tools options workspace = .ok mutants →
    ∀ listed ∈ mutants, Clear workspace.here path listed.file

end Findings

section Listing

variable {start : Bench} {files : List Path}

/-- A bench on which mutants are listed: only the stored cache has changed. -/
abbrev Listing (right : Event → Prop) (start : Bench) : Bench → Prop :=
  Holds right start (start.workspace.SameBut (· = start.workspace.target start.cache.path))

theorem leads_save_listing {right : Event → Prop} : Preserves (Listing right start) save :=
  leads_save fun _ workspace after same replaced => by
    have changed := (Workspace.replace_spec replaced).1
    rw [same.target] at changed
    exact same.trans changed

theorem leads_mutantsToTest (mutator : Mutator) (options : RunOptions) (right : Event → Prop)
    (stored : start.cache.path = (⟨"."⟩ : Path).join Cache.fileName)
    (extended : ∀ file ∈ files, file.extension? = some "py") :
    Leads (Listing right start) (mutantsToTest mutator options files)
      (fun mutants bench => Listing right start bench ∧
        (options.number? = none → ∀ listed ∈ mutants, listed.file ∈ files ∧
          ∃ old, start.workspace.find listed.file = .ok (.file old)))
      (Listing right start) := by
  have reads (file : Path) (isFile : file ∈ files) (workspace : Workspace) (source : String)
      (same : start.workspace.SameBut (· = start.workspace.target start.cache.path) workspace)
      (isText : workspace.readText file = .ok source) :
      file ∈ files ∧ ∃ old, start.workspace.find file = .ok (.file old) := by
    have apart : workspace.target file ≠ start.workspace.target start.cache.path := by
      rw [same.target, stored]
      exact Workspace.target_ne_of_ends
        (Path.exists_name_of_extension? (extended file isFile) (by decide : _ = some 'y'))
        (Path.exists_name_of_getLast? (Path.getLast?_join _ (by decide : _ = some 'n')) (by decide)
          (by decide)) (by decide)
    exact ⟨isFile, _, same.symm.find_file apart (Workspace.find_of_readText isText)⟩
  unfold mutantsToTest
  dsimp only
  refine .optional (fun _ => setBaseline_rule leads_save_listing none) ?_
  refine .bind (generate_rule leads_save_listing reads) fun mutants => ?_
  cases options.number? with
  | none => exact .pure fun _ held => ⟨held.1, fun _ => held.2⟩
  | some number =>
    rintro bench ⟨held, -⟩
    suffices rest : Leads (Listing right start) _ _ _ from rest bench held
    exact .bind leads_cached fun data => .bind (leads_lifted (data.lookup number)) fun _ =>
      .pure fun _ held => ⟨held, by simp⟩

end Listing

section Courses

variable {tools : Tools} {options : RunOptions} {terminal : Terminal} {found : Findings}
  {start : Bench} {file : Path} {content : ByteArray}

/-- The course of a run leaves the backup of a file alone if no mutant of that file is tested. -/
theorem course_backed (digest : String)
    (stored : start.cache.path = (⟨"."⟩ : Path).join Cache.fileName)
    (extended : ∀ file ∈ found.files, file.extension? = some "py")
    (noBackup : ∀ file ∈ found.files, start.workspace.has (Backup.pathOf file) = false)
    (there : start.workspace.find (Backup.pathOf file) = .ok (.file content))
    (keeps : tools.executor.Keeps (Spared start.workspace.here (Backup.pathOf file) content))
    (single : ∀ mutants, options.number?.isSome = true →
      (mutantsToTest (found.mutator tools options) options found.files start).1 = .ok mutants →
      ∀ listed ∈ mutants, Clear start.workspace.here (Backup.pathOf file) listed.file) :
    Campaign.Backed start start.workspace.here file content
      (found.course tools options digest start).2 := by
  -- The files of the mutants are looked up in the workspace at the start: of it alone is it known
  -- that there are no backups.
  have spared : Spared start.workspace.here (Backup.pathOf file) content start.workspace :=
    ⟨rfl, there⟩
  have apart : start.workspace.target (Backup.pathOf file) ≠
      start.workspace.target start.cache.path := by
    rw [stored]
    exact Backup.target_ne_join (by decide : _ = some 'n') (by decide) file _ start.workspace
  have backed (bench : Bench)
      (listing : Listing (Event.Starts (Spared start.workspace.here (Backup.pathOf file) content))
        start bench) : Campaign.Backed start start.workspace.here file content bench :=
    ⟨listing.1, spared.sameBut listing.2 apart⟩
  have listed := leads_mutantsToTest (found.mutator tools options) options
    (Event.Starts (Spared start.workspace.here (Backup.pathOf file) content)) stored extended start
    ⟨.refl _ start, .refl _ start.workspace⟩
  unfold Findings.course
  rw [bind_apply]
  generalize mutantsToTest (found.mutator tools options) options found.files start = picked
    at listed single
  obtain ⟨error | mutants, between⟩ := picked
  · exact backed between listed
  · obtain ⟨listing, all⟩ := listed
    have clear : ∀ listed ∈ mutants,
        Clear start.workspace.here (Backup.pathOf file) listed.file := by
      cases number : options.number? with
      | some number' => exact single mutants (by simp [number]) rfl
      | none =>
        intro listed member
        obtain ⟨isFile, old, isThere⟩ := all number listed member
        exact .of_noBackup spared isThere (noBackup _ isFile) (extended _ isFile)
    have runs : Preserves (Campaign.Backed start start.workspace.here file content)
        ((found.campaign tools options digest).run mutants) :=
      Campaign.leads_run_backed stored keeps clear
    exact runs.behind (backed between listing)

theorem ensureNone_apply (files : List Path) (workspace : Workspace) :
    Backup.ensureNone files workspace =
      match Backup.firstLeftover? workspace files with
      | some (file, backup) => (.error (.orphanedBackup file backup), workspace)
      | none => (.ok (), workspace) := by
  unfold Backup.ensureNone
  rw [bind_apply]
  dsimp only [OnDisk.ask]
  cases Backup.firstLeftover? workspace files with
  | some orphan => rfl
  | none => rfl

theorem noBackup_of_firstLeftover? {workspace : Workspace} {files : List Path}
    (none : Backup.firstLeftover? workspace files = none) :
    ∀ file ∈ files, workspace.has (Backup.pathOf file) = false := by
  intro file isFile
  have noLeftover := List.findSome?_eq_none_iff.mp none file isFile
  simpa [Backup.leftover?] using noLeftover

/-- A run is refused if one of the files that it finds has a backup, and otherwise leaves all
backups alone but that of the file of one mutant that is asked for: they are there whenever a
command is started, and in the end. -/
theorem testMutants_spares_backups (tools : Tools) (options : RunOptions) (terminal : Terminal)
    (file : Path) (content : ByteArray) (inPython : tools.frontend.extensions = ["py"])
    (there : terminal.workspace.find (Backup.pathOf file) = .ok (.file content))
    (keeps : tools.executor.Keeps (Spared terminal.workspace.here (Backup.pathOf file) content))
    (single : ∀ found, (findings tools options terminal).1 = .ok found →
      options.number?.isSome = true →
      found.Avoids tools options terminal.workspace (Backup.pathOf file)) :
    match (findings tools options terminal).1 with
    | .error message => testMutants tools options terminal = (.error message, terminal)
    | .ok found =>
      match Backup.firstLeftover? terminal.workspace found.files with
      | some (first, backup) =>
        testMutants tools options terminal =
          (.error (messageOf (.orphanedBackup first backup)), terminal)
      | none =>
        (testMutants tools options terminal).2.workspace.find (Backup.pathOf file) =
            .ok (.file content) ∧
          ∀ bench, found.ended tools options terminal.workspace = .ok bench →
            ∀ event ∈ bench.log,
              event.Starts (Spared terminal.workspace.here (Backup.pathOf file) content) := by
  have isFound : Leads (· = terminal) (findings tools options) _ _ := leads_findings options
  have isFound := isFound terminal rfl
  rw [testMutants_eq, bind_apply]
  generalize outcome : findings tools options terminal = result at isFound single
  obtain ⟨error | found, now⟩ := result
  · exact congrArg _ isFound
  · obtain ⟨rfl, handled⟩ := isFound
    dsimp only
    rw [bind_apply, onDisk_apply, ensureNone_apply]
    cases leftover : Backup.firstLeftover? now.workspace found.files with
    | some orphan => rfl
    | none =>
      have extended : ∀ file ∈ found.files, file.extension? = some "py" := by
        intro file isFile
        have isPython := handled file isFile
        simpa [Frontend.handles, inPython, Option.any_eq_true] using isPython
      have backed (digest : String) (cache : Cache)
          (opens : Cache.openIn now.workspace ⟨"."⟩ = .ok cache) :
          Campaign.Backed ⟨now.workspace, cache, 0, []⟩ now.workspace.here file content
            (found.course tools options digest ⟨now.workspace, cache, 0, []⟩).2 := by
        refine course_backed digest (Cache.path_of_openIn opens) extended
          (noBackup_of_firstLeftover? leftover) there keeps fun mutants isSingle isPicked => ?_
        refine single found rfl isSingle mutants ?_
        simp only [Findings.picked, opens]
        exact isPicked
      refine ⟨?_, fun bench isEnded event member => ?_⟩
      · exact (leads_carryOut options
          (fun workspace => workspace.find (Backup.pathOf file) = .ok (.file content)) there
          fun digest cache opens => (backed digest cache opens).2.found).behind rfl
      · obtain ⟨digest, -, isEnded⟩ := Workspace.ok_of_bind isEnded
        obtain ⟨cache, opens, isEnded⟩ := Workspace.ok_of_bind isEnded
        obtain rfl := Except.ok.inj isEnded
        obtain ⟨later, shape, starts⟩ := (backed digest cache opens).1.log
        exact starts event (by simpa [shape] using member)

end Courses

/-- Tools for sources that consist of one assignment, whose commands succeed and change nothing. -/
def idleTools : Tools where
  frontend := Python.frontend fun _ => some Campaign.assignment
  executor := ⟨fun _ workspace _ _ => (⟨[], .exited 0, .zero⟩, workspace)⟩

/-- A stored cache with one mutant of a source. -/
def storedMutant : String :=
  "\x7b\"version\":2,\"next_id\":2,\"files\":\x7b\"a.py\":\x7b\"lines\":[\x7b\"line\":\"x = 1\"," ++
    "\"line_number\":0,\"mutants\":[\x7b\"id\":1,\"index\":0,\"status\":\"UNTESTED\"\x7d]\x7d]\x7d\x7d\x7d"

/-- Two sources, the stored cache, and the backup that an interrupted run has left of a file. -/
def interrupted (file : Path) : Workspace :=
  let source : Entry := .file Campaign.assignmentText.toUTF8
  let sources : Workspace :=
    ⟨.directory [(Cache.fileName.text, .file storedMutant.toUTF8), ("a.py", source),
      ("b.py", source)], [], []⟩
  sources.put [(Backup.pathOf file).text] (some (.file "precious\n".toUTF8))

/-- A run of the one mutant, with the other file to be mutated. -/
def ofOne : RunOptions where
  number? := some 1
  paths := [⟨"b.py"⟩]
  testDirectories := Discovery.defaultTestDirectories
  excluded := []
  coverage? := none
  patch? := none
  measuresAgain := false
  settings := {}

/-- The backup of a third file is still there after this run. -/
theorem single_spares_neighbour :
    let before := interrupted ⟨"c.py"⟩
    let terminal : Terminal := ⟨before, "", ""⟩
    let precious : Entry := .file "precious\n".toUTF8
    before.find (Backup.pathOf ⟨"c.py"⟩) = .ok precious ∧
      idleTools.executor.Keeps
        (Spared before.here (Backup.pathOf ⟨"c.py"⟩) "precious\n".toUTF8) ∧
      (∀ found, (findings idleTools ofOne terminal).1 = .ok found →
        found.Avoids idleTools ofOne before (Backup.pathOf ⟨"c.py"⟩)) ∧
      (testMutants idleTools ofOne terminal).2.workspace.find (Backup.pathOf ⟨"c.py"⟩) =
        .ok precious := by
  intro before terminal precious
  have there : before.find (Backup.pathOf ⟨"c.py"⟩) = .ok precious :=
    Workspace.find_of_readText (ok_of_toOption (by decide +kernel))
  have source : before.find ⟨"a.py"⟩ = .ok (.file Campaign.assignmentText.toUTF8) :=
    Workspace.find_of_readText (ok_of_toOption (by decide +kernel))
  have keeps : idleTools.executor.Keeps
      (Spared before.here (Backup.pathOf ⟨"c.py"⟩) "precious\n".toUTF8) :=
    fun _ _ _ _ spared => spared
  have clear : Clear before.here (Backup.pathOf ⟨"c.py"⟩) ⟨"a.py"⟩ :=
    .of_noBackup ⟨rfl, there⟩ source (by decide +kernel) (by decide)
  have isPicked : (findings idleTools ofOne terminal).1.toOption.bind (fun found =>
      (found.picked idleTools ofOne before).toOption.map fun picked => (found.files, picked)) =
        some ([⟨"b.py"⟩], [⟨⟨"a.py"⟩, [Campaign.assignmentId]⟩]) := by decide +kernel
  have avoids (found : Findings) (isFound : (findings idleTools ofOne terminal).1 = .ok found) :
      found.Avoids idleTools ofOne before (Backup.pathOf ⟨"c.py"⟩) := by
    intro mutants picked listed member
    simp only [isFound, picked, Except.toOption, Option.bind_some, Option.map_some,
      Option.some.injEq, Prod.mk.injEq] at isPicked
    rw [isPicked.2] at member
    exact List.mem_singleton.mp member ▸ clear
  refine ⟨there, keeps, avoids, ?_⟩
  have spares := testMutants_spares_backups idleTools ofOne terminal ⟨"c.py"⟩
    "precious\n".toUTF8 rfl there keeps fun found isFound _ => avoids found isFound
  generalize (findings idleTools ofOne terminal).1 = outcome at spares isPicked
  cases outcome with
  | error message => simp [Except.toOption] at isPicked
  | ok found =>
    have isFiles : found.files = [⟨"b.py"⟩] := by
      rw [Except.toOption, Option.bind_some, Option.map_eq_some_iff] at isPicked
      obtain ⟨picked, -, isPicked⟩ := isPicked
      exact (Prod.mk.inj isPicked).1
    have noLeftover : Backup.firstLeftover? terminal.workspace found.files = none := by
      rw [isFiles]
      decide +kernel
    dsimp only at spares
    rw [noLeftover] at spares
    exact spares.1

/-- A run of one mutant overwrites the backup of its file if other files are to be mutated, and in
the end the backup is lost, though the commands leave it alone. -/
theorem single_overwrites_backup :
    let arguments := ["run", "1", "--paths-to-mutate", "b.py"]
    let outcome := perform idleTools [] arguments (interrupted ⟨"a.py"⟩)
    (∀ turn workspace command limit?,
        (idleTools.executor.run turn workspace command limit?).2 = workspace) ∧
      ((interrupted ⟨"a.py"⟩).readText (Backup.pathOf ⟨"a.py"⟩)).toOption = some "precious\n" ∧
      outcome.workspace.has (Backup.pathOf ⟨"a.py"⟩) = false ∧
      (outcome.workspace.readText ⟨"a.py"⟩).toOption = some Campaign.assignmentText :=
  ⟨fun _ _ _ _ => rfl, by decide +kernel⟩

end MutationTesting.CommandLine
