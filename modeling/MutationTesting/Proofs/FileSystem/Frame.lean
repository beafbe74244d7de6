import MutationTesting.Proofs.FileSystem.Lookup
/-! What operations on files change. Writing and removing change what stands at one address,
renaming what stands at two. -/
namespace MutationTesting.Workspace

variable {workspace after : Workspace} {path : Path} {address : List String}
  {content : ByteArray}

theorem put_sameBut (free : workspace.stand address ≠ .directory) (content? : Option ByteArray) :
    SameBut (· = address) workspace (workspace.put address (content?.map .file)) where
  here := rfl
  stand other apart := Entry.stand_set_of_ne free content? apart
  directory other := by
    by_cases same : other = address
    · subst same
      exact iff_of_false (Entry.stand_set_ne_directory free content?) free
    · have unchanged := Entry.stand_set_of_ne free content? same
      exact ⟨unchanged.symm.trans, unchanged.trans⟩

theorem stand_put {parent : List String} (isDirectory : workspace.stand parent = .directory)
    (name : String) (content? : Option ByteArray) :
    (workspace.put (parent ++ [name]) (content?.map .file)).stand (parent ++ [name]) =
      .ofContent content? := by
  obtain ⟨entries, there⟩ := get?_directory.mp isDirectory
  exact Entry.stand_ofContent _ _ _ (Entry.get?_set _ _ _ name _ there rfl)

theorem fileAddress_spec (leads : workspace.fileAddress path = .ok address) :
    workspace.address path = .ok address ∧ workspace.stand address ≠ .directory ∧
      namesDirectory path = false := by
  obtain ⟨found, way, leads⟩ := ok_of_bind leads
  simp only [stand, Entry.stand, at?] at leads ⊢
  cases there : workspace.top.get? found with
  | none =>
    simp only [there] at leads
    split at leads
    · contradiction
    · split at leads
      · contradiction
      · simp_all
  | some entry =>
    cases entry with
    | directory entries => simp [there] at leads
    | file content => cases plain : namesDirectory path <;> simp_all

/-- Putting a content into a file changes what stands where its path leads. -/
theorem replace_spec (replaced : workspace.replace path content = .ok after) :
    SameBut (· = workspace.target path) workspace after ∧
      after.find path = .ok (.file content) := by
  obtain ⟨address, way, replaced⟩ := ok_of_bind replaced
  obtain rfl := Except.ok.inj replaced
  obtain ⟨leads, free, plain⟩ := fileAddress_spec way
  have same := put_sameBut free (some content)
  obtain ⟨front, name, -, shape, isDirectory⟩ := parent_of_address leads free
  have there : (workspace.put address (some (.file content))).stand address = .file content := by
    rw [shape]
    exact stand_put isDirectory name (some content)
  exact ⟨address_eq leads ▸ same,
    find_file_iff.mpr ⟨address, same.address_eq leads, there, plain⟩⟩

theorem write_spec (written : workspace.write path content = .ok after) :
    SameBut (· = workspace.target path) workspace after ∧
      after.find path = .ok (.file content) := by
  obtain ⟨between, emptied, filled⟩ := ok_of_bind written
  have first := (replace_spec (show workspace.replace path .empty = .ok between from emptied)).1
  obtain ⟨second, found⟩ := replace_spec filled
  rw [first.target] at second
  exact ⟨first.trans second, found⟩

theorem replace_of_find {old : ByteArray} (found : workspace.find path = .ok (.file old))
    (content : ByteArray) : ∃ after, workspace.replace path content = .ok after := by
  obtain ⟨address, leads, there, plain⟩ := find_file_iff.mp found
  have way : workspace.fileAddress path = .ok address := by
    unfold fileAddress
    rw [leads]
    simp only [stand, Entry.stand] at there
    split at there
    · rename_i entry
      simp [bind, Except.bind, at?, entry, plain]
    · contradiction
    · contradiction
  unfold replace
  rw [way]
  exact ⟨_, rfl⟩

theorem write_of_find {old : ByteArray} (found : workspace.find path = .ok (.file old))
    (content : ByteArray) : ∃ after, workspace.write path content = .ok after := by
  obtain ⟨between, emptied⟩ := replace_of_find found .empty
  obtain ⟨after, filled⟩ := replace_of_find (replace_spec emptied).2 content
  refine ⟨after, ?_⟩
  unfold write
  rw [show workspace.truncate path = .ok between from emptied]
  exact filled

theorem removeFile_spec (removed : workspace.removeFile path = .ok after) :
    SameBut (· = workspace.target path) workspace after := by
  obtain ⟨entry, found, removed⟩ := ok_of_bind removed
  cases entry with
  | directory entries => contradiction
  | file content =>
    obtain ⟨address, leads, removed⟩ := ok_of_bind removed
    obtain rfl := Except.ok.inj removed
    have there := stand_of_find found
    rw [← address_eq leads] at there ⊢
    exact put_sameBut (by simp [there]) none

theorem copy_spec {old : Path} (copied : workspace.copy old path = .ok after) :
    SameBut (· = workspace.target path) workspace after := by
  obtain ⟨entry, found, copied⟩ := ok_of_bind copied
  cases entry with
  | directory entries => contradiction
  | file content =>
    obtain ⟨between, written, copied⟩ := ok_of_bind copied
    obtain ⟨target, -, copied⟩ := ok_of_bind copied
    obtain ⟨source, -, copied⟩ := ok_of_bind copied
    obtain rfl := Except.ok.inj copied
    have same := (write_spec written).1
    exact ⟨same.here, same.stand, same.directory⟩

theorem find_of_copy {old : Path} (copied : workspace.copy old path = .ok after)
    (found : workspace.find old = .ok (.file content)) : after.find path = .ok (.file content) := by
  obtain ⟨entry, foundOld, copied⟩ := ok_of_bind copied
  obtain rfl := Except.ok.inj (found.symm.trans foundOld)
  obtain ⟨between, written, copied⟩ := ok_of_bind copied
  obtain ⟨target, -, copied⟩ := ok_of_bind copied
  obtain ⟨source, -, copied⟩ := ok_of_bind copied
  obtain rfl := Except.ok.inj copied
  exact (write_spec written).2

theorem not_prefix_of_file {source target : List String} {moved replaced : ByteArray}
    (thereSource : workspace.stand source = .file moved)
    (thereTarget : workspace.stand target = .file replaced) (apart : source ≠ target) :
    source.isPrefixOf target = false := by
  refine Bool.eq_false_iff.mpr fun isAbove => ?_
  obtain ⟨further, rfl⟩ := List.isPrefixOf_iff_prefix.mp isAbove
  have isBelow : further ≠ [] := by
    rintro rfl
    exact apart (List.append_nil source).symm
  have isDirectory : workspace.stand source = .directory :=
    Entry.stand_of_append (fun nothing => by
      rw [stand, nothing] at thereTarget
      contradiction) isBelow
  rw [thereSource] at isDirectory
  contradiction

/-- What a move leaves: nothing where the file stood, and the file where it was moved to. -/
theorem move_spec {source target above beyond : List String} {old new : String}
    {moved : ByteArray} (isSource : source = above ++ [old])
    (isTarget : target = beyond ++ [new]) (isAbove : workspace.stand above = .directory)
    (isBeyond : workspace.stand beyond = .directory)
    (thereSource : workspace.stand source = .file moved)
    (free : workspace.stand target ≠ .directory) (apart : source ≠ target) :
    let after := workspace.move (.file moved) source target
    SameBut (fun address => address = source ∨ address = target) workspace after ∧
      after.stand source = .nothing ∧ after.stand target = .file moved := by
  have first : SameBut (· = target) workspace (workspace.put target none) :=
    put_sameBut free none
  have second : SameBut (· = source) (workspace.put target none)
      ((workspace.put target none).put source none) :=
    put_sameBut (by simp [first.stand source apart, thereSource]) none
  have noTarget : ((workspace.put target none).put source none).stand target = .nothing := by
    rw [second.stand target apart.symm, isTarget]
    exact stand_put isBeyond new none
  have noSource : ((workspace.put target none).put source none).stand source = .nothing := by
    rw [isSource]
    exact stand_put ((first.directory above).mpr isAbove) old none
  have third : SameBut (· = target) ((workspace.put target none).put source none)
      (((workspace.put target none).put source none).put target (some (.file moved))) :=
    put_sameBut (by simp [noTarget]) (some moved)
  have isBeyondStill := (second.directory beyond).mpr ((first.directory beyond).mpr isBeyond)
  have all : SameBut (fun address => address = source ∨ address = target) workspace _ :=
    ((first.mono fun _ => .inr).trans (second.mono fun _ => .inl)).trans (third.mono fun _ => .inr)
  have isMoved := stand_put isBeyondStill new (some moved)
  rw [← isTarget] at isMoved
  exact ⟨⟨all.here, all.stand, all.directory⟩, (third.stand source apart).trans noSource, isMoved⟩

/-- A file that has been moved is where it was moved to, whatever there was before. -/
theorem find_of_rename {old new : Path} {moved : ByteArray}
    (renamed : workspace.rename old new = .ok after)
    (found : workspace.find old = .ok (.file moved))
    (apart : workspace.target old ≠ workspace.target new) :
    SameBut (fun address => address = workspace.target old ∨ address = workspace.target new)
        workspace after ∧
      after.stand (workspace.target old) = .nothing ∧
      after.find new = .ok (.file moved) := by
  obtain ⟨source, isSource, renamed⟩ := ok_of_bind renamed
  obtain ⟨target, isTarget, renamed⟩ := ok_of_bind renamed
  dsimp only at renamed
  split at renamed
  · contradiction
  rename_i named
  simp only [not_or, Option.not_isSome_iff_eq_none] at named
  simp only [parentAddress, named.1, named.2] at isSource isTarget
  obtain ⟨entry, isFound, renamed⟩ := ok_of_bind renamed
  obtain rfl := Except.ok.inj (found.symm.trans isFound)
  obtain ⟨address, leads, there, -⟩ := find_file_iff.mp found
  obtain rfl := Except.ok.inj (leads.symm.trans isSource)
  rw [← address_eq leads, ← address_eq isTarget] at apart ⊢
  rw [if_neg apart] at renamed
  repeat' split at renamed
  all_goals try contradiction
  rename_i noDirectory _ _
  obtain ⟨⟨⟩, replaceable, renamed⟩ := ok_of_bind renamed
  obtain rfl := Except.ok.inj renamed
  have free : workspace.stand target ≠ .directory := by
    intro isDirectory
    obtain ⟨entries, isThere⟩ := get?_directory.mp isDirectory
    simp [at?, isThere, mayReplace, Entry.isFile, Entry.isDirectory] at replaceable
  have plain : namesDirectory new = false :=
    Bool.eq_false_iff.mpr fun names => noDirectory ⟨names, rfl⟩
  obtain ⟨frontOld, nameOld, -, shapeOld, isAbove⟩ := parent_of_address leads (by simp [there])
  obtain ⟨frontNew, nameNew, -, shapeNew, isBeyond⟩ := parent_of_address isTarget free
  obtain ⟨same, nothing, isMoved⟩ :=
    move_spec shapeOld shapeNew isAbove isBeyond there free apart
  exact ⟨same, nothing, find_file_iff.mpr ⟨target, same.address_eq isTarget, isMoved, plain⟩⟩

theorem rename_of_find {old new : Path} {moved replaced : ByteArray}
    (foundOld : workspace.find old = .ok (.file moved))
    (foundNew : workspace.find new = .ok (.file replaced))
    (plainOld : beforeDots? old = none) (plainNew : beforeDots? new = none)
    (apart : workspace.target old ≠ workspace.target new) :
    ∃ after, workspace.rename old new = .ok after ∧
      SameBut (fun address => address = workspace.target old ∨ address = workspace.target new)
        workspace after ∧
      after.stand (workspace.target old) = .nothing ∧
      after.find new = .ok (.file moved) := by
  obtain ⟨source, leadsOld, thereOld, -⟩ := find_file_iff.mp foundOld
  obtain ⟨target, leadsNew, thereNew, plain⟩ := find_file_iff.mp foundNew
  have differ : source ≠ target := by
    rwa [← address_eq leadsOld, ← address_eq leadsNew] at apart
  have notAbove := not_prefix_of_file thereOld thereNew differ
  have notBelow := not_prefix_of_file thereNew thereOld differ.symm
  have mayReplaceNew : mayReplace (.file moved) (workspace.at? target) = .ok () := by
    simp only [stand, Entry.stand] at thereNew
    split at thereNew
    · rename_i entry
      simp [at?, entry, mayReplace, Entry.isDirectory]
    · contradiction
    · contradiction
  have renamed : workspace.rename old new = .ok (workspace.move (.file moved) source target) := by
    simp [rename, parentAddress, plainOld, plainNew, leadsOld, leadsNew, foundOld, plain, differ,
      notAbove, notBelow, mayReplaceNew, bind, Except.bind, pure, Except.pure]
  exact ⟨_, renamed, find_of_rename renamed foundOld apart⟩

end MutationTesting.Workspace

/-! What a move of any entry, be it a directory, leaves as it is: all that is neither at one of its two
addresses nor below one. A file is still found if its path leads through none of these. -/
namespace MutationTesting

namespace Entry

/-- What is put at an address changes nothing that is neither there nor below. -/
theorem stand_set_of_not_prefix {top : Entry} {address other : List String} (new : Option Entry)
    (apart : ¬ address <+: other) : (top.set address new).stand other = top.stand other := by
  induction address generalizing top other with
  | nil => exact absurd List.nil_prefix apart
  | cons name rest ih =>
    cases top with
    | file content => cases rest <;> rfl
    | directory entries =>
      cases other with
      | nil =>
        cases rest with
        | nil => rfl
        | cons second rest =>
          simp only [set]
          split <;> rfl
      | cons first below =>
        cases rest with
        | nil =>
          have differs : first ≠ name := by
            rintro rfl
            exact apart ⟨below, rfl⟩
          simp only [set, stand_directory_cons, lookup_setNamed, differs, if_false]
        | cons second rest =>
          cases found : entries.lookup name with
          | none => simp only [set, found]
          | some entry =>
            simp only [set, found, stand_directory_cons, lookup_insertNamed]
            by_cases same : first = name
            · subst same
              simp only [if_true, found]
              exact ih fun isPrefix => apart (List.prefix_cons_inj first |>.mpr isPrefix)
            · simp only [same, if_false]

end Entry

namespace Workspace

/-- The addresses that components lead through, one after the other. -/
def waysFrom (address : List String) : List Component → List (List String)
  | [] => [address]
  | component :: rest => address :: waysFrom (stepTo address component) rest

/-- The addresses that a path leads through. -/
def ways (workspace : Workspace) (path : Path) : List (List String) :=
  waysFrom workspace.here path.components

variable {workspace after : Workspace} {path file old new : Path} {content : ByteArray}

theorem stand_of_mem_waysFrom {top : Entry} {address found way : List String}
    {components : List Component} (leads : follow top address components = .ok found)
    (member : way ∈ waysFrom address components) : top.stand way = .directory ∨ way = found := by
  induction components generalizing address with
  | nil =>
    obtain rfl := Except.ok.inj leads
    exact .inr (List.mem_singleton.mp member)
  | cons component rest ih =>
    unfold follow at leads
    split at leads
    · rename_i entries there
      split at leads
      · contradiction
      · obtain rfl | member := List.mem_cons.mp member
        · exact .inl (get?_directory.mpr ⟨entries, there⟩)
        · exact ih leads member
    · contradiction
    · contradiction

theorem follow_of_waysFrom {top other : Entry} {address found : List String}
    {components : List Component}
    (same : ∀ way ∈ waysFrom address components, other.stand way = top.stand way)
    (leads : follow top address components = .ok found) :
    follow other address components = .ok found := by
  induction components generalizing address with
  | nil => exact leads
  | cons component rest ih =>
    unfold follow at leads ⊢
    split at leads
    · rename_i entries there
      have stands := same address List.mem_cons_self
      rw [get?_directory.mpr ⟨entries, there⟩] at stands
      obtain ⟨others, alsoThere⟩ := get?_directory.mp stands
      rw [alsoThere]
      dsimp only
      split at leads
      · contradiction
      · rename_i short
        rw [if_neg short]
        exact ih (fun way member => same way (List.mem_cons_of_mem _ member)) leads
    · contradiction
    · contradiction

theorem target_mem_waysFrom (address : List String) (components : List Component) :
    components.foldl stepTo address ∈ waysFrom address components := by
  induction components generalizing address with
  | nil => exact List.mem_singleton.mpr rfl
  | cons component rest ih => exact List.mem_cons_of_mem _ (ih _)

theorem find_of_ways (found : workspace.find path = .ok (.file content))
    (here : after.here = workspace.here)
    (same : ∀ way ∈ workspace.ways path, after.stand way = workspace.stand way) :
    after.find path = .ok (.file content) := by
  obtain ⟨address, leads, there, plain⟩ := find_file_iff.mp found
  have isTarget := address_eq leads
  refine find_file_iff.mpr ⟨address, ?_, ?_, plain⟩
  · unfold Workspace.address at leads ⊢
    repeat' split at leads
    · contradiction
    · contradiction
    · contradiction
    · rename_i written noZero short
      rw [if_neg written, if_neg noZero, if_neg short, here]
      exact follow_of_waysFrom same leads
  · rw [same address (isTarget ▸ target_mem_waysFrom _ _)]
    exact there

theorem not_prefix_of_mem_ways {other : ByteArray} {address : List String}
    (found : workspace.find path = .ok (.file content))
    (isFile : workspace.stand address = .file other) (apart : address ≠ workspace.target path) :
    ∀ way ∈ workspace.ways path, ¬ address <+: way := by
  intro way member isAbove
  obtain ⟨place, leads, there, -⟩ := find_file_iff.mp found
  have isTarget := address_eq leads
  have notDirectory : workspace.stand address ≠ .directory := by simp [isFile]
  unfold Workspace.address at leads
  repeat' split at leads
  · contradiction
  · contradiction
  · contradiction
  · obtain isDirectory | rfl := stand_of_mem_waysFrom leads member
    · exact notDirectory (Entry.stand_of_prefix isDirectory isAbove)
    · obtain ⟨further, shape⟩ := isAbove
      by_cases isBelow : further = []
      · rw [isBelow, List.append_nil] at shape
        exact apart (shape.trans isTarget)
      · refine notDirectory (Entry.stand_of_append ?_ isBelow)
        rw [shape]
        exact fun nothing => by simp [stand, nothing] at there

theorem stand_move {entry : Entry} {source target other : List String}
    (notSource : ¬ source <+: other) (notTarget : ¬ target <+: other) :
    (workspace.move entry source target).stand other = workspace.stand other := by
  have step (workspace : Workspace) {address : List String} (new : Option Entry)
      (apart : ¬ address <+: other) :
      (workspace.put address new).stand other = workspace.stand other :=
    Entry.stand_set_of_not_prefix new apart
  have all := (step ((workspace.put target none).put source none) (some entry) notTarget).trans
    ((step (workspace.put target none) none notSource).trans (step workspace none notTarget))
  exact all

/-- What is neither where something is moved from nor where it is moved to, nor below, stands as
before. -/
theorem rename_spec (renamed : workspace.rename old new = .ok after) :
    after.here = workspace.here ∧ ∀ address, ¬ workspace.target old <+: address →
      ¬ workspace.target new <+: address → after.stand address = workspace.stand address := by
  obtain ⟨source, isSource, renamed⟩ := ok_of_bind renamed
  obtain ⟨target, isTarget, renamed⟩ := ok_of_bind renamed
  dsimp only at renamed
  split at renamed
  · contradiction
  · rename_i named
    simp only [not_or, Option.not_isSome_iff_eq_none] at named
    simp only [parentAddress, named.1, named.2] at isSource isTarget
    obtain rfl := address_eq isSource
    obtain rfl := address_eq isTarget
    obtain ⟨entry, -, renamed⟩ := ok_of_bind renamed
    have moved : after = workspace ∨
        after = workspace.move entry (workspace.target old) (workspace.target new) := by
      repeat' split at renamed
      all_goals first
        | contradiction
        | exact .inl (Except.ok.inj renamed).symm
        | obtain ⟨_, -, renamed⟩ := ok_of_bind renamed
          exact .inr (Except.ok.inj renamed).symm
    obtain rfl | rfl := moved
    · exact ⟨rfl, fun _ _ _ => rfl⟩
    · exact ⟨rfl, fun _ => stand_move⟩

end Workspace

end MutationTesting
