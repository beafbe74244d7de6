import MutationTesting.FileSystem.Workspace
import MutationTesting.Proofs.FileSystem.Name
/-! What stands at the addresses of a workspace, without what is below it. An operation on files
changes this at the addresses of its paths alone, and none makes or removes a directory there; so
other paths lead where they led. -/
namespace MutationTesting

/-- What stands at an address. -/
inductive Stand where
  | nothing
  | directory
  | file (content : ByteArray)

/-- A file with a content, or nothing. -/
def Stand.ofContent : Option ByteArray → Stand
  | some content => .file content
  | none => .nothing

namespace Entry

/-- What stands at an address below an entry. -/
def stand (top : Entry) (address : List String) : Stand :=
  match top.get? address with
  | some (.file content) => .file content
  | some (.directory _) => .directory
  | none => .nothing

theorem stand_file_cons (content : ByteArray) (name : String) (rest : List String) :
    (file content).stand (name :: rest) = .nothing := rfl

theorem stand_directory_cons (entries : List (String × Entry)) (name : String)
    (rest : List String) :
    (directory entries).stand (name :: rest) =
      match entries.lookup name with
      | some below => below.stand rest
      | none => .nothing := by
  simp only [stand, get?, Entry.entries]
  cases entries.lookup name <;> rfl

theorem stand_ofContent (content? : Option ByteArray) (top : Entry) (address : List String)
    (there : top.get? address = content?.map .file) : top.stand address = .ofContent content? := by
  unfold stand
  rw [there]
  cases content? <;> rfl

/-- What is put at an address without a directory is the only thing that changes. -/
theorem stand_set_of_ne {top : Entry} {address other : List String}
    (free : top.stand address ≠ .directory) (content? : Option ByteArray)
    (apart : other ≠ address) :
    (top.set address (content?.map .file)).stand other = top.stand other := by
  induction address generalizing top other with
  | nil => rfl
  | cons name rest ih =>
    cases top with
    | file content => cases rest <;> rfl
    | directory entries =>
      cases other with
      | nil =>
        cases rest with
        | nil => rfl
        | cons second rest =>
          simp only [set]
          split <;> rfl
      | cons first below =>
        rw [stand_directory_cons] at free
        cases rest with
        | nil =>
          simp only [set, stand_directory_cons, lookup_setNamed]
          by_cases same : first = name
          · subst same
            obtain ⟨second, further, rfl⟩ : ∃ second further, below = second :: further :=
              List.exists_cons_of_ne_nil (by simpa using apart)
            cases found : entries.lookup first with
            | none => cases content? <;> simp [stand_file_cons]
            | some entry =>
              cases entry with
              | directory inner => simp [found, stand, get?] at free
              | file content => cases content? <;> simp [stand_file_cons]
          · simp only [same, if_false]
        | cons second rest =>
          cases found : entries.lookup name with
          | none => simp only [set, found]
          | some entry =>
            simp only [found] at free
            simp only [set, found, stand_directory_cons, lookup_insertNamed]
            by_cases same : first = name
            · subst same
              simp only [if_true, found]
              exact ih free (by simpa using apart)
            · simp only [same, if_false]

theorem stand_set_ne_directory {top : Entry} {address : List String}
    (free : top.stand address ≠ .directory) (content? : Option ByteArray) :
    (top.set address (content?.map .file)).stand address ≠ .directory := by
  induction address generalizing top with
  | nil => exact free
  | cons name rest ih =>
    cases top with
    | file content => cases rest <;> exact free
    | directory entries =>
      cases rest with
      | nil =>
        simp only [set, stand_directory_cons, lookup_setNamed, if_true]
        cases content? <;> simp [stand, get?]
      | cons second rest =>
        cases found : entries.lookup name with
        | none => simpa only [set, found] using free
        | some entry =>
          rw [stand_directory_cons, found] at free
          simp only [set, found, stand_directory_cons, lookup_insertNamed, if_true]
          exact ih free

theorem stand_of_append {top : Entry} {address further : List String}
    (there : top.stand (address ++ further) ≠ .nothing) (isBelow : further ≠ []) :
    top.stand address = .directory := by
  induction address generalizing top with
  | nil =>
    cases top with
    | file content =>
      obtain ⟨name, rest, rfl⟩ := List.exists_cons_of_ne_nil isBelow
      exact absurd (stand_file_cons content name rest) there
    | directory entries => rfl
  | cons name rest ih =>
    cases top with
    | file content => exact absurd (stand_file_cons content name _) there
    | directory entries =>
      rw [List.cons_append, stand_directory_cons] at there
      rw [stand_directory_cons]
      cases found : entries.lookup name with
      | none => simp [found] at there
      | some below =>
        simp only [found] at there ⊢
        exact ih there

theorem stand_of_prefix {top : Entry} {address below : List String}
    (isDirectory : top.stand below = .directory) (above : address <+: below) :
    top.stand address = .directory := by
  obtain ⟨further, rfl⟩ := above
  by_cases isBelow : further = []
  · rwa [isBelow, List.append_nil] at isDirectory
  · exact stand_of_append (by simp [isDirectory]) isBelow

end Entry

namespace Workspace

/-- What stands at an address of the workspace. -/
def stand (workspace : Workspace) (address : List String) : Stand :=
  workspace.top.stand address

/-- Where a path leads by its components alone. -/
def target (workspace : Workspace) (path : Path) : List String :=
  path.components.foldl stepTo workspace.here

/-- Two workspaces that differ at certain addresses only, and not in their directories. -/
structure SameBut (changed : List String → Prop) (before after : Workspace) : Prop where
  here : after.here = before.here
  stand : ∀ address, ¬ changed address → after.stand address = before.stand address
  directory : ∀ address, after.stand address = .directory ↔ before.stand address = .directory

namespace SameBut

variable {changed further : List String → Prop} {before between after : Workspace}

theorem refl (changed : List String → Prop) (workspace : Workspace) :
    SameBut changed workspace workspace :=
  ⟨rfl, fun _ _ => rfl, fun _ => Iff.rfl⟩

theorem symm (same : SameBut changed before after) : SameBut changed after before where
  here := same.here.symm
  stand address other := (same.stand address other).symm
  directory address := (same.directory address).symm

theorem trans (first : SameBut changed before between) (second : SameBut changed between after) :
    SameBut changed before after where
  here := second.here.trans first.here
  stand address same := (second.stand address same).trans (first.stand address same)
  directory address := (second.directory address).trans (first.directory address)

theorem mono (same : SameBut changed before after)
    (fewer : ∀ address, changed address → further address) : SameBut further before after where
  here := same.here
  stand address other := same.stand address fun isChanged => other (fewer address isChanged)
  directory := same.directory

theorem target (same : SameBut changed before after) (path : Path) :
    after.target path = before.target path := by
  simp only [Workspace.target, same.here]

end SameBut

end Workspace

end MutationTesting

/-! Where paths lead. A path leads on through directories only, so in two workspaces with the same
directories it leads to the same address. -/
namespace MutationTesting.Workspace

theorem ok_of_bind {ε α β : Type} {first : Except ε α} {next : α → Except ε β} {value : β}
    (done : first >>= next = .ok value) :
    ∃ between, first = .ok between ∧ next between = .ok value := by
  cases first with
  | error fault => contradiction
  | ok between => exact ⟨between, rfl, done⟩

theorem get?_directory {top : Entry} {address : List String} :
    top.stand address = .directory ↔ ∃ entries, top.get? address = some (.directory entries) := by
  unfold Entry.stand
  cases top.get? address with
  | none => simp
  | some entry => cases entry <;> simp

theorem follow_concat (top : Entry) (address : List String) (components : List Component)
    (last : Component) :
    follow top address (components ++ [last]) =
      (follow top address components).bind fun way => follow top way [last] := by
  induction components generalizing address with
  | nil => rfl
  | cons component rest ih =>
    simp only [List.cons_append, follow]
    split
    · split
      · rfl
      · exact ih _
    · rfl
    · rfl

theorem follow_single {top : Entry} {address found : List String} {component : Component}
    (leads : follow top address [component] = .ok found) :
    top.stand address = .directory ∧ found = stepTo address component := by
  unfold follow at leads
  split at leads
  · rename_i entries there
    split at leads
    · contradiction
    · exact ⟨get?_directory.mpr ⟨entries, there⟩, (Except.ok.inj leads).symm⟩
  · contradiction
  · contradiction

theorem follow_eq {top : Entry} {address found : List String} {components : List Component}
    (leads : follow top address components = .ok found) :
    found = components.foldl stepTo address := by
  induction components generalizing address with
  | nil => exact (Except.ok.inj leads).symm
  | cons component rest ih =>
    unfold follow at leads
    split at leads
    · split at leads
      · contradiction
      · exact ih leads
    · contradiction
    · contradiction

theorem follow_of_directories {top other : Entry} {address found : List String}
    {components : List Component}
    (more : ∀ way, top.stand way = .directory → other.stand way = .directory)
    (leads : follow top address components = .ok found) :
    follow other address components = .ok found := by
  induction components generalizing address with
  | nil => exact leads
  | cons component rest ih =>
    unfold follow at leads ⊢
    split at leads
    · rename_i entries there
      obtain ⟨others, alsoThere⟩ := get?_directory.mp (more _ (get?_directory.mpr ⟨entries, there⟩))
      rw [alsoThere]
      dsimp only
      split at leads
      · contradiction
      · rename_i short
        rw [if_neg short]
        exact ih leads
    · contradiction
    · contradiction

variable {workspace before after : Workspace} {path : Path} {address : List String}
  {content : ByteArray}

theorem address_eq (leads : workspace.address path = .ok address) :
    address = workspace.target path := by
  unfold Workspace.address at leads
  repeat' split at leads
  · contradiction
  · contradiction
  · contradiction
  · exact follow_eq leads

theorem SameBut.address_eq {changed : List String → Prop} (same : SameBut changed before after)
    (leads : before.address path = .ok address) : after.address path = .ok address := by
  unfold Workspace.address at leads ⊢
  repeat' split at leads
  · contradiction
  · contradiction
  · contradiction
  · rename_i written noZero short
    rw [if_neg written, if_neg noZero, if_neg short, same.here]
    exact follow_of_directories (fun way => (same.directory way).mpr) leads

/-- A path that leads to anything but a directory ends with its name, and what is above is a
directory. -/
theorem parent_of_address (leads : workspace.address path = .ok address)
    (noDirectory : workspace.stand address ≠ .directory) :
    ∃ front name, path.components = front ++ [.name name] ∧
      address = front.foldl stepTo workspace.here ++ [name] ∧
      workspace.stand (front.foldl stepTo workspace.here) = .directory := by
  have target := address_eq leads
  unfold Workspace.address at leads
  repeat' split at leads
  · contradiction
  · contradiction
  · contradiction
  · rename_i written _ _
    obtain ⟨front, last, shape⟩ : ∃ front last, path.components = front ++ [last] :=
      ⟨_, _, (List.dropLast_concat_getLast (Path.components_ne_nil written)).symm⟩
    rw [shape, follow_concat] at leads
    cases way : follow workspace.top workspace.here front with
    | error fault => simp [way, Except.bind] at leads
    | ok above =>
      simp only [way, Except.bind] at leads
      obtain ⟨isDirectory, found⟩ := follow_single leads
      obtain rfl := follow_eq way
      cases last with
      | name name => exact ⟨front, name, shape, found, isDirectory⟩
      | current => exact absurd (found ▸ isDirectory) noDirectory
      | root =>
        subst found
        exact absurd (Entry.stand_of_prefix isDirectory List.nil_prefix) noDirectory
      | parent =>
        subst found
        exact absurd (Entry.stand_of_prefix isDirectory (List.dropLast_prefix _)) noDirectory

/-- Where a path leads in one workspace, a path to another name in the same directory leads in another
one if it does not fail for its text. -/
theorem address_sibling {further : Workspace} {file : Path} {place : List String}
    {front : List Component} {name other : String}
    (shape : file.components = front ++ [.name name])
    (sibling : path.components = front ++ [.name other])
    (leads : workspace.address file = .ok address) (elsewhere : further.address path = .ok place) :
    ∃ found, workspace.address path = .ok found := by
  unfold Workspace.address at leads elsewhere ⊢
  repeat' split at leads
  · contradiction
  · contradiction
  · contradiction
  repeat' split at elsewhere
  · contradiction
  · contradiction
  · contradiction
  rename_i written noZero short
  rw [if_neg written, if_neg noZero, if_neg short, sibling, follow_concat]
  rw [shape, follow_concat] at leads
  rw [sibling, follow_concat] at elsewhere
  cases above : follow workspace.top workspace.here front with
  | error fault => simp [above, Except.bind] at leads
  | ok way =>
    simp only [above, Except.bind] at leads ⊢
    obtain ⟨entries, there⟩ := get?_directory.mp (follow_single leads).1
    cases beyond : follow further.top further.here front with
    | error fault => simp [beyond, Except.bind] at elsewhere
    | ok wayBeyond =>
      simp only [beyond, Except.bind, follow] at elsewhere
      split at elsewhere
      · split at elsewhere
        · contradiction
        · rename_i shortName
          exact ⟨stepTo way (.name other), by simp [follow, there, shortName]⟩
      · contradiction
      · contradiction

theorem find_eq (leads : workspace.address path = .ok address) :
    workspace.find path =
      match workspace.at? address with
      | none => .error .notFound
      | some entry =>
        if namesDirectory path ∧ entry.isFile then .error .notDirectory else .ok entry := by
  unfold find
  rw [leads]
  rfl

theorem find_file_iff :
    workspace.find path = .ok (.file content) ↔
      ∃ address, workspace.address path = .ok address ∧ workspace.stand address = .file content ∧
        namesDirectory path = false := by
  cases leads : workspace.address path with
  | error fault => simp [find, leads, bind, Except.bind]
  | ok address =>
    rw [find_eq leads]
    simp only [stand, Entry.stand, at?, Except.ok.injEq, exists_eq_left']
    cases workspace.top.get? address with
    | none => simp
    | some entry =>
      cases entry with
      | directory entries => simp [Entry.isFile, Entry.isDirectory]
      | file inner => cases namesDirectory path <;> simp [Entry.isFile, Entry.isDirectory]

theorem read_eq (workspace : Workspace) (path : Path) :
    workspace.read path = (workspace.address path).bind fun address =>
      match workspace.stand address with
      | .nothing => .error .notFound
      | .directory => .error .isDirectory
      | .file content => if namesDirectory path then .error .notDirectory else .ok content := by
  cases leads : workspace.address path with
  | error fault => simp [read, find, leads, bind, Except.bind]
  | ok address =>
    dsimp only [Except.bind]
    rw [read, find_eq leads, stand, Entry.stand, at?]
    cases workspace.top.get? address with
    | none => rfl
    | some entry =>
      cases entry with
      | directory entries => simp [Entry.isFile, Entry.isDirectory, bind, Except.bind]
      | file content =>
        cases namesDirectory path <;>
          simp [Entry.isFile, Entry.isDirectory, bind, Except.bind]

theorem read_eq_ok {content : ByteArray} :
    workspace.read path = .ok content ↔ workspace.find path = .ok (.file content) := by
  constructor
  · intro isRead
    obtain ⟨entry, found, isRead⟩ := ok_of_bind isRead
    cases entry with
    | directory entries => contradiction
    | file other => rw [found, Except.ok.inj isRead]
  · intro found
    rw [read, found]
    rfl

theorem readText_congr {further : Workspace} (same : further.find path = workspace.find path) :
    further.readText path = workspace.readText path := by
  simp only [readText, read, same]

theorem find_of_readText {text : String} (isText : workspace.readText path = .ok text) :
    workspace.find path = .ok (.file text.toUTF8) := by
  obtain ⟨content, isRead, isText⟩ := ok_of_bind isText
  obtain ⟨entry, found, isRead⟩ := ok_of_bind isRead
  cases entry with
  | directory entries => contradiction
  | file inner =>
    obtain rfl := Except.ok.inj isRead
    unfold String.fromUTF8? at isText
    split at isText
    · rename_i valid
      split at valid
      · obtain rfl := Except.ok.inj isText
        obtain rfl := Option.some.inj valid
        exact found
      · contradiction
    · contradiction

theorem readText_of_find {text : String} (found : workspace.find path = .ok (.file text.toUTF8)) :
    workspace.readText path = .ok text := by
  have decoded : String.fromUTF8? text.toUTF8 = some text := dif_pos text.isValidUTF8
  have isRead : workspace.read path = .ok text.toUTF8 := by
    rw [read, found]
    rfl
  rw [readText, isRead]
  simp only [bind, Except.bind, decoded]

theorem readText_of_noText (found : workspace.find path = .ok (.file content))
    (noText : ∀ text : String, content ≠ text.toUTF8) :
    workspace.readText path = .error .invalidText := by
  have decoded : String.fromUTF8? content = none := dif_neg fun valid => noText ⟨content, valid⟩ rfl
  rw [readText, read_eq_ok.mpr found]
  simp only [bind, Except.bind, decoded]

theorem has_iff :
    workspace.has path = true ↔
      ∃ address, workspace.address path = .ok address ∧ workspace.stand address ≠ .nothing ∧
        (namesDirectory path = true → workspace.stand address = .directory) := by
  cases leads : workspace.address path with
  | error fault => simp [has, find, leads, bind, Except.bind, Except.isOk, Except.toBool]
  | ok address =>
    simp only [has, find_eq leads, stand, Entry.stand, at?, Except.ok.injEq, exists_eq_left']
    cases workspace.top.get? address with
    | none => simp [Except.isOk, Except.toBool]
    | some entry =>
      cases entry with
      | directory entries => simp [Entry.isFile, Entry.isDirectory, Except.isOk, Except.toBool]
      | file inner =>
        cases namesDirectory path <;>
          simp [Entry.isFile, Entry.isDirectory, Except.isOk, Except.toBool]

theorem has_of_find (found : workspace.find path = .ok (.file content)) :
    workspace.has path = true := by
  simp [has, found, Except.isOk, Except.toBool]

theorem stand_of_find (found : workspace.find path = .ok (.file content)) :
    workspace.stand (workspace.target path) = .file content := by
  obtain ⟨address, leads, there, -⟩ := find_file_iff.mp found
  rwa [← address_eq leads]

theorem not_has_of_nothing (nothing : workspace.stand (workspace.target path) = .nothing) :
    workspace.has path = false := by
  refine Bool.eq_false_iff.mpr fun has => ?_
  obtain ⟨address, leads, there, -⟩ := has_iff.mp has
  exact there (address_eq leads ▸ nothing)

namespace SameBut

variable {changed : List String → Prop}

theorem find_file (same : SameBut changed before after) (other : ¬ changed (before.target path))
    (found : before.find path = .ok (.file content)) :
    after.find path = .ok (.file content) := by
  obtain ⟨address, leads, there, plain⟩ := find_file_iff.mp found
  rw [← Workspace.address_eq leads] at other
  exact find_file_iff.mpr ⟨address, same.address_eq leads, (same.stand _ other).trans there, plain⟩

theorem has_of_has (same : SameBut changed before after)
    (other : ¬ changed (before.target path)) (has : before.has path = true) :
    after.has path = true := by
  obtain ⟨address, leads, there, plain⟩ := has_iff.mp has
  rw [← Workspace.address_eq leads] at other
  have unchanged := same.stand _ other
  exact has_iff.mpr ⟨address, same.address_eq leads, by rwa [unchanged],
    fun isDirectory => unchanged.trans (plain isDirectory)⟩

theorem has (same : SameBut changed before after) (other : ¬ changed (before.target path)) :
    after.has path = before.has path := by
  refine Bool.eq_iff_iff.mpr ⟨same.symm.has_of_has ?_, same.has_of_has other⟩
  rwa [same.target]

theorem has_eq_false (same : SameBut changed before after) (hasNot : before.has path = false)
    (there : before.stand (before.target path) ≠ .nothing)
    (plain : namesDirectory path = false) : after.has path = false := by
  refine Bool.eq_false_iff.mpr fun has => ?_
  obtain ⟨address, leads, -, -⟩ := has_iff.mp has
  have ledBefore := same.symm.address_eq leads
  have hadBefore : before.has path = true :=
    has_iff.mpr ⟨address, ledBefore, by rwa [Workspace.address_eq ledBefore], by simp [plain]⟩
  rw [hasNot] at hadBefore
  contradiction

theorem find_file_of_stand {old : ByteArray} (same : SameBut changed before after)
    (found : before.find path = .ok (.file old))
    (there : after.stand (before.target path) = .file content) :
    after.find path = .ok (.file content) := by
  obtain ⟨address, leads, -, plain⟩ := find_file_iff.mp found
  rw [← Workspace.address_eq leads] at there
  exact find_file_iff.mpr ⟨address, same.address_eq leads, there, plain⟩

end SameBut

end MutationTesting.Workspace
