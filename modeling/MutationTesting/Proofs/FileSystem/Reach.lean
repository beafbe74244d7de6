import MutationTesting.Proofs.FileSystem.Walk
/-! Paths that are put together from a path and pieces between slashes. Such a path leads where the
components of its parts lead one after another, if its text is none that no path can have, and with less
text it is no worse. -/
namespace MutationTesting

namespace Path

/-- What stands in front of a name in the path of something below a path. -/
def lead (path : Path) : List Char :=
  if path.text = "" ∨ path.endsWithSlash then path.text.toList else path.text.toList ++ ['/']

theorem text_sublist_lead (path : Path) : path.text.toList.Sublist path.lead := by
  unfold lead
  split
  · exact List.Sublist.refl _
  · exact List.sublist_append_left _ _

theorem lead_sublist (path : Path) : path.lead.Sublist (path.text.toList ++ ['/']) := by
  unfold lead
  split
  · exact List.sublist_append_left _ _
  · exact List.Sublist.refl _

theorem lead_of_getLast? {path : Path} (isSlash : path.text.toList.getLast? = some '/') :
    path.lead = path.text.toList := by
  apply if_pos
  right
  simp [endsWithSlash, isSlash]

theorem lead_of_noSlash {path : Path} (written : path.text ≠ "")
    (noSlash : path.text.toList.getLast? ≠ some '/') : path.lead = path.text.toList ++ ['/'] := by
  apply if_neg
  rintro (empty | isSlash)
  · exact written empty
  · apply noSlash
    simpa [endsWithSlash] using isSlash

theorem isLead_lead (path : Path) : IsLead path.lead := by
  unfold lead
  split
  · rename_i isLead
    obtain empty | isSlash := isLead
    · left
      simp [empty]
    · right
      apply List.getLast?_eq_some_iff.mp
      simpa [endsWithSlash] using isSlash
  · right
    exact ⟨_, rfl⟩

theorem components_lead_eq (path : Path) : components ⟨String.ofList path.lead⟩ = path.components := by
  unfold lead
  split
  · rw [String.ofList_toList]
  · rename_i noLead
    have notEmpty : path.text.toList ≠ [] := by
      simpa using (not_or.mp noLead).1
    rw [components_slash notEmpty, String.ofList_toList]

section Join

variable {piece : List Char} (noSlash : '/' ∉ piece)
include noSlash

theorem toList_join (path : Path) :
    (path.join ⟨String.ofList piece⟩).text.toList = path.lead ++ piece := by
  have noRoot : isAbsolute ⟨String.ofList piece⟩ = false := by
    rw [isAbsolute, String.toList_ofList, beq_eq_false_iff_ne]
    intro isRoot
    exact noSlash (List.mem_of_head? isRoot)
  unfold join lead
  rw [noRoot, if_neg Bool.false_ne_true]
  split
  · simp
  · simp

theorem components_join_piece {path : Path} (written : path.text ≠ "") :
    (path.join ⟨String.ofList piece⟩).components = path.components ++ (component? piece).toList := by
  have notEmpty : path.lead ≠ [] := by
    intro empty
    have isPrefix := path.text_sublist_lead
    rw [empty, List.sublist_nil] at isPrefix
    exact written (by simpa using isPrefix)
  obtain ⟨front, leads⟩ := exists_front path.isLead_lead
  have alone := leads [] List.not_mem_nil fun _ => by decide
  rw [List.append_nil, components_lead_eq] at alone
  have joined : path.join ⟨String.ofList piece⟩ = ⟨String.ofList (path.lead ++ piece)⟩ := by
    rw [← toList_join noSlash, String.ofList_toList]
  rw [joined, leads piece noSlash fun empty => absurd empty notEmpty, alone]
  simp [component?]

end Join

theorem component?_ne_current (piece : List Char) :
    (component? piece).toList.filter (· != .current) = (component? piece).toList := by
  unfold component?
  split <;> rfl

theorem component?_of_mem {piece : List Char} {c : Char} (member : c ∈ piece) (noDot : c ≠ '.') :
    component? piece = some (.name (String.ofList piece)) := by
  unfold component?
  split
  · contradiction
  · exact absurd (List.mem_singleton.mp member) noDot
  · simp [noDot] at member
  · rfl

theorem filterMap_component?_cons (piece : List Char) (rest : List (List Char)) :
    (piece :: rest).filterMap component? = (component? piece).toList ++ rest.filterMap component? := by
  rw [← filterMap_component?, ← List.filterMap_append]
  rfl

theorem plainComponents_join {path : Path} {piece : List Char} (noSlash : '/' ∉ piece)
    (written : path.text ≠ "") :
    (path.join ⟨String.ofList piece⟩).plainComponents =
      path.plainComponents ++ (component? piece).toList := by
  rw [plainComponents, components_join_piece noSlash written, List.filter_append, component?_ne_current]
  rfl

theorem plainComponents_below (path : Path) {address : List String}
    (names : ∀ name ∈ address, IsName name) :
    (path.below address).plainComponents = path.plainComponents ++ address.map .name := by
  have plain : (address.map Component.name).filter (· != .current) = address.map .name := by
    apply List.filter_eq_self.mpr
    intro component member
    obtain ⟨name, -, rfl⟩ := List.mem_map.mp member
    rfl
  rw [plainComponents, components_below path names, List.filter_append, plain]
  rfl

/-- The names below a path stand behind its lead with a slash in front of each further one. -/
theorem toList_below (path : Path) {first : String} {address : List String} (isName : IsName first)
    (names : ∀ name ∈ address, IsName name) :
    (path.below (first :: address)).text.toList =
      path.lead ++ first.toList ++ address.flatMap fun name => '/' :: name.toList := by
  have joined := toList_join isName.noSlash path
  rw [String.ofList_toList] at joined
  induction address generalizing path first with
  | nil => simpa [below] using joined
  | cons name rest ih =>
    obtain ⟨isNext, others⟩ := List.forall_mem_cons.mp names
    have written : (path.join ⟨first⟩).text ≠ "" := by
      intro empty
      rw [empty] at joined
      exact isName.notEmpty (List.append_eq_nil_iff.mp joined.symm).2
    have noSlash : (path.join ⟨first⟩).text.toList.getLast? ≠ some '/' := by
      rw [joined, List.getLast?_append_of_ne_nil _ isName.notEmpty]
      intro isSlash
      exact isName.noSlash (List.mem_of_getLast? isSlash)
    have next := toList_join isNext.noSlash (path.join ⟨first⟩)
    rw [String.ofList_toList] at next
    change ((path.join ⟨first⟩).below (name :: rest)).text.toList = _
    rw [ih (path.join ⟨first⟩) isNext others next, lead_of_noSlash written noSlash, joined]
    simp

end Path

namespace Workspace

/-- A text that the system takes for a path. -/
structure IsUsable (path : Path) : Prop where
  written : path.text ≠ ""
  noZero : '\x00' ∉ path.text.toList
  short : path.text.utf8ByteSize ≤ longestPath

theorem utf8ByteSize_le {some all : List Char} (less : some.Sublist all) :
    (String.ofList some).utf8ByteSize ≤ (String.ofList all).utf8ByteSize := by
  induction less with
  | slnil => exact Nat.le_refl _
  | cons c _ ih =>
    rw [String.ofList_cons, String.utf8ByteSize_append]
    omega
  | cons_cons c _ ih =>
    rw [String.ofList_cons, String.ofList_cons, String.utf8ByteSize_append, String.utf8ByteSize_append]
    omega

theorem IsUsable.of_sublist {path other : Path} (usable : IsUsable path) (written : other.text ≠ "")
    (less : other.text.toList.Sublist path.text.toList) : IsUsable other := by
  constructor
  · exact written
  · intro isZero
    exact usable.noZero (less.mem isZero)
  · have shorter := utf8ByteSize_le less
    rw [String.ofList_toList, String.ofList_toList] at shorter
    exact Nat.le_trans shorter usable.short

/-- What is below a path has a path for the system if that is so below one with a longer lead. -/
theorem IsUsable.below_of_sublist {path other : Path} {address : List String}
    (usable : IsUsable (path.below address)) (some : address ≠ [])
    (names : ∀ name ∈ address, Path.IsName name) (less : other.lead.Sublist path.lead) :
    IsUsable (other.below address) := by
  obtain ⟨first, further, rfl⟩ := List.exists_cons_of_ne_nil some
  obtain ⟨isFirst, areNames⟩ := List.forall_mem_cons.mp names
  apply usable.of_sublist
  · intro empty
    have text := Path.toList_below other isFirst areNames
    rw [empty] at text
    have noFirst := (List.append_eq_nil_iff.mp (List.append_eq_nil_iff.mp text.symm).1).2
    exact isFirst.notEmpty noFirst
  · rw [Path.toList_below _ isFirst areNames, Path.toList_below _ isFirst areNames]
    exact (less.append_right _).append_right _

theorem follow_append (top : Entry) (address : List String) (front back : List Component) :
    follow top address (front ++ back) =
      (follow top address front).bind fun way => follow top way back := by
  induction front generalizing address with
  | nil => rfl
  | cons component rest ih =>
    simp only [List.cons_append, follow]
    split
    · split
      · rfl
      · exact ih _
    · rfl
    · rfl

theorem follow_names {top : Entry} {address found names : List String}
    (leads : follow top address (names.map .name) = .ok found) : found = address ++ names := by
  have onwards : (names.map Component.name).foldl stepTo address = address ++ names := by
    clear leads
    induction names generalizing address with
    | nil => simp
    | cons name rest ih => simp [stepTo, ih]
  exact (follow_eq leads).trans onwards

theorem directory_of_follow {top : Entry} {address found : List String} {components : List Component}
    (some : components ≠ []) (leads : follow top address components = .ok found) :
    top.stand address = .directory := by
  obtain ⟨component, rest, rfl⟩ := List.exists_cons_of_ne_nil some
  unfold follow at leads
  split at leads
  · rename_i entries there
    exact get?_directory.mpr ⟨entries, there⟩
  · contradiction
  · contradiction

theorem exists_of_follow_append {top : Entry} {address found : List String}
    {front back : List Component} (leads : follow top address (front ++ back) = .ok found)
    (isDirectory : top.stand found = .directory) :
    ∃ way, follow top address front = .ok way ∧ top.stand way = .directory := by
  rw [follow_append] at leads
  obtain ⟨way, first, later⟩ := ok_of_bind leads
  refine ⟨way, first, ?_⟩
  by_cases isLast : back = []
  · subst isLast
    obtain rfl := Except.ok.inj later
    exact isDirectory
  · exact directory_of_follow isLast later

theorem follow_plainComponents {top : Entry} {address : List String} (path : Path)
    (isDirectory : top.stand address = .directory) :
    follow top address path.plainComponents = follow top address path.components := by
  obtain ⟨start, inner, shape, starts, alone⟩ := Path.exists_start path
  have plain : inner.filter (· != .current) = inner := by
    apply List.filter_eq_self.mpr
    intro component member
    have stands := (alone component member).stands
    cases component
    case current => contradiction
    all_goals rfl
  rw [Path.plainComponents, shape, List.filter_append, plain]
  obtain rfl | rfl | rfl := starts
  · rfl
  · rfl
  · obtain ⟨entries, there⟩ := get?_directory.mp isDirectory
    change follow top address inner = follow top address (.current :: inner)
    rw [follow, there]
    rfl

variable {workspace : Workspace} {path : Path}

theorem address_eq_ok {address : List String} :
    workspace.address path = .ok address ↔
      IsUsable path ∧ follow workspace.top workspace.here path.components = .ok address := by
  unfold Workspace.address
  constructor
  · intro leads
    repeat' split at leads
    · contradiction
    · contradiction
    · contradiction
    · rename_i written noZero short
      refine ⟨⟨written, ?_, Nat.le_of_not_lt short⟩, leads⟩
      simpa using noZero
  · rintro ⟨⟨written, noZero, short⟩, leads⟩
    have isText : ¬ path.text.toList.contains '\x00' = true := by simpa using noZero
    rw [if_neg written, if_neg isText, if_neg (Nat.not_lt.mpr short), leads]

theorem hasDirectory_of_address {address : List String} (leads : workspace.address path = .ok address) :
    workspace.hasDirectory path = true ↔ workspace.stand address = .directory := by
  rw [hasDirectory, find_eq leads, stand, Entry.stand, at?]
  cases workspace.top.get? address with
  | none => simp
  | some entry =>
    cases entry with
    | directory entries => simp [Entry.isFile, Entry.isDirectory]
    | file content => cases namesDirectory path <;> simp [Entry.isFile, Entry.isDirectory]

theorem hasDirectory_iff :
    workspace.hasDirectory path = true ↔
      IsUsable path ∧ workspace.stand workspace.here = .directory ∧
        ∃ address, follow workspace.top workspace.here path.plainComponents = .ok address ∧
          workspace.stand address = .directory := by
  constructor
  · intro has
    cases leads : workspace.address path with
    | error fault => simp [hasDirectory, find, leads, bind, Except.bind] at has
    | ok address =>
      have there := (hasDirectory_of_address leads).mp has
      obtain ⟨usable, follows⟩ := address_eq_ok.mp leads
      have here := directory_of_follow (Path.components_ne_nil usable.written) follows
      refine ⟨usable, here, address, ?_, there⟩
      rw [follow_plainComponents path here, follows]
  · rintro ⟨usable, here, address, follows, there⟩
    rw [follow_plainComponents path here] at follows
    exact (hasDirectory_of_address (address_eq_ok.mpr ⟨usable, follows⟩)).mpr there

theorem find_of_hasDirectory (has : workspace.hasDirectory path = true) {address : List String}
    (follows : follow workspace.top workspace.here path.plainComponents = .ok address) :
    ∃ entries, workspace.find path = .ok (.directory entries) ∧
      workspace.top.get? address = some (.directory entries) := by
  obtain ⟨usable, here, other, leads, there⟩ := hasDirectory_iff.mp has
  obtain rfl := Except.ok.inj (follows.symm.trans leads)
  obtain ⟨entries, isThere⟩ := get?_directory.mp there
  rw [follow_plainComponents path here] at follows
  have found := find_eq (address_eq_ok.mpr ⟨usable, follows⟩)
  refine ⟨entries, ?_, isThere⟩
  rw [found, at?, isThere]
  simp [Entry.isFile, Entry.isDirectory]

theorem has_of_hasDirectory (has : workspace.hasDirectory path = true) : workspace.has path = true := by
  obtain ⟨-, -, address, follows, -⟩ := hasDirectory_iff.mp has
  obtain ⟨entries, found, -⟩ := find_of_hasDirectory has follows
  rw [Workspace.has, found]
  rfl

theorem written_of_has (has : workspace.has path = true) : path.text ≠ "" := by
  obtain ⟨address, leads, -⟩ := has_iff.mp has
  exact (address_eq_ok.mp leads).1.written

theorem hasDirectory_of_find {entries : List (String × Entry)}
    (found : workspace.find path = .ok (.directory entries)) : workspace.hasDirectory path = true := by
  rw [hasDirectory, found]
  rfl

end Workspace

end MutationTesting
