import MutationTesting.Proofs.FileSystem.Frame
import MutationTesting.Proofs.Text.Rows
/-! Names in paths and in directories. A path that is put together from components, or from a path and
a name, has these components. The names of all entries are components of their own as long as entries
are made where paths lead. -/
namespace MutationTesting

namespace Path

/-- A component whose text is a piece between slashes that stands for it. -/
structure StandsAlone (component : Component) : Prop where
  noSlash : '/' ∉ component.text.toList
  stands : component? component.text.toList = some component

theorem StandsAlone.isName {name : String} (alone : StandsAlone (.name name)) : IsName name :=
  ⟨alone.noSlash, alone.stands⟩

theorem standsAlone_of_component? {piece : List Char} {component : Component} (noSlash : '/' ∉ piece)
    (stands : component? piece = some component) : StandsAlone component := by
  have text : component.text.toList = piece := by
    unfold component? at stands
    split at stands
    · contradiction
    · contradiction
    · obtain rfl := Option.some.inj stands
      rfl
    · obtain rfl := Option.some.inj stands
      exact String.toList_ofList
  constructor
  · rwa [text]
  · rwa [text]

theorem exists_start (path : Path) :
    ∃ start inner, path.components = start ++ inner ∧
      (start = [] ∨ start = [.root] ∨ start = [.current]) ∧ ∀ component ∈ inner, StandsAlone component := by
  obtain ⟨cs, rfl⟩ : ∃ cs, path = ⟨String.ofList cs⟩ :=
    ⟨path.text.toList, by rw [String.ofList_toList]⟩
  refine ⟨_, _, components_eq cs, ?_, fun component member => ?_⟩
  · unfold origin
    split
    · exact .inr (.inl rfl)
    · split
      · exact .inr (.inr rfl)
      · exact .inl rfl
  · obtain ⟨piece, isPiece, stands⟩ := List.mem_filterMap.mp member
    exact standsAlone_of_component? (Text.not_mem_of_mem_pieces isPiece) stands

theorem isName_of_mem {path : Path} {name : String} (member : .name name ∈ path.components) :
    IsName name := by
  obtain ⟨start, inner, shape, starts, alone⟩ := exists_start path
  rw [shape, List.mem_append] at member
  obtain isStart | isInner := member
  · obtain rfl | rfl | rfl := starts <;> simp at isStart
  · exact (alone _ isInner).isName

/-- Components with slashes between them. -/
def written (components : List Component) : List Char :=
  List.intercalate ['/'] (components.map (·.text.toList))

theorem intercalate_eq (components : List Component) :
    String.intercalate "/" (components.map Component.text) = String.ofList (written components) := by
  rw [← String.toList_inj, String.toList_ofList, String.toList_intercalate, List.map_map]
  rfl

section Written

variable {first : Component} {rest : List Component}

theorem pieces_written (noSlash : ∀ component ∈ first :: rest, '/' ∉ component.text.toList) :
    Text.pieces '/' (written (first :: rest)) =
      first.text.toList :: rest.map (·.text.toList) := by
  refine Text.pieces_intercalate (List.cons_ne_nil _ _) fun text member => ?_
  obtain ⟨component, isComponent, rfl⟩ := List.mem_map.mp member
  exact noSlash component isComponent

theorem origin_written (noSlash : ∀ component ∈ first :: rest, '/' ∉ component.text.toList)
    (notEmpty : first.text.toList ≠ []) :
    origin (written (first :: rest)) = if first.text.toList = ['.'] then [.current] else [] := by
  have pieces := pieces_written noSlash
  have noRoot : (written (first :: rest)).head? ≠ some '/' := by
    intro isRoot
    obtain ⟨behind, shape⟩ := List.head?_eq_some_iff.mp isRoot
    rw [shape, Text.pieces_mark] at pieces
    exact notEmpty (List.cons.inj pieces).1.symm
  rw [origin, if_neg noRoot, pieces, List.head?_cons]
  simp only [Option.some.injEq]

end Written

section Inner

variable {inner : List Component} (alone : ∀ component ∈ inner, StandsAlone component)
include alone

theorem filterMap_texts : (inner.map (·.text.toList)).filterMap component? = inner := by
  induction inner with
  | nil => rfl
  | cons component rest ih =>
    rw [List.map_cons, List.filterMap_cons_some (alone component List.mem_cons_self).stands,
      ih fun other member => alone other (List.mem_cons_of_mem _ member)]

theorem filterMap_pieces_written :
    (Text.pieces '/' (written inner)).filterMap component? = inner := by
  cases inner with
  | nil => rfl
  | cons first rest =>
    rw [pieces_written fun component member => (alone component member).noSlash]
    exact filterMap_texts alone

theorem components_written : components ⟨String.ofList (written inner)⟩ = inner := by
  rw [components_eq, filterMap_pieces_written alone]
  cases inner with
  | nil => rfl
  | cons first rest =>
    have stands := (alone first List.mem_cons_self).stands
    have notEmpty : first.text.toList ≠ [] := by
      intro isEmpty
      rw [isEmpty] at stands
      contradiction
    have noDot : first.text.toList ≠ ['.'] := by
      intro isDot
      rw [isDot] at stands
      contradiction
    rw [origin_written (fun component member => (alone component member).noSlash) notEmpty,
      if_neg noDot, List.nil_append]

theorem components_written_current :
    components ⟨String.ofList (written (.current :: inner))⟩ = .current :: inner := by
  have noSlash : ∀ component ∈ Component.current :: inner, '/' ∉ component.text.toList :=
    List.forall_mem_cons.mpr ⟨by decide, fun component member => (alone component member).noSlash⟩
  rw [components_eq, origin_written noSlash (by decide), pieces_written noSlash,
    List.filterMap_cons_none (by rfl), filterMap_texts alone]
  rfl

theorem components_written_root :
    components ⟨String.ofList ('/' :: written inner)⟩ = .root :: inner := by
  have isRoot : origin ('/' :: written inner) = [.root] := if_pos rfl
  rw [components_eq, isRoot, Text.pieces_mark, List.filterMap_cons_none (by rfl),
    filterMap_pieces_written alone]
  rfl

end Inner

theorem components_ofComponents_alone {inner : List Component}
    (alone : ∀ component ∈ inner, StandsAlone component) : (ofComponents inner).components = inner := by
  cases inner with
  | nil => rfl
  | cons first rest =>
    have noRoot : first ≠ .root := by
      rintro rfl
      exact absurd (alone _ List.mem_cons_self).noSlash (by decide)
    rw [ofComponents, intercalate_eq, components_written alone]
    exact fun _ same => noRoot (List.cons.inj same).1

theorem components_ofComponents {path : Path} {front rest : List Component}
    (shape : path.components = front ++ rest) : (ofComponents front).components = front := by
  obtain ⟨start, inner, components, starts, alone⟩ := exists_start path
  rw [shape] at components
  cases front with
  | nil => rfl
  | cons first front =>
    have among (further : List Component) (isFront : further <+: inner) :
        ∀ component ∈ further, StandsAlone component :=
      fun component member => alone component (isFront.mem member)
    have behind {head : Component} (same : first :: front ++ rest = [head] ++ inner) :
        first = head ∧ ∀ component ∈ front, StandsAlone component := by
      obtain ⟨isHead, others⟩ := List.cons.inj same
      exact ⟨isHead, among front ⟨rest, others⟩⟩
    obtain rfl | rfl | rfl := starts
    · exact components_ofComponents_alone (among (first :: front) ⟨rest, components⟩)
    · obtain ⟨rfl, all⟩ := behind components
      rw [ofComponents, intercalate_eq, ← components_written_root all]
      congr 2
      rw [← String.toList_inj]
      simp
    · obtain ⟨rfl, all⟩ := behind components
      rw [ofComponents, intercalate_eq, components_written_current all]
      exact fun _ same => nomatch (List.cons.inj same).1

/-- A path that is written with its components alone has them all, but for a dot at the start. -/
theorem components_normalize (path : Path) : path.normalize.components = path.plainComponents := by
  obtain ⟨start, inner, shape, starts, alone⟩ := exists_start path
  have plain : inner.filter (· != .current) = inner := by
    refine List.filter_eq_self.mpr fun component member => ?_
    have stands := (alone component member).stands
    cases component <;> first | rfl | contradiction
  obtain rfl | rfl | rfl := starts
  · have all : path.plainComponents = inner := by
      rw [plainComponents, shape, List.nil_append, plain]
    rw [normalize, all, components_ofComponents_alone alone]
  · have all : path.plainComponents = .root :: inner := by
      rw [plainComponents, shape, List.filter_append, plain]
      rfl
    rw [normalize, all]
    have whole : path.components = (.root :: inner) ++ [] := by rw [List.append_nil, shape]; rfl
    exact components_ofComponents whole
  · have all : path.plainComponents = inner := by
      rw [plainComponents, shape, List.filter_append, plain]
      rfl
    rw [normalize, all, components_ofComponents_alone alone]

theorem components_slash {cs : List Char} (notEmpty : cs ≠ []) :
    components ⟨String.ofList (cs ++ ['/'])⟩ = components ⟨String.ofList cs⟩ := by
  obtain ⟨first, others, found⟩ := List.exists_cons_of_ne_nil (Text.pieces_ne_nil '/' cs)
  have pieces : Text.pieces '/' (cs ++ ['/']) = Text.pieces '/' cs ++ [[]] :=
    Text.pieces_append '/' cs []
  have sameOrigin : origin (cs ++ ['/']) = origin cs := by
    obtain ⟨c, rest, rfl⟩ := List.exists_cons_of_ne_nil notEmpty
    rw [origin, origin, pieces, found]
    rfl
  rw [components_eq, components_eq, sameOrigin, pieces, List.filterMap_append]
  simp [component?]

theorem components_lead {lead : List Char} (isLead : IsLead lead) {name : String}
    (isName : IsName name) :
    components ⟨String.ofList (lead ++ name.toList)⟩ =
      components ⟨String.ofList lead⟩ ++ [.name name] := by
  obtain ⟨front, leads⟩ := exists_front isLead
  have alone := leads [] List.not_mem_nil fun _ => by decide
  rw [List.append_nil] at alone
  have notDot : name.toList ≠ ['.'] := by
    intro isDot
    have stands := isName.stands
    rw [isDot] at stands
    contradiction
  rw [leads name.toList isName.noSlash fun _ => notDot, isName.stands, alone]
  simp [component?]

theorem components_join (path : Path) {name : String} (isName : IsName name) :
    (path.join ⟨name⟩).components = path.components ++ [.name name] := by
  have noRoot : Path.isAbsolute ⟨name⟩ = false := by
    rw [isAbsolute, beq_eq_false_iff_ne]
    exact fun isRoot => isName.noSlash (List.mem_of_head? isRoot)
  have text (other : Path) : components ⟨String.ofList other.text.toList⟩ = other.components := by
    rw [String.ofList_toList]
  rw [join, noRoot, if_neg (by decide)]
  split
  · rename_i isLead
    have lead : IsLead path.text.toList := by
      obtain isEmpty | endsWithSlash := isLead
      · exact .inl (by simpa using isEmpty)
      · exact .inr (List.getLast?_eq_some_iff.mp (by simpa [Path.endsWithSlash] using endsWithSlash))
    rw [← text, String.toList_append, components_lead lead isName, text]
  · rename_i noLead
    have notEmpty : path.text.toList ≠ [] := by
      simpa using (not_or.mp noLead).1
    have slash : "/".toList = ['/'] := rfl
    rw [← text, String.toList_append, String.toList_append, slash,
      components_lead (.inr ⟨_, rfl⟩) isName, components_slash notEmpty, text]

end Path

namespace Entry

theorem get?_append (entry : Entry) (address further : List String) :
    entry.get? (address ++ further) = (entry.get? address).bind fun below => below.get? further := by
  induction address generalizing entry with
  | nil => rfl
  | cons name rest ih =>
    rw [List.cons_append, get?, get?, Option.bind_assoc]
    exact Option.bind_congr fun below _ => ih below

end Entry

namespace Workspace

/-- The name of each entry is a component of its own: it is not empty and neither a dot nor two, and
it has no slash. -/
def Named (workspace : Workspace) : Prop :=
  ∀ above name, workspace.stand (above ++ [name]) ≠ .nothing → Path.IsName name

variable {workspace before after : Workspace} {path : Path} {content : ByteArray}

theorem get?_of_find {entry : Entry} (found : workspace.find path = .ok entry) :
    ∃ address, workspace.top.get? address = some entry := by
  obtain ⟨address, leads, -⟩ := ok_of_bind found
  refine ⟨address, ?_⟩
  rw [find_eq leads, at?] at found
  cases there : workspace.top.get? address with
  | none => simp [there] at found
  | some other =>
    rw [there] at found
    dsimp only at found
    split at found
    · contradiction
    · rw [Except.ok.inj found]

theorem get?_of_list {entries : List (String × Entry)}
    (listed : workspace.list path = .ok entries) :
    ∃ address, workspace.top.get? address = some (.directory entries) := by
  obtain ⟨entry, found, listed⟩ := ok_of_bind listed
  cases entry with
  | file content => contradiction
  | directory inner =>
    obtain rfl := Except.ok.inj listed
    exact get?_of_find found

theorem Named.of_get? (named : workspace.Named) {above : List String} {name : String} {entry : Entry}
    (there : workspace.top.get? (above ++ [name]) = some entry) : Path.IsName name := by
  refine named above name ?_
  unfold stand Entry.stand
  rw [there]
  cases entry <;> simp

theorem Named.of_list (named : workspace.Named) {entries : List (String × Entry)}
    (listed : workspace.list path = .ok entries) {name : String}
    (member : name ∈ entries.map Prod.fst) : Path.IsName name := by
  obtain ⟨address, there⟩ := get?_of_list listed
  have isListed : (entries.lookup name).isSome = true := by
    obtain ⟨entry, isEntry, rfl⟩ := List.mem_map.mp member
    exact List.lookup_isSome_iff.mpr ⟨entry, isEntry, beq_self_eq_true _⟩
  obtain ⟨below, isBelow⟩ := Option.isSome_iff_exists.mp isListed
  have found : workspace.top.get? (address ++ [name]) = some below := by
    rw [Entry.get?_append, there, Option.bind_some, Entry.get?, Entry.entries, isBelow]
    rfl
  exact named.of_get? found

theorem Named.of_find (named : workspace.Named) {top entry : Entry} {address : List String}
    (found : workspace.find path = .ok top) (below : top.get? address = some entry) :
    ∀ name ∈ address, Path.IsName name := by
  intro name member
  obtain ⟨start, isTop⟩ := get?_of_find found
  obtain ⟨front, back, rfl⟩ := List.append_of_mem member
  have way : workspace.top.get? ((start ++ front) ++ [name] ++ back) = some entry := by
    rw [← below, show (start ++ front) ++ [name] ++ back = start ++ (front ++ name :: back) by simp,
      Entry.get?_append, isTop, Option.bind_some]
  rw [Entry.get?_append] at way
  obtain ⟨other, isOther, -⟩ := Option.bind_eq_some_iff.mp way
  exact named.of_get? isOther

theorem exists_name_of_find (found : workspace.find path = .ok (.file content)) :
    ∃ front name, path.components = front ++ [.name name] := by
  obtain ⟨address, leads, there, -⟩ := find_file_iff.mp found
  obtain ⟨front, name, shape, -⟩ := parent_of_address leads (by simp [there])
  exact ⟨front, name, shape⟩

theorem isName_of_target {front : List Component} {last name : String} {above : List String}
    (shape : path.components = front ++ [.name last])
    (same : above ++ [name] = workspace.target path) : Path.IsName name := by
  have target : workspace.target path = front.foldl stepTo workspace.here ++ [last] := by
    simp [Workspace.target, shape, stepTo]
  obtain ⟨-, isLast⟩ := List.append_inj' (same.trans target) rfl
  obtain rfl := List.singleton_inj.mp isLast
  exact Path.isName_of_mem (shape ▸ List.mem_append_right _ (List.mem_singleton.mpr rfl))

theorem Named.sameBut {changed : List String → Prop} (named : before.Named)
    (same : before.SameBut changed after)
    (new : ∀ address, changed address → ∃ path front last, address = before.target path ∧
      path.components = front ++ [.name last]) : after.Named := by
  intro above name there
  by_cases isChanged : changed (above ++ [name])
  · obtain ⟨path, front, last, leads, shape⟩ := new _ isChanged
    exact isName_of_target shape leads
  · rw [same.stand _ isChanged] at there
    exact named above name there

theorem Named.written (named : before.Named) (same : before.SameBut (· = before.target path) after)
    (found : after.find path = .ok (.file content)) : after.Named := by
  obtain ⟨front, last, shape⟩ := exists_name_of_find found
  exact named.sameBut same fun _ isTarget => ⟨path, front, last, isTarget, shape⟩

theorem Named.renamed {old new : Path} {moved : ByteArray} (named : before.Named)
    (same : before.SameBut
      (fun address => address = before.target old ∨ address = before.target new) after)
    (foundOld : before.find old = .ok (.file content)) (foundNew : after.find new = .ok (.file moved)) :
    after.Named := by
  refine named.sameBut same ?_
  rintro address (rfl | rfl)
  · obtain ⟨front, last, shape⟩ := exists_name_of_find foundOld
    exact ⟨old, front, last, rfl, shape⟩
  · obtain ⟨front, last, shape⟩ := exists_name_of_find foundNew
    exact ⟨new, front, last, rfl, shape⟩

theorem named_of_entries {entries : List (String × Entry)} {here : List String}
    {modes : List (List String × Nat)} (names : ∀ entry ∈ entries, Path.IsName entry.1)
    (below : ∀ entry ∈ entries, Named ⟨entry.2, here, modes⟩) :
    Named ⟨.directory entries, here, modes⟩ := by
  intro above name there
  obtain ⟨first, rest, shape⟩ := List.exists_cons_of_ne_nil
    (List.append_ne_nil_of_right_ne_nil above (List.cons_ne_nil name []))
  rw [shape, stand, Entry.stand_directory_cons] at there
  cases found : entries.lookup first with
  | none =>
    rw [found] at there
    contradiction
  | some entry =>
    rw [found] at there
    obtain ⟨front, behind, isEntry, -⟩ := List.lookup_eq_some_iff.mp found
    have member : (first, entry) ∈ entries := by simp [isEntry]
    cases above with
    | nil =>
      obtain ⟨rfl, -⟩ := List.cons.inj shape
      exact names _ member
    | cons other further =>
      obtain ⟨rfl, rfl⟩ := List.cons.inj shape
      exact below _ member further name there

theorem named_file (content : ByteArray) (here : List String) (modes : List (List String × Nat)) :
    Named ⟨.file content, here, modes⟩ := by
  intro above name there
  cases above <;> exact absurd (Entry.stand_file_cons content _ _) there

theorem named_of_files {entries : List (String × Entry)} {here : List String}
    {modes : List (List String × Nat)}
    (files : ∀ entry ∈ entries, Path.IsName entry.1 ∧ entry.2.isFile = true) :
    Named ⟨.directory entries, here, modes⟩ := by
  refine named_of_entries (fun entry member => (files entry member).1) fun entry member => ?_
  obtain ⟨name, content | inner⟩ := entry
  · exact named_file content here modes
  · exact nomatch (files _ member).2

end Workspace

end MutationTesting
