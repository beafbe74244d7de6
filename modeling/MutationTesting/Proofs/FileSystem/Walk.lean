import Mathlib.Data.List.Forall2
import MutationTesting.Proofs.FileSystem.Named
/-! Walks of directory trees. A walk comes to the entries below a directory in the order of their
addresses, each once, and to those only that are kept with all that is above them. Entries are in the
order of their names wherever they are put. -/
namespace MutationTesting

/-- The path of what is at an address below a path. -/
def Path.below (path : Path) (address : List String) : Path :=
  address.foldl (fun path name => path.join ⟨name⟩) path

section Below

variable {path : Path} {address other : List String}

theorem Path.components_below (path : Path) (names : ∀ name ∈ address, IsName name) :
    (path.below address).components = path.components ++ address.map .name := by
  induction address generalizing path with
  | nil => simp [below]
  | cons name rest ih =>
    obtain ⟨isName, others⟩ := List.forall_mem_cons.mp names
    change ((path.join ⟨name⟩).below rest).components = _
    rw [ih (path.join ⟨name⟩) others, components_join path isName, List.append_assoc]
    rfl

theorem Path.fileName?_below (path : Path) (names : ∀ name ∈ address, IsName name) {last : String}
    (isLast : address.getLast? = some last) : (path.below address).fileName? = some last := by
  have ends : (path.below address).components.getLast? = some (.name last) := by
    rw [components_below path names, List.getLast?_append, List.getLast?_map, isLast]
    rfl
  rw [fileName?, ends]

end Below

namespace Entry

/-- The entries of each directory are in the order of their names, and no two have one name. -/
inductive InOrder : Entry → Prop where
  | file (content : ByteArray) : InOrder (.file content)
  | directory {entries : List (String × Entry)}
    (sorted : entries.Pairwise fun entry other => entry.1 < other.1)
    (below : ∀ entry ∈ entries, InOrder entry.2) : InOrder (.directory entries)

section Order

variable {entries : List (String × Entry)} {name : String} {new : Entry}

theorem inOrder_of_files (sorted : entries.Pairwise fun entry other => entry.1 < other.1)
    (files : ∀ entry ∈ entries, entry.2.isFile = true) : (Entry.directory entries).InOrder := by
  refine .directory sorted fun entry member => ?_
  obtain ⟨name, content | inner⟩ := entry
  · exact .file content
  · exact nomatch files _ member

theorem eq_or_mem_of_insertNamed {entry : String × Entry}
    (member : entry ∈ insertNamed name new entries) : entry = (name, new) ∨ entry ∈ entries := by
  induction entries with
  | nil => exact .inl (List.mem_singleton.mp member)
  | cons first rest ih =>
    unfold insertNamed at member
    repeat' split at member
    all_goals grind

theorem sorted_insertNamed (sorted : entries.Pairwise fun entry other => entry.1 < other.1) :
    (insertNamed name new entries).Pairwise fun entry other => entry.1 < other.1 := by
  induction entries with
  | nil => exact List.pairwise_singleton _ _
  | cons first rest ih =>
    obtain ⟨behind, others⟩ := List.pairwise_cons.mp sorted
    unfold insertNamed
    split
    · rename_i same
      exact List.pairwise_cons.mpr ⟨fun entry member => same ▸ behind entry member, others⟩
    · split
      · rename_i inFront
        refine List.pairwise_cons.mpr ⟨fun entry member => ?_, sorted⟩
        obtain rfl | isLater := List.mem_cons.mp member
        · exact inFront
        · exact String.lt_trans inFront (behind entry isLater)
      · rename_i differs notInFront
        refine List.pairwise_cons.mpr ⟨fun entry member => ?_, ih others⟩
        obtain rfl | isOther := eq_or_mem_of_insertNamed member
        · exact Std.lt_of_le_of_ne (String.not_lt.mp notInFront) differs
        · exact behind entry isOther

/-- Whatever is put in order into a tree that is in order, or taken from it, leaves it in order. -/
theorem InOrder.set {top : Entry} (inOrder : top.InOrder) (address : List String) {new? : Option Entry}
    (isNew : ∀ new, new? = some new → new.InOrder) : (top.set address new?).InOrder := by
  induction address generalizing top with
  | nil => exact inOrder
  | cons name rest ih =>
    cases inOrder with
    | file content => cases rest <;> exact .file content
    | @directory entries sorted below =>
      have inserted {new : Entry} (newInOrder : new.InOrder) :
          (Entry.directory (insertNamed name new entries)).InOrder := by
        refine .directory (sorted_insertNamed sorted) fun entry member => ?_
        obtain rfl | isOld := eq_or_mem_of_insertNamed member
        · exact newInOrder
        · exact below entry isOld
      cases rest with
      | nil =>
        cases new? with
        | some new => exact inserted (isNew new rfl)
        | none =>
          exact .directory (sorted.sublist List.filter_sublist) fun entry member =>
            below entry (List.mem_filter.mp member).1
      | cons second rest =>
        cases found : entries.lookup name with
        | none =>
          simp only [Entry.set, found]
          exact .directory sorted below
        | some entry =>
          simp only [Entry.set, found]
          obtain ⟨front, back, shape, -⟩ := List.lookup_eq_some_iff.mp found
          exact inserted (ih (below (name, entry) (by simp [shape])))

theorem InOrder.of_get? {top entry : Entry} {address : List String} (inOrder : top.InOrder)
    (there : top.get? address = some entry) : entry.InOrder := by
  induction address generalizing top with
  | nil => exact Option.some.inj there ▸ inOrder
  | cons name rest ih =>
    obtain ⟨below, found, isThere⟩ := Option.bind_eq_some_iff.mp there
    obtain ⟨front, back, shape, -⟩ := List.lookup_eq_some_iff.mp found
    cases inOrder with
    | file content => contradiction
    | @directory entries sorted isBelow =>
      have member : (name, below) ∈ entries := by
        rw [show entries = front ++ (name, below) :: back from shape]
        simp
      exact ih (isBelow (name, below) member) isThere

end Order

/-- What a walk that starts at a path comes to at an address. -/
structure ComesTo (path : Path) (top : Entry) (address : List String) (walked : Walked) : Prop where
  path : walked.path = path.below address
  name : address.getLast? = some walked.name
  entry : top.get? address = some walked.entry

/-- There is something below the top at an address, and it is kept with all that is above it. -/
structure KeptAt (keep : Walked → Bool) (path : Path) (top : Entry) (address : List String) : Prop where
  below : address ≠ []
  there : (top.get? address).isSome
  kept : ∀ above walked, above <+: address → ComesTo path top above walked → keep walked = true

/-- A walk comes to the entries at some addresses: to what is kept, in the order of the addresses. -/
structure WalksTo (keep : Walked → Bool) (path : Path) (top : Entry) (addresses : List (List String))
    (walk : List Walked) : Prop where
  comes : List.Forall₂ (ComesTo path top) addresses walk
  sorted : addresses.Pairwise (· < ·)
  kept : ∀ address, address ∈ addresses ↔ KeptAt keep path top address

section Steps

variable {keep : Walked → Bool} {path : Path} {entries rest : List (String × Entry)}
  {name : String} {entry : Entry} {address : List String} {walked : Walked}

theorem get?_cons (entries : List (String × Entry)) (name : String) (address : List String) :
    (directory entries).get? (name :: address) =
      (entries.lookup name).bind fun below => below.get? address := rfl

theorem comesTo_single (found : entries.lookup name = some entry) :
    ComesTo path (.directory entries) [name] walked ↔ walked = ⟨path.join ⟨name⟩, name, entry⟩ := by
  constructor
  · rintro ⟨isPath, isName, isEntry⟩
    rw [get?_cons, found] at isEntry
    cases walked
    simp_all [Path.below, get?]
  · rintro rfl
    exact ⟨rfl, rfl, by rw [get?_cons, found]; rfl⟩

theorem comesTo_cons (found : entries.lookup name = some entry) (below : address ≠ []) :
    ComesTo path (.directory entries) (name :: address) walked ↔
      ComesTo (path.join ⟨name⟩) entry address walked := by
  have sameName : (name :: address).getLast? = address.getLast? := by
    rw [List.getLast?_cons_of_ne_nil below]
  have sameEntry : (directory entries).get? (name :: address) = entry.get? address := by
    rw [get?_cons, found]
    rfl
  exact ⟨fun ⟨isPath, isName, isEntry⟩ => ⟨isPath, sameName ▸ isName, sameEntry ▸ isEntry⟩,
    fun ⟨isPath, isName, isEntry⟩ => ⟨isPath, sameName ▸ isName, sameEntry ▸ isEntry⟩⟩

/-- Below a directory all is kept that is kept below one of its entries which is kept itself. -/
theorem keptAt_cons :
    KeptAt keep path (.directory entries) (name :: address) ↔
      ∃ entry, entries.lookup name = some entry ∧ keep ⟨path.join ⟨name⟩, name, entry⟩ = true ∧
        (address = [] ∨ KeptAt keep (path.join ⟨name⟩) entry address) := by
  constructor
  · rintro ⟨-, there, kept⟩
    obtain ⟨last, isLast⟩ := Option.isSome_iff_exists.mp there
    obtain ⟨entry, found, isBelow⟩ := Option.bind_eq_some_iff.mp isLast
    refine ⟨entry, found, kept [name] _ ⟨address, rfl⟩ ((comesTo_single found).mpr rfl), ?_⟩
    by_cases isHere : address = []
    · exact .inl isHere
    · refine .inr ⟨isHere, Option.isSome_iff_exists.mpr ⟨last, isBelow⟩, fun above walked isAbove comes => ?_⟩
      have further : above ≠ [] := by
        rintro rfl
        exact nomatch comes.name
      exact kept (name :: above) walked (List.prefix_cons_inj name |>.mpr isAbove)
        ((comesTo_cons found further).mpr comes)
  · rintro ⟨entry, found, isKept, isBelow⟩
    refine ⟨List.cons_ne_nil _ _, ?_, fun above walked isAbove comes => ?_⟩
    · rw [get?_cons, found]
      obtain rfl | isBelow := isBelow
      · rfl
      · exact isBelow.there
    · cases above with
      | nil => exact nomatch comes.name
      | cons first above =>
        obtain ⟨rfl, isAboveRest⟩ := List.cons_prefix_cons.mp isAbove
        by_cases isHere : above = []
        · subst isHere
          rw [(comesTo_single found).mp comes]
          exact isKept
        · obtain rfl | isBelow := isBelow
          · exact absurd (List.prefix_nil.mp isAboveRest) isHere
          · exact isBelow.kept above walked isAboveRest ((comesTo_cons found isHere).mp comes)

theorem ComesTo.ne_nil {top : Entry} (comes : ComesTo path top address walked) : address ≠ [] := by
  rintro rfl
  exact nomatch comes.name

section Behind

variable (inFront : ∀ other ∈ rest, name < other.1)
include inFront

theorem lt_of_lookup {first : String} {other : Entry} (found : rest.lookup first = some other) :
    name < first := by
  obtain ⟨front, back, shape, -⟩ := List.lookup_eq_some_iff.mp found
  exact inFront (first, other) (by simp [shape])

theorem lookup_of_inFront : rest.lookup name = none := by
  cases found : rest.lookup name with
  | none => rfl
  | some other => exact absurd (lt_of_lookup inFront found) (String.lt_irrefl name)

theorem ComesTo.behind (comes : ComesTo path (.directory rest) address walked) :
    ComesTo path (.directory ((name, entry) :: rest)) address walked := by
  refine ⟨comes.path, comes.name, ?_⟩
  obtain ⟨first, below, rfl⟩ := List.exists_cons_of_ne_nil comes.ne_nil
  have isThere := comes.entry
  rw [get?_cons] at isThere ⊢
  obtain ⟨other, found, -⟩ := Option.bind_eq_some_iff.mp isThere
  have differs : first ≠ name := by
    rintro rfl
    exact String.lt_irrefl _ (lt_of_lookup inFront found)
  rwa [lookup_cons, if_neg differs]

/-- What is kept of a directory is what is kept of its first entry and of the others. -/
theorem keptAt_cons_cons (first : String) :
    KeptAt keep path (.directory ((name, entry) :: rest)) (first :: address) ↔
      (first = name ∧ keep ⟨path.join ⟨name⟩, name, entry⟩ = true ∧
        (address = [] ∨ KeptAt keep (path.join ⟨name⟩) entry address)) ∨
      KeptAt keep path (.directory rest) (first :: address) := by
  rw [keptAt_cons, keptAt_cons, lookup_cons]
  by_cases isFirst : first = name
  · subst isFirst
    simp [lookup_of_inFront inFront]
  · simp [isFirst]

end Behind

theorem WalksTo.nil {top : Entry} (empty : top.entries = []) : WalksTo keep path top [] [] := by
  refine ⟨.nil, .nil, fun address => iff_of_false List.not_mem_nil ?_⟩
  rintro ⟨notHere, there, -⟩
  obtain ⟨name, further, rfl⟩ := List.exists_cons_of_ne_nil notHere
  rw [get?, empty] at there
  simp at there

/-- A walk of a directory is the one of its first entry, if that is kept, and the one of the others. -/
theorem WalksTo.cons {inside others : List (List String)} {below walk : List Walked}
    (inFront : ∀ other ∈ rest, name < other.1)
    (first : WalksTo keep (path.join ⟨name⟩) entry inside below)
    (later : WalksTo keep path (.directory rest) others walk) :
    let here : Walked := ⟨path.join ⟨name⟩, name, entry⟩
    WalksTo keep path (.directory ((name, entry) :: rest))
      ((if keep here then [name] :: inside.map (name :: ·) else []) ++ others)
      ((if keep here then here :: below else []) ++ walk) := by
  intro here
  have found : ((name, entry) :: rest).lookup name = some entry := List.lookup_cons_self
  have isBehind {address : List String} (member : address ∈ others) (above : List String) :
      name :: above < address := by
    have kept := (later.kept address).mp member
    obtain ⟨second, further, rfl⟩ := List.exists_cons_of_ne_nil kept.below
    obtain ⟨other, isOther, -⟩ := keptAt_cons.mp kept
    exact List.cons_lt_cons_iff.mpr (.inl (lt_of_lookup inFront isOther))
  constructor
  case comes =>
    refine List.rel_append ?_ (later.comes.imp fun _ _ comes => comes.behind inFront)
    split
    · refine .cons ((comesTo_single found).mpr rfl) (List.forall₂_map_left_iff.mpr ?_)
      exact first.comes.imp fun _ _ comes => (comesTo_cons found comes.ne_nil).mpr comes
    · exact .nil
  case sorted =>
    refine List.pairwise_append.mpr ⟨?_, later.sorted, ?_⟩
    · split
      · refine List.pairwise_cons.mpr ⟨fun address member => ?_, List.pairwise_map.mpr ?_⟩
        · obtain ⟨further, isInside, rfl⟩ := List.mem_map.mp member
          have notEmpty := ((first.kept further).mp isInside).below
          exact List.cons_lt_cons_iff.mpr (.inr ⟨rfl, by
            obtain ⟨c, cs, rfl⟩ := List.exists_cons_of_ne_nil notEmpty
            exact List.nil_lt_cons c cs⟩)
        · exact first.sorted.imp fun less => List.cons_lt_cons_iff.mpr (.inr ⟨rfl, less⟩)
      · exact .nil
    · intro address member other isOther
      split at member
      · obtain rfl | isInside := List.mem_cons.mp member
        · exact isBehind isOther []
        · obtain ⟨further, -, rfl⟩ := List.mem_map.mp isInside
          exact isBehind isOther further
      · contradiction
  case kept =>
    intro address
    cases address with
    | nil =>
      have never {top : Entry} : ¬ KeptAt keep path top [] := fun kept => kept.below rfl
      simp [later.kept, never]
    | cons second further =>
      rw [List.mem_append, later.kept, keptAt_cons_cons inFront]
      refine or_congr_left ?_
      by_cases isKept : keep here
      · simp only [isKept, here, if_true, List.mem_cons, List.mem_map, first.kept, true_and,
          List.cons.injEq]
        constructor
        · rintro (⟨rfl, isHere⟩ | ⟨_, isInside, rfl, rfl⟩)
          · exact ⟨rfl, .inl isHere⟩
          · exact ⟨rfl, .inr isInside⟩
        · rintro ⟨rfl, isHere | isInside⟩
          · exact .inl ⟨rfl, isHere⟩
          · exact .inr ⟨further, isInside, rfl, rfl⟩
      · simp [isKept, here]

end Steps

mutual
/-- A walk of entries in order comes to what is kept below its start, in the order of the addresses. -/
theorem walk_spec (keep : Walked → Bool) (path : Path) :
    ∀ top : Entry, top.InOrder → ∃ addresses, WalksTo keep path top addresses (top.walk keep path)
  | .file content, _ => ⟨[], .nil rfl⟩
  | .directory entries, inOrder => by
    cases inOrder with
    | directory sorted below => simpa only [walk] using walkAll_spec keep path entries sorted below

theorem walkAll_spec (keep : Walked → Bool) (path : Path) :
    ∀ entries : List (String × Entry), (entries.Pairwise fun entry other => entry.1 < other.1) →
      (∀ entry ∈ entries, entry.2.InOrder) →
      ∃ addresses, WalksTo keep path (.directory entries) addresses (walkAll keep path entries)
  | [], _, _ => ⟨[], .nil rfl⟩
  | (name, entry) :: rest, sorted, below => by
    obtain ⟨inFront, others⟩ := List.pairwise_cons.mp sorted
    obtain ⟨inside, first⟩ :=
      walk_spec keep (path.join ⟨name⟩) entry (below (name, entry) List.mem_cons_self)
    obtain ⟨further, later⟩ := walkAll_spec keep path rest others fun other member =>
      below other (List.mem_cons_of_mem _ member)
    rw [walkAll]
    exact ⟨_, first.cons inFront later⟩
end

section Members

variable {α β : Type} {related : α → β → Prop} {items : List α} {others : List β}

theorem exists_of_forall₂ (all : List.Forall₂ related items others) {item : α} (member : item ∈ items) :
    ∃ other ∈ others, related item other := by
  induction all with
  | nil => contradiction
  | cons first _ ih =>
    obtain rfl | isLater := List.mem_cons.mp member
    · exact ⟨_, List.mem_cons_self, first⟩
    · obtain ⟨other, isOther, isRelated⟩ := ih isLater
      exact ⟨other, List.mem_cons_of_mem _ isOther, isRelated⟩

end Members

theorem mem_walk_iff {keep : Walked → Bool} {path : Path} {top : Entry} {walked : Walked}
    (inOrder : top.InOrder) :
    walked ∈ top.walk keep path ↔
      ∃ address, KeptAt keep path top address ∧ ComesTo path top address walked := by
  obtain ⟨addresses, walks⟩ := walk_spec keep path top inOrder
  constructor
  · intro member
    obtain ⟨address, isAddress, comes⟩ := exists_of_forall₂ walks.comes.flip member
    exact ⟨address, (walks.kept address).mp isAddress, comes⟩
  · rintro ⟨address, kept, comes⟩
    obtain ⟨other, member, alsoComes⟩ := exists_of_forall₂ walks.comes ((walks.kept address).mpr kept)
    have same : walked = other := by
      cases walked
      cases other
      simp only [Walked.mk.injEq]
      refine ⟨comes.path.trans alsoComes.path.symm, ?_, ?_⟩
      · exact Option.some.inj (comes.name.symm.trans alsoComes.name)
      · exact Option.some.inj (comes.entry.symm.trans alsoComes.entry)
    rwa [same]

end Entry

end MutationTesting
