import MutationTesting.Mutant.OnDisk
/-! The names that paths end with. The text of a path is a lead, which is empty or ends with a slash,
and what follows the last slash; the components but for the last one come from the lead. -/
namespace MutationTesting

namespace Text

theorem pieces_of_notMem {mark : Char} {cs : List Char} (absent : mark ∉ cs) :
    pieces mark cs = [cs] := by
  induction cs with
  | nil => rfl
  | cons c rest ih =>
    simp only [List.mem_cons, not_or] at absent
    simp [pieces, Ne.symm absent.1, ih absent.2]

theorem pieces_append (mark : Char) (front rest : List Char) :
    pieces mark (front ++ mark :: rest) = pieces mark front ++ pieces mark rest := by
  induction front with
  | nil => simp [pieces]
  | cons c front ih =>
    by_cases same : c = mark
    · simp [pieces, same, ih]
    · obtain ⟨first, others, found⟩ := List.exists_cons_of_ne_nil (pieces_ne_nil mark front)
      simp [pieces, same, ih, found]

theorem getLast?_of_pieces {mark : Char} {cs piece : List Char}
    (last : (pieces mark cs).getLast? = some piece) (notEmpty : piece ≠ []) :
    cs.getLast? = piece.getLast? := by
  induction cs with
  | nil => simp_all [pieces]
  | cons c rest ih =>
    obtain ⟨first, others, found⟩ := List.exists_cons_of_ne_nil (pieces_ne_nil mark rest)
    have restCase (later : (pieces mark rest).getLast? = some piece) :
        (c :: rest).getLast? = piece.getLast? := by
      rw [List.getLast?_cons, ih later, List.getLast?_eq_some_getLast notEmpty]
      rfl
    by_cases same : c = mark
    · refine restCase ?_
      simpa [pieces, same, found] using last
    · cases others with
      | nil =>
        have whole := intercalate_pieces mark rest
        rw [found, List.intercalate_singleton] at whole
        simp_all [pieces]
      | cons second others =>
        refine restCase ?_
        simpa [pieces, same, found] using last

theorem endsWith_append (front tail : String) : endsWith tail (front ++ tail) = true := by
  simp [endsWith, afterLead?_append]

end Text

namespace Path

/-- A text that is empty or ends with a slash. -/
def IsLead (lead : List Char) : Prop :=
  lead = [] ∨ ∃ front, lead = front ++ ['/']

theorem exists_lead (cs : List Char) : ∃ lead last, cs = lead ++ last ∧ IsLead lead ∧ '/' ∉ last := by
  induction cs with
  | nil => exact ⟨[], [], rfl, .inl rfl, by simp⟩
  | cons c rest ih =>
    obtain ⟨lead, last, rfl, isLead, noSlash⟩ := ih
    obtain rfl | ⟨front, rfl⟩ := isLead
    · by_cases isSlash : c = '/'
      · exact ⟨['/'], last, by simp [isSlash], .inr ⟨[], rfl⟩, noSlash⟩
      · exact ⟨[], c :: last, rfl, .inl rfl, by simp [Ne.symm isSlash, noSlash]⟩
    · exact ⟨c :: front ++ ['/'], last, by simp, .inr ⟨c :: front, rfl⟩, noSlash⟩

/-- The component that says where a path starts, if there is one. -/
def origin (cs : List Char) : List Component :=
  if cs.head? = some '/' then [.root]
  else if (Text.pieces '/' cs).head? = some ['.'] then [.current]
  else []

theorem components_eq (cs : List Char) :
    components ⟨String.ofList cs⟩ = origin cs ++ (Text.pieces '/' cs).filterMap component? := by
  simp only [components, origin, String.toList_ofList]
  split
  · rfl
  · rename_i noRoot
    have other : cs.head? ≠ some '/' := by
      intro isRoot
      obtain ⟨rest, rfl⟩ := List.head?_eq_some_iff.mp isRoot
      exact noRoot rest rfl
    rw [if_neg other]
    split <;> rfl

theorem eq_of_component?_none {piece : List Char} (nothing : component? piece = none) :
    piece = [] ∨ piece = ['.'] := by
  unfold component? at nothing
  split at nothing
  · exact .inl rfl
  · exact .inr rfl
  · contradiction
  · contradiction

theorem components_ne_nil {path : Path} (written : path.text ≠ "") : path.components ≠ [] := by
  have notEmpty : path.text.toList ≠ [] := by simpa using written
  obtain ⟨c, rest, text⟩ := List.exists_cons_of_ne_nil notEmpty
  obtain rfl : path = ⟨String.ofList (c :: rest)⟩ := by rw [← text, String.ofList_toList]
  rw [components_eq]
  intro nothing
  obtain ⟨noOrigin, noPiece⟩ := List.append_eq_nil_iff.mp nothing
  by_cases isRoot : c = '/'
  · simp [origin, isRoot] at noOrigin
  · obtain ⟨first, others, found⟩ := List.exists_cons_of_ne_nil (Text.pieces_ne_nil '/' rest)
    have shape : Text.pieces '/' (c :: rest) = (c :: first) :: others := by
      simp [Text.pieces, isRoot, found]
    rw [shape, List.filterMap_eq_nil_iff] at noPiece
    obtain empty | isDot := eq_of_component?_none (noPiece _ List.mem_cons_self)
    · contradiction
    · simp [origin, shape, isDot, isRoot] at noOrigin

theorem filterMap_component? (piece : List Char) :
    [piece].filterMap component? = (component? piece).toList := by
  cases found : component? piece <;> simp [found]

/-- The components of a path but for the last one do not depend on what follows its last slash. A
dot alone is left out, since it stands for something only at the start. -/
theorem exists_front {lead : List Char} (isLead : IsLead lead) :
    ∃ front, ∀ last, '/' ∉ last → (lead = [] → last ≠ ['.']) →
      components ⟨String.ofList (lead ++ last)⟩ = front ++ (component? last).toList := by
  obtain rfl | ⟨text, rfl⟩ := isLead
  · refine ⟨[], fun last noSlash noDot => ?_⟩
    have noOrigin : origin last = [] := by
      have noRoot : last.head? ≠ some '/' := fun isRoot => noSlash (List.mem_of_head? isRoot)
      simp [origin, noRoot, Text.pieces_of_notMem noSlash, noDot rfl]
    rw [components_eq, List.nil_append, noOrigin, Text.pieces_of_notMem noSlash,
      filterMap_component?]
  · refine ⟨origin (text ++ ['/']) ++ (Text.pieces '/' text).filterMap component?,
      fun last noSlash _ => ?_⟩
    obtain ⟨first, others, found⟩ := List.exists_cons_of_ne_nil (Text.pieces_ne_nil '/' text)
    have sameOrigin : origin (text ++ '/' :: last) = origin (text ++ ['/']) := by
      simp [origin, Text.pieces_append, found]
    rw [List.append_assoc, List.singleton_append, components_eq, Text.pieces_append, sameOrigin,
      Text.pieces_of_notMem noSlash, List.filterMap_append, filterMap_component?,
      List.append_assoc]

/-- A text that is a name of its own, not empty and neither a dot nor two. -/
structure IsName (name : String) : Prop where
  noSlash : '/' ∉ name.toList
  stands : component? name.toList = some (.name name)

instance (name : String) : Decidable (IsName name) :=
  decidable_of_iff ('/' ∉ name.toList ∧ component? name.toList = some (.name name))
    ⟨fun ⟨noSlash, stands⟩ => ⟨noSlash, stands⟩, fun ⟨noSlash, stands⟩ => ⟨noSlash, stands⟩⟩

theorem toList_of_component? {piece : List Char} {name : String}
    (stands : component? piece = some (.name name)) : name.toList = piece := by
  unfold component? at stands
  split at stands
  · contradiction
  · contradiction
  · simp at stands
  · simp only [Option.some.injEq, Component.name.injEq] at stands
    rw [← stands, String.toList_ofList]

theorem IsLead.eq_nil {lead : List Char} (isLead : IsLead lead)
    (noSlash : ∀ front, lead ≠ front ++ ['/']) : lead = [] := by
  obtain rfl | ⟨front, shape⟩ := isLead
  · rfl
  · exact absurd shape (noSlash front)

/-- A path that ends with a name, and neither with a slash nor with a dot, is a lead and the name.
With another name it ends with that one. -/
theorem exists_name {path : Path} {front : List Component} {name : String}
    (shape : path.components = front ++ [.name name]) (noSlash : path.endsWithSlash = false)
    (noDot : Text.endsWith "/." path.text = false) :
    ∃ lead, path = ⟨String.ofList (lead ++ name.toList)⟩ ∧ IsLead lead ∧ IsName name ∧
      ∀ other, IsName other →
        components ⟨String.ofList (lead ++ other.toList)⟩ = front ++ [.name other] := by
  obtain ⟨lead, last, text, isLead, noInner⟩ := exists_lead path.text.toList
  obtain rfl : path = ⟨String.ofList (lead ++ last)⟩ := by
    rw [← text, String.ofList_toList]
  have noLoneDot : lead = [] → last ≠ ['.'] := by
    rintro rfl rfl
    have lone : components ⟨String.ofList ([] ++ ['.'])⟩ = [.current] := by decide
    rw [lone] at shape
    cases front <;> simp at shape
  obtain ⟨way, leads⟩ := exists_front isLead
  rw [leads last noInner noLoneDot] at shape
  cases piece : component? last with
  | none =>
    exfalso
    obtain rfl | rfl := eq_of_component?_none piece
    · obtain rfl : lead = [] := isLead.eq_nil fun way same => by
        subst same
        simp [endsWithSlash] at noSlash
      have nothing := leads [] (by simp) (by simp)
      have empty : components ⟨String.ofList ([] ++ [])⟩ = [] := by decide
      rw [empty] at nothing
      rw [← nothing] at shape
      simp at shape
    · refine noLoneDot (isLead.eq_nil fun way same => ?_) rfl
      subst same
      simp [Text.endsWith_append] at noDot
  | some component =>
    rw [piece, Option.toList_some] at shape
    obtain ⟨rfl, same⟩ := List.append_inj' shape rfl
    obtain rfl := (List.singleton_inj.mp same)
    have named := toList_of_component? piece
    subst named
    refine ⟨lead, rfl, isLead, ⟨noInner, piece⟩, fun other isName => ?_⟩
    rw [leads other.toList isName.noSlash ?_, isName.stands, Option.toList_some]
    rintro - isDot
    have stands := isName.stands
    rw [isDot] at stands
    contradiction

/-- A path that ends with a character other than a slash and a dot ends with a name that does. -/
theorem exists_name_of_getLast? {path : Path} {c : Char}
    (ends : path.text.toList.getLast? = some c) (noSlash : c ≠ '/') (noDot : c ≠ '.') :
    ∃ front name, path.components = front ++ [.name name] ∧ name.toList.getLast? = some c := by
  obtain ⟨lead, last, text, isLead, noInner⟩ := exists_lead path.text.toList
  obtain rfl : path = ⟨String.ofList (lead ++ last)⟩ := by
    rw [← text, String.ofList_toList]
  have notEmpty : last ≠ [] := by
    rintro rfl
    obtain rfl | ⟨front, rfl⟩ := isLead
    · simp at ends
    · simp only [String.toList_ofList, List.append_nil, List.getLast?_concat, Option.some.injEq]
        at ends
      exact noSlash ends.symm
  have lastEnds : last.getLast? = some c := by
    have found := List.getLast?_eq_some_getLast notEmpty
    rwa [text, List.getLast?_append, found, Option.some_or, ← found] at ends
  obtain ⟨front, leads⟩ := exists_front isLead
  have noLoneDot : last ≠ ['.'] := by
    rintro rfl
    exact noDot (Option.some.inj lastEnds).symm
  have stands : component? last = some (.name (String.ofList last)) := by
    unfold component?
    split
    · contradiction
    · contradiction
    · exact absurd (Option.some.inj lastEnds).symm noDot
    · rfl
  refine ⟨front, String.ofList last, ?_, by rwa [String.toList_ofList]⟩
  rw [leads last noInner fun _ => noLoneDot, stands, Option.toList_some]

theorem exists_name_of_extension? {path : Path} {extension : String} {c : Char}
    (extended : path.extension? = some extension) (ends : extension.toList.getLast? = some c) :
    ∃ front name, path.components = front ++ [.name name] ∧ name.toList.getLast? = some c := by
  obtain ⟨name, isName, split⟩ := Option.bind_eq_some_iff.mp extended
  have last : path.components.getLast? = some (.name name) := by
    unfold fileName? at isName
    split at isName
    · rename_i found
      rw [found, Option.some.inj isName]
    · contradiction
  obtain ⟨front, shape⟩ := List.getLast?_eq_some_iff.mp last
  refine ⟨front, name, shape, ?_⟩
  have isPiece : ∃ piece, (Text.pieces '.' name.toList).getLast? = some piece ∧
      String.ofList piece = extension := by
    unfold splitName at split
    split at split
    · contradiction
    · contradiction
    · exact Option.map_eq_some_iff.mp split
  obtain ⟨piece, found, rfl⟩ := isPiece
  rw [String.toList_ofList] at ends
  rw [Text.getLast?_of_pieces found, ends]
  rintro rfl
  contradiction

theorem component?_of_long {piece : List Char} (long : 2 < piece.length) :
    component? piece = some (.name (String.ofList piece)) := by
  unfold component?
  split
  · simp at long
  · simp at long
  · simp at long
  · rfl

theorem IsName.notEmpty {name : String} (isName : IsName name) : name.toList ≠ [] := by
  intro empty
  have stands := isName.stands
  rw [empty] at stands
  contradiction

theorem IsName.append {name ending : String} (isName : IsName name) (noSlash : '/' ∉ ending.toList)
    (long : 1 < ending.toList.length) : IsName (name ++ ending) where
  noSlash := by simp [isName.noSlash, noSlash]
  stands := by
    have positive := List.length_pos_iff.mpr isName.notEmpty
    rw [component?_of_long (by rw [String.toList_append, List.length_append]; omega),
      String.ofList_toList]

theorem beforeDots?_eq_none {lead : List Char} {name : String} (isLead : IsLead lead)
    (isName : IsName name) :
    Workspace.beforeDots? ⟨String.ofList (lead ++ name.toList)⟩ = none := by
  have notEmpty := isName.notEmpty
  obtain ⟨noSlash, stands⟩ := isName
  have trimmed : (lead ++ name.toList).reverse.dropWhile (· = '/') =
      name.toList.reverse ++ lead.reverse := by
    obtain ⟨c, rest, reversed⟩ :=
      List.exists_cons_of_ne_nil (mt List.reverse_eq_nil_iff.mp notEmpty)
    have noSlashLast : c ≠ '/' := by
      rintro rfl
      exact noSlash (List.mem_reverse.mp (by simp [reversed]))
    simp [reversed, noSlashLast]
  have last : (name.toList.reverse ++ lead.reverse).takeWhile (· ≠ '/') = name.toList.reverse := by
    rw [List.takeWhile_append_of_pos fun c member => by
      have inside := List.mem_reverse.mp member
      exact decide_eq_true fun isSlash => noSlash (isSlash ▸ inside)]
    obtain rfl | ⟨front, rfl⟩ := isLead <;> simp
  simp only [Workspace.beforeDots?, String.toList_ofList, trimmed, last]
  rw [if_neg]
  rintro (dot | dots)
  · rw [List.reverse_eq_iff.mp dot] at stands
    contradiction
  · rw [List.reverse_eq_iff.mp dots] at stands
    simp [component?] at stands

end Path

namespace Backup

/-- What the name of a backup ends with. -/
def ending : String := ".bak"

theorem pathOf_eq (cs : List Char) :
    pathOf ⟨String.ofList cs⟩ = ⟨String.ofList (cs ++ ending.toList)⟩ := by
  simp [pathOf, ending]

theorem namesDirectory_pathOf (file : Path) : Workspace.namesDirectory (pathOf file) = false := by
  simp [Workspace.namesDirectory, Path.endsWithSlash, pathOf, Text.endsWith, Text.afterLead?]

/-- The path of the backup of a file that has a name ends with that name and the ending of
backups, and neither path ends in dots. -/
theorem components_pathOf {file : Path} {front : List Component} {name : String}
    (shape : file.components = front ++ [.name name])
    (plain : Workspace.namesDirectory file = false) :
    (pathOf file).components = front ++ [.name (name ++ ending)] ∧
      Workspace.beforeDots? file = none ∧ Workspace.beforeDots? (pathOf file) = none := by
  simp only [Workspace.namesDirectory, Bool.or_eq_false_iff] at plain
  obtain ⟨lead, rfl, isLead, isName, leads⟩ := Path.exists_name shape plain.1 plain.2
  have isBackupName : Path.IsName (name ++ ending) := isName.append (by decide) (by decide)
  rw [pathOf_eq, List.append_assoc, ← String.toList_append]
  exact ⟨leads _ isBackupName, Path.beforeDots?_eq_none isLead isName,
    Path.beforeDots?_eq_none isLead isBackupName⟩

/-- A path and that of its backup share all components but the last one, which is a name for the backup
and longer than that of the file, if this one has a name at all. -/
theorem components_pathOf_last (file : Path) :
    ∃ front last name, (pathOf file).components = front ++ [.name name] ∧
      file.components = front ++ Option.toList last ∧
      ∀ text, last = some (.name text) → text.utf8ByteSize < name.utf8ByteSize := by
  obtain ⟨lead, last, text, isLead, noSlash⟩ := Path.exists_lead file.text.toList
  obtain rfl : file = ⟨String.ofList (lead ++ last)⟩ := by
    rw [← text, String.ofList_toList]
  obtain ⟨front, leads⟩ := Path.exists_front isLead
  have long : 2 < (last ++ ending.toList).length := by
    rw [List.length_append]
    exact Nat.lt_add_left _ (by decide)
  have backup : (pathOf ⟨String.ofList (lead ++ last)⟩).components =
      front ++ [.name (String.ofList (last ++ ending.toList))] := by
    rw [pathOf_eq, List.append_assoc, leads (last ++ ending.toList) (by simp [noSlash, ending])
      fun _ isDot => by simp [isDot] at long, Path.component?_of_long long]
    rfl
  by_cases isLoneDot : lead = [] ∧ last = ['.']
  · -- A dot alone is a component of its own.
    obtain ⟨rfl, rfl⟩ := isLoneDot
    have nothing : front = [] := by
      have empty := leads [] (by simp) (by simp)
      exact (List.append_eq_nil_iff.mp (empty.symm.trans (by decide))).1
    exact ⟨front, some .current, _, backup, by rw [nothing]; decide, nofun⟩
  · refine ⟨front, Path.component? last, _, backup,
      leads last noSlash fun noLead isDot => isLoneDot ⟨noLead, isDot⟩, fun text isName => ?_⟩
    rw [← Path.toList_of_component? isName, String.ofList_append, String.utf8ByteSize_append,
      String.ofList_toList, String.ofList_toList]
    exact Nat.lt_add_of_pos_right (by decide)

end Backup

end MutationTesting
