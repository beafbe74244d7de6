import MutationTesting.Text.Utf8
/-! Places in a text, counted in bytes of UTF-8: a place is where a character starts or the text
ends. What stands between two places of a text is one part of it, and parts that meet at a place
make up a longer one. -/
namespace MutationTesting.Text

/-- The bytes that characters take. -/
def byteLength : List Char → Nat
  | [] => 0
  | c :: rest => c.utf8Size + byteLength rest

@[simp] theorem byteLength_append (front back : List Char) :
    byteLength (front ++ back) = byteLength front + byteLength back := by
  induction front with
  | nil => simp [byteLength]
  | cons c rest ih =>
    simp only [List.cons_append, byteLength, ih]
    omega

theorem eq_nil_of_byteLength {cs : List Char} (empty : byteLength cs = 0) : cs = [] := by
  cases cs with
  | nil => rfl
  | cons c rest =>
    have := c.utf8Size_pos
    simp only [byteLength] at empty
    omega

/-- Of two parts at the front of a text the one with fewer bytes is a front of the other one. -/
theorem exists_append_of_byteLength {front back front' back' : List Char}
    (same : front ++ back = front' ++ back') (shorter : byteLength front ≤ byteLength front') :
    ∃ part, front' = front ++ part ∧ back = part ++ back' := by
  obtain ⟨part, rfl, rfl⟩ | ⟨part, rfl, rfl⟩ := List.append_eq_append_iff.mp same
  · exact ⟨part, rfl, rfl⟩
  · rw [byteLength_append] at shorter
    obtain rfl := eq_nil_of_byteLength (by omega : byteLength part = 0)
    exact ⟨[], by simp, by simp⟩

theorem splitAtByte?_append (front back : List Char) :
    splitAtByte? (byteLength front) (front ++ back) = some (front, back) := by
  induction front with
  | nil => simp [byteLength, splitAtByte?]
  | cons c rest ih =>
    have positive := c.utf8Size_pos
    obtain ⟨bytes, sum⟩ : ∃ bytes, c.utf8Size + byteLength rest = bytes + 1 :=
      ⟨c.utf8Size + byteLength rest - 1, by omega⟩
    have behind : bytes + 1 - c.utf8Size = byteLength rest := by omega
    have fits : c.utf8Size ≤ bytes + 1 := by omega
    simp [byteLength, sum, splitAtByte?, fits, behind, ih]

/-- Where a character of a text starts, or where the text ends. -/
def IsPlace (source : List Char) (offset : Nat) : Prop :=
  ∃ front back, source = front ++ back ∧ byteLength front = offset

/-- The part of a text between two places. -/
def Spans (source : List Char) (start : Nat) (part : List Char) (stop : Nat) : Prop :=
  ∃ front back, source = front ++ part ++ back ∧ byteLength front = start ∧
    start + byteLength part = stop

section

variable {source part : List Char} {start stop : Nat}

theorem isPlace_zero (source : List Char) : IsPlace source 0 :=
  ⟨[], source, rfl, rfl⟩

/-- The places of a text. -/
def places : List Char → List Nat
  | [] => [0]
  | c :: rest => 0 :: (places rest).map (c.utf8Size + ·)

theorem isPlace_iff (source : List Char) (offset : Nat) :
    IsPlace source offset ↔ offset ∈ places source := by
  induction source generalizing offset with
  | nil =>
    simp only [IsPlace, places, List.mem_singleton, List.nil_eq, List.append_eq_nil_iff]
    constructor
    · rintro ⟨front, back, ⟨rfl, rfl⟩, rfl⟩
      rfl
    · rintro rfl
      exact ⟨[], [], ⟨rfl, rfl⟩, rfl⟩
  | cons c rest ih =>
    simp only [places, List.mem_cons, List.mem_map, ← ih]
    constructor
    · rintro ⟨front, back, whole, rfl⟩
      cases front with
      | nil => exact .inl rfl
      | cons first front =>
        obtain ⟨rfl, rfl⟩ := List.cons.inj whole
        exact .inr ⟨byteLength front, ⟨front, back, rfl, rfl⟩, rfl⟩
    · rintro (rfl | ⟨behind, ⟨front, back, rfl, rfl⟩, rfl⟩)
      · exact isPlace_zero _
      · exact ⟨c :: front, back, rfl, rfl⟩

instance (source : List Char) (offset : Nat) : Decidable (IsPlace source offset) :=
  decidable_of_iff _ (isPlace_iff source offset).symm

theorem IsPlace.max (first : IsPlace source start) (second : IsPlace source stop) :
    IsPlace source (Max.max start stop) := by
  rcases Nat.le_total start stop with le | le
  · rwa [Nat.max_eq_right le]
  · rwa [Nat.max_eq_left le]

theorem IsPlace.spans (first : IsPlace source start) (second : IsPlace source stop)
    (ordered : start ≤ stop) : ∃ part, Spans source start part stop := by
  obtain ⟨front, back, whole, rfl⟩ := first
  obtain ⟨front', back', whole', rfl⟩ := second
  obtain ⟨part, rfl, -⟩ := exists_append_of_byteLength (whole.symm.trans whole') ordered
  exact ⟨part, front, back', whole', rfl, (byteLength_append front part).symm⟩

theorem IsPlace.spans_nil (place : IsPlace source start) : Spans source start [] start := by
  obtain ⟨front, back, whole, rfl⟩ := place
  exact ⟨front, back, by simp [whole], rfl, rfl⟩

theorem Spans.isPlace (spans : Spans source start part stop) : IsPlace source stop := by
  obtain ⟨front, back, whole, rfl, rfl⟩ := spans
  exact ⟨front ++ part, back, whole, byteLength_append front part⟩

theorem Spans.append {middle : Nat} {first second : List Char}
    (here : Spans source start first middle) (further : Spans source middle second stop) :
    Spans source start (first ++ second) stop := by
  obtain ⟨front, back, whole, rfl, rfl⟩ := here
  obtain ⟨front', back', whole', length, rfl⟩ := further
  rw [whole, List.append_assoc front'] at whole'
  rw [← byteLength_append] at length
  obtain ⟨gap, rfl, rfl⟩ := exists_append_of_byteLength whole' (Nat.le_of_eq length.symm)
  obtain rfl : gap = [] :=
    eq_nil_of_byteLength (by simp only [byteLength_append] at length; omega)
  exact ⟨front, back', by simp [whole], rfl, by rw [byteLength_append]; omega⟩

theorem Spans.slice? (spans : Spans source start part stop) :
    slice? start stop source = some part := by
  obtain ⟨front, back, rfl, rfl, rfl⟩ := spans
  simp [Text.slice?, splitAtByte?_append]

/-- What stands from the start of a text to a place, and what stands behind it. -/
theorem Spans.splitAtByte? (spans : Spans source 0 part stop) :
    ∃ rest, splitAtByte? stop source = some (part, rest) ∧ source = part ++ rest := by
  obtain ⟨front, back, rfl, empty, rfl⟩ := spans
  obtain rfl := eq_nil_of_byteLength empty
  refine ⟨back, ?_, rfl⟩
  rw [Nat.zero_add]
  exact splitAtByte?_append part back

end

end MutationTesting.Text
