/-! Bytes read as UTF-8. A strict reading refuses bytes that are no UTF-8; a lenient one puts
the replacement character for each longest part that could still have become a character. A text can
also be taken byte by byte, each a character below 256, so that what counts or cuts bytes is written
like what counts or cuts characters. Places in a text are counted in bytes as well. -/
namespace MutationTesting.Text

/-- What the first byte of a character says about the others: how many follow, between which
bounds the next one lies, and the bits known so far. -/
structure Pending where
  following : Nat
  low : UInt8
  high : UInt8
  bits : Nat
  deriving Repr, DecidableEq

/-- The first byte of a character of more than one byte. -/
def lead? (b : UInt8) : Option Pending :=
  if 0xC2 ≤ b ∧ b ≤ 0xDF then some ⟨1, 0x80, 0xBF, b.toNat % 32⟩
  else if b = 0xE0 then some ⟨2, 0xA0, 0xBF, 0⟩
  else if b = 0xED then some ⟨2, 0x80, 0x9F, 13⟩
  else if 0xE1 ≤ b ∧ b ≤ 0xEF then some ⟨2, 0x80, 0xBF, b.toNat % 16⟩
  else if b = 0xF0 then some ⟨3, 0x90, 0xBF, 0⟩
  else if b = 0xF4 then some ⟨3, 0x80, 0x8F, 4⟩
  else if 0xF1 ≤ b ∧ b ≤ 0xF3 then some ⟨3, 0x80, 0xBF, b.toNat % 8⟩
  else none

/-- The character that stands for bytes that are no character. -/
def replacement : Char := '\uFFFD'

def startOf (b : UInt8) : List Char × Option Pending :=
  if b < 0x80 then ([Char.ofNat b.toNat], none)
  else
    match lead? b with
    | some pending => ([], some pending)
    | none => ([replacement], none)

/-- What a byte yields inside a character or where one starts. -/
def continueWith (state : Option Pending) (b : UInt8) : List Char × Option Pending :=
  match state with
  | none => startOf b
  | some pending =>
    if pending.low ≤ b ∧ b ≤ pending.high then
      let bits := pending.bits * 64 + b.toNat % 64
      if pending.following ≤ 1 then ([Char.ofNat bits], none)
      else ([], some ⟨pending.following - 1, 0x80, 0xBF, bits⟩)
    else
      let (chars, next) := startOf b
      (replacement :: chars, next)

/-- The lenient reading of the bytes that follow those of a character in progress. -/
def lenientFrom (state : Option Pending) : List UInt8 → List Char
  | [] => if state.isSome then [replacement] else []
  | b :: rest =>
    let (chars, next) := continueWith state b
    chars ++ lenientFrom next rest

def lenient (bytes : ByteArray) : String :=
  String.ofList (lenientFrom none bytes.toList)

/-- The character that stands for a byte. -/
def narrowChar (b : UInt8) : Char :=
  Char.ofNat b.toNat

def byteOf (c : Char) : UInt8 :=
  UInt8.ofNat c.toNat

/-- A text byte by byte. -/
def narrow (s : String) : List Char :=
  s.toUTF8.toList.map narrowChar

def bytesOf (cs : List Char) : ByteArray :=
  ⟨(cs.map byteOf).toArray⟩

/-- The text that characters stand for byte by byte. -/
def widen (cs : List Char) : String :=
  lenient (bytesOf cs)

theorem byteOf_narrowChar (b : UInt8) : byteOf (narrowChar b) = b := by
  have small : b.toNat < 256 := b.toNat_lt
  have valid : Nat.isValidChar b.toNat := Or.inl (by omega)
  have same : (Char.ofNat b.toNat).toNat = b.toNat := by
    rw [Char.ofNat, dif_pos valid]
    rfl
  rw [byteOf, narrowChar, same]
  exact UInt8.ofNat_toNat

/-- The characters of the first `bytes` bytes and the others, if a character ends there. -/
def splitAtByte? : (bytes : Nat) → List Char → Option (List Char × List Char)
  | 0, cs => some ([], cs)
  | _ + 1, [] => none
  | bytes + 1, c :: rest =>
    if c.utf8Size ≤ bytes + 1 then
      (splitAtByte? (bytes + 1 - c.utf8Size) rest).map fun (before, after) => (c :: before, after)
    else none
  termination_by _ cs => cs.length

theorem append_of_splitAtByte? {bytes : Nat} {cs before after : List Char}
    (h : splitAtByte? bytes cs = some (before, after)) : before ++ after = cs := by
  fun_induction splitAtByte? bytes cs generalizing before with
  | case1 => simp_all
  | case2 => simp at h
  | case3 bytes c rest fits ih =>
    simp only [Option.map_eq_some_iff] at h
    obtain ⟨⟨inner, behind⟩, found, same⟩ := h
    simp only [Prod.mk.injEq] at same
    obtain ⟨rfl, rfl⟩ := same
    simp [ih found]
  | case4 => simp at h

/-- The part of a text from one place to another; there is none if a place lies inside a
character or beyond the end. -/
def slice? (start stop : Nat) (cs : List Char) : Option (List Char) := do
  let (_, rest) ← splitAtByte? start cs
  let (part, _) ← splitAtByte? (stop - start) rest
  return part

end MutationTesting.Text
