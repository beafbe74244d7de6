import MutationTesting.Shell.Utility.Columns
/-! Programs that show check sums of files and compare them, or encode files as letters. -/
namespace MutationTesting.Shell.Utility

namespace Digest

def lowBytes (count value : Nat) : List UInt8 :=
  (List.range count).map fun index => UInt8.ofNat (value >>> (8 * index))

/-- A number as bytes, the greatest one first. -/
def highBytes (count value : Nat) : List UInt8 :=
  (lowBytes count value).reverse

/-- Bytes with a one bit, zeros and their number of bits behind them, so that they fill blocks. -/
def padded (block lengthSize : Nat) (isHigh : Bool) (bytes : ByteArray) : ByteArray :=
  let used := (bytes.size + 1 + lengthSize) % block
  let zeros := if used = 0 then 0 else block - used
  let bits := 8 * bytes.size
  let length := if isHigh then highBytes lengthSize bits else lowBytes lengthSize bits
  (bytes.push 0x80) ++ ⟨Array.replicate zeros 0⟩ ++ ⟨length.toArray⟩

def numberAt (isHigh : Bool) (size : Nat) (bytes : ByteArray) (place : Nat) : Nat :=
  (List.range size).foldl (fun value index =>
    let byte := bytes.get! (place + if isHigh then index else size - 1 - index)
    value * 256 + byte.toNat) 0

def hexOf (bytes : List UInt8) : String :=
  String.ofList (bytes.flatMap fun byte =>
    let digits := Nat.toDigits 16 byte.toNat
    List.replicate (2 - digits.length) '0' ++ digits)

def rotateLeft (value : UInt32) (count : Nat) : UInt32 :=
  value <<< UInt32.ofNat count ||| value >>> UInt32.ofNat (32 - count)

def rotateRight (value : UInt32) (count : Nat) : UInt32 :=
  rotateLeft value (32 - count)

def rotateRight64 (value : UInt64) (count : Nat) : UInt64 :=
  value >>> UInt64.ofNat count ||| value <<< UInt64.ofNat (64 - count)

/-- The first numbers that have no divisors. -/
def primes (count : Nat) : List Nat :=
  ((List.range 500).filter fun n =>
    2 ≤ n && (List.range n).all fun d => d < 2 || n % d ≠ 0).take count

/-- The greatest number whose power is at most another one. -/
def root (power target : Nat) : (fuel : Nat) → (low high : Nat) → Nat
  | 0, low, _ => low
  | fuel + 1, low, high =>
    if high ≤ low + 1 then low
    else
      let middle := (low + high) / 2
      if Nat.pow middle power ≤ target then root power target fuel middle high
      else root power target fuel low middle

def rootBits (power bits n : Nat) : Nat :=
  root power (n * Nat.pow 2 (power * bits)) (bits + 20) 0 (Nat.pow 2 (bits + 10)) % Nat.pow 2 bits

def md5Shifts : Array Nat :=
  #[7, 12, 17, 22, 5, 9, 14, 20, 4, 11, 16, 23, 6, 10, 15, 21]

/-- The numbers that are added in the steps. -/
def md5Constants : Array UInt32 := #[
  0xd76aa478, 0xe8c7b756, 0x242070db, 0xc1bdceee, 0xf57c0faf, 0x4787c62a, 0xa8304613, 0xfd469501,
  0x698098d8, 0x8b44f7af, 0xffff5bb1, 0x895cd7be, 0x6b901122, 0xfd987193, 0xa679438e, 0x49b40821,
  0xf61e2562, 0xc040b340, 0x265e5a51, 0xe9b6c7aa, 0xd62f105d, 0x02441453, 0xd8a1e681, 0xe7d3fbc8,
  0x21e1cde6, 0xc33707d6, 0xf4d50d87, 0x455a14ed, 0xa9e3e905, 0xfcefa3f8, 0x676f02d9, 0x8d2a4c8a,
  0xfffa3942, 0x8771f681, 0x6d9d6122, 0xfde5380c, 0xa4beea44, 0x4bdecfa9, 0xf6bb4b60, 0xbebfbc70,
  0x289b7ec6, 0xeaa127fa, 0xd4ef3085, 0x04881d05, 0xd9d4d039, 0xe6db99e5, 0x1fa27cf8, 0xc4ac5665,
  0xf4292244, 0x432aff97, 0xab9423a7, 0xfc93a039, 0x655b59c3, 0x8f0ccc92, 0xffeff47d, 0x85845dd1,
  0x6fa87e4f, 0xfe2ce6e0, 0xa3014314, 0x4e0811a1, 0xf7537e82, 0xbd3af235, 0x2ad7d2bb, 0xeb86d391]

def md5 (bytes : ByteArray) : List UInt8 :=
  let data := padded 64 8 false bytes
  let start : UInt32 × UInt32 × UInt32 × UInt32 :=
    (0x67452301, 0xefcdab89, 0x98badcfe, 0x10325476)
  let (a, b, c, d) := (List.range (data.size / 64)).foldl (fun (a₀, b₀, c₀, d₀) block =>
    let words := ((List.range 16).map fun index =>
      UInt32.ofNat (numberAt false 4 data (64 * block + 4 * index))).toArray
    let (a, b, c, d) := (List.range 64).foldl (fun (a, b, c, d) step =>
      let (mixed, place) : UInt32 × Nat :=
        if step < 16 then ((b &&& c) ||| (~~~b &&& d), step)
        else if step < 32 then ((d &&& b) ||| (~~~d &&& c), (5 * step + 1) % 16)
        else if step < 48 then (b ^^^ c ^^^ d, (3 * step + 5) % 16)
        else (c ^^^ (b ||| ~~~d), 7 * step % 16)
      let sum := a + mixed + md5Constants.getD step 0 + words.getD place 0
      let shift := md5Shifts.getD (step / 16 * 4 + step % 4) 0
      (d, b + rotateLeft sum shift, b, c)) (a₀, b₀, c₀, d₀)
    (a₀ + a, b₀ + b, c₀ + c, d₀ + d)) start
  [a, b, c, d].flatMap fun word => lowBytes 4 word.toNat

def sha1 (bytes : ByteArray) : List UInt8 :=
  let data := padded 64 8 true bytes
  let start : Array UInt32 := #[0x67452301, 0xefcdab89, 0x98badcfe, 0x10325476, 0xc3d2e1f0]
  let state := (List.range (data.size / 64)).foldl (fun (state : Array UInt32) block =>
    let words := ((List.range 16).map fun index =>
      UInt32.ofNat (numberAt true 4 data (64 * block + 4 * index))).toArray
    let words := (List.range 64).foldl (fun (words : Array UInt32) index =>
      let word (back : Nat) : UInt32 := words.getD (index + 16 - back) 0
      words.push (rotateLeft (word 3 ^^^ word 8 ^^^ word 14 ^^^ word 16) 1)) words
    let value (index : Nat) : UInt32 := state.getD index 0
    let (a, b, c, d, e) := (List.range 80).foldl (fun (a, b, c, d, e) step =>
      let (mixed, constant) : UInt32 × UInt32 :=
        if step < 20 then ((b &&& c) ||| (~~~b &&& d), 0x5a827999)
        else if step < 40 then (b ^^^ c ^^^ d, 0x6ed9eba1)
        else if step < 60 then ((b &&& c) ||| (b &&& d) ||| (c &&& d), 0x8f1bbcdc)
        else (b ^^^ c ^^^ d, 0xca62c1d6)
      let next := rotateLeft a 5 + mixed + e + constant + words.getD step 0
      (next, a, rotateLeft b 30, c, d)) (value 0, value 1, value 2, value 3, value 4)
    #[value 0 + a, value 1 + b, value 2 + c, value 3 + d, value 4 + e]) start
  state.toList.flatMap fun word => highBytes 4 word.toNat

/-- The sums of 256 and of 224 bits, by what they start with. -/
def sha256From (start : List Nat) (bytes : ByteArray) : List UInt8 :=
  let data := padded 64 8 true bytes
  let constants := ((primes 64).map fun n => UInt32.ofNat (rootBits 3 32 n)).toArray
  let state := (List.range (data.size / 64)).foldl (fun (state : Array UInt32) block =>
    let words := ((List.range 16).map fun index =>
      UInt32.ofNat (numberAt true 4 data (64 * block + 4 * index))).toArray
    let words := (List.range 48).foldl (fun (words : Array UInt32) index =>
      let word (back : Nat) : UInt32 := words.getD (index + 16 - back) 0
      let low := rotateRight (word 15) 7 ^^^ rotateRight (word 15) 18 ^^^ word 15 >>> 3
      let high := rotateRight (word 2) 17 ^^^ rotateRight (word 2) 19 ^^^ word 2 >>> 10
      words.push (word 16 + low + word 7 + high)) words
    let after := (List.range 64).foldl (fun (s : Array UInt32) step =>
      let value (index : Nat) : UInt32 := s.getD index 0
      let e := value 4
      let a := value 0
      let high := rotateRight e 6 ^^^ rotateRight e 11 ^^^ rotateRight e 25
      let choice := (e &&& value 5) ^^^ (~~~e &&& value 6)
      let first := value 7 + high + choice + constants.getD step 0 + words.getD step 0
      let low := rotateRight a 2 ^^^ rotateRight a 13 ^^^ rotateRight a 22
      let majority := (a &&& value 1) ^^^ (a &&& value 2) ^^^ (value 1 &&& value 2)
      #[first + low + majority, a, value 1, value 2, value 3 + first, e, value 5, value 6]) state
    (state.zip after).map fun (a, b) => a + b) (start.map UInt32.ofNat).toArray
  state.toList.flatMap fun word => highBytes 4 word.toNat

def sha256 (bytes : ByteArray) : List UInt8 :=
  sha256From ((primes 8).map fun n => rootBits 2 32 n) bytes

def sha224 (bytes : ByteArray) : List UInt8 :=
  (sha256From (((primes 16).drop 8).map fun n => rootBits 2 64 n % Nat.pow 2 32) bytes).take 28

/-- The sums of 512 and of 384 bits, by what they start with. -/
def sha512From (start : List Nat) (bytes : ByteArray) : List UInt8 :=
  let data := padded 128 16 true bytes
  let constants := ((primes 80).map fun n => UInt64.ofNat (rootBits 3 64 n)).toArray
  let state := (List.range (data.size / 128)).foldl (fun (state : Array UInt64) block =>
    let words := ((List.range 16).map fun index =>
      UInt64.ofNat (numberAt true 8 data (128 * block + 8 * index))).toArray
    let words := (List.range 64).foldl (fun (words : Array UInt64) index =>
      let word (back : Nat) : UInt64 := words.getD (index + 16 - back) 0
      let low := rotateRight64 (word 15) 1 ^^^ rotateRight64 (word 15) 8 ^^^ word 15 >>> 7
      let high := rotateRight64 (word 2) 19 ^^^ rotateRight64 (word 2) 61 ^^^ word 2 >>> 6
      words.push (word 16 + low + word 7 + high)) words
    let after := (List.range 80).foldl (fun (s : Array UInt64) step =>
      let value (index : Nat) : UInt64 := s.getD index 0
      let e := value 4
      let a := value 0
      let high := rotateRight64 e 14 ^^^ rotateRight64 e 18 ^^^ rotateRight64 e 41
      let choice := (e &&& value 5) ^^^ (~~~e &&& value 6)
      let first := value 7 + high + choice + constants.getD step 0 + words.getD step 0
      let low := rotateRight64 a 28 ^^^ rotateRight64 a 34 ^^^ rotateRight64 a 39
      let majority := (a &&& value 1) ^^^ (a &&& value 2) ^^^ (value 1 &&& value 2)
      #[first + low + majority, a, value 1, value 2, value 3 + first, e, value 5, value 6]) state
    (state.zip after).map fun (a, b) => a + b) (start.map UInt64.ofNat).toArray
  state.toList.flatMap fun word => highBytes 8 word.toNat

def sha512 (bytes : ByteArray) : List UInt8 :=
  sha512From ((primes 8).map fun n => rootBits 2 64 n) bytes

def sha384 (bytes : ByteArray) : List UInt8 :=
  (sha512From (((primes 16).drop 8).map fun n => rootBits 2 64 n) bytes).take 48

/-- One more byte of the sum of `cksum`. -/
def crcStep (crc : UInt32) (byte : UInt8) : UInt32 :=
  (List.range 8).foldl (fun (crc : UInt32) bit =>
    let isSet := (byte >>> UInt8.ofNat (7 - bit)) &&& 1 = 1
    let top := crc >>> 31 = 1
    let shifted := crc <<< 1
    if top != isSet then shifted ^^^ 0x04c11db7 else shifted) crc

/-- The sum of `cksum`: of the bytes and of their number. -/
def crc (bytes : ByteArray) : Nat :=
  let sum := bytes.foldl crcStep 0
  let rec length : Nat → Nat → List UInt8
    | 0, _ => []
    | fuel + 1, n => if n = 0 then [] else UInt8.ofNat n :: length fuel (n / 256)
  (~~~((length 16 bytes.size).foldl crcStep sum)).toNat

def turnedSum (bytes : ByteArray) : Nat :=
  bytes.foldl (fun sum byte => ((sum >>> 1) + ((sum &&& 1) <<< 15) + byte.toNat) % 65536) 0

def plainSum (bytes : ByteArray) : Nat :=
  let total := bytes.foldl (fun sum byte => sum + byte.toNat) 0
  let folded := total % 65536 + total % Nat.pow 2 32 / 65536
  folded % 65536 + folded / 65536

/-- A name as it stands behind a sum, and whether there are backslashes in it. -/
def escaped (name : String) : String × Bool :=
  let shown := String.ofList (name.toList.flatMap fun c =>
    match c with
    | '\\' => ['\\', '\\']
    | '\n' => ['\\', 'n']
    | '\r' => ['\\', 'r']
    | c => [c])
  (shown, shown ≠ name)

/-- A sum and a name that are written in a line. -/
def entryOf (digits : Nat) (name line : String) : Option (String × String) :=
  let tag := name ++ " ("
  if line.startsWith tag then
    match (line.splitOn ") = ").reverse with
    | sum :: rest =>
      let path := String.intercalate ") = " rest.reverse
      some (sum.map Char.toLower, String.ofList (path.toList.drop tag.length))
    | [] => none
  else
    let line := if line.startsWith "\\" then String.ofList (line.toList.drop 1) else line
    let cs := line.toList
    let sum := cs.takeWhile fun c => c.isDigit || ('a' ≤ c && c ≤ 'f') || ('A' ≤ c && c ≤ 'F')
    match cs.drop sum.length with
    | ' ' :: c :: path =>
      if sum.length = digits && (c = ' ' || c = '*') && !path.isEmpty then
        some ((String.ofList sum).map Char.toLower, String.ofList path)
      else none
    | _ => none

end Digest

/-- Shows the sums of files, or compares them with those in a list. -/
def digest (name : String) (size : Nat) (sum : ByteArray → List UInt8) : Program :=
  fun _ arguments => do
    let given ← Sh.takeAll 1 ("b,binary c,check tag t,text z,zero ignore-missing quiet status " ++
      "strict w,warn") arguments
    let paths := if given.operands.isEmpty then ["-"] else given.operands
    let content (path : String) : Sh (Except String ByteArray) := Sh.readInput .all path
    if !given.has "c" then
      let codes ← paths.mapM fun path => do
        match ← content path with
        | .error reason =>
          Sh.warn (shownName path ++ ": " ++ reason)
          return 1
        | .ok bytes =>
          let hex := Digest.hexOf (sum bytes)
          let (shown, isEscaped) := Digest.escaped path
          let mark := if given.has "z" then "\x00" else "\n"
          if given.has "tag" then Sh.say (name ++ " (" ++ shown ++ ") = " ++ hex ++ mark)
          else
            Sh.say ((if isEscaped then "\\" else "") ++ hex ++
              (if given.has "b" then " *" else "  ") ++ shown ++ mark)
          return 0
      return codes.foldl max 0
    let isSilent := given.has "status"
    let codes ← paths.mapM fun path => do
      let shownPath := if path = "-" then "'standard input'" else shownName path
      match ← content path with
      | .error reason =>
        Sh.warn (shownName path ++ ": " ++ reason)
        return 1
      | .ok bytes =>
        let lines := (linesOf (textOfBytes bytes)).filter fun line =>
          !line.isEmpty && !line.startsWith "#"
        let entries := lines.map (Digest.entryOf (2 * size) name)
        let found ← (entries.filterMap id).mapM fun (expected, path) => do
          match ← content path with
          | .error reason =>
            if given.has "ignore-missing" then return none
            Sh.warn (shownName path ++ ": " ++ reason)
            if !isSilent then Sh.say (path ++ ": FAILED open or read\n")
            return some none
          | .ok bytes =>
            let isEqual := Digest.hexOf (sum bytes) = expected
            if !isSilent && !(isEqual && given.has "quiet") then
              Sh.say (path ++ (if isEqual then ": OK\n" else ": FAILED\n"))
            return some (some isEqual)
        let found := found.filterMap id
        let wrong := (entries.filter Option.isNone).length
        let unread := (found.filter Option.isNone).length
        let different := (found.filter (· = some false)).length
        if entries.length = wrong then
          Sh.warn (shownPath ++ ": no properly formatted checksum lines found")
          return 1
        let warning (count : Nat) (one many : String) : Sh Unit := do
          if count ≠ 0 && !isSilent then
            Sh.warn (s!"WARNING: {count} " ++ if count = 1 then one else many)
        warning wrong "line is improperly formatted" "lines are improperly formatted"
        warning unread "listed file could not be read" "listed files could not be read"
        warning different "computed checksum did NOT match" "computed checksums did NOT match"
        return if unread + different = 0 && (wrong = 0 || !given.has "strict") then 0 else 1
    return codes.foldl max 0

/-- Shows the sums of files with their sizes. -/
def cksum : Program := fun self arguments => do
  let given ← Sh.takeAll 1 "a:,algorithm tag untagged c,check z,zero raw" arguments
  let known : List (String × String × Nat × (ByteArray → List UInt8)) :=
    [("md5", "MD5", 16, Digest.md5), ("sha1", "SHA1", 20, Digest.sha1),
      ("sha224", "SHA224", 28, Digest.sha224), ("sha256", "SHA256", 32, Digest.sha256),
      ("sha384", "SHA384", 48, Digest.sha384), ("sha512", "SHA512", 64, Digest.sha512)]
  match (given.last? "a").bind fun name => known.lookup name with
  | some (name, size, sum) =>
    let style := if given.has "untagged" then [] else ["--tag"]
    digest name size sum self (style ++ "--" :: given.operands)
  | none =>
    let paths := if given.operands.isEmpty then ["-"] else given.operands
    let codes ← paths.mapM fun path => do
      match ← Sh.readInput .all path with
      | .error reason =>
        Sh.warn (shownName path ++ ": " ++ reason)
        return 1
      | .ok bytes =>
        Sh.say (s!"{Digest.crc bytes} {bytes.size}" ++
          (if given.operands.isEmpty then "" else " " ++ path) ++ "\n")
        return 0
    return codes.foldl max 0

/-- Shows short sums of files with the blocks that they fill. -/
def sum : Program := fun _ arguments => do
  let given ← Sh.takeAll 1 "r s,sysv" arguments
  let isPlain := given.latest? ["r", "s"] = some "s"
  let paths := if given.operands.isEmpty then ["-"] else given.operands
  let codes ← paths.mapM fun path => do
    match ← Sh.readInput .all path with
    | .error reason =>
      Sh.warn (shownName path ++ ": " ++ reason)
      return 1
    | .ok bytes =>
      let name := if given.operands.isEmpty then "" else " " ++ path
      if isPlain then
        Sh.say (s!"{Digest.plainSum bytes} {(bytes.size + 511) / 512}" ++ name ++ "\n")
      else
        let digits := toString (Digest.turnedSum bytes)
        Sh.say (String.ofList (List.replicate (5 - digits.length) '0') ++ digits ++ " " ++
          padLeft 5 (toString ((bytes.size + 1023) / 1024)) ++ name ++ "\n")
      return 0
  return codes.foldl max 0

namespace Digest

/-- Letters that stand for so many bits each; so many of them are a group of bytes. -/
structure Alphabet where
  letters : Array Char
  bits : Nat
  bytes : Nat
  count : Nat

namespace Alphabet

/-- The letters that stand for six bits each. -/
def sixty : Alphabet where
  letters :=
    "ABCDEFGHIJKLMNOPQRSTUVWXYZabcdefghijklmnopqrstuvwxyz0123456789+/".toList.toArray
  bits := 6
  bytes := 3
  count := 4

/-- The letters that stand for five bits each. -/
def thirty : Alphabet where
  letters := "ABCDEFGHIJKLMNOPQRSTUVWXYZ234567".toList.toArray
  bits := 5
  bytes := 5
  count := 8

/-- A group of bytes as letters, with signs for those that are missing. -/
def encodedGroup (alphabet : Alphabet) (group : List UInt8) : List Char :=
  let count := (8 * group.length + alphabet.bits - 1) / alphabet.bits
  let value := group.foldl (fun value byte => value * 256 + byte.toNat) 0
  let value := value <<< (count * alphabet.bits - 8 * group.length)
  let found := (List.range count).map fun n =>
    let digit := (value >>> ((count - 1 - n) * alphabet.bits)) % Nat.pow 2 alphabet.bits
    alphabet.letters.getD digit 'A'
  found ++ List.replicate (alphabet.count - count) '='

def encoded (alphabet : Alphabet) : (fuel : Nat) → List UInt8 → List Char
  | 0, _ => []
  | _, [] => []
  | fuel + 1, bytes =>
    alphabet.encodedGroup (bytes.take alphabet.bytes) ++
      encoded alphabet fuel (bytes.drop alphabet.bytes)

/-- The bytes that a group of letters stands for, and whether it is a group. -/
def decodedGroup (alphabet : Alphabet) (group : List Char) : List UInt8 × Bool :=
  let digits := (group.map fun c => alphabet.letters.findIdx? (· = c)).takeWhile Option.isSome
  let digits := digits.filterMap id
  let size := digits.length * alphabet.bits / 8
  let value := digits.foldl (fun value digit => value * Nat.pow 2 alphabet.bits + digit) 0
  let value := value >>> (digits.length * alphabet.bits - 8 * size)
  let bytes := (List.range size).map fun n => UInt8.ofNat (value >>> (8 * (size - 1 - n)))
  let needed := (8 * size + alphabet.bits - 1) / alphabet.bits
  let signs := group.drop digits.length
  (bytes, group.length = alphabet.count && needed = digits.length && signs.all (· = '='))

/-- The bytes that letters stand for, and whether all of them stand for bytes. -/
def decoded (alphabet : Alphabet) : (fuel : Nat) → List Char → List UInt8 × Bool
  | 0, _ => ([], true)
  | _, [] => ([], true)
  | fuel + 1, cs =>
    match alphabet.decodedGroup (cs.take alphabet.count) with
    | (bytes, true) =>
      let (others, isWhole) := decoded alphabet fuel (cs.drop alphabet.count)
      (bytes ++ others, isWhole)
    | (bytes, false) => (bytes, false)

end Alphabet

def wrapped (width : Nat) : (fuel : Nat) → (found : List String) → List Char → List String
  | 0, found, _ => found.reverse
  | fuel + 1, found, cs =>
    if cs.isEmpty then found.reverse
    else wrapped width fuel (String.ofList (cs.take width ++ ['\n']) :: found) (cs.drop width)

end Digest

/-- Encodes a file as letters of an alphabet, or decodes it. -/
def lettered (alphabet : Digest.Alphabet) : Program := fun _ arguments => do
  let given ← Sh.takeAll 1 "d,decode i,ignore-garbage w:,wrap" arguments
  let width ← match given.last? "w" with
    | none => pure 76
    | some text =>
      match count? text with
      | some width => pure width
      | none => Sh.fail 1 ("invalid wrap size: " ++ quotedName text)
  if let extra :: _ := given.operands.drop 1 then Sh.failExtra 1 extra
  let path := given.operands.headD "-"
  match ← Sh.readInput .all path with
  | .error reason =>
    if reason = "Is a directory" then Sh.fail 1 ("read error: " ++ reason)
    Sh.fail 1 (shownName path ++ ": " ++ reason)
  | .ok bytes =>
    if given.has "d" then
      let cs := (textOfBytes bytes).toList.filter fun c => c ≠ '\n' &&
        (!given.has "i" || c = '=' || alphabet.letters.contains c)
      let (found, isWhole) := alphabet.decoded (cs.length + 1) cs
      Sh.say (textOfBytes ⟨found.toArray⟩)
      if !isWhole then Sh.fail 1 "invalid input"
      return 0
    let cs := alphabet.encoded (bytes.size + 1) bytes.toList
    if width = 0 then Sh.say (String.ofList cs)
    else Sh.say (String.join (Digest.wrapped width (cs.length + 1) [] cs))
    return 0

end MutationTesting.Shell.Utility
