/-!
# UTF-8

Characters as one to four bytes. Decoding stops at the first fault and says where it is: after how
many bytes of sound characters, and how many bytes belong to the fault. A fault takes the longest
run of bytes that could begin a character; when the input ends within such a run, the character is
incomplete.
-/

namespace SetterResolution.Text.Utf8

/-- What is wrong with a byte sequence. -/
inductive Fault where
  /-- So many bytes do not begin a character. -/
  | invalid (length : Nat)
  /-- The input ends within a character. -/
  | incomplete
  deriving DecidableEq, Repr

/-- The first fault of a byte sequence, after so many bytes of sound characters. -/
structure DecodeError where
  /-- The number of bytes before the fault. -/
  index : Nat
  /-- What is wrong. -/
  fault : Fault
  deriving DecidableEq, Repr

/-- What is said about a fault. -/
def DecodeError.message (error : DecodeError) : String :=
  match error.fault with
  | .invalid length =>
    "invalid utf-8 sequence of " ++ toString length ++ " bytes from index " ++ toString error.index
  | .incomplete => "incomplete utf-8 byte sequence from index " ++ toString error.index

/-! ### Encoding -/

/-- The continuation byte with the lowest six bits of `n`. -/
def tail (n : Nat) : UInt8 :=
  UInt8.ofNat (0x80 + n % 0x40)

/-- The bytes of a character. -/
def encodeChar (c : Char) : List UInt8 :=
  let n := c.toNat
  if n < 0x80 then [UInt8.ofNat n]
  else if n < 0x800 then [UInt8.ofNat (0xC0 + n / 0x40), tail n]
  else if n < 0x10000 then [UInt8.ofNat (0xE0 + n / 0x1000), tail (n / 0x40), tail n]
  else [UInt8.ofNat (0xF0 + n / 0x40000), tail (n / 0x1000), tail (n / 0x40), tail n]

/-- The bytes of a text. -/
def encode (text : String) : List UInt8 :=
  text.toList.flatMap encodeChar

/-! ### Decoding -/

/-- What a first byte says: how many bytes follow, the bounds of the first of these, and the bits
that it adds to the code point. -/
structure Lead where
  /-- How many bytes follow. -/
  more : Nat
  /-- The least byte that may follow next. -/
  low : Nat
  /-- The greatest byte that may follow next. -/
  high : Nat
  /-- The bits of the code point. -/
  bits : Nat

/-- What a first byte says. The bounds exclude overlong forms, surrogates and code points beyond the
last one. -/
def lead? (n : Nat) : Option Lead :=
  if n < 0x80 then some ⟨0, 0x80, 0xBF, n⟩
  else if n < 0xC2 then none
  else if n < 0xE0 then some ⟨1, 0x80, 0xBF, n - 0xC0⟩
  else if n = 0xE0 then some ⟨2, 0xA0, 0xBF, 0⟩
  else if n = 0xED then some ⟨2, 0x80, 0x9F, 0xD⟩
  else if n < 0xF0 then some ⟨2, 0x80, 0xBF, n - 0xE0⟩
  else if n = 0xF0 then some ⟨3, 0x90, 0xBF, 0⟩
  else if n < 0xF4 then some ⟨3, 0x80, 0xBF, n - 0xF0⟩
  else if n = 0xF4 then some ⟨3, 0x80, 0x8F, 4⟩
  else none

/-- Reads the bytes that follow a first byte, of which `taken` bytes of the character are read, and
gives the code point and the bytes behind it. -/
def readTails (taken : Nat) : (more low high bits : Nat) → List UInt8 →
    Except Fault (Nat × List UInt8)
  | 0, _, _, bits, rest => .ok (bits, rest)
  | _ + 1, _, _, _, [] => .error .incomplete
  | more + 1, low, high, bits, b :: rest =>
    if low ≤ b.toNat ∧ b.toNat ≤ high then
      readTails (taken + 1) more 0x80 0xBF (bits * 0x40 + (b.toNat - 0x80)) rest
    else .error (.invalid taken)

/-- Reads the character that begins with a given byte. -/
def readChar (first : UInt8) (rest : List UInt8) : Except Fault (Char × List UInt8) :=
  match lead? first.toNat with
  | none => .error (.invalid 1)
  | some lead =>
    match readTails 1 lead.more lead.low lead.high lead.bits rest with
    | .ok (n, rest) => .ok (Char.ofNat n, rest)
    | .error fault => .error fault

theorem length_of_readTails {taken more low high bits n : Nat} {bytes rest : List UInt8}
    (h : readTails taken more low high bits bytes = .ok (n, rest)) :
    rest.length ≤ bytes.length := by
  induction bytes generalizing taken more low high bits with
  | nil => cases more <;> simp_all [readTails]
  | cons b bytes ih =>
    cases more with
    | zero => simp_all [readTails]
    | succ more =>
      simp only [readTails] at h
      split at h
      · exact Nat.le_succ_of_le (ih h)
      · cases h

theorem length_of_readChar {first : UInt8} {bytes rest : List UInt8} {c : Char}
    (h : readChar first bytes = .ok (c, rest)) : rest.length ≤ bytes.length := by
  unfold readChar at h
  split at h
  · cases h
  · split at h
    · next hr => cases h; exact length_of_readTails hr
    · cases h

/-- The characters of a byte sequence of which `index` bytes are read. -/
def decodeFrom (index : Nat) (bytes : List UInt8) : Except DecodeError (List Char) :=
  match bytes with
  | [] => .ok []
  | b :: tail =>
    match _h : readChar b tail with
    | .ok (c, rest) =>
      match decodeFrom (index + (tail.length + 1 - rest.length)) rest with
      | .ok chars => .ok (c :: chars)
      | .error error => .error error
    | .error fault => .error ⟨index, fault⟩
termination_by bytes.length
decreasing_by
  have := length_of_readChar _h
  simp only [List.length_cons]
  omega

/-- The text of a byte sequence, or its first fault. -/
def decode (bytes : List UInt8) : Except DecodeError String :=
  (decodeFrom 0 bytes).map String.ofList

end SetterResolution.Text.Utf8
