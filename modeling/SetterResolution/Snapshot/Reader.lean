import SetterResolution.Attribute
import SetterResolution.HostType
import SetterResolution.Text.Utf8

/-!
# Reading and writing bytes

The fields of a snapshot file: numbers of fixed width with the lowest byte first, texts and lists
behind their lengths. A reader takes a value from the front of the bytes and leaves the rest, so
readers are joined one after another.

Two faults of a text are told apart: a text that is longer than what is left, and one that is not
UTF-8. The length is checked first.
-/

namespace SetterResolution.Snapshot

open Text

/-- Why bytes could not be read. -/
inductive DecodeError where
  /-- The input ends within a number. -/
  | endOfInput
  /-- A text is longer than what is left of the input. -/
  | shortText
  /-- A tag that is not one of the first `count`. -/
  | badTag (found count : Nat)
  /-- A text is not UTF-8. -/
  | badText (error : Utf8.DecodeError)
  /-- A group key has different numbers of attributes and types. -/
  | unevenKey (view : HostType) (attrs types : Nat)
  /-- A group key repeats an attribute. -/
  | repeatedAttribute (view : HostType) (attr : Attribute)
  deriving DecidableEq, Repr

/-- What is said about bytes that could not be read. -/
def DecodeError.message : DecodeError → String
  | endOfInput => "io error: unexpected end of file"
  | shortText => "io error: "
  | badTag found count =>
    "invalid value: integer `" ++ toString found ++ "`, expected variant index 0 <= i < " ++
      toString count
  | badText error => "string is not valid utf8: " ++ error.message
  | unevenKey view attrs types =>
    "multi-attribute key on " ++ view.text ++ " has " ++ toString attrs ++
      " attribute(s) but " ++ toString types ++ " parameter type(s)"
  | repeatedAttribute view attr =>
    "multi-attribute key on " ++ view.text ++ " repeats attribute " ++ attr.name

/-- Takes a value from the front of the bytes. -/
abbrev Reader (α : Type) := StateT (List UInt8) (Except DecodeError) α

/-! ### Numbers -/

/-- A number in `width` bytes. -/
def writeNat : (width : Nat) → Nat → List UInt8
  | 0, _ => []
  | width + 1, n => UInt8.ofNat (n % 256) :: writeNat width (n / 256)

/-- Reads a number in `width` bytes. -/
def readNat : (width : Nat) → Reader Nat
  | 0 => fun bytes => .ok (0, bytes)
  | width + 1 => fun bytes =>
    match bytes with
    | [] => .error .endOfInput
    | b :: bytes =>
      match readNat width bytes with
      | .ok (n, rest) => .ok (b.toNat + 256 * n, rest)
      | .error error => .error error

/-- A tag, in four bytes. -/
def writeTag (tag : Nat) : List UInt8 :=
  writeNat 4 tag

/-- Reads a tag. -/
def readTag : Reader Nat :=
  readNat 4

/-- A length, in eight bytes. -/
def writeLength (length : Nat) : List UInt8 :=
  writeNat 8 length

/-- Reads a length. -/
def readLength : Reader Nat :=
  readNat 8

/-! ### Texts and lists -/

/-- A text behind the number of its bytes. -/
def writeText (text : String) : List UInt8 :=
  let bytes := Utf8.encode text
  writeLength bytes.length ++ bytes

/-- Takes a text of `length` bytes. -/
def takeText (length : Nat) : Reader String := fun bytes =>
  if bytes.length < length then .error .shortText
  else match Utf8.decode (bytes.take length) with
    | .ok text => .ok (text, bytes.drop length)
    | .error error => .error (.badText error)

/-- Reads a text. -/
def readText : Reader String := do
  takeText (← readLength)

/-- The members of a list behind their number. -/
def writeList {α : Type} (write : α → List UInt8) (items : List α) : List UInt8 :=
  writeLength items.length ++ items.flatMap write

/-- Reads so many members of a list. -/
def readItems {α : Type} (read : Reader α) : Nat → Reader (List α)
  | 0 => pure []
  | n + 1 => do
    let item ← read
    let items ← readItems read n
    return item :: items

/-- Reads a list. -/
def readList {α : Type} (read : Reader α) : Reader (List α) := do
  readItems read (← readLength)

/-- A pair, the first member in front. -/
def writePair {α β : Type} (first : α → List UInt8) (second : β → List UInt8) (pair : α × β) :
    List UInt8 :=
  first pair.1 ++ second pair.2

/-- Reads a pair. -/
def readPair {α β : Type} (first : Reader α) (second : Reader β) : Reader (α × β) := do
  return (← first, ← second)

end SetterResolution.Snapshot
