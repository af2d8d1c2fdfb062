/-!
# The characters of TOML

A scanner takes something from the front of a document, if it is there, and leaves the rest. The
scanners of this module are those that every part of the grammar uses: single characters, blanks,
ends of lines and comments.
-/

namespace SetterResolution.Toml

/-- Takes something from the front of the characters, if it is there. -/
abbrev Scanner (α : Type) := List Char → Option (α × List Char)

/-- Takes one given character. -/
def char (c : Char) : Scanner Unit
  | d :: rest => if d = c then some ((), rest) else none
  | [] => none

/-- Takes one character of a class. -/
def oneOf (p : Char → Bool) : Scanner Char
  | c :: rest => if p c then some (c, rest) else none
  | [] => none

/-- Takes given characters. -/
def word (chars : List Char) : Scanner Unit := fun input =>
  if chars.isPrefixOf input then some ((), input.drop chars.length) else none

/-- Takes the characters of a class from the front, perhaps none. -/
def span (p : Char → Bool) (input : List Char) : List Char × List Char :=
  (input.takeWhile p, input.dropWhile p)

/-- Takes exactly so many characters of a class. -/
def exactly (p : Char → Bool) : Nat → Scanner (List Char)
  | 0, input => some ([], input)
  | n + 1, input => do
    let (c, input) ← oneOf p input
    let (cs, input) ← exactly p n input
    return (c :: cs, input)

/-- Takes what a scanner takes, or nothing. -/
def optional {α : Type} (scan : Scanner α) (input : List Char) : Option α × List Char :=
  match scan input with
  | some (a, rest) => (some a, rest)
  | none => (none, input)

/-- Takes members between commas, as many as there are. A comma without a member behind it is left.
There are at most as many members as characters. -/
def separated {α : Type} (item : Scanner α) (input : List Char) : List α × List Char :=
  match item input with
  | none => ([], input)
  | some (first, rest) =>
    let (more, rest) := behindCommas rest.length rest
    (first :: more, rest)
where
  /-- Takes members that each have a comma in front. -/
  behindCommas : Nat → List Char → List α × List Char
    | 0, input => ([], input)
    | n + 1, input =>
      match (do let (_, rest) ← char ',' input; item rest) with
      | none => ([], input)
      | some (a, rest) =>
        let (more, rest) := behindCommas n rest
        (a :: more, rest)

/-! ### Classes -/

/-- A blank of TOML: space or tab. -/
def isSpace (c : Char) : Bool :=
  c == ' ' || c == '\t'

/-- A character that may stand in a comment: no control character except the tab. -/
def isPrintable (c : Char) : Bool :=
  c == '\t' || (0x20 ≤ c.toNat && c.toNat ≤ 0x7E) || 0x80 ≤ c.toNat

/-- A decimal digit. -/
def isDigit (c : Char) : Bool :=
  '0' ≤ c && c ≤ '9'

/-- A hexadecimal digit. -/
def isHexDigit (c : Char) : Bool :=
  isDigit c || ('a' ≤ c && c ≤ 'f') || ('A' ≤ c && c ≤ 'F')

/-- The value of a hexadecimal digit. -/
def digitValue (c : Char) : Nat :=
  if isDigit c then c.toNat - '0'.toNat
  else if 'a' ≤ c then c.toNat - 'a'.toNat + 10
  else c.toNat - 'A'.toNat + 10

/-- The number that digits stand for. -/
def numeral (base : Nat) (digits : List Char) : Nat :=
  digits.foldl (fun n c => n * base + digitValue c) 0

/-! ### Blanks, lines and comments -/

/-- Drops spaces and tabs. -/
def skipSpaces (input : List Char) : List Char :=
  input.dropWhile isSpace

/-- Takes the end of a line. -/
def lineEnd : Scanner Unit
  | '\n' :: rest => some ((), rest)
  | '\r' :: '\n' :: rest => some ((), rest)
  | _ => none

/-- Takes the end of a line or of the document. -/
def lineOrInputEnd (input : List Char) : Option (List Char) :=
  match input with
  | [] => some []
  | input => (lineEnd input).map Prod.snd

/-- Drops a comment, if there is one. -/
def skipComment (input : List Char) : List Char :=
  match input with
  | '#' :: rest => rest.dropWhile isPrintable
  | input => input

/-- What may stand behind an expression: blanks, a comment and the end of the line. -/
def finishLine (input : List Char) : Option (List Char) :=
  lineOrInputEnd (skipComment (skipSpaces input))

/-- Drops blanks, comments and ends of lines. A step drops at least one character. -/
def skipLines (input : List Char) : List Char :=
  go input.length input
where
  /-- Drops one blank, comment or end of line after another. -/
  go : Nat → List Char → List Char
    | 0, input => input
    | n + 1, input =>
      match input with
      | ' ' :: rest | '\t' :: rest | '\n' :: rest | '\r' :: '\n' :: rest => go n rest
      | '#' :: rest => go n (rest.dropWhile isPrintable)
      | input => input

end SetterResolution.Toml
