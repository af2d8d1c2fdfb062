import SetterResolution.Toml.Lexical

/-!
# The texts of TOML

A text stands between single or double quotes, and between three of them if it has several lines.
Between double quotes a backslash begins an escape; a backslash at the end of a line of a text of
several lines joins the lines. The first end of line of such a text is dropped, and the others
are single characters however they are written.
-/

namespace SetterResolution.Toml

/-- A character that stands for itself between double quotes. -/
def isPlain (c : Char) : Bool :=
  isPrintable c && c != '\x22' && c != '\\'

/-- A character that stands for itself between single quotes. -/
def isLiteral (c : Char) : Bool :=
  isPrintable c && c != '\x27'

/-- The character with a code point; surrogates are none. -/
def scalar? (n : Nat) : Option Char :=
  if n.isValidChar then some (Char.ofNat n) else none

/-- Takes a code point in so many hexadecimal digits. -/
def codePoint (width : Nat) : Scanner Char := fun input => do
  let (digits, input) ← exactly isHexDigit width input
  let c ← scalar? (numeral 16 digits)
  return (c, input)

/-- Takes what stands behind the backslash of an escape. -/
def escape : Scanner Char
  | 'b' :: rest => some ('\x08', rest)
  | 't' :: rest => some ('\t', rest)
  | 'n' :: rest => some ('\n', rest)
  | 'f' :: rest => some ('\x0c', rest)
  | 'r' :: rest => some ('\r', rest)
  | '\x22' :: rest => some ('\x22', rest)
  | '\\' :: rest => some ('\\', rest)
  | 'u' :: rest => codePoint 4 rest
  | 'U' :: rest => codePoint 8 rest
  | _ => none

/-- Takes a text of one line behind its opening double quote. -/
def basicBody : Nat → Scanner (List Char)
  | 0, _ => none
  | n + 1, input =>
    match input with
    | '\x22' :: rest => some ([], rest)
    | '\\' :: rest => do
      let (c, rest) ← escape rest
      let (cs, rest) ← basicBody n rest
      return (c :: cs, rest)
    | c :: rest =>
      if isPlain c then do
        let (cs, rest) ← basicBody n rest
        return (c :: cs, rest)
      else none
    | [] => none

/-- Takes a text in double quotes on one line. -/
def basicText : Scanner String := fun input => do
  let (_, input) ← char '\x22' input
  let (cs, input) ← basicBody (input.length + 1) input
  return (String.ofList cs, input)

/-- Takes a text in single quotes on one line. -/
def literalText : Scanner String := fun input => do
  let (_, input) ← char '\x27' input
  let (cs, input) := span isLiteral input
  let (_, input) ← char '\x27' input
  return (String.ofList cs, input)

/-- Drops the end of a line, if there is one. -/
def dropLineEnd (input : List Char) : List Char :=
  (optional lineEnd input).2

/-- Drops a line end behind blanks and all blanks and line ends after it, if there is one. -/
def joinLines? (input : List Char) : Option (List Char) := do
  let (_, input) ← lineEnd (skipSpaces input)
  return go input.length input
where
  /-- Drops one blank or line end after another. -/
  go : Nat → List Char → List Char
    | 0, input => input
    | n + 1, input =>
      match input with
      | ' ' :: rest | '\t' :: rest | '\n' :: rest | '\r' :: '\n' :: rest => go n rest
      | input => input

/-- The number of quotes at the front, and what is behind them. -/
def quotes (quote : Char) (input : List Char) : Nat × List Char :=
  let (taken, rest) := span (· == quote) input
  (taken.length, rest)

/-- Takes quotes within a text of several lines, or the three that close it and up to two before
them. Gives the quotes that belong to the text, and whether the text is closed. -/
def innerQuotes (quote : Char) (input : List Char) : Option (List Char × Bool × List Char) :=
  match quotes quote input with
  | (0, _) => none
  | (n, rest) =>
    if n ≤ 2 then some (List.replicate n quote, false, rest)
    else if n ≤ 5 then some (List.replicate (n - 3) quote, true, rest)
    else none

/-- Takes a text of several lines behind its opening quotes, where `plain` are the characters that
stand for themselves and `escapes` says whether there are escapes. -/
def multilineBody (quote : Char) (plain : Char → Bool) (escapes : Bool) : Nat → Scanner (List Char)
  | 0, _ => none
  | n + 1, input =>
    match innerQuotes quote input with
    | some (cs, true, rest) => some (cs, rest)
    | some (cs, false, rest) => do
      let (more, rest) ← multilineBody quote plain escapes n rest
      return (cs ++ more, rest)
    | none =>
      match lineEnd input with
      | some (_, rest) => do
        let (cs, rest) ← multilineBody quote plain escapes n rest
        return ('\n' :: cs, rest)
      | none =>
        match input with
        | [] => none
        | c :: rest =>
          if escapes && c == '\\' then
            match joinLines? rest with
            | some rest => multilineBody quote plain escapes n rest
            | none => do
              let (c, rest) ← escape rest
              let (cs, rest) ← multilineBody quote plain escapes n rest
              return (c :: cs, rest)
          else if plain c then do
            let (cs, rest) ← multilineBody quote plain escapes n rest
            return (c :: cs, rest)
          else none

/-- Takes a text of several lines in double quotes. -/
def multilineBasicText : Scanner String := fun input => do
  let (_, input) ← word ['\x22', '\x22', '\x22'] input
  let (cs, input) ← multilineBody '\x22' isPlain true (input.length + 1) (dropLineEnd input)
  return (String.ofList cs, input)

/-- Takes a text of several lines in single quotes. -/
def multilineLiteralText : Scanner String := fun input => do
  let (_, input) ← word ['\x27', '\x27', '\x27'] input
  let (cs, input) ← multilineBody '\x27' isLiteral false (input.length + 1) (dropLineEnd input)
  return (String.ofList cs, input)

/-- Takes a text. An opening of three quotes is tried before one of a single quote. -/
def text : Scanner String := fun input =>
  (multilineBasicText input).orElse fun _ =>
    (basicText input).orElse fun _ =>
      (multilineLiteralText input).orElse fun _ => literalText input

end SetterResolution.Toml
