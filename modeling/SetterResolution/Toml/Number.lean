import SetterResolution.Toml.Lexical

/-!
# The numbers of TOML

Integers are decimal, or hexadecimal, octal or binary behind a mark, and fit into 64 bits with a
sign. Floats have a fraction, an exponent or both, or are `inf` or `nan`. Digits may be grouped by
single underscores. A float keeps its literal; one that is too large is refused, though one that is
too small below zero is not.
-/

namespace SetterResolution.Toml

/-- Takes digits of a class behind a first one; an underscore stands between two digits. -/
def moreDigits (digit : Char → Bool) : List Char → Option (List Char × List Char)
  | '_' :: c :: rest =>
    if digit c then (moreDigits digit rest).map fun (cs, rest) => (c :: cs, rest) else none
  | c :: rest =>
    if c = '_' then none
    else if digit c then (moreDigits digit rest).map fun (cs, rest) => (c :: cs, rest)
    else some ([], c :: rest)
  | [] => some ([], [])

/-- Takes at least one digit of a class; the underscores are dropped. -/
def digits (digit : Char → Bool) : Scanner (List Char) := fun input => do
  let (first, input) ← oneOf digit input
  let (more, input) ← moreDigits digit input
  return (first :: more, input)

/-- Takes a sign; true is minus. -/
def sign (input : List Char) : Bool × List Char :=
  match input with
  | '-' :: rest => (true, rest)
  | '+' :: rest => (false, rest)
  | input => (false, input)

/-- Takes the digits of a decimal integer: no zero leads other digits. -/
def wholeDigits : Scanner (List Char)
  | '0' :: rest => some (['0'], rest)
  | input => digits isDigit input

/-- A number that fits into 64 bits with a sign. -/
def fit64? (n : Int) : Option Int :=
  if Int64.minValue.toInt ≤ n ∧ n ≤ Int64.maxValue.toInt then some n else none

/-- Takes a decimal integer. -/
def decimal : Scanner Int := fun input => do
  let (negative, input) := sign input
  let (cs, input) ← wholeDigits input
  let n ← fit64? (if negative then -(numeral 10 cs) else numeral 10 cs)
  return (n, input)

/-- Takes the digits of an integer in a base behind its mark. -/
def inBase (base : Nat) : Scanner Int := fun input => do
  let (cs, input) ← digits (fun c => isHexDigit c && digitValue c < base) input
  let n ← fit64? (numeral base cs)
  return (n, input)

/-- Takes an integer. -/
def integer : Scanner Int
  | '0' :: 'x' :: rest => inBase 16 rest
  | '0' :: 'o' :: rest => inBase 8 rest
  | '0' :: 'b' :: rest => inBase 2 rest
  | input => decimal input

/-! ### Floats -/

/-- Whether `m * 10 ^ e` is so large that the nearest float is infinite. The number of digits
decides, except near the limit `(2 ^ 54 - 1) * 2 ^ 970`. -/
def isHuge (m : Nat) (e : Int) : Bool :=
  let magnitude := (Nat.toDigits 10 m).length + e
  if m = 0 ∨ magnitude < 309 then false
  else if 309 < magnitude then true
  else (Nat.pow 2 54 - 1) * Nat.pow 2 970 * Nat.pow 10 (-e).toNat ≤ m * Nat.pow 10 e.toNat

/-- Takes a fraction: a point and digits. -/
def fraction : Scanner (List Char) := fun input => do
  let (_, input) ← char '.' input
  digits isDigit input

/-- Takes an exponent. -/
def exponent : Scanner Int := fun input => do
  let (_, input) ← oneOf (fun c => c == 'e' || c == 'E') input
  let (negative, input) := sign input
  let (cs, input) ← digits isDigit input
  return (if negative then -(numeral 10 cs) else numeral 10 cs, input)

/-- Takes a float in digits. -/
def digitFloat : Scanner Unit := fun input => do
  let (negative, input) := sign input
  let (whole, input) ← wholeDigits input
  let (places, power, input) ← match fraction input with
    | some (places, input) =>
      if (oneOf (fun c => c == 'e' || c == 'E') input).isSome then do
        let (power, input) ← exponent input
        some (places, power, input)
      else some (places, 0, input)
    | none => do
      let (power, input) ← exponent input
      some ([], power, input)
  if !negative && isHuge (numeral 10 (whole ++ places)) (power - places.length) then none
  else some ((), input)

/-- Takes an infinite float or one that is no number. -/
def namedFloat : Scanner Unit := fun input =>
  let (_, input) := sign input
  (word ['i', 'n', 'f'] input).orElse fun _ => word ['n', 'a', 'n'] input

/-- Takes a float, and gives its literal. -/
def float : Scanner String := fun input => do
  let (_, rest) ← (digitFloat input).orElse fun _ => namedFloat input
  return (String.ofList (input.take (input.length - rest.length)), rest)

end SetterResolution.Toml
