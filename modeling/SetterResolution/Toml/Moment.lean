import SetterResolution.Toml.Lexical

/-!
# The dates and times of TOML

A date, a time, or a date with a time and perhaps an offset. Days have to be in the calendar; a
minute may have a sixty-first second. A moment keeps its literal.
-/

namespace SetterResolution.Toml

/-- Takes a number of so many digits within bounds. -/
def bounded (width low high : Nat) : Scanner Nat := fun input => do
  let (cs, input) ← exactly isDigit width input
  let n := numeral 10 cs
  if low ≤ n ∧ n ≤ high then return (n, input) else none

/-- How many days a month has. -/
def monthLength (year month : Nat) : Nat :=
  if month = 2 then
    if year % 4 = 0 ∧ (year % 100 ≠ 0 ∨ year % 400 = 0) then 29 else 28
  else if month ∈ [4, 6, 9, 11] then 30
  else 31

/-- Takes a date. -/
def date : Scanner Unit := fun input => do
  let (year, input) ← bounded 4 0 9999 input
  let (_, input) ← char '-' input
  let (month, input) ← bounded 2 1 12 input
  let (_, input) ← char '-' input
  let (_, input) ← bounded 2 1 (monthLength year month) input
  return ((), input)

/-- Drops the fraction of a second, if there is one; a point needs a digit behind it. -/
def skipSecondFraction (input : List Char) : List Char :=
  match input with
  | '.' :: c :: rest => if isDigit c then rest.dropWhile isDigit else input
  | input => input

/-- Takes a time of day. -/
def time : Scanner Unit := fun input => do
  let (_, input) ← bounded 2 0 23 input
  let (_, input) ← char ':' input
  let (_, input) ← bounded 2 0 59 input
  let (_, input) ← char ':' input
  let (_, input) ← bounded 2 0 60 input
  return ((), skipSecondFraction input)

/-- Takes the offset of a time. -/
def offset : Scanner Unit := fun input => do
  let (c, input) ← oneOf (fun c => c ∈ ['Z', 'z', '+', '-']) input
  if c = 'Z' ∨ c = 'z' then return ((), input)
  let (_, input) ← bounded 2 0 23 input
  let (_, input) ← char ':' input
  let (_, input) ← bounded 2 0 59 input
  return ((), input)

/-- Takes the time behind a date. -/
def timeBehindDate : Scanner Unit := fun input => do
  let (_, input) ← oneOf (fun c => c ∈ ['T', 't', ' ']) input
  let (_, input) ← time input
  return ((), (optional offset input).2)

/-- Takes a date with or without a time, or a time, and gives its literal. -/
def moment : Scanner String := fun input => do
  let rest ← match date input with
    | some (_, rest) => some (optional timeBehindDate rest).2
    | none => (time input).map Prod.snd
  return (String.ofList (input.take (input.length - rest.length)), rest)

end SetterResolution.Toml
