import SetterResolution.Toml.Moment
import SetterResolution.Toml.Number
import SetterResolution.Toml.Text

/-!
# The keys and values of TOML

A key is a name or several names with points between them. A value is a scalar, an array or an
inline table. The keys of an inline table may be dotted; the tables that they open can be continued
by other dotted keys of the same inline table, but a table that is written out is complete.

Arrays and inline tables may be nested only so deep, and keys may have only so many names.
-/

namespace SetterResolution.Toml

/-- A value of a document. -/
inductive Value where
  /-- A text. -/
  | text (text : String)
  /-- An integer. -/
  | integer (n : Int)
  /-- A float, by its literal. -/
  | float (literal : String)
  /-- A truth value. -/
  | boolean (b : Bool)
  /-- A date or time, by its literal. -/
  | moment (literal : String)
  /-- An array. -/
  | array (items : List Value)
  /-- An inline table. It is open if dotted keys may continue it. -/
  | table (isOpen : Bool) (entries : List (String × Value))

/-- One more than the number of arrays and inline tables that can be nested, and of the names that a
key can have. -/
def nestingLimit : Nat := 80

/-! ### Keys -/

/-- A character that may stand in a name without quotes. -/
def isBare (c : Char) : Bool :=
  isDigit c || ('a' ≤ c && c ≤ 'z') || ('A' ≤ c && c ≤ 'Z') || c == '-' || c == '_'

/-- Takes a name without quotes. -/
def bareName : Scanner String := fun input =>
  match span isBare input with
  | ([], _) => none
  | (cs, rest) => some (String.ofList cs, rest)

/-- Takes one name of a key with the blanks around it. -/
def name : Scanner String := fun input => do
  let input := skipSpaces input
  let (name, input) ← match input with
    | '\x22' :: _ => basicText input
    | '\x27' :: _ => literalText input
    | _ => bareName input
  return (name, skipSpaces input)

/-- Takes the names behind points. A point without a name behind it is left. -/
def moreNames : Nat → List Char → List String × List Char
  | 0, input => ([], input)
  | n + 1, input =>
    match (do let (_, rest) ← char '.' input; name rest) with
    | none => ([], input)
    | some (first, rest) =>
      let (more, rest) := moreNames n rest
      (first :: more, rest)

/-- Takes a key, as the names before the last one and the last one. -/
def key : Scanner (List String × String) := fun input => do
  let (first, input) ← name input
  let (more, input) := moreNames input.length input
  if nestingLimit ≤ more.length + 1 then none
  let names := first :: more
  return ((names.dropLast, names.getLast (List.cons_ne_nil _ _)), input)

/-! ### Inline tables -/

/-- Sets an entry of an inline table, found along the names of a dotted key. -/
def insertInline (value : Value) (last : String) :
    List String → List (String × Value) → Option (List (String × Value))
  | [], entries =>
    if (entries.lookup last).isSome then none else some (entries ++ [(last, value)])
  | name :: path, entries =>
    match entries.lookup name with
    | none => do
      let inner ← insertInline value last path []
      return entries ++ [(name, .table true inner)]
    | some (.table true inner) => do
      let inner ← insertInline value last path inner
      return entries.map fun entry => if entry.1 = name then (name, .table true inner) else entry
    | some _ => none

/-- The entries of an inline table, unless two of them are at odds. -/
def inlineEntries (pairs : List ((List String × String) × Value)) :
    Option (List (String × Value)) :=
  pairs.foldlM (fun entries ((path, last), value) => insertInline value last path entries) []

/-! ### Values -/

/-- Takes a value that is neither an array nor an inline table. -/
def scalar : Scanner Value := fun input =>
  match input with
  | '\x22' :: _ | '\x27' :: _ => (text input).map fun (text, rest) => (.text text, rest)
  | 't' :: _ => (word ['t', 'r', 'u', 'e'] input).map fun (_, rest) => (.boolean true, rest)
  | 'f' :: _ => (word ['f', 'a', 'l', 's', 'e'] input).map fun (_, rest) => (.boolean false, rest)
  | _ =>
    ((moment input).map fun (literal, rest) => (Value.moment literal, rest)).orElse fun _ =>
      ((float input).map fun (literal, rest) => (Value.float literal, rest)).orElse fun _ =>
        (integer input).map fun (n, rest) => (.integer n, rest)

/-- Takes the items of an array behind its bracket. -/
def arrayBody (value : Scanner Value) : Scanner Value := fun input => do
  let item : Scanner Value := fun input => do
    let (item, rest) ← value (skipLines input)
    return (item, skipLines rest)
  let (items, rest) := separated item input
  let rest := if items.isEmpty then rest else (optional (char ',') rest).2
  let (_, rest) ← char ']' (skipLines rest)
  return (.array items, rest)

/-- Takes the entries of an inline table behind its brace. -/
def tableBody (value : Scanner Value) : Scanner Value := fun input => do
  let entry : Scanner ((List String × String) × Value) := fun input => do
    let (key, rest) ← key input
    let (_, rest) ← char '=' rest
    let (value, rest) ← value (skipSpaces rest)
    return ((key, value), skipSpaces rest)
  let (pairs, rest) := separated entry input
  let entries ← inlineEntries pairs
  let (_, rest) ← char '\x7d' (skipSpaces rest)
  return (.table false entries, rest)

/-- Takes a value in which arrays and inline tables are nested at most so deep. -/
def value : (depth : Nat) → Scanner Value
  | 0, input => scalar input
  | depth + 1, input =>
    match input with
    | '[' :: rest => arrayBody (value depth) rest
    | '\x7b' :: rest => tableBody (value depth) rest
    | input => scalar input

end SetterResolution.Toml
