import SetterResolution.Toml.Value

/-!
# TOML documents

A document is a sequence of lines that set an entry of a table or open another table. What a line
may do depends on how the tables on its way came to be:

* a table that a header has opened is complete as soon as the next header comes: no other header and
  no dotted key continues it, but headers may add tables below it;
* a table that is only implied by a longer header may still be opened by a header of its own;
* a table that dotted keys have opened is continued by dotted keys of the same table alone;
* a header in double brackets adds a table to an array, and headers below it belong to the table
  that was added last.
-/

namespace SetterResolution.Toml

/-- How a table came to be. -/
inductive Origin where
  /-- A header has opened it, or it is the document itself. -/
  | header
  /-- A longer header implies it. -/
  | implied
  /-- Dotted keys have opened it. -/
  | dotted
  deriving DecidableEq, Repr

/-- What stands under a name of a table. -/
inductive Node where
  /-- A value. -/
  | value (value : Value)
  /-- A table. -/
  | table (origin : Origin) (entries : List (String × Node))
  /-- An array of tables. -/
  | tables (tables : List (List (String × Node)))

/-- The entries of a table. -/
abbrev Entries := List (String × Node)

/-- Sets the entry under a name that is there. -/
def Entries.replace (entries : Entries) (name : String) (node : Node) : Entries :=
  entries.map fun entry => if entry.1 = name then (name, node) else entry

/-- Changes the table that names lead to from a table of the given origin. Tables that are not there
are opened on the way. Dotted keys do not go through tables that have a header. -/
def changeAt (isDotted : Bool) (change : Origin → Entries → Option Entries) :
    List String → Origin → Entries → Option Entries
  | [], origin, entries => change origin entries
  | name :: path, _, entries =>
    match entries.lookup name with
    | none => do
      let origin := if isDotted then .dotted else .implied
      let inner ← changeAt isDotted change path origin []
      return entries ++ [(name, .table origin inner)]
    | some (.value _) => none
    | some (.table origin inner) => do
      if isDotted ∧ origin = .header then none
      let inner ← changeAt isDotted change path origin inner
      return entries.replace name (.table origin inner)
    | some (.tables tables) => do
      let last ← tables.getLast?
      let last ← changeAt isDotted change path .header last
      return entries.replace name (.tables (tables.dropLast ++ [last]))

/-- Sets an entry under a dotted key of a table. The last table on the way must be one that dotted
keys have opened, and the name must be new. -/
def setEntry (path : List String) (last : String) (value : Value) (origin : Origin)
    (entries : Entries) : Option Entries :=
  changeAt true (fun origin entries => do
      if path ≠ [] ∧ origin ≠ .dotted then none
      if (entries.lookup last).isSome then none
      return entries ++ [(last, .value value)])
    path origin entries

/-- Opens a table by a header. -/
def openTable (path : List String) (last : String) (root : Entries) : Option Entries :=
  changeAt false (fun _ entries =>
      match entries.lookup last with
      | none => some (entries ++ [(last, .table .header [])])
      | some (.table .implied inner) => some (entries.replace last (.table .header inner))
      | _ => none)
    path .header root

/-- Adds a table to an array by a header in double brackets. -/
def addTable (path : List String) (last : String) (root : Entries) : Option Entries :=
  changeAt false (fun _ entries =>
      match entries.lookup last with
      | none => some (entries ++ [(last, .tables [[]])])
      | some (.tables tables) => some (entries.replace last (.tables (tables ++ [[]])))
      | _ => none)
    path .header root

/-! ### Lines -/

/-- What has been read of a document: its entries, and the names that lead to the open table. -/
structure Progress where
  /-- The entries of the document. -/
  root : Entries := []
  /-- The names that lead to the open table. -/
  here : List String := []

/-- Takes a header in the given brackets behind the opening one, and opens what it names. -/
def header (close : List Char)
    (act : List String → String → Entries → Option Entries) (progress : Progress) :
    Scanner Progress := fun input => do
  let ((path, last), input) ← key input
  let (_, input) ← word close input
  let input ← finishLine input
  let root ← act path last progress.root
  return ({ root, here := path ++ [last] }, input)

/-- Takes an entry of the open table. -/
def entry (progress : Progress) : Scanner Progress := fun input => do
  let ((path, last), input) ← key input
  let (_, input) ← char '=' input
  let (value, input) ← value (nestingLimit - 1) (skipSpaces input)
  let input ← finishLine input
  let root ← changeAt false (setEntry path last value) progress.here .header progress.root
  return ({ progress with root }, input)

/-- Takes one line. -/
def line (progress : Progress) : Scanner Progress := fun input =>
  match skipSpaces input with
  | [] => some (progress, [])
  | '#' :: rest => (finishLine ('#' :: rest)).map fun rest => (progress, rest)
  | '\n' :: rest => some (progress, rest)
  | '\r' :: '\n' :: rest => some (progress, rest)
  | '[' :: '[' :: rest => header [']', ']'] addTable progress rest
  | '[' :: rest => header [']'] openTable progress rest
  | input => entry progress input

/-- Takes the lines of a document; each of them has at least one character. -/
def lines : Nat → Progress → List Char → Option Entries
  | _, progress, [] => some progress.root
  | 0, _, _ => none
  | n + 1, progress, input => do
    let (progress, input) ← line progress input
    lines n progress input

/-- The entries of a document, if it is one. A byte order mark in front is dropped. -/
def parse (document : String) : Option Entries :=
  let input := match document.toList with
    | '\uFEFF' :: rest => rest
    | input => input
  lines input.length {} input

end SetterResolution.Toml
