import Std.Data.ExtTreeMap

/-!
# Tables of two levels

A table that groups its entries by an outer key. An outer key may be present without entries; a
registry read from a file can have such keys, and only `discard` drops them.
-/

namespace SetterResolution

open Std (ExtTreeMap TransOrd)

/-- Entries of type `γ` by an outer and an inner key. -/
abbrev Nested (α β γ : Type) [Ord α] [Ord β] :=
  ExtTreeMap α (ExtTreeMap β γ)

namespace Nested

variable {α β γ : Type} [Ord α] [Ord β] [TransOrd α] [TransOrd β]

/-- The entry under two keys. -/
def find? (table : Nested α β γ) (outer : α) (inner : β) : Option γ := do
  let entries ← table[outer]?
  entries[inner]?

/-- Sets the entry under two keys. -/
def put (table : Nested α β γ) (outer : α) (inner : β) (entry : γ) : Nested α β γ :=
  table.insert outer ((table.getD outer ∅).insert inner entry)

/-- All outer keys and entries of two tables. Where both have an entry, the first table's stays. -/
def merge (first second : Nested α β γ) : Nested α β γ :=
  (second ∪ first).map fun outer _ => second.getD outer ∅ ∪ first.getD outer ∅

/-- The entries of a row that are not stale. -/
def keep (stale : γ → Bool) (entries : ExtTreeMap β γ) : ExtTreeMap β γ :=
  entries.filter fun _ entry => !stale entry

/-- Drops the entries that are stale, and every outer key that has none left. How many entries are
dropped is added up row by row, from the sizes before and after. -/
def discard (table : Nested α β γ) (stale : γ → Bool) : Nested α β γ × Nat :=
  (table.filterMap fun _ entries =>
      if (keep stale entries).isEmpty then none else some (keep stale entries),
    table.foldl (fun dropped _ entries => dropped + (entries.size - (keep stale entries).size)) 0)

/-- The entries under all outer keys. -/
def rows (table : Nested α β γ) : List (β × γ) :=
  table.toList.flatMap fun (_, entries) => entries.toList

/-- How many entries there are. -/
def entryCount (table : Nested α β γ) : Nat :=
  table.rows.length

end Nested

end SetterResolution
