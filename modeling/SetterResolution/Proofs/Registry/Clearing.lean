import SetterResolution.Proofs.Registry.Merge

/-!
# Clearing owners

To clear owners is to filter the entries: those of the owners go, and all others stay as they are,
in whichever of the five tables they are and wherever it is written who owns them. A row of a table
of two levels goes when nothing is left in it, so that cleared tables are without empty rows and are
known by their lookups.

How many entries are dropped is found from the sizes of the tables and of their rows, before and
after. That is how many entries the owners have (`SetterResolution.Tables.clear_snd`), and so it is
how many entries are gone, as both count the list of all entries
(`SetterResolution.Tables.entries_clear_perm`).

Filters are put together: to clear owners in two steps is to clear them in one, and the counts add
up.

The main statement is `SetterResolution.Tables.clear_filters`.
-/

namespace SetterResolution

open Std (ExtTreeMap ExtTreeSet TransOrd)

/-- What a filter takes from the size of a table is the number of entries that it drops. -/
theorem size_sub_size_filter {α β : Type} [Ord α] [TransOrd α] (table : ExtTreeMap α β)
    (p : α → β → Bool) :
    table.size - (table.filter p).size = table.toList.countP fun entry => !p entry.1 entry.2 := by
  have hsplit := table.toList.length_eq_countP_add_countP fun entry => p entry.1 entry.2
  rw [← ExtTreeMap.length_toList, ← ExtTreeMap.length_toList, ExtTreeMap.toList_filter,
    ← List.countP_eq_length_filter, hsplit, Nat.add_sub_cancel_left]
  simp only [Bool.not_eq_true, Bool.decide_eq_false]

namespace Nested

variable {α β γ : Type} [Ord α] [Ord β] [TransOrd α] [TransOrd β]

/-- How many entries are stale. -/
def staleCount (table : Nested α β γ) (stale : γ → Bool) : Nat :=
  table.rows.countP fun (_, entry) => stale entry

variable (table : Nested α β γ) (stale : γ → Bool)

theorem countP_cells :
    table.cells.countP (fun cell => stale cell.2.2) = table.staleCount stale := by
  simp only [cells, staleCount, rows, List.countP_flatMap, Function.comp_def, List.countP_map]

/-- **As many entries are dropped** as are stale, counted row by row or all at once. -/
theorem discard_snd : (table.discard stale).2 = table.staleCount stale := by
  rw [discard, ExtTreeMap.foldl_eq_foldl_toList, staleCount, rows, List.countP_flatMap,
    List.sum_eq_foldl_nat, List.foldl_map]
  simp only [keep, size_sub_size_filter, Bool.not_not, Function.comp_def]

end Nested

namespace Tables

/-- How many entries the owners have. -/
def ownedCount (tables : Tables) (owners : ExtTreeSet HostType) : Nat :=
  let owned (method : Method) : Bool := method.owner ∈ owners
  tables.adapters.staleCount owned + tables.renamed.staleCount owned +
    tables.conversions.staleCount owned +
    (tables.groups.toList.countP fun (_, method) => owned method) +
    (tables.untaggable.toList.countP fun (_, owner) => owner ∈ owners)

variable (tables : Tables) (owners first second : ExtTreeSet HostType)

/-- The entries of the owners are counted in the list of all entries. -/
theorem countP_entries :
    tables.entries.countP (·.owner ∈ owners) = tables.ownedCount owners := by
  simp only [entries, ownedCount, List.countP_append, List.countP_map, ← Nested.countP_cells]
  rfl

/-- **As many entries are dropped** as the owners have in all five tables. -/
theorem clear_snd : (tables.clear owners).2 = tables.ownedCount owners := by
  simp only [clear, ownedCount, Nested.discard_snd, size_sub_size_filter, decide_not, Bool.not_not]

variable {owners} in
theorem holds_clear_iff {entry : Entry} :
    (tables.clear owners).1.Holds entry ↔ tables.Holds entry ∧ entry.owner ∉ owners := by
  simp only [holds_iff, lookup?_clear, Option.filter_eq_some_iff, decide_eq_true_eq]

/-- **What cleared tables have**: the entries of all other owners. -/
theorem entries_clear_perm :
    (tables.clear owners).1.entries.Perm (tables.entries.filter (·.owner ∉ owners)) := by
  refine (List.perm_ext_iff_of_nodup (nodup_entries _) (tables.nodup_entries.filter _)).mpr ?_
  intro entry
  rw [mem_entries, holds_clear_iff, List.mem_filter, mem_entries, decide_eq_true_iff]

/-- **Each entry that is dropped** is counted once. -/
theorem entryCount_clear :
    (tables.clear owners).1.entryCount + (tables.clear owners).2 = tables.entryCount := by
  have hkept := (tables.entries_clear_perm owners).length_eq
  have hsplit := tables.entries.length_eq_countP_add_countP (·.owner ∈ owners)
  simp only [decide_eq_true_eq] at hsplit
  rw [← List.countP_eq_length_filter] at hkept
  rw [← length_entries, ← length_entries, clear_snd, ← countP_entries]
  omega

/-- **Owners are cleared in one step or in two.** -/
theorem clear_clear :
    ((tables.clear first).1.clear second).1 = (tables.clear (first ∪ second)).1 := by
  refine ext_lookup? (compact_clear _ _) (compact_clear _ _) fun key => ?_
  rw [lookup?_clear, lookup?_clear, lookup?_clear, Option.filter_filter]
  congr 1
  funext entry
  simp [ExtTreeSet.mem_union_iff]

/-- What is dropped in two steps is what is dropped in one. -/
theorem clear_snd_union : (tables.clear first).2 + ((tables.clear first).1.clear second).2 =
    (tables.clear (first ∪ second)).2 := by
  have hfirst := tables.entryCount_clear first
  have hsecond := (tables.clear first).1.entryCount_clear second
  have hboth := tables.entryCount_clear (first ∪ second)
  rw [clear_clear] at hsecond
  omega

/-- **Clearing owners is a filter.** The tables have an entry afterwards just if they had it before
and its owner is none of those, and under every key they find what they found before unless its
owner is one, a group adapter with the order of its attributes. No outer key is left without
entries. The number that is returned is that of the entries that the owners had, and of those that
are gone. To clear other owners after that is to clear both at once, and the two numbers add up to
the one that is returned then. -/
theorem clear_filters (tables : Tables) (first second : ExtTreeSet HostType) :
    let cleared := (tables.clear first).1
    let dropped := (tables.clear first).2
    (∀ entry, cleared.Holds entry ↔ tables.Holds entry ∧ entry.owner ∉ first) ∧
    (∀ key, cleared.lookup? key = (tables.lookup? key).filter (·.owner ∉ first)) ∧
    cleared.Compact ∧
    dropped = tables.ownedCount first ∧
    cleared.entryCount + dropped = tables.entryCount ∧
    (cleared.clear second).1 = (tables.clear (first ∪ second)).1 ∧
    dropped + (cleared.clear second).2 = (tables.clear (first ∪ second)).2 :=
  ⟨fun _ => tables.holds_clear_iff, tables.lookup?_clear first, tables.compact_clear first,
    tables.clear_snd first, tables.entryCount_clear first, tables.clear_clear first second,
    tables.clear_snd_union first second⟩

/-- A row that came without entries goes as well, whoever is cleared. -/
example : (clear { adapters := ExtTreeMap.empty.insert ⟨"hint"⟩ ∅ } ∅).1.adapters.isEmpty := by
  decide +kernel

end Tables

/-- **A registry says** how many entries the owners had. -/
theorem Registry.clear_snd (registry : Registry) (owners : ExtTreeSet HostType) :
    (registry.clear owners).2 = registry.tables.ownedCount owners :=
  registry.tables.clear_snd owners

end SetterResolution
