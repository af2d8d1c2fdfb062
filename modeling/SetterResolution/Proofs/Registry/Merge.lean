import Mathlib.Data.List.Nodup
import Mathlib.Data.List.Perm.Subperm
import SetterResolution.Proofs.Registry.OneTable
import SetterResolution.Snapshot.Basic

/-!
# Merging tables

To merge tables is to take the union of them, and where two of them have an entry under one key, the
first of the two wins. This is associative, it changes nothing where tables are merged with
themselves or with no tables at all, and it is commutative as far as nothing has to win: tables that
share no key are merged to the same tables in either order, down to the bytes of a snapshot.

There are two things to know about merged tables, and all of these laws follow from them: what is
found under a key (`SetterResolution.Tables.lookup?_merge`), and which rows there are
(`SetterResolution.Tables.hasRow_merge`). Lookups alone do not determine tables, since a row that
was read from a file may be without entries; lookups and rows together do
(`SetterResolution.Tables.ext_hasRow`).

To count entries the five tables are listed as one (`SetterResolution.Tables.entries`). The merged
tables have the entries of the first and, of the second, those that are new
(`SetterResolution.Tables.entries_merge_perm`).

The main statement is `SetterResolution.Tables.merge_leftBiased`.
-/

namespace SetterResolution

open Std (ExtTreeMap TransOrd LawfulEqOrd)

/-! ### Rows -/

/-- An outer key of one of the tables of two levels. -/
inductive RowKey where
  /-- An attribute with adapters. -/
  | adapters (attr : Attribute)
  /-- An attribute with renamed setters. -/
  | renamed (attr : Attribute)
  /-- A type with conversions. -/
  | conversions (source : HostType)
  deriving DecidableEq, Repr

theorem Nested.mem_merge {α β γ : Type} [Ord α] [Ord β] [TransOrd α] [TransOrd β]
    {first second : Nested α β γ} {outer : α} :
    outer ∈ first.merge second ↔ outer ∈ first ∨ outer ∈ second := by
  rw [merge, ExtTreeMap.mem_map, ExtTreeMap.mem_union_iff, or_comm]

namespace Tables

/-- Whether tables have a row, with entries or without. -/
def HasRow (tables : Tables) : RowKey → Prop
  | .adapters attr => attr ∈ tables.adapters
  | .renamed attr => attr ∈ tables.renamed
  | .conversions source => source ∈ tables.conversions

theorem hasRow_merge {first second : Tables} {row : RowKey} :
    (first.merge second).HasRow row ↔ first.HasRow row ∨ second.HasRow row := by
  cases row <;> exact Nested.mem_merge

theorem not_hasRow_empty (row : RowKey) : ¬ empty.HasRow row := by
  cases row <;> exact ExtTreeMap.not_mem_empty

/-- **Tables are known by their rows and lookups.** -/
theorem ext_hasRow {a b : Tables} (hrows : ∀ row, a.HasRow row ↔ b.HasRow row)
    (h : ∀ key, a.lookup? key = b.lookup? key) : a = b := by
  obtain ⟨hadapters, hrenamed, hconversions, hgroups, huntaggable⟩ := find?_eq_of_lookup? h
  have hadapters := Nested.ext_mem_find? (fun attr => hrows (.adapters attr)) hadapters
  have hrenamed := Nested.ext_mem_find? (fun attr => hrows (.renamed attr)) hrenamed
  have hconversions := Nested.ext_mem_find? (fun source => hrows (.conversions source)) hconversions
  cases a
  cases b
  simp_all

/-! ### The laws of merging -/

theorem merge_empty (tables : Tables) : tables.merge empty = tables :=
  ext_hasRow (fun row => by simp [hasRow_merge, not_hasRow_empty])
    fun key => by rw [lookup?_merge, lookup?_empty, Option.or_none]

theorem empty_merge (tables : Tables) : empty.merge tables = tables :=
  ext_hasRow (fun row => by simp [hasRow_merge, not_hasRow_empty])
    fun key => by rw [lookup?_merge, lookup?_empty, Option.none_or]

theorem merge_self (tables : Tables) : tables.merge tables = tables :=
  ext_hasRow (fun row => by simp [hasRow_merge])
    fun key => by rw [lookup?_merge, Option.or_self]

theorem merge_assoc (a b c : Tables) : (a.merge b).merge c = a.merge (b.merge c) :=
  ext_hasRow (fun row => by simp [hasRow_merge, or_assoc])
    fun key => by simp only [lookup?_merge, Option.or_assoc]

/-- **Where nothing has to win, the order does not matter.** -/
theorem merge_comm_of_disjoint {a b : Tables}
    (h : ∀ key, a.lookup? key = none ∨ b.lookup? key = none) : a.merge b = b.merge a := by
  refine ext_hasRow (fun row => by simp [hasRow_merge, or_comm]) fun key => ?_
  rw [lookup?_merge, lookup?_merge]
  rcases h key with hnone | hnone <;> simp [hnone]

end Tables

/-! ### Entries in a list -/

namespace Nested

variable {α β γ : Type} [Ord α] [Ord β] [TransOrd α] [TransOrd β]

/-- The entries of a table of two levels, each with its keys. -/
def cells (table : Nested α β γ) : List (α × β × γ) :=
  table.toList.flatMap fun (outer, row) =>
    row.toList.map fun (inner, entry) => (outer, inner, entry)

theorem length_cells (table : Nested α β γ) : table.cells.length = table.entryCount := by
  simp only [cells, entryCount, rows, List.length_flatMap, List.length_map]

variable [LawfulEqOrd α]

theorem mem_cells [LawfulEqOrd β] {table : Nested α β γ} {outer : α} {inner : β} {entry : γ} :
    (outer, inner, entry) ∈ table.cells ↔ table.find? outer inner = some entry := by
  simp [cells, find?_eq_bind, Option.bind_eq_some_iff, ExtTreeMap.mem_toList_iff_getElem?_eq_some]

/-- A table of two levels has no entry twice. -/
theorem nodup_cells (table : Nested α β γ) : table.cells.Nodup := by
  refine List.nodup_flatMap.mpr ⟨fun ⟨outer, row⟩ _ => ?_, ?_⟩
  · exact (nodup_toList row).map fun x y h => Prod.ext (by simp_all) (by simp_all)
  · refine ExtTreeMap.distinct_keys_toList.imp fun {x y} hne => ?_
    -- entries of different rows differ in the outer key
    rintro cell hx hy
    obtain ⟨_, _, rfl⟩ := List.mem_map.mp hx
    obtain ⟨_, _, heq⟩ := List.mem_map.mp hy
    rw [(Prod.mk.inj heq).1] at hne
    exact hne Std.ReflCmp.compare_self

end Nested

namespace Tables

/-- The entries of all five tables. -/
def entries (tables : Tables) : List Entry :=
  (tables.adapters.cells.map fun (attr, key, method) => .adapter attr key method) ++
    (tables.renamed.cells.map fun (attr, target, method) => .renamed attr target method) ++
    (tables.conversions.cells.map fun (source, target, method) =>
      .conversion source target method) ++
    (tables.groups.toList.map fun (key, method) => .group key method) ++
    (tables.untaggable.toList.map fun (view, owner) => .untaggable view owner)

theorem length_entries (tables : Tables) : tables.entries.length = tables.entryCount := by
  simp only [entries, entryCount, List.length_append, List.length_map, Nested.length_cells,
    ExtTreeMap.length_toList]

theorem mem_entries {tables : Tables} {entry : Entry} :
    entry ∈ tables.entries ↔ tables.Holds entry := by
  cases entry <;> simp [entries, Holds, Nested.mem_cells, GroupTable.find?_eq_some_iff_mem,
    ExtTreeMap.mem_toList_iff_getElem?_eq_some]

/-- Nothing is listed twice if nothing of one kind is, and no other kind has it. -/
theorem nodup_map_append {α : Type} {f : α → Entry} {l : List α} {rest : List Entry}
    (hf : Function.Injective f) (hl : l.Nodup) (hrest : rest.Nodup) (hnew : ∀ a, f a ∉ rest) :
    (l.map f ++ rest).Nodup :=
  (hl.map hf).append hrest fun entry hentry hmem => by
    obtain ⟨a, -, rfl⟩ := List.mem_map.mp hentry
    exact hnew a hmem

theorem nodup_entries (tables : Tables) : tables.entries.Nodup := by
  simp only [entries, List.append_assoc]
  refine nodup_map_append ?_ (Nested.nodup_cells _) (nodup_map_append ?_ (Nested.nodup_cells _)
    (nodup_map_append ?_ (Nested.nodup_cells _) (nodup_map_append ?_ (nodup_toList _)
      ((nodup_toList _).map ?_) ?_) ?_) ?_) ?_
  -- an entry says its keys, and which kind it is
  all_goals
    intro x
    simp

theorem holds_merge_iff {first second : Tables} {entry : Entry} :
    (first.merge second).Holds entry ↔
      first.Holds entry ∨ first.lookup? entry.key = none ∧ second.Holds entry := by
  simp only [holds_iff, lookup?_merge, Option.or_eq_some_iff]

/-- **What merged tables have**: the entries of the first tables, and those of the second whose key
is new. -/
theorem entries_merge_perm (first second : Tables) :
    (first.merge second).entries.Perm
      (first.entries ++ second.entries.filter fun entry => first.lookup? entry.key = none) := by
  have hnodup : (first.entries ++
      second.entries.filter fun entry => first.lookup? entry.key = none).Nodup := by
    refine first.nodup_entries.append (second.nodup_entries.filter _) fun entry hfirst hnew => ?_
    -- an entry of the first tables is found there, so that its key is not new
    have hfound := holds_iff.mp (mem_entries.mp hfirst)
    simp [hfound] at hnew
  refine (List.perm_ext_iff_of_nodup (nodup_entries _) hnodup).mpr fun entry => ?_
  simp [mem_entries, holds_merge_iff, and_comm]

/-! ### Shared keys -/

/-- How many keys of the first tables are keys of the second, too. -/
def sharedCount (first second : Tables) : Nat :=
  first.entries.countP fun entry => second.lookup? entry.key ≠ none

/-- Every shared key has an entry in the other tables, and no two of them have the same. -/
theorem sharedCount_le (first second : Tables) :
    first.sharedCount second ≤ second.sharedCount first := by
  let other (entry : Entry) : Entry := (second.lookup? entry.key).getD entry
  let shared (a b : Tables) : List Entry := a.entries.filter fun entry => b.lookup? entry.key ≠ none
  have hother {entry : Entry} (hmem : entry ∈ shared first second) :
      first.lookup? entry.key = some entry ∧
        second.lookup? entry.key = some (other entry) := by
    rw [List.mem_filter, mem_entries, holds_iff] at hmem
    obtain ⟨found, hfound⟩ := Option.ne_none_iff_exists'.mp (of_decide_eq_true hmem.2)
    exact ⟨hmem.1, by simp only [other, hfound, Option.getD_some]⟩
  -- the other entry is found in the first tables where this one is
  have hback {entry : Entry} (hmem : entry ∈ shared first second) :
      first.lookup? (other entry).key = some entry :=
    (first.lookup?_congr (agrees_of_lookup? (hother hmem).2)).trans (hother hmem).1
  have hnodup : ((shared first second).map other).Nodup :=
    (first.nodup_entries.filter _).map_on fun x hx y hy heq =>
      Option.some.inj ((hback hx).symm.trans (heq ▸ hback hy))
  have hsubset : (shared first second).map other ⊆ shared second first := by
    rintro _ hmem
    obtain ⟨entry, hentry, rfl⟩ := List.mem_map.mp hmem
    rw [List.mem_filter, mem_entries]
    exact ⟨holds_of_lookup? (hother hentry).2, by simp [hback hentry]⟩
  have hlength := (hnodup.subperm hsubset).length_le
  rwa [List.length_map, ← List.countP_eq_length_filter, ← List.countP_eq_length_filter] at hlength

theorem sharedCount_comm (a b : Tables) : a.sharedCount b = b.sharedCount a :=
  Nat.le_antisymm (sharedCount_le a b) (sharedCount_le b a)

/-- No key is shared if, and only if, no key is found in both tables. -/
theorem sharedCount_eq_zero_iff {first second : Tables} :
    first.sharedCount second = 0 ↔
      ∀ key, first.lookup? key = none ∨ second.lookup? key = none := by
  simp only [sharedCount, List.countP_eq_zero, decide_eq_true_eq, not_not, mem_entries]
  constructor
  · intro h key
    cases hfound : first.lookup? key with
    | none => exact Or.inl rfl
    | some entry =>
      have hnone := h entry (holds_of_lookup? hfound)
      exact Or.inr ((second.lookup?_congr (agrees_of_lookup? hfound)).symm.trans hnone)
  · intro h entry hheld
    refine (h entry.key).resolve_left fun hnone => ?_
    rw [holds_iff, hnone] at hheld
    cases hheld

/-- **Entries under a shared key are counted once.** -/
theorem entryCount_merge (a b : Tables) :
    (a.merge b).entryCount + a.sharedCount b = a.entryCount + b.entryCount := by
  have hmerged := (entries_merge_perm a b).length_eq
  have hsplit := b.entries.length_eq_countP_add_countP fun entry => a.lookup? entry.key = none
  simp only [decide_eq_true_eq] at hsplit
  rw [List.length_append, ← List.countP_eq_length_filter] at hmerged
  rw [sharedCount_comm, sharedCount]
  simp only [← length_entries, ne_eq]
  omega

/-- **Merging is a union in which the first tables win.** Under every key the merged tables have
what the first ones have, a group adapter with the order of its attributes, and otherwise what the
second ones have. Merging is associative and idempotent, and tables without entries are neutral on
both sides. There are as many entries as in both tables together, less one for each shared key; and
if no key is shared, both orders lead to the same tables and the same snapshot. -/
theorem merge_leftBiased (a b c : Tables) :
    (∀ key, (a.merge b).lookup? key = (a.lookup? key).or (b.lookup? key)) ∧
    (a.merge b).merge c = a.merge (b.merge c) ∧
    a.merge a = a ∧ empty.merge a = a ∧ a.merge empty = a ∧
    (a.merge b).entryCount + a.sharedCount b = a.entryCount + b.entryCount ∧
    ((∀ key, a.lookup? key = none ∨ b.lookup? key = none) →
      a.merge b = b.merge a ∧
        Snapshot.encode (a.merge b) = Snapshot.encode (b.merge a)) := by
  refine ⟨lookup?_merge a b, merge_assoc a b c, merge_self a, empty_merge a, merge_empty a,
    entryCount_merge a b, fun hdisjoint => ?_⟩
  have hcomm := merge_comm_of_disjoint hdisjoint
  exact ⟨hcomm, congrArg Snapshot.encode hcomm⟩

/-- Two tables with adapters in one row, and with group adapters that differ in one type. -/
theorem merge_leftBiased_one_row :
    let view : HostType := .named "View"
    let string : HostType := .named "String"
    let bind (owner : String) : Method := ⟨.named owner, "bind"⟩
    let tables (owner : String) (value : HostType) : Tables :=
      { adapters := Nested.put ∅ ⟨"hint"⟩ ⟨view, value⟩ (bind owner)
        groups := ExtTreeMap.empty.insert
          ⟨view, [⟨⟨"src"⟩, value⟩, ⟨⟨"error"⟩, string⟩]⟩ (bind owner) }
    let a := tables "First" string
    let b := tables "Second" (.prim .int)
    (∀ key, a.lookup? key = none ∨ b.lookup? key = none) ∧
      (a.merge b).entryCount + a.sharedCount b = a.entryCount + b.entryCount ∧
      Snapshot.encode (a.merge b) = Snapshot.encode (b.merge a) ∧
      (a.merge b).adapters.size = 1 ∧ (a.merge b).entryCount = 4 := by
  intro view string bind tables a b
  have hdisjoint : ∀ key, a.lookup? key = none ∨ b.lookup? key = none :=
    sharedCount_eq_zero_iff.mp (by decide +kernel)
  obtain ⟨-, -, -, -, -, hcount, hcomm⟩ := merge_leftBiased a b a
  exact ⟨hdisjoint, hcount, (hcomm hdisjoint).2, by decide +kernel, by decide +kernel⟩

end Tables

end SetterResolution
