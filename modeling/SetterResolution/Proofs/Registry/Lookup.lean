import Mathlib.Data.List.Nodup
import Mathlib.Data.List.Perm.Subperm
import SetterResolution.Registry.Tables

/-!
# Lookups in the tables

The tables are never opened by what is proved about registries: what an operation does to a table is
said by what it does to the lookup under one key. There are two kinds of tables, and two lookups.

* A table of two levels is looked up by an outer and an inner key
  (`SetterResolution.Nested.find?`). Setting one entry changes one lookup
  (`SetterResolution.Nested.find?_put_self`, `SetterResolution.Nested.find?_put_of_ne`), discarding
  stale entries filters every lookup (`SetterResolution.Nested.find?_discard`), and after a whole
  list of entries was set the last one of a key is found (`SetterResolution.Nested.find?_putAll`).
* In a table of group adapters the key that is found need not be the key that was asked for, since
  the order of the attributes is no part of its identity. Its lookup therefore gives the stored key
  along with the adapter (`SetterResolution.GroupTable.find?`).
-/

namespace SetterResolution

open Std (ExtTreeMap ExtTreeSet TransOrd LawfulEqOrd)

/-- A table has no entry twice. -/
theorem nodup_toList {α β : Type} [Ord α] [TransOrd α] (table : ExtTreeMap α β) :
    table.toList.Nodup :=
  ExtTreeMap.distinct_keys_toList.imp fun hne heq => by
    subst heq
    exact hne Std.ReflCmp.compare_self

/-- A table of entries with different keys has just these, in the order of the keys. -/
theorem toList_ofList_perm {α β : Type} [Ord α] [TransOrd α] [LawfulEqOrd α] {l : List (α × β)}
    (h : (l.map Prod.fst).Nodup) : (ExtTreeMap.ofList l).toList.Perm l := by
  have hkeys : l.Pairwise fun a b => ¬ compare a.1 b.1 = .eq :=
    (List.pairwise_map.mp h).imp fun hne heq => hne (LawfulEqOrd.eq_of_compare heq)
  have hsubset : l ⊆ (ExtTreeMap.ofList l).toList := fun entry hentry =>
    ExtTreeMap.mem_toList_iff_getElem?_eq_some.mpr
      (ExtTreeMap.getElem?_ofList_of_mem Std.ReflCmp.compare_self hkeys hentry)
  have hlength : (ExtTreeMap.ofList l).toList.length = l.length := by
    rw [ExtTreeMap.length_toList, ExtTreeMap.size_ofList hkeys]
  have hnodup : l.Nodup := List.Nodup.of_map _ h
  exact ((List.subperm_of_subset hnodup hsubset).perm_of_length_le (Nat.le_of_eq hlength)).symm

namespace Nested

variable {α β γ : Type} [Ord α] [Ord β] [TransOrd α] [TransOrd β]

/-! ### Tables of two levels -/

theorem find?_eq_bind (table : Nested α β γ) (outer : α) (inner : β) :
    table.find? outer inner = table[outer]?.bind (·[inner]?) := rfl

theorem getElem?_getD (table : Nested α β γ) (outer : α) (inner : β) :
    (table.getD outer ∅)[inner]? = table.find? outer inner := by
  rw [find?_eq_bind, ExtTreeMap.getD_eq_getD_getElem?]
  cases table[outer]? with
  | none => exact ExtTreeMap.getElem?_empty
  | some entries => rfl

theorem mem_toList_getD [LawfulEqOrd β] {table : Nested α β γ} {outer : α} {inner : β} {entry : γ} :
    (inner, entry) ∈ (table.getD outer ∅).toList ↔ table.find? outer inner = some entry := by
  rw [ExtTreeMap.mem_toList_iff_getElem?_eq_some, getElem?_getD]

theorem find?_put_self (table : Nested α β γ) (outer : α) (inner : β) (entry : γ) :
    (table.put outer inner entry).find? outer inner = some entry := by
  rw [find?_eq_bind, put, ExtTreeMap.getElem?_insert_self]
  exact ExtTreeMap.getElem?_insert_self

variable [LawfulEqOrd α]

theorem find?_put_of_ne [LawfulEqOrd β] (table : Nested α β γ) {outer outer' : α}
    {inner inner' : β} (entry : γ) (h : (outer', inner') ≠ (outer, inner)) :
    (table.put outer inner entry).find? outer' inner' = table.find? outer' inner' := by
  rw [find?_eq_bind, put, ExtTreeMap.getElem?_insert]
  by_cases ho : compare outer outer' = .eq
  · obtain rfl := LawfulEqOrd.eq_of_compare ho
    have hi : compare inner inner' ≠ .eq := fun hi =>
      h (by rw [LawfulEqOrd.eq_of_compare hi])
    rw [if_pos ho, Option.bind_some, ExtTreeMap.getElem?_insert, if_neg hi, getElem?_getD]
  · rw [if_neg ho]
    rfl

/-- Whether something is discarded is asked of each entry alone, so that a lookup finds what it
found before unless that is stale. -/
theorem find?_discard [LawfulEqOrd β] (table : Nested α β γ) (stale : γ → Bool) (outer : α)
    (inner : β) :
    (table.discard stale).1.find? outer inner =
      (table.find? outer inner).filter fun entry => !stale entry := by
  rw [find?_eq_bind, discard, ExtTreeMap.getElem?_filterMap', find?_eq_bind]
  cases table[outer]? with
  | none => rfl
  | some entries =>
    have kept : (keep stale entries)[inner]? =
        entries[inner]?.filter fun entry => !stale entry := ExtTreeMap.getElem?_filter'
    simp only [Option.bind_some]
    split
    -- a row without entries left is dropped, and nothing could be found in it anyway
    next hempty =>
      rw [ExtTreeMap.isEmpty_iff.mp hempty, ExtTreeMap.getElem?_empty] at kept
      exact kept
    next => exact kept

/-- What is left of a table of methods when the entries of some owners are dropped. -/
theorem find?_discard_owned [LawfulEqOrd β] (table : Nested α β Method)
    (owners : ExtTreeSet HostType) (outer : α) (inner : β) :
    (table.discard fun method => method.owner ∈ owners).1.find? outer inner =
      (table.find? outer inner).filter (·.owner ∉ owners) := by
  rw [find?_discard]
  simp only [decide_not]

/-- Where both tables have an entry, the first table's is found. -/
theorem find?_merge [LawfulEqOrd β] (first second : Nested α β γ) (outer : α) (inner : β) :
    (first.merge second).find? outer inner =
      (first.find? outer inner).or (second.find? outer inner) := by
  have row : (second.getD outer ∅ ∪ first.getD outer ∅)[inner]? =
      (first.find? outer inner).or (second.find? outer inner) := by
    rw [ExtTreeMap.getElem?_union, getElem?_getD, getElem?_getD]
  rw [find?_eq_bind, merge, ExtTreeMap.getElem?_map, ExtTreeMap.getElem?_union]
  cases hfirst : first[outer]? with
  | some entries => exact row
  | none =>
    cases hsecond : second[outer]? with
    | some entries => exact row
    | none =>
      rw [find?_eq_bind first, find?_eq_bind second, hfirst, hsecond]
      rfl

/-! ### Setting a list of entries -/

/-- Sets the entries of a list one after another. -/
def putAll (table : Nested α β γ) (entries : List ((α × β) × γ)) : Nested α β γ :=
  entries.foldl (fun table entry => table.put entry.1.1 entry.1.2 entry.2) table

/-- **The last entry of a key wins** when a list of entries is set. -/
theorem find?_putAll [LawfulEqOrd β] [DecidableEq α] [DecidableEq β] (table : Nested α β γ)
    (entries : List ((α × β) × γ)) (outer : α) (inner : β) :
    (table.putAll entries).find? outer inner =
      (entries.reverse.lookup (outer, inner)).or (table.find? outer inner) := by
  induction entries generalizing table with
  | nil => rfl
  | cons entry rest ih =>
    -- the first entry is looked up after all others
    obtain ⟨⟨outer', inner'⟩, value⟩ := entry
    rw [show table.putAll (((outer', inner'), value) :: rest) =
        (table.put outer' inner' value).putAll rest from rfl, ih,
      List.reverse_cons, List.lookup_append, Option.or_assoc]
    congr 1
    by_cases h : (outer, inner) = (outer', inner')
    · cases h
      rw [find?_put_self, List.lookup_cons_self, Option.some_or]
    · rw [find?_put_of_ne table value h, List.lookup_cons, beq_false_of_ne h]
      rfl

/-! ### Tables without empty rows -/

/-- Whether every outer key has an entry. -/
def Compact (table : Nested α β γ) : Prop :=
  ∀ (outer : α) (entries : ExtTreeMap β γ), table[outer]? = some entries → entries ≠ ∅

theorem compact_discard [LawfulEqOrd β] (table : Nested α β γ) (stale : γ → Bool) :
    (table.discard stale).1.Compact := by
  intro outer entries hrow
  rw [discard, ExtTreeMap.getElem?_filterMap', Option.bind_eq_some_iff] at hrow
  obtain ⟨row, -, hkept⟩ := hrow
  split at hkept
  · cases hkept
  next hempty =>
    cases hkept
    exact fun h => hempty (ExtTreeMap.isEmpty_iff.mpr h)

omit [LawfulEqOrd α] in
theorem Compact.put {table : Nested α β γ} (h : table.Compact) (outer : α) (inner : β) (entry : γ) :
    (table.put outer inner entry).Compact := by
  intro outer' entries hrow
  rw [Nested.put, ExtTreeMap.getElem?_insert] at hrow
  split at hrow
  · cases hrow
    exact ExtTreeMap.insert_ne_empty
  · exact h outer' entries hrow

omit [LawfulEqOrd α] in
theorem Compact.putAll {table : Nested α β γ} (h : table.Compact)
    (entries : List ((α × β) × γ)) : (table.putAll entries).Compact := by
  induction entries generalizing table with
  | nil => exact h
  | cons entry rest ih => exact ih (h.put entry.1.1 entry.1.2 entry.2)

omit [LawfulEqOrd α] in
/-- In a table without empty rows, an outer key that has no entry is not there. -/
theorem Compact.getElem?_eq_none_iff [LawfulEqOrd β] {table : Nested α β γ} (h : table.Compact)
    {outer : α} : table[outer]? = none ↔ ∀ inner, table.find? outer inner = none := by
  constructor
  · intro hrow inner
    rw [find?_eq_bind, hrow]
    rfl
  · intro hnone
    cases hrow : table[outer]? with
    | none => rfl
    | some entries =>
      refine absurd (ExtTreeMap.ext_getElem? fun inner => ?_) (h outer entries hrow)
      have hinner := hnone inner
      rw [find?_eq_bind, hrow, Option.bind_some] at hinner
      rw [hinner, ExtTreeMap.getElem?_empty]

/-- A table of two levels is known by its rows and lookups. -/
theorem ext_mem_find? [LawfulEqOrd β] {a b : Nested α β γ} (hrows : ∀ outer, outer ∈ a ↔ outer ∈ b)
    (h : ∀ outer inner, a.find? outer inner = b.find? outer inner) : a = b := by
  refine ExtTreeMap.ext_getElem? fun outer => ?_
  by_cases ha : outer ∈ a
  · have hb : outer ∈ b := (hrows outer).mp ha
    rw [ExtTreeMap.getElem?_eq_some_getElem ha, ExtTreeMap.getElem?_eq_some_getElem hb]
    refine congrArg some (ExtTreeMap.ext_getElem? fun inner => ?_)
    simpa [find?_eq_bind, ha, hb] using h outer inner
  · have hb : outer ∉ b := fun hb => ha ((hrows outer).mpr hb)
    rw [ExtTreeMap.getElem?_eq_none ha, ExtTreeMap.getElem?_eq_none hb]

omit [LawfulEqOrd α] in
theorem Compact.mem_iff [LawfulEqOrd β] {table : Nested α β γ} (h : table.Compact) {outer : α} :
    outer ∈ table ↔ ∃ inner, table.find? outer inner ≠ none := by
  rw [← Classical.not_forall, ← h.getElem?_eq_none_iff, ExtTreeMap.mem_iff_isSome_getElem?,
    Option.isSome_iff_ne_none]

/-- A table without empty rows is known by its lookups. -/
theorem Compact.ext_find? [LawfulEqOrd β] {a b : Nested α β γ} (ha : a.Compact) (hb : b.Compact)
    (h : ∀ outer inner, a.find? outer inner = b.find? outer inner) : a = b :=
  ext_mem_find? (fun outer => by simp only [ha.mem_iff, hb.mem_iff, h]) h

end Nested

/-- The last owner of a view wins when a list of views with owners is set. -/
theorem getElem?_foldl_insert (table : ExtTreeMap HostType HostType)
    (entries : List (HostType × HostType)) (view : HostType) :
    (entries.foldl (fun table entry => table.insert entry.1 entry.2) table)[view]? =
      (entries.reverse.lookup view).or table[view]? := by
  induction entries generalizing table with
  | nil => rfl
  | cons entry rest ih =>
    rw [List.foldl_cons, ih, List.reverse_cons, List.lookup_append, Option.or_assoc,
      ExtTreeMap.getElem?_insert]
    congr 1
    by_cases h : view = entry.1
    · subst h
      rw [if_pos Std.ReflCmp.compare_self, List.lookup_cons_self, Option.some_or]
    · have hc : compare entry.1 view ≠ .eq := fun hc => h (LawfulEqOrd.eq_of_compare hc).symm
      rw [if_neg hc, List.lookup_cons, beq_false_of_ne h]
      rfl

/-! ### Group adapters -/

namespace GroupTable

/-- The entry of a table of group adapters under a key, with the key as it is stored. -/
def find? (table : GroupTable) (key : GroupKey) : Option (GroupKey × Method) := do
  let stored ← table.getKey? key
  let method ← table[key]?
  return (stored, method)

theorem find?_insert (table : GroupTable) (stored key : GroupKey) (method : Method) :
    find? (table.insert stored method) key =
      if compare stored key = .eq then some (stored, method) else find? table key := by
  rw [find?, ExtTreeMap.getKey?_insert, ExtTreeMap.getElem?_insert]
  by_cases h : compare stored key = .eq
  · rw [if_pos h, if_pos h, if_pos h]
    rfl
  · rw [if_neg h, if_neg h, if_neg h]
    rfl

theorem find?_eq_some_iff {table : GroupTable} {key stored : GroupKey} {method : Method} :
    find? table key = some (stored, method) ↔
      table.getKey? key = some stored ∧ table[key]? = some method := by
  simp [find?, Option.bind_eq_some_iff]

/-- The key that is found agrees with the key that was asked for. -/
theorem compare_of_find? {table : GroupTable} {key stored : GroupKey} {method : Method}
    (h : find? table key = some (stored, method)) : compare stored key = .eq := by
  have hk := ExtTreeMap.compare_getKey?_self (t := table) (k := key)
  rw [(find?_eq_some_iff.mp h).1] at hk
  exact of_decide_eq_true hk

/-- What is found under a key is the entry of the table whose key agrees with it. -/
theorem find?_eq_some_iff_mem {table : GroupTable} {key stored : GroupKey} {method : Method} :
    find? table key = some (stored, method) ↔
      compare stored key = .eq ∧ (stored, method) ∈ table.toList := by
  rw [ExtTreeMap.mem_toList_iff_getKey?_eq_some_and_getElem?_eq_some]
  constructor
  · intro h
    have hc := compare_of_find? h
    rw [ExtTreeMap.getKey?_congr hc, ExtTreeMap.getElem?_congr hc]
    exact ⟨hc, find?_eq_some_iff.mp h⟩
  · rintro ⟨hc, h⟩
    rw [ExtTreeMap.getKey?_congr hc, ExtTreeMap.getElem?_congr hc] at h
    exact find?_eq_some_iff.mpr h

/-- Whether an entry stays is asked of its adapter alone. -/
theorem find?_filter (table : GroupTable) (keep : Method → Bool) (key : GroupKey) :
    find? (table.filter fun _ method => keep method) key =
      (find? table key).filter fun entry => keep entry.2 := by
  refine Option.ext fun entry => ?_
  obtain ⟨stored, method⟩ := entry
  rw [find?_eq_some_iff_mem, ExtTreeMap.toList_filter, List.mem_filter, Option.filter_eq_some_iff,
    find?_eq_some_iff_mem, and_assoc]

/-- A key of the table has both a stored key and an adapter. -/
theorem find?_of_mem {table : GroupTable} {key : GroupKey} (h : key ∈ table) :
    ∃ stored method, table.getKey? key = some stored ∧ table[key]? = some method ∧
      find? table key = some (stored, method) := by
  obtain ⟨stored, hstored⟩ := Option.isSome_iff_exists.mp (ExtTreeMap.isSome_getKey?_iff_mem.mpr h)
  obtain ⟨method, hmethod⟩ := Option.isSome_iff_exists.mp (ExtTreeMap.isSome_getElem?_iff_mem.mpr h)
  exact ⟨stored, method, hstored, hmethod, find?_eq_some_iff.mpr ⟨hstored, hmethod⟩⟩

theorem find?_of_not_mem {table : GroupTable} {key : GroupKey} (h : key ∉ table) :
    find? table key = none := by
  rw [find?, ExtTreeMap.getKey?_eq_none h]
  rfl

/-- Where both tables have an adapter, the first table's is found, with its key. -/
theorem find?_union (first second : GroupTable) (key : GroupKey) :
    find? (second ∪ first) key = (find? first key).or (find? second key) := by
  rw [find?, ExtTreeMap.getKey?_union, ExtTreeMap.getElem?_union]
  by_cases h : key ∈ first
  · obtain ⟨stored, method, hstored, hmethod, hfound⟩ := find?_of_mem h
    rw [hstored, hmethod, hfound]
    rfl
  · rw [ExtTreeMap.getKey?_eq_none h, ExtTreeMap.getElem?_eq_none h, find?_of_not_mem h,
      Option.none_or, Option.none_or, Option.none_or]
    rfl

/-- A table of group adapters is known by its lookups. -/
theorem ext_find? {a b : GroupTable} (h : ∀ key, find? a key = find? b key) : a = b := by
  have hmem {a b : GroupTable} (h : ∀ key, find? a key = find? b key) {key : GroupKey}
      (hkey : key ∈ a) : ∃ stored method, (a.getKey? key = some stored ∧ a[key]? = some method) ∧
        b.getKey? key = some stored ∧ b[key]? = some method := by
    obtain ⟨stored, method, hstored, hmethod, hfound⟩ := find?_of_mem hkey
    exact ⟨stored, method, ⟨hstored, hmethod⟩, find?_eq_some_iff.mp (h key ▸ hfound)⟩
  refine ExtTreeMap.ext_getKey_getElem? (fun key ha hb => ?_) fun key => ?_
  · obtain ⟨stored, method, ⟨hstored, -⟩, hstored', -⟩ := hmem h ha
    rw [ExtTreeMap.getKey?_eq_some_iff] at hstored hstored'
    exact hstored.2.trans hstored'.2.symm
  · by_cases ha : key ∈ a
    · obtain ⟨stored, method, ⟨-, hmethod⟩, -, hmethod'⟩ := hmem h ha
      rw [hmethod, hmethod']
    · have hb : key ∉ b := fun hb => by
        obtain ⟨stored, method, -, hstored, -⟩ := hmem (fun key => (h key).symm) hb
        exact ha (ExtTreeMap.mem_iff_isSome_getKey?.mpr (by rw [hstored]; rfl))
      rw [ExtTreeMap.getElem?_eq_none ha, ExtTreeMap.getElem?_eq_none hb]

end GroupTable

end SetterResolution
