import SetterResolution.Proofs.Registry.Provenance

/-!
# The five tables as one

Most of what is said about a registry does not depend on which of the five tables an entry is in.
Here the tables are read as one: a key of any of them is an `SetterResolution.EntryKey`, and there
is a single lookup, `SetterResolution.Tables.lookup?`. In the same way
`SetterResolution.Round.lookup?` is what is heard of a round under a key, the first declaration for
adapters and the last one for everything else.

* A round replaces what its owners had by what it declares
  (`SetterResolution.Registry.lookup?_process`).
* Merging keeps what the first tables have (`SetterResolution.Tables.lookup?_merge`).
* Lookups determine the tables if no outer key of a table of two levels is without entries
  (`SetterResolution.Tables.ext_lookup?`), and after a round none is
  (`SetterResolution.Registry.compact_process`).
-/

namespace SetterResolution

open Std (ExtTreeMap ExtTreeSet TransOrd LawfulEqOrd OrientedCmp TransCmp)

/-! ### Keys -/

/-- What an entry is found under: a key of one of the five tables. -/
inductive EntryKey where
  /-- A key of an adapter for one attribute. -/
  | adapter (attr : Attribute) (key : AdapterKey)
  /-- A key of a group adapter. -/
  | group (key : GroupKey)
  /-- An attribute with the view type that it has a renamed setter on. -/
  | renamed (attr : Attribute) (target : HostType)
  /-- The types that a conversion leads from and to. -/
  | conversion (source target : HostType)
  /-- A view type that is not tagged. -/
  | untaggable (view : HostType)
  deriving DecidableEq, Repr

/-- The key that an entry is stored under. -/
def Entry.key : Entry → EntryKey
  | adapter attr key _ => .adapter attr key
  | group key _ => .group key
  | renamed attr target _ => .renamed attr target
  | conversion source target _ => .conversion source target
  | untaggable view _ => .untaggable view

namespace EntryKey

/-- Two keys find the same: they are equal, but the order of the attributes is no part of a group
key. -/
inductive Agrees : EntryKey → EntryKey → Prop
  /-- A key agrees with itself. -/
  | refl (key : EntryKey) : Agrees key key
  /-- Group keys agree if the tables take them for one. -/
  | group {a b : GroupKey} : compare a b = .eq → Agrees (.group a) (.group b)

theorem Agrees.symm {a b : EntryKey} (h : a.Agrees b) : b.Agrees a := by
  cases h with
  | refl => exact .refl _
  | group h => exact .group (OrientedCmp.eq_symm h)

theorem Agrees.trans {a b c : EntryKey} (hab : a.Agrees b) (hbc : b.Agrees c) : a.Agrees c := by
  cases hab with
  | refl => exact hbc
  | group hab =>
    cases hbc with
    | refl => exact .group hab
    | group hbc => exact .group (TransCmp.eq_trans hab hbc)

/-- Only an equal key agrees with that of an adapter for one attribute. -/
theorem Agrees.of_adapter {attr : Attribute} {key : AdapterKey} {other : EntryKey}
    (h : other.Agrees (adapter attr key)) : other = adapter attr key := by
  cases h
  rfl

end EntryKey

/-! ### One lookup -/

namespace Tables

/-- The entry of the tables under a key. -/
def lookup? (tables : Tables) : EntryKey → Option Entry
  | .adapter attr key => (tables.adapters.find? attr key).map (.adapter attr key)
  | .group key => (GroupTable.find? tables.groups key).map fun found => .group found.1 found.2
  | .renamed attr target => (tables.renamed.find? attr target).map (.renamed attr target)
  | .conversion source target =>
    (tables.conversions.find? source target).map (.conversion source target)
  | .untaggable view => tables.untaggable[view]?.map (.untaggable view)

theorem holds_iff {tables : Tables} {entry : Entry} :
    tables.Holds entry ↔ tables.lookup? entry.key = some entry := by
  cases entry <;> simp [Holds, lookup?, Entry.key, Option.map_eq_some_iff]

theorem lookup?_empty (key : EntryKey) : empty.lookup? key = none := by
  cases key <;> simp [empty, lookup?, Nested.find?_eq_bind, GroupTable.find?]

/-- What is found under a key is stored under one that agrees with it. -/
theorem agrees_of_lookup? {tables : Tables} {key : EntryKey} {entry : Entry}
    (h : tables.lookup? key = some entry) : entry.key.Agrees key := by
  cases key with
  | group key =>
    obtain ⟨found, hfound, rfl⟩ := Option.map_eq_some_iff.mp h
    exact .group (GroupTable.compare_of_find? hfound)
  | adapter | renamed | conversion | untaggable =>
    obtain ⟨found, -, rfl⟩ := Option.map_eq_some_iff.mp h
    exact .refl _

/-- Keys that agree find the same entry. -/
theorem lookup?_congr (tables : Tables) {a b : EntryKey} (h : a.Agrees b) :
    tables.lookup? a = tables.lookup? b := by
  cases h with
  | refl => rfl
  | group h =>
    rw [lookup?, lookup?, GroupTable.find?, GroupTable.find?, ExtTreeMap.getKey?_congr h,
      ExtTreeMap.getElem?_congr h]

theorem holds_of_lookup? {tables : Tables} {key : EntryKey} {entry : Entry}
    (h : tables.lookup? key = some entry) : tables.Holds entry := by
  rw [holds_iff, tables.lookup?_congr (agrees_of_lookup? h)]
  exact h

end Tables

namespace Round

/-- What is heard of a round under a key: the first declaration for adapters, the last one for
everything else. -/
def lookup? (round : Round) : EntryKey → Option Entry
  | .adapter attr key => (round.adapterEntries.lookup (attr, key)).map (.adapter attr key)
  | .group key =>
    (round.groupEntries.find? (compare ·.1 key == .eq)).map fun found => .group found.1 found.2
  | .renamed attr target =>
    (round.renamedEntries.reverse.lookup (attr, target)).map (.renamed attr target)
  | .conversion source target =>
    (round.conversionEntries.reverse.lookup (source, target)).map (.conversion source target)
  | .untaggable view => (round.untaggableEntries.reverse.lookup view).map (.untaggable view)

variable {round : Round} {key : EntryKey} {entry : Entry}

theorem agrees_of_lookup? (h : round.lookup? key = some entry) : entry.key.Agrees key := by
  cases key with
  | group key =>
    obtain ⟨found, hfound, rfl⟩ := Option.map_eq_some_iff.mp h
    exact .group (by simpa using List.find?_some hfound)
  | adapter | renamed | conversion | untaggable =>
    obtain ⟨found, -, rfl⟩ := Option.map_eq_some_iff.mp h
    exact .refl _

theorem registers_of_lookup? (h : round.lookup? key = some entry) : round.Registers entry := by
  cases key with
  | group key =>
    obtain ⟨⟨stored, method⟩, hfound, rfl⟩ := Option.map_eq_some_iff.mp h
    have hc : compare stored key = .eq := by simpa using List.find?_some hfound
    -- the keys that agree with the stored key are those that agree with the key asked for
    rw [Registers]
    simpa only [TransCmp.congr_right hc] using hfound
  | adapter | renamed | conversion | untaggable =>
    obtain ⟨found, hfound, rfl⟩ := Option.map_eq_some_iff.mp h
    exact hfound

/-- What is registered is heard under its own key. -/
theorem lookup?_of_registers (h : round.Registers entry) :
    round.lookup? entry.key = some entry := by
  cases entry with
  | group => exact congrArg (Option.map fun found => Entry.group found.1 found.2) h
  | adapter | renamed | conversion | untaggable => exact congrArg (Option.map _) h

/-- What is heard of a round is declared by its owner. -/
theorem declares_of_lookup? (h : round.lookup? key = some entry) :
    round.Declares entry.owner entry :=
  (registers_of_lookup? h).declares

/-- An entry that is declared has the declaring type for its owner. -/
theorem Declares.owner_eq {owner : HostType} (h : round.Declares owner entry) :
    entry.owner = owner := by
  cases h with
  | adapter _ howner hentry =>
    obtain rfl := AdapterDecl.method_of_single? hentry
    exact howner
  | group _ howner hentry =>
    obtain ⟨-, -, -, -, rfl⟩ := AdapterDecl.group?_eq_some_iff.mp hentry
    exact howner
  | renamed _ howner => exact howner
  | conversion _ howner hentry =>
    obtain rfl := ConversionDecl.method_of_conversion? hentry
    exact howner
  | untaggable => rfl

/-- A key that no valid declaration is for is not heard. -/
theorem lookup?_eq_none_of_forall_not_declares
    (h : ∀ owner entry, round.Declares owner entry → ¬ entry.key.Agrees key) :
    round.lookup? key = none := by
  cases hfound : round.lookup? key with
  | none => rfl
  | some entry =>
    exact absurd (agrees_of_lookup? hfound) (h _ _ (declares_of_lookup? hfound))

end Round

/-! ### Clearing, merging and processing -/

/-- What is found where something comes before what is kept, as entries. -/
theorem map_found_or_kept {α : Type} (f : α → Entry) (owners : ExtTreeSet HostType)
    (first held : Option α) :
    (first.or (held.filter fun a => (f a).owner ∉ owners)).map f =
      (first.map f).or ((held.map f).filter (·.owner ∉ owners)) := by
  rw [Option.map_or, Option.filter_map]
  rfl

namespace Tables

/-- **Where both tables have an entry, that of the first is found**, a group adapter with the key
that the first tables have for it. -/
theorem lookup?_merge (first second : Tables) (key : EntryKey) :
    (first.merge second).lookup? key = (first.lookup? key).or (second.lookup? key) := by
  cases key with
  | adapter attr key => rw [lookup?, merge, Nested.find?_merge, Option.map_or]; rfl
  | group key => rw [lookup?, merge, GroupTable.find?_union, Option.map_or]; rfl
  | renamed attr target => rw [lookup?, merge, Nested.find?_merge, Option.map_or]; rfl
  | conversion source target => rw [lookup?, merge, Nested.find?_merge, Option.map_or]; rfl
  | untaggable view => rw [lookup?, merge, ExtTreeMap.getElem?_union, Option.map_or]; rfl

/-- What the merged tables have comes from one of the two. -/
theorem holds_of_merge {first second : Tables} {entry : Entry}
    (h : (first.merge second).Holds entry) : first.Holds entry ∨ second.Holds entry := by
  rw [holds_iff, lookup?_merge] at h
  rcases Option.or_eq_some_iff.mp h with h | ⟨-, h⟩
  · exact Or.inl (holds_iff.mpr h)
  · exact Or.inr (holds_iff.mpr h)

/-- Clearing keeps the entries of all other owners. -/
theorem lookup?_clear (tables : Tables) (owners : ExtTreeSet HostType) (key : EntryKey) :
    (tables.clear owners).1.lookup? key = (tables.lookup? key).filter (·.owner ∉ owners) := by
  cases key with
  | adapter | renamed | conversion =>
    rw [lookup?, clear, Nested.find?_discard_owned, lookup?, Option.filter_map]
    rfl
  | group key =>
    rw [lookup?, clear, lookup?, Option.filter_map]
    exact congrArg _ (GroupTable.find?_filter _ (fun method => method.owner ∉ owners) key)
  | untaggable view =>
    rw [lookup?, clear, lookup?, Option.filter_map]
    exact congrArg _ ExtTreeMap.getElem?_filter'

/-- Whether every outer key of the tables of two levels has an entry. -/
structure Compact (tables : Tables) : Prop where
  /-- Every attribute with adapters has one. -/
  adapters : tables.adapters.Compact
  /-- Every attribute with renamed setters has one. -/
  renamed : tables.renamed.Compact
  /-- Every type with conversions has one. -/
  conversions : tables.conversions.Compact

theorem compact_clear (tables : Tables) (owners : ExtTreeSet HostType) :
    (tables.clear owners).1.Compact where
  adapters := Nested.compact_discard _ _
  renamed := Nested.compact_discard _ _
  conversions := Nested.compact_discard _ _

/-- What two tables find alike under every key, their five tables find alike. -/
theorem find?_eq_of_lookup? {a b : Tables} (h : ∀ key, a.lookup? key = b.lookup? key) :
    (∀ attr key, a.adapters.find? attr key = b.adapters.find? attr key) ∧
      (∀ attr target, a.renamed.find? attr target = b.renamed.find? attr target) ∧
      (∀ source target, a.conversions.find? source target = b.conversions.find? source target) ∧
      a.groups = b.groups ∧ a.untaggable = b.untaggable := by
  refine ⟨fun attr key => ?_, fun attr target => ?_, fun source target => ?_,
    GroupTable.ext_find? fun key => ?_, ExtTreeMap.ext_getElem? fun view => ?_⟩
  · exact Option.map_injective (fun _ _ h => (Entry.adapter.inj h).2.2) (h (.adapter attr key))
  · exact Option.map_injective (fun _ _ h => (Entry.renamed.inj h).2.2) (h (.renamed attr target))
  · exact Option.map_injective (fun _ _ h => (Entry.conversion.inj h).2.2)
      (h (.conversion source target))
  · exact Option.map_injective (fun _ _ h => Prod.ext (Entry.group.inj h).1 (Entry.group.inj h).2)
      (h (.group key))
  · exact Option.map_injective (fun _ _ h => (Entry.untaggable.inj h).2) (h (.untaggable view))

/-- **Tables without empty rows are known by their lookups.** -/
theorem ext_lookup? {a b : Tables} (ha : a.Compact) (hb : b.Compact)
    (h : ∀ key, a.lookup? key = b.lookup? key) : a = b := by
  obtain ⟨hadapters, hrenamed, hconversions, hgroups, huntaggable⟩ := find?_eq_of_lookup? h
  have hadapters := ha.adapters.ext_find? hb.adapters hadapters
  have hrenamed := ha.renamed.ext_find? hb.renamed hrenamed
  have hconversions := ha.conversions.ext_find? hb.conversions hconversions
  cases a
  cases b
  simp_all

end Tables

namespace Registry

theorem tables_clear (registry : Registry) (owners : ExtTreeSet HostType) :
    (registry.clear owners).1.tables = (registry.tables.clear owners).1 := rfl

/-- **What a round does, under any key**: what it declares there is found, and otherwise what was
found before, unless its owner is one of the round's. -/
theorem lookup?_process (registry : Registry) (round : Round) (key : EntryKey) :
    (registry.process round).1.tables.lookup? key =
      (round.lookup? key).or ((registry.tables.lookup? key).filter (·.owner ∉ round.owners)) := by
  cases key with
  | adapter attr key =>
    rw [Tables.lookup?, find?_adapters_process]
    exact map_found_or_kept (Entry.adapter attr key) round.owners _ _
  | group key =>
    rw [Tables.lookup?, find?_groups_process]
    exact map_found_or_kept (fun found : GroupKey × Method => .group found.1 found.2)
      round.owners _ _
  | renamed attr target =>
    rw [Tables.lookup?, find?_renamed_process]
    exact map_found_or_kept (Entry.renamed attr target) round.owners _ _
  | conversion source target =>
    rw [Tables.lookup?, find?_conversions_process]
    exact map_found_or_kept (Entry.conversion source target) round.owners _ _
  | untaggable view =>
    rw [Tables.lookup?, getElem?_untaggable_process]
    exact map_found_or_kept (Entry.untaggable view) round.owners _ _

/-- What a round registers is found after it. -/
theorem holds_of_registers (registry : Registry) {round : Round} {entry : Entry}
    (h : round.Registers entry) : (registry.process round).1.tables.Holds entry := by
  rw [Tables.holds_iff, lookup?_process, Round.lookup?_of_registers h, Option.some_or]

theorem compact_inTurn_adapters (registry : Registry) (decls : List AdapterDecl)
    (h : registry.tables.adapters.Compact) :
    (inTurn processAdapter registry decls).1.tables.adapters.Compact := by
  induction decls generalizing registry with
  | nil => exact h
  | cons decl rest ih =>
    rw [inTurn_cons_fst]
    refine ih _ ?_
    rcases processAdapter_cases registry decl with
      ⟨key, method, -, -, hstep⟩ | ⟨key, method, -, -, hstep⟩ | ⟨-, -, hstep⟩
    · rw [hstep]
      split
      · exact h
      · exact h.put key.1 key.2 method
    · rw [hstep]
      split <;> exact h
    · rw [hstep]
      exact h

/-- After a round there are no empty rows, whatever the tables were before. -/
theorem compact_process (registry : Registry) (round : Round) :
    (registry.process round).1.tables.Compact := by
  have hclear := registry.tables.compact_clear round.owners
  rw [tables_process]
  exact ⟨compact_inTurn_adapters (ofTables _) _ hclear.adapters,
    hclear.renamed.putAll _, hclear.conversions.putAll _⟩

end Registry

end SetterResolution
