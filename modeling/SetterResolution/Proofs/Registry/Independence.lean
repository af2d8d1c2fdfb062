import SetterResolution.Proofs.Registry.OneTable

/-!
# Independent rounds

Two rounds are independent (`SetterResolution.Round.Apart`) if no type has declarations in both and
no key is declared in both. The tables that such rounds start from may have entries of either
round's owners under keys that the other one declares; still it makes no difference which round is
processed first, or whether both are processed as one.

The reason is the same for every key. A round hides what it does not keep, and it keeps whatever the
other one declared, because that is owned by none of its own types. So after both rounds a key finds
what one of them declares there, and otherwise what was there before unless its owner is of one of
the two (`SetterResolution.Registry.lookup?_process_process`), and this does not mention an order.

The main statement is `SetterResolution.Registry.tables_process_process_of_apart`.
-/

namespace SetterResolution

/-! ### Two rounds as one -/

namespace Round

variable {first second : Round} {owner : HostType} {key : EntryKey}

/-- The declarations of two rounds, those of the first in front. -/
def append (first second : Round) : Round where
  adapters := first.adapters ++ second.adapters
  conversions := first.conversions ++ second.conversions
  renamed := first.renamed ++ second.renamed
  untaggable := first.untaggable ++ second.untaggable

theorem mem_owners_append :
    owner ∈ (first.append second).owners ↔ owner ∈ first.owners ∨ owner ∈ second.owners := by
  simp only [mem_owners_iff, ownerList, append, List.map_append, List.mem_append]
  grind

/-- It does not matter which of two answers is asked for first if only one of them is given. -/
theorem or_comm_of_eq_none {α : Type} {a b : Option α} (h : a = none ∨ b = none) :
    b.or a = a.or b := by
  rcases h with rfl | rfl
  · rw [Option.none_or, Option.or_none]
  · rw [Option.none_or, Option.or_none]

/-- A key that only one of two rounds declares is heard as in that round, whether the first or the
last declaration counts. -/
theorem lookup?_append (h : first.lookup? key = none ∨ second.lookup? key = none) :
    (first.append second).lookup? key = (first.lookup? key).or (second.lookup? key) := by
  -- where the last declaration counts, the second round is asked first
  have hswap := or_comm_of_eq_none h
  cases key with
  | adapter attr key =>
    rw [lookup?, adapterEntries, append, List.filterMap_append, List.lookup_append, Option.map_or]
    rfl
  | group key =>
    rw [lookup?, groupEntries, append, List.filterMap_append, List.find?_append, Option.map_or]
    rfl
  | renamed attr target =>
    rw [← hswap, lookup?, renamedEntries, append, List.map_append, List.reverse_append,
      List.lookup_append, Option.map_or]
    rfl
  | conversion source target =>
    rw [← hswap, lookup?, conversionEntries, append, List.filterMap_append, List.reverse_append,
      List.lookup_append, Option.map_or]
    rfl
  | untaggable view =>
    rw [← hswap, lookup?, untaggableEntries, append, List.flatMap_append, List.reverse_append,
      List.lookup_append, Option.map_or]
    rfl

/-! ### Independence -/

/-- Two rounds are independent: no type has declarations in both, and there is no key for which both
have a valid declaration. -/
structure Apart (first second : Round) : Prop where
  /-- The rounds process different types. -/
  owners : ∀ owner ∈ first.owners, owner ∉ second.owners
  /-- Valid declarations of the two rounds are for keys that do not agree. -/
  keys : ∀ {owner owner' : HostType} {entry entry' : Entry}, first.Declares owner entry →
    second.Declares owner' entry' → ¬ entry.key.Agrees entry'.key

namespace Apart

theorem symm (h : first.Apart second) : second.Apart first where
  owners owner hsecond hfirst := h.owners owner hfirst hsecond
  keys hsecond hfirst hagrees := h.keys hfirst hsecond hagrees.symm

/-- Of two independent rounds at most one is heard under a key. -/
theorem lookup?_eq_none (h : first.Apart second) (key : EntryKey) :
    first.lookup? key = none ∨ second.lookup? key = none := by
  cases hfirst : first.lookup? key with
  | none => exact Or.inl rfl
  | some entry =>
    cases hsecond : second.lookup? key with
    | none => exact Or.inr rfl
    | some entry' =>
      have hagrees : entry.key.Agrees entry'.key :=
        (agrees_of_lookup? hfirst).trans (agrees_of_lookup? hsecond).symm
      exact absurd hagrees (h.keys (declares_of_lookup? hfirst) (declares_of_lookup? hsecond))

/-- What a round declares is not owned by a type of an independent round. -/
theorem owner_not_mem (h : first.Apart second) {entry : Entry}
    (hfirst : first.lookup? key = some entry) : entry.owner ∉ second.owners :=
  h.owners _ (declares_of_lookup? hfirst).mem_owners

end Apart

end Round

/-! ### Processing independent rounds -/

namespace Registry

variable (registry : Registry) {first second : Round}

/-- What is declared where something was kept is kept along with it. -/
theorem or_filter_or_filter {α : Type} {first second held : Option α} {keep keep' : α → Bool}
    (hkept : ∀ a, first = some a → keep' a) :
    second.or ((first.or (held.filter keep)).filter keep') =
      (second.or first).or (held.filter fun a => keep a && keep' a) := by
  cases first with
  | none => rw [Option.none_or, Option.filter_filter, Option.or_none]
  | some a =>
    rw [Option.some_or, Option.filter_some_pos (hkept a rfl), Option.or_assoc, Option.some_or]

/-- **Two independent rounds, under any key**: what either of them declares there is found, and
otherwise what was found before unless its owner is one of either round's. -/
theorem lookup?_process_process (h : first.Apart second) (key : EntryKey) :
    ((registry.process first).1.process second).1.tables.lookup? key =
      ((first.lookup? key).or (second.lookup? key)).or ((registry.tables.lookup? key).filter
        fun entry => entry.owner ∉ first.owners && entry.owner ∉ second.owners) := by
  rw [lookup?_process, lookup?_process, or_filter_or_filter,
    Round.or_comm_of_eq_none (h.lookup?_eq_none key)]
  intro entry hentry
  simpa using h.owner_not_mem hentry

/-- The same for the two rounds as one. -/
theorem lookup?_process_append (h : first.Apart second) (key : EntryKey) :
    (registry.process (first.append second)).1.tables.lookup? key =
      ((first.lookup? key).or (second.lookup? key)).or ((registry.tables.lookup? key).filter
        fun entry => entry.owner ∉ first.owners && entry.owner ∉ second.owners) := by
  rw [lookup?_process, Round.lookup?_append (h.lookup?_eq_none key)]
  simp only [Round.mem_owners_append, not_or, Bool.decide_and]

/-- **Independent rounds commute, and can be processed as one.** Rounds that process different types
and declare different keys lead from any tables to the same tables, whichever is processed first, or
if the declarations of both are processed in a single round. -/
theorem tables_process_process_of_apart (h : first.Apart second) :
    ((registry.process first).1.process second).1.tables =
        ((registry.process second).1.process first).1.tables ∧
      ((registry.process first).1.process second).1.tables =
        (registry.process (first.append second)).1.tables := by
  constructor
  · refine Tables.ext_lookup? (compact_process _ _) (compact_process _ _) fun key => ?_
    rw [lookup?_process_process registry h, lookup?_process_process registry h.symm,
      Round.or_comm_of_eq_none (h.lookup?_eq_none key)]
    simp only [Bool.and_comm]
  · refine Tables.ext_lookup? (compact_process _ _) (compact_process _ _) fun key => ?_
    rw [lookup?_process_process registry h, lookup?_process_append registry h]

/-- Each of two rounds finds an entry of its own type under the key that the other one declares. -/
theorem tables_process_process_of_apart_crossed :
    let key : AdapterKey := ⟨.named "View", .named "String"⟩
    let binds (owner written : String) : Round :=
      { adapters := [⟨[written], ⟨⟨.named owner, "bind", [key.view, key.value], none, true, true,
          lowestPlatform⟩, .ofElement owner⟩⟩] }
    let registry : Registry := .ofTables
      { adapters := Nested.put (Nested.put ∅ ⟨"hint"⟩ key ⟨.named "First", "stale"⟩)
          ⟨"text"⟩ key ⟨.named "Second", "stale"⟩ }
    let first := binds "First" "app:text"
    let second := binds "Second" "app:hint"
    first.Apart second ∧
      ((registry.process first).1.process second).1.tables =
          ((registry.process second).1.process first).1.tables ∧
        ((registry.process first).1.process second).1.tables =
          (registry.process (first.append second)).1.tables := by
  intro key binds registry first second
  have only {owner written : String} {type : HostType} {entry : Entry}
      (h : (binds owner written).Declares type entry) :
      entry = .adapter (.ofWritten written) key ⟨.named owner, "bind"⟩ := by
    cases h with
    | adapter hdecl _ hentry =>
      obtain rfl := List.mem_singleton.mp hdecl
      cases hentry
      rfl
    | group hdecl _ hentry =>
      obtain rfl := List.mem_singleton.mp hdecl
      cases hentry
    | renamed hdecl => cases hdecl
    | conversion hdecl => cases hdecl
    | untaggable hdecl => cases hdecl
  have hapart : first.Apart second := by
    refine ⟨fun owner hfirst hsecond => ?_, fun hfirst hsecond hagrees => ?_⟩
    · rw [Round.mem_owners_iff] at hfirst hsecond
      obtain rfl : owner = .named "First" := List.mem_singleton.mp hfirst
      exact absurd hsecond (by decide)
    · rw [only hfirst, only hsecond] at hagrees
      have hne : Attribute.ofWritten "app:text" ≠ .ofWritten "app:hint" := by decide +kernel
      exact hne (EntryKey.adapter.inj hagrees.of_adapter).1
  exact ⟨hapart, tables_process_process_of_apart registry hapart⟩

end Registry

end SetterResolution
