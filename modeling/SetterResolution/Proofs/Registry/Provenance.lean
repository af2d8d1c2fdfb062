import SetterResolution.Proofs.Registry.Outcome

/-!
# Where entries come from

An entry of the tables is owned by the type whose declaration it comes from. When a round processes
a type again, everything that the type owned before is cleared first, so that after any number of
rounds no stale entry is left: an entry whose owner was processed comes from the **last** round that
processed the owner, and every other entry was there from the start.

For the run it does not matter which table an entry is in. So the five tables are read as one
collection of entries here (`SetterResolution.Tables.Holds`), and what
`SetterResolution.Proofs.Registry.Outcome` says of each table becomes one statement about a step
(`SetterResolution.Registry.registers_or_holds_of_process`): what is found after a round was
registered by it, or was found before and has an owner that the round does not process. The run is
an induction over that step.

The main statement is `SetterResolution.Registry.holds_processAll_provenance`.
-/

namespace SetterResolution

open Std (ExtTreeMap ExtTreeSet)

/-! ### Entries -/

/-- An entry of one of the five tables. -/
inductive Entry where
  /-- An adapter for one attribute. -/
  | adapter (attr : Attribute) (key : AdapterKey) (method : Method)
  /-- A group adapter, with its key as it is stored. -/
  | group (key : GroupKey) (method : Method)
  /-- A renamed setter. -/
  | renamed (attr : Attribute) (target : HostType) (method : Method)
  /-- A conversion. -/
  | conversion (source target : HostType) (method : Method)
  /-- A view type that is not tagged. -/
  | untaggable (view owner : HostType)
  deriving DecidableEq, Repr

/-- The type whose declaration an entry comes from. -/
def Entry.owner : Entry → HostType
  | adapter _ _ method | group _ method | renamed _ _ method | conversion _ _ method => method.owner
  | untaggable _ owner => owner

/-- Whether tables have an entry. -/
def Tables.Holds (tables : Tables) : Entry → Prop
  | .adapter attr key method => tables.adapters.find? attr key = some method
  | .group key method => GroupTable.find? tables.groups key = some (key, method)
  | .renamed attr target method => tables.renamed.find? attr target = some method
  | .conversion source target method => tables.conversions.find? source target = some method
  | .untaggable view owner => tables.untaggable[view]? = some owner

instance (tables : Tables) (entry : Entry) : Decidable (tables.Holds entry) := by
  cases entry <;> unfold Tables.Holds <;> infer_instance

/-! ### What a round declares and registers -/

/-- A valid declaration of `owner` in the round asks for the entry. -/
inductive Round.Declares (round : Round) (owner : HostType) : Entry → Prop
  /-- An adapter for one attribute does. -/
  | adapter {decl : AdapterDecl} {attr : Attribute} {key : AdapterKey} {method : Method} :
      decl ∈ round.adapters → decl.method.signature.owner = owner →
      decl.single? = some ((attr, key), method) → Declares round owner (.adapter attr key method)
  /-- A group adapter does. -/
  | group {decl : AdapterDecl} {key : GroupKey} {method : Method} :
      decl ∈ round.adapters → decl.method.signature.owner = owner →
      decl.group? = some (key, method) → Declares round owner (.group key method)
  /-- A renamed setter does. -/
  | renamed {decl : RenamedDecl} :
      decl ∈ round.renamed → decl.owner = owner →
      Declares round owner (.renamed (.ofWritten decl.attr) decl.target ⟨decl.owner, decl.setter⟩)
  /-- A conversion does. -/
  | conversion {decl : ConversionDecl} {source target : HostType} {method : Method} :
      decl ∈ round.conversions → decl.method.signature.owner = owner →
      decl.conversion? = some ((source, target), method) →
      Declares round owner (.conversion source target method)
  /-- A declaration of untaggable views does. -/
  | untaggable {decl : UntaggableDecl} {view : HostType} :
      decl ∈ round.untaggable → decl.owner = owner → view ∈ decl.views →
      Declares round owner (.untaggable view owner)

/-- Of everything that the round declares under the key of the entry, the entry is what is heard:
the first declaration for adapters, the last one for everything else. -/
def Round.Registers (round : Round) : Entry → Prop
  | .adapter attr key method => round.adapterEntries.lookup (attr, key) = some method
  | .group key method => round.groupEntries.find? (compare ·.1 key == .eq) = some (key, method)
  | .renamed attr target method =>
    round.renamedEntries.reverse.lookup (attr, target) = some method
  | .conversion source target method =>
    round.conversionEntries.reverse.lookup (source, target) = some method
  | .untaggable view owner => round.untaggableEntries.reverse.lookup view = some owner

/-- What is looked up in a list is a member of it. -/
theorem mem_of_lookup {α β : Type} [BEq α] [LawfulBEq α] {l : List (α × β)} {key : α} {value : β}
    (h : l.lookup key = some value) : (key, value) ∈ l := by
  obtain ⟨before, after, rfl, -⟩ := List.lookup_eq_some_iff.mp h
  simp

namespace Round

variable {round : Round} {owner : HostType} {entry : Entry}

/-- **What is registered is declared** by a valid declaration of the type that owns it. -/
theorem Registers.declares (h : round.Registers entry) : round.Declares entry.owner entry := by
  cases entry with
  | adapter attr key method =>
    obtain ⟨decl, hdecl, hentry⟩ := List.mem_filterMap.mp (mem_of_lookup h)
    obtain rfl := AdapterDecl.method_of_single? hentry
    exact .adapter hdecl rfl hentry
  | group key method =>
    obtain ⟨decl, hdecl, hentry⟩ := List.mem_filterMap.mp (List.mem_of_find?_eq_some h)
    obtain ⟨-, -, -, -, rfl⟩ := AdapterDecl.group?_eq_some_iff.mp hentry
    exact .group hdecl rfl hentry
  | renamed attr target method =>
    obtain ⟨decl, hdecl, hentry⟩ := List.mem_map.mp (List.mem_reverse.mp (mem_of_lookup h))
    cases hentry
    exact .renamed hdecl rfl
  | conversion source target method =>
    obtain ⟨decl, hdecl, hentry⟩ := List.mem_filterMap.mp (List.mem_reverse.mp (mem_of_lookup h))
    obtain rfl := ConversionDecl.method_of_conversion? hentry
    exact .conversion hdecl rfl hentry
  | untaggable view owner =>
    obtain ⟨decl, hdecl, hentry⟩ := List.mem_flatMap.mp (List.mem_reverse.mp (mem_of_lookup h))
    obtain ⟨view, hview, heq⟩ := List.mem_map.mp hentry
    cases heq
    exact .untaggable hdecl rfl hview

theorem mem_owners_iff : owner ∈ round.owners ↔ owner ∈ round.ownerList := by
  rw [owners, ExtTreeSet.mem_ofList, List.contains_iff_mem]

/-- A type with a valid declaration is one of the types that the round processes. -/
theorem Declares.mem_owners (h : round.Declares owner entry) : owner ∈ round.owners := by
  rw [mem_owners_iff, ownerList]
  simp only [List.mem_append, List.mem_map]
  cases h with
  | adapter hdecl howner _ => exact Or.inl (Or.inl (Or.inl ⟨_, hdecl, howner⟩))
  | group hdecl howner _ => exact Or.inl (Or.inl (Or.inl ⟨_, hdecl, howner⟩))
  | renamed hdecl howner => exact Or.inl (Or.inr ⟨_, hdecl, howner⟩)
  | conversion hdecl howner _ => exact Or.inl (Or.inl (Or.inr ⟨_, hdecl, howner⟩))
  | untaggable hdecl howner _ => exact Or.inr ⟨_, hdecl, howner⟩

end Round

namespace Registry

/-! ### One round -/

/-- What is found where something declared comes before what is kept. -/
theorem declared_or_kept {α : Type} {found declared held : Option α} (keep : α → Prop)
    [DecidablePred keep] {a : α} (hfound : found = declared.or (held.filter (keep ·)))
    (h : found = some a) : declared = some a ∨ (held = some a ∧ keep a) := by
  rw [hfound] at h
  rcases Option.or_eq_some_iff.mp h with h | ⟨-, h⟩
  · exact Or.inl h
  · obtain ⟨hheld, hkeep⟩ := Option.filter_eq_some_iff.mp h
    exact Or.inr ⟨hheld, of_decide_eq_true hkeep⟩

/-- **One round**: what is found afterwards was registered by the round, or was found before and has
an owner that the round does not process. -/
theorem registers_or_holds_of_process {registry : Registry} {round : Round} {entry : Entry}
    (h : (registry.process round).1.tables.Holds entry) :
    round.Registers entry ∨ (registry.tables.Holds entry ∧ entry.owner ∉ round.owners) := by
  cases entry with
  | adapter attr key method => exact declared_or_kept _ (find?_adapters_process ..) h
  | group key method =>
    exact declared_or_kept (fun entry => entry.2.owner ∉ round.owners) (find?_groups_process ..) h
  | renamed attr target method => exact declared_or_kept _ (find?_renamed_process ..) h
  | conversion source target method => exact declared_or_kept _ (find?_conversions_process ..) h
  | untaggable view owner => exact declared_or_kept _ (getElem?_untaggable_process ..) h

/-! ### A run of rounds -/

/-- Processes rounds one after another. -/
def processAll (registry : Registry) (rounds : List Round) : Registry :=
  rounds.foldl (fun registry round => (registry.process round).1) registry

theorem processAll_append (registry : Registry) (earlier later : List Round) :
    registry.processAll (earlier ++ later) = (registry.processAll earlier).processAll later :=
  List.foldl_append

/-- An entry whose owner no round processes was there before the first of them. -/
theorem holds_of_processAll {registry : Registry} {rounds : List Round} {entry : Entry}
    (h : (registry.processAll rounds).tables.Holds entry)
    (hnone : ∀ round ∈ rounds, entry.owner ∉ round.owners) : registry.tables.Holds entry := by
  induction rounds generalizing registry with
  | nil => exact h
  | cons round rest ih =>
    -- the later rounds found the entry after this one, which did not register it
    have hrest := ih h fun other hother => hnone other (List.mem_cons_of_mem _ hother)
    rcases registers_or_holds_of_process hrest with hreg | ⟨hheld, -⟩
    · exact absurd hreg.declares.mem_owners (hnone round List.mem_cons_self)
    · exact hheld

/-- An entry whose owner was processed was registered by the last round that did so. -/
theorem registers_of_processAll {registry : Registry} {earlier later : List Round} {round : Round}
    {entry : Entry} (h : (registry.processAll (earlier ++ round :: later)).tables.Holds entry)
    (howner : entry.owner ∈ round.owners) (hlast : ∀ other ∈ later, entry.owner ∉ other.owners) :
    round.Registers entry := by
  rw [processAll_append] at h
  -- the rounds after the last one of the owner only carry the entry along
  have hafter : ((registry.processAll earlier).process round).1.tables.Holds entry :=
    holds_of_processAll h hlast
  rcases registers_or_holds_of_process hafter with hreg | ⟨-, hnot⟩
  · exact hreg
  · exact absurd howner hnot

/-- **No stale entries.** After any rounds on any tables, an entry whose owner was processed was
asked for by a valid declaration of its owner in the last round that processed it, and was heard
there; and an entry whose owner was never processed is an entry of the tables at the start. -/
theorem holds_processAll_provenance (tables : Tables) (rounds : List Round) (entry : Entry)
    (h : ((ofTables tables).processAll rounds).tables.Holds entry) :
    (∀ earlier round later, rounds = earlier ++ round :: later → entry.owner ∈ round.owners →
      (∀ other ∈ later, entry.owner ∉ other.owners) →
      round.Declares entry.owner entry ∧ round.Registers entry) ∧
    ((∀ round ∈ rounds, entry.owner ∉ round.owners) → tables.Holds entry) := by
  refine ⟨?_, holds_of_processAll h⟩
  rintro earlier round later rfl howner hlast
  have hreg := registers_of_processAll h howner hlast
  exact ⟨hreg.declares, hreg⟩

/-- A type is processed twice and another one once: the adapter that the first type declares last is
its own, and the adapter of a type that no round processes was there from the start. -/
theorem holds_processAll_provenance_three_rounds :
    let key : AdapterKey := ⟨.named "View", .named "String"⟩
    let binds (owner written : String) : Round :=
      { adapters := [⟨[written], ⟨⟨.named owner, "bind", [key.view, key.value], none, true, true,
          lowestPlatform⟩, .ofElement owner⟩⟩] }
    let tables : Tables :=
      { adapters := Nested.put ∅ ⟨"tag"⟩ key ⟨.named "Library", "bind"⟩ }
    let rounds := [binds "Module" "app:hint", binds "Module" "app:text", binds "Other" "app:hint"]
    let text : Entry := .adapter ⟨"text"⟩ key ⟨.named "Module", "bind"⟩
    let tag : Entry := .adapter ⟨"tag"⟩ key ⟨.named "Library", "bind"⟩
    let after := ((ofTables tables).processAll rounds).tables
    (after.Holds text ∧ (binds "Module" "app:text").Registers text) ∧
      (after.Holds tag ∧ tables.Holds tag) := by
  intro key binds tables rounds text tag after
  have htext : after.Holds text := by decide +kernel
  have htag : after.Holds tag := by decide +kernel
  refine ⟨⟨htext, ?_⟩, htag, ?_⟩
  · exact ((holds_processAll_provenance tables rounds text htext).1 [binds "Module" "app:hint"]
      (binds "Module" "app:text") [binds "Other" "app:hint"] rfl (by decide +kernel)
      (by decide +kernel)).2
  · exact (holds_processAll_provenance tables rounds tag htag).2 (by decide +kernel)

end Registry

end SetterResolution
