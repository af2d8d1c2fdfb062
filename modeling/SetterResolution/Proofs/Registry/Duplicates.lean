import Mathlib.Data.List.Induction
import Mathlib.Data.List.Nodup
import SetterResolution.Proofs.Registry.OneTable
import SetterResolution.Proofs.Registry.Position

/-!
# What counts as declared

A registry remembers which keys were declared since the round began, beside its tables. Rounds
begin, owners are cleared, other tables are merged in and entries are added in any order; this file
says what the remembered keys are after all of it, and that they are in step with the tables.

An entry is *still declared* (`SetterResolution.Registry.StillDeclared`) if some operation added it
and none after that began a round or removed it by clearing. Merging is not declaring, so that a key
that came with other tables may be declared anew, and a declaration that was refused is not one
either.

The invariant is `SetterResolution.Registry.Remembers`: the remembered keys are those of the entries
that are still declared, and the tables have these entries. One lemma for each operation says how
the entries that are still declared change (`SetterResolution.Registry.Remembers.after` puts them
together), and the run follows (`SetterResolution.Registry.remembers_performAll`). A group key is
remembered with the order in which its attributes were declared, but refused in any order; for keys
that do not repeat an attribute that is the equality of the tables
(`SetterResolution.GroupKey.agrees_iff_perm`).

The main statement is `SetterResolution.Registry.duplicates_performAll`.
-/

namespace SetterResolution

open Std (ExtTreeMap ExtTreeSet OrientedCmp)

/-! ### Group keys up to order -/

namespace GroupKey

/-- Bindings are in ascending order of the attributes, so that their order says nothing. -/
theorem bindings_eq_of_perm {a b : GroupKey} (h : a.bindings.Perm b.bindings) :
    a.bindings = b.bindings := by
  refine h.eq_of_pairwise (fun x y _ _ hxy hyx => ?_) a.ascending_bindings b.ascending_bindings
  rw [OrientedCmp.gt_of_lt hxy] at hyx
  cases hyx

/-- **Keys agree exactly if they have the same view and the same parameters in any order**, as long
as neither repeats an attribute. -/
theorem agrees_iff_perm {a b : GroupKey} (ha : a.attrs.Nodup) (hb : b.attrs.Nodup) :
    a.agrees b ↔ a.view = b.view ∧ a.params.Perm b.params := by
  rw [agrees_iff_compare_eq ha hb, compare_eq_iff]
  refine and_congr_right fun _ => ⟨fun h => ?_, fun h => ?_⟩
  · exact (bindings_perm_params ha).symm.trans (h ▸ bindings_perm_params hb)
  · exact bindings_eq_of_perm
      ((bindings_perm_params ha).trans (h.trans (bindings_perm_params hb).symm))

end GroupKey

namespace Registry

/-! ### Operations -/

/-- What can be done to a registry. -/
inductive Operation where
  /-- A round begins. -/
  | beginRound
  /-- The entries of some owners are cleared. -/
  | clear (owners : ExtTreeSet HostType)
  /-- Other tables are merged in. -/
  | merge (tables : Tables)
  /-- An adapter is declared for an attribute as written. -/
  | addAdapter (written : String) (key : AdapterKey) (method : Method)
  /-- A group adapter is declared, for attributes that are pairwise different. -/
  | addGroup (key : GroupKey) (distinct : key.attrs.Nodup) (method : Method)
  /-- A renamed setter is set. -/
  | addRenamed (written : String) (target : HostType) (method : Method)
  /-- A conversion is set. -/
  | addConversion (source target : HostType) (method : Method)
  /-- View types are made untaggable. -/
  | addUntaggable (views : List HostType) (owner : HostType)

namespace Operation

/-- What becomes of a registry, and whether the operation is refused. -/
def perform (registry : Registry) : Operation → Registry × Except RegistrationError Unit
  | beginRound => (registry.beginRound, .ok ())
  | clear owners => ((registry.clear owners).1, .ok ())
  | merge tables => (registry.merge tables, .ok ())
  | addAdapter written key method => registry.addAdapter written key method
  | addGroup key _ method => registry.addGroup key method
  | addRenamed written target method => (registry.addRenamed written target method, .ok ())
  | addConversion source target method => (registry.addConversion source target method, .ok ())
  | addUntaggable views owner => (registry.addUntaggable views owner, .ok ())

/-- **What is refused changes nothing.** -/
theorem atomic_perform (op : Operation) : Atomic (op.perform ·) := by
  intro registry error h
  cases op with
  | addAdapter written key method => exact atomic_addAdapter written key method registry error h
  | addGroup key _ method => exact atomic_addGroup key method registry error h
  | beginRound | clear | merge | addRenamed | addConversion | addUntaggable => cases h

/-- The entry that an operation declares. -/
def declares? : Operation → Option Entry
  | addAdapter written key method => some (.adapter (.ofWritten written) key method)
  | addGroup key _ method => some (.group key method)
  | _ => none

/-- The operation declares the entry, and is not refused. -/
def Adds (op : Operation) (registry : Registry) (entry : Entry) : Prop :=
  op.declares? = some entry ∧ (op.perform registry).2 = .ok ()

/-- The operation clears owners, and the entry is in the tables before but not after. -/
def Removes (op : Operation) (registry : Registry) (entry : Entry) : Prop :=
  ∃ owners, op = .clear owners ∧ registry.tables.Holds entry ∧
    ¬(registry.clear owners).1.tables.Holds entry

/-- The entry is declared after the operation: it is added, or it was declared before and is neither
removed nor forgotten with the round. -/
def Leaves (op : Operation) (registry : Registry) (declared : Entry → Prop) (entry : Entry) :
    Prop :=
  op.Adds registry entry ∨ declared entry ∧ op ≠ .beginRound ∧ ¬op.Removes registry entry

theorem not_removes_iff {registry : Registry} {owners : ExtTreeSet HostType} {entry : Entry}
    (hheld : registry.tables.Holds entry) :
    ¬(clear owners).Removes registry entry ↔ (registry.clear owners).1.tables.Holds entry := by
  constructor
  · exact fun h => Decidable.of_not_not fun hnot => h ⟨owners, rfl, hheld, hnot⟩
  · rintro h ⟨_, heq, -, hnot⟩
    cases heq
    exact hnot h

/-- Clearing leaves nothing under a key but what was there, so that an entry is not removed as long
as there is any. -/
theorem not_removes_of_isSome {registry : Registry} {owners : ExtTreeSet HostType} {entry : Entry}
    (hheld : registry.tables.Holds entry)
    (hsome : ((registry.clear owners).1.tables.lookup? entry.key).isSome) :
    ¬(clear owners).Removes registry entry := by
  obtain ⟨found, hfound⟩ := Option.isSome_iff_exists.mp hsome
  have hbefore : registry.tables.lookup? entry.key = some found :=
    (Option.filter_eq_some_iff.mp ((registry.tables.lookup?_clear owners _).symm.trans hfound)).1
  obtain rfl := Option.some.inj ((Tables.holds_iff.mp hheld).symm.trans hbefore)
  exact (not_removes_iff hheld).mpr (Tables.holds_iff.mpr hfound)

section Leaves

variable {op : Operation} {registry : Registry} {declared : Entry → Prop} {entry : Entry}

/-- What neither declares nor takes back an entry leaves everything declared. -/
theorem leaves_iff_of_declares?_eq_none (hdeclares : op.declares? = none)
    (hround : op ≠ .beginRound) (hclear : ∀ owners, op ≠ .clear owners) :
    op.Leaves registry declared entry ↔ declared entry := by
  simp [Leaves, Adds, Removes, hdeclares, hround, hclear]

/-- What is refused leaves everything declared. -/
theorem leaves_iff_of_error {error : RegistrationError}
    (hperform : (op.perform registry).2 = .error error) :
    op.Leaves registry declared entry ↔ declared entry := by
  -- beginning a round and clearing are never refused
  have hround : op ≠ .beginRound := by
    rintro rfl
    cases hperform
  have hclear (owners : ExtTreeSet HostType) : op ≠ .clear owners := by
    rintro rfl
    cases hperform
  simp [Leaves, Adds, Removes, hperform, hround, hclear]

/-- What declares an entry, and is not refused, adds just that. -/
theorem leaves_iff_of_declares? {added : Entry} (hdeclares : op.declares? = some added)
    (hperform : (op.perform registry).2 = .ok ()) :
    op.Leaves registry declared entry ↔ entry = added ∨ declared entry := by
  have hround : op ≠ .beginRound := by
    rintro rfl
    cases hdeclares
  have hclear (owners : ExtTreeSet HostType) : op ≠ .clear owners := by
    rintro rfl
    cases hdeclares
  simp [Leaves, Adds, Removes, hdeclares, hperform, hround, hclear, eq_comm]

end Leaves

end Operation

/-- The registry after an operation. -/
def after (registry : Registry) (op : Operation) : Registry :=
  (op.perform registry).1

/-- The registry after one operation after another. -/
def performAll (registry : Registry) (ops : List Operation) : Registry :=
  ops.foldl after registry

theorem performAll_concat (registry : Registry) (ops : List Operation) (op : Operation) :
    registry.performAll (ops ++ [op]) = (registry.performAll ops).after op := by
  rw [performAll, List.foldl_append]
  rfl

/-- **Some operation added the entry**, and none after that began a round or removed it. -/
def StillDeclared (registry : Registry) (ops : List Operation) (entry : Entry) : Prop :=
  ∃ earlier op later, ops = earlier ++ op :: later ∧
    op.Adds (registry.performAll earlier) entry ∧
    ∀ before next after, later = before ++ next :: after →
      next ≠ .beginRound ∧ ¬next.Removes (registry.performAll (earlier ++ op :: before)) entry

/-- The last operation either added the entry, or left it declared. -/
theorem stillDeclared_concat_iff {registry : Registry} {ops : List Operation} {op : Operation}
    {entry : Entry} :
    registry.StillDeclared (ops ++ [op]) entry ↔
      op.Leaves (registry.performAll ops) (registry.StillDeclared ops) entry := by
  constructor
  · rintro ⟨earlier, added, later, heq, hadds, hkept⟩
    obtain rfl | ⟨later, last, rfl⟩ := List.eq_nil_or_concat' later
    · obtain ⟨rfl, hlast⟩ := List.append_inj' heq rfl
      cases hlast
      exact Or.inl hadds
    · rw [← List.cons_append, ← List.append_assoc] at heq
      obtain ⟨rfl, hlast⟩ := List.append_inj' heq rfl
      cases hlast
      refine Or.inr ⟨⟨earlier, added, later, rfl, hadds, fun before next after hsplit => ?_⟩,
        hkept later op [] rfl⟩
      exact hkept before next (after ++ [op]) (by rw [hsplit]; simp)
  · rintro (hadds | ⟨⟨earlier, added, later, rfl, hadds, hkept⟩, hlast⟩)
    · exact ⟨ops, op, [], rfl, hadds, fun before next after h => by simp at h⟩
    · refine ⟨earlier, added, later ++ [op], by simp, hadds, fun before next after hsplit => ?_⟩
      obtain rfl | ⟨after, last, rfl⟩ := List.eq_nil_or_concat' after
      · obtain ⟨rfl, hnext⟩ := List.append_inj' hsplit rfl
        cases hnext
        exact hlast
      · rw [← List.cons_append, ← List.append_assoc] at hsplit
        obtain ⟨hsplit, -⟩ := List.append_inj' hsplit rfl
        exact hkept before next after hsplit

/-! ### What a registry remembers -/

/-- The registry remembers the entries that are declared: their keys are the remembered ones, the
tables have the entries, and no group key repeats an attribute. -/
structure Remembers (registry : Registry) (declared : Entry → Prop) : Prop where
  /-- The remembered keys of adapters for one attribute are those of declared entries. -/
  adapters : ∀ attr key, (attr, key) ∈ registry.declared.adapters ↔
    ∃ method, declared (.adapter attr key method)
  /-- The remembered keys of group adapters are those of declared entries. -/
  groups : ∀ key, key ∈ registry.declared.groups ↔ ∃ method, declared (.group key method)
  /-- Declared adapters for one attribute are in their table. -/
  holds_adapter : ∀ {attr key method}, declared (.adapter attr key method) →
    registry.tables.Holds (.adapter attr key method)
  /-- Declared group adapters are in their table. -/
  holds_group : ∀ {key method}, declared (.group key method) →
    registry.tables.Holds (.group key method)
  /-- Declared group keys do not repeat an attribute. -/
  distinct : ∀ {key method}, declared (.group key method) → key.attrs.Nodup

namespace Remembers

variable {registry : Registry} {declared : Entry → Prop}

theorem congr {other : Entry → Prop} (h : registry.Remembers declared)
    (heq : ∀ entry, other entry ↔ declared entry) : registry.Remembers other := by
  rwa [show other = declared from funext fun entry => propext (heq entry)]

/-- What neither touches the remembered keys nor the entries that they are for. -/
theorem frame {other : Registry} (h : registry.Remembers declared)
    (hkeys : other.declared = registry.declared)
    (hadapters : ∀ attr key method, registry.tables.Holds (.adapter attr key method) →
      other.tables.Holds (.adapter attr key method))
    (hgroups : ∀ key method, registry.tables.Holds (.group key method) →
      other.tables.Holds (.group key method)) :
    other.Remembers declared where
  adapters := hkeys ▸ h.adapters
  groups := hkeys ▸ h.groups
  holds_adapter hentry := hadapters _ _ _ (h.holds_adapter hentry)
  holds_group hentry := hgroups _ _ (h.holds_group hentry)
  distinct := h.distinct

/-- In a fresh round nothing is declared. -/
theorem fresh (tables : Tables) : (ofTables tables).Remembers fun _ => False where
  adapters _ _ := by simp [ofTables]
  groups _ := by simp [ofTables]
  holds_adapter := False.elim
  holds_group := False.elim
  distinct := False.elim

/-- Merging changes no entry that was there. -/
theorem merge (h : registry.Remembers declared) (tables : Tables) :
    (registry.merge tables).Remembers declared := by
  have holds (entry : Entry) (hheld : registry.tables.Holds entry) :
      (registry.merge tables).tables.Holds entry := by
    rw [Tables.holds_iff] at hheld ⊢
    exact (registry.tables.lookup?_merge tables _).trans (hheld ▸ Option.some_or)
  exact h.frame rfl (fun _ _ _ => holds _) fun _ _ => holds _

/-- **Clearing** gives back exactly the keys whose entries it removes. -/
theorem clear (h : registry.Remembers declared) (owners : ExtTreeSet HostType) :
    (registry.clear owners).1.Remembers fun entry =>
      declared entry ∧ ¬(Operation.clear owners).Removes registry entry where
  adapters attr key := by
    have hmem : (attr, key) ∈ (registry.clear owners).1.declared.adapters ↔
        (attr, key) ∈ registry.declared.adapters ∧
          ((registry.clear owners).1.tables.adapters.find? attr key).isSome := List.mem_filter
    rw [hmem, h.adapters]
    constructor
    · rintro ⟨⟨method, hentry⟩, hsome⟩
      exact ⟨method, hentry, Operation.not_removes_of_isSome (h.holds_adapter hentry)
        (Option.isSome_map.trans hsome)⟩
    · rintro ⟨method, hentry, hkept⟩
      have hheld := (Operation.not_removes_iff (h.holds_adapter hentry)).mp hkept
      exact ⟨⟨method, hentry⟩, Option.isSome_iff_exists.mpr ⟨method, hheld⟩⟩
  groups key := by
    have hmem : key ∈ (registry.clear owners).1.declared.groups ↔
        key ∈ registry.declared.groups ∧ key ∈ (registry.clear owners).1.tables.groups := by
      rw [← ExtTreeMap.contains_iff_mem]
      exact List.mem_filter
    rw [hmem, h.groups]
    constructor
    · rintro ⟨⟨method, hentry⟩, hmem⟩
      obtain ⟨stored, found, -, -, hfound⟩ := GroupTable.find?_of_mem hmem
      exact ⟨method, hentry, Operation.not_removes_of_isSome (h.holds_group hentry)
        (Option.isSome_map.trans (Option.isSome_of_eq_some hfound))⟩
    · rintro ⟨method, hentry, hkept⟩
      have hheld := (Operation.not_removes_iff (h.holds_group hentry)).mp hkept
      refine ⟨⟨method, hentry⟩, ExtTreeMap.mem_iff_isSome_getKey?.mpr ?_⟩
      rw [(GroupTable.find?_eq_some_iff.mp hheld).1]
      rfl
  holds_adapter hentry := (Operation.not_removes_iff (h.holds_adapter hentry.1)).mp hentry.2
  holds_group hentry := (Operation.not_removes_iff (h.holds_group hentry.1)).mp hentry.2
  distinct hentry := h.distinct hentry.1

/-- **Declaring an adapter** whose key was not declared. -/
theorem withAdapter (h : registry.Remembers declared) {key : Attribute × AdapterKey}
    (method : Method) (hnew : key ∉ registry.declared.adapters) :
    (registry.withAdapter key method).Remembers fun entry =>
      entry = .adapter key.1 key.2 method ∨ declared entry where
  adapters attr other := by
    rw [mem_declared_withAdapter, h.adapters]
    constructor
    · rintro (rfl | ⟨method, hentry⟩)
      · exact ⟨method, Or.inl rfl⟩
      · exact ⟨method, Or.inr hentry⟩
    · rintro ⟨found, heq | hentry⟩
      · cases heq
        exact Or.inl rfl
      · exact Or.inr ⟨found, hentry⟩
  groups other := by
    rw [show (registry.withAdapter key method).declared.groups = registry.declared.groups from rfl,
      h.groups]
    simp
  holds_adapter {attr other found} hentry := by
    rcases hentry with heq | hentry
    · cases heq
      exact Nested.find?_put_self _ _ _ _
    · have hne : (attr, other) ≠ key := fun heq =>
        hnew (heq ▸ (h.adapters attr other).mpr ⟨found, hentry⟩)
      exact (Nested.find?_put_of_ne _ method hne).trans (h.holds_adapter hentry)
  holds_group hentry := h.holds_group (hentry.resolve_left (by simp))
  distinct hentry := h.distinct (hentry.resolve_left (by simp))

/-- **Declaring a group adapter** whose key agrees with none that was declared. -/
theorem withGroup (h : registry.Remembers declared) {key : GroupKey} (hdistinct : key.attrs.Nodup)
    (method : Method) (hnew : ∀ other ∈ registry.declared.groups, ¬other.agrees key) :
    (registry.withGroup key method).Remembers fun entry =>
      entry = .group key method ∨ declared entry where
  adapters attr other := by
    rw [show (registry.withGroup key method).declared.adapters = registry.declared.adapters
      from rfl, h.adapters]
    simp
  groups other := by
    rw [mem_declared_withGroup, h.groups]
    constructor
    · rintro (rfl | ⟨found, hentry⟩)
      · exact ⟨method, Or.inl rfl⟩
      · exact ⟨found, Or.inr hentry⟩
    · rintro ⟨found, heq | hentry⟩
      · cases heq
        exact Or.inl rfl
      · exact Or.inr ⟨found, hentry⟩
  holds_adapter hentry := h.holds_adapter (hentry.resolve_left (by simp))
  holds_group {other found} hentry := by
    refine (GroupTable.find?_insert _ _ _ _).trans ?_
    rcases hentry with heq | hentry
    · cases heq
      exact if_pos Std.ReflCmp.compare_self
    · -- the new key is not found under one that is declared, as the two do not agree
      have hnot := hnew other ((h.groups other).mpr ⟨found, hentry⟩)
      rw [GroupKey.agrees_iff_compare_eq (h.distinct hentry) hdistinct] at hnot
      rw [if_neg fun hc => hnot (OrientedCmp.eq_symm hc)]
      exact h.holds_group hentry
  distinct hentry := by
    rcases hentry with heq | hentry
    · cases heq
      exact hdistinct
    · exact h.distinct hentry

end Remembers

/-! ### Runs -/

/-- An operation that is refused leaves what is remembered and what is declared. -/
theorem Remembers.after_of_error {registry : Registry} {declared : Entry → Prop}
    (h : registry.Remembers declared) {op : Operation} {error : RegistrationError}
    (hperform : (op.perform registry).2 = .error error) :
    (registry.after op).Remembers (op.Leaves registry declared) := by
  rw [Registry.after, op.atomic_perform registry error hperform]
  exact h.congr fun entry => Operation.leaves_iff_of_error hperform

/-- **One operation** keeps in step what is remembered, the tables and what is still declared. -/
theorem Remembers.after {registry : Registry} {declared : Entry → Prop}
    (h : registry.Remembers declared) (op : Operation) :
    (registry.after op).Remembers (op.Leaves registry declared) := by
  cases op with
  | beginRound =>
    have hfresh : registry.beginRound.Remembers fun _ => False := .fresh registry.tables
    exact hfresh.congr fun entry => by simp [Operation.Leaves, Operation.Adds, Operation.declares?]
  | clear owners =>
    refine (h.clear owners).congr fun entry => ?_
    simp [Operation.Leaves, Operation.Adds, Operation.declares?]
  | addAdapter written key method =>
    by_cases hmem : (Attribute.ofWritten written, key) ∈ registry.declared.adapters
    · have hperform : (Operation.addAdapter written key method).perform registry =
          (registry, .error (.duplicateAdapter (.ofWritten written) key method)) :=
        (addAdapter_eq _ _ _ _).trans (if_pos hmem)
      exact h.after_of_error (congrArg Prod.snd hperform)
    · have hperform : (Operation.addAdapter written key method).perform registry =
          (registry.withAdapter (.ofWritten written, key) method, .ok ()) :=
        (addAdapter_eq _ _ _ _).trans (if_neg hmem)
      rw [Registry.after, hperform]
      exact (h.withAdapter method hmem).congr fun entry =>
        Operation.leaves_iff_of_declares? rfl (congrArg Prod.snd hperform)
  | addGroup key distinct method =>
    by_cases hmem : registry.declared.groups.any (·.agrees key)
    · have hperform : (Operation.addGroup key distinct method).perform registry =
          (registry, .error (.duplicateGroup key method)) :=
        (addGroup_eq _ _ _).trans (if_pos hmem)
      exact h.after_of_error (congrArg Prod.snd hperform)
    · have hperform : (Operation.addGroup key distinct method).perform registry =
          (registry.withGroup key method, .ok ()) := (addGroup_eq _ _ _).trans (if_neg hmem)
      have hnew : ∀ other ∈ registry.declared.groups, ¬other.agrees key :=
        fun other hother hagrees => hmem (List.any_eq_true.mpr ⟨other, hother, hagrees⟩)
      rw [Registry.after, hperform]
      exact (h.withGroup distinct method hnew).congr fun entry =>
        Operation.leaves_iff_of_declares? rfl (congrArg Prod.snd hperform)
  -- the others leave the two tables as they are, but for merging, which only adds to them
  | merge tables =>
    exact (h.merge tables).congr fun entry =>
      Operation.leaves_iff_of_declares?_eq_none rfl (by simp) (by simp)
  | addRenamed | addConversion | addUntaggable =>
    refine Remembers.congr ?_ fun entry =>
      Operation.leaves_iff_of_declares?_eq_none rfl (by simp) (by simp)
    exact h.frame rfl (fun _ _ _ hheld => hheld) fun _ _ hheld => hheld

/-- **After any operations the registry remembers what is still declared.** -/
theorem remembers_performAll (tables : Tables) (ops : List Operation) :
    ((ofTables tables).performAll ops).Remembers ((ofTables tables).StillDeclared ops) := by
  induction ops using List.reverseRecOn with
  | nil => exact (Remembers.fresh tables).congr fun entry => by simp [StillDeclared]
  | append_singleton ops op ih =>
    rw [performAll_concat]
    exact (ih.after op).congr fun entry => stillDeclared_concat_iff

variable {registry : Registry} {declared : Entry → Prop}

/-- An adapter is refused exactly if one is declared for its key, and then as a duplicate. -/
theorem Remembers.addAdapter_eq_error_iff (h : registry.Remembers declared) {written : String}
    {key : AdapterKey} {method : Method} {error : RegistrationError} :
    (registry.addAdapter written key method).2 = .error error ↔
      error = .duplicateAdapter (.ofWritten written) key method ∧
        ∃ stored, declared (.adapter (.ofWritten written) key stored) := by
  rw [addAdapter_eq, ← h.adapters]
  by_cases hmem : (Attribute.ofWritten written, key) ∈ registry.declared.adapters
  · simp [hmem, eq_comm]
  · simp [hmem]

/-- A group adapter is refused exactly if one is declared for its view and its parameters, in
whichever order, and then as a duplicate. -/
theorem Remembers.addGroup_eq_error_iff (h : registry.Remembers declared) {key : GroupKey}
    (hkey : key.attrs.Nodup) {method : Method} {error : RegistrationError} :
    (registry.addGroup key method).2 = .error error ↔
      error = .duplicateGroup key method ∧
        ∃ stored other, declared (.group stored other) ∧ stored.view = key.view ∧
          stored.params.Perm key.params := by
  have hany : registry.declared.groups.any (·.agrees key) ↔
      ∃ stored other, declared (.group stored other) ∧ stored.view = key.view ∧
        stored.params.Perm key.params := by
    rw [List.any_eq_true]
    constructor
    · rintro ⟨stored, hmem, hagrees⟩
      obtain ⟨other, hentry⟩ := (h.groups stored).mp hmem
      exact ⟨stored, other, hentry, (GroupKey.agrees_iff_perm (h.distinct hentry) hkey).mp hagrees⟩
    · rintro ⟨stored, other, hentry, hsame⟩
      exact ⟨stored, (h.groups stored).mpr ⟨other, hentry⟩,
        (GroupKey.agrees_iff_perm (h.distinct hentry) hkey).mpr hsame⟩
  rw [addGroup_eq, ← hany]
  by_cases hmem : registry.declared.groups.any (·.agrees key)
  · simp [hmem, eq_comm]
  · simp [hmem]

/-- The table finds a declared group adapter under its parameters in any order. -/
theorem Remembers.getElem?_groups (h : registry.Remembers declared) {stored key : GroupKey}
    {method : Method} (hentry : declared (.group stored method)) (hview : stored.view = key.view)
    (hparams : stored.params.Perm key.params) : registry.tables.groups[key]? = some method := by
  have hstored : stored.attrs.Nodup := h.distinct hentry
  have hkey : key.attrs.Nodup := (hparams.map Parameter.attr).nodup_iff.mp hstored
  have hagrees : stored.agrees key := (GroupKey.agrees_iff_perm hstored hkey).mpr ⟨hview, hparams⟩
  rw [← ExtTreeMap.getElem?_congr ((GroupKey.agrees_iff_compare_eq hstored hkey).mp hagrees)]
  exact (GroupTable.find?_eq_some_iff.mp (h.holds_group hentry)).2

/-- **What is refused, after any operations on a registry** that was made with or without tables: an
adapter exactly if its key is still declared, and a group adapter exactly if one with the same view
and the same parameters in any order is. What is refused changes nothing, and under a key that is
still declared the tables have the method that it was declared with. -/
theorem duplicates_performAll (tables : Tables) (ops : List Operation) :
    (∀ written key method error,
      (((ofTables tables).performAll ops).addAdapter written key method).2 = .error error ↔
        error = .duplicateAdapter (.ofWritten written) key method ∧
          ∃ stored, (ofTables tables).StillDeclared ops
            (.adapter (.ofWritten written) key stored)) ∧
    (∀ key method error, key.attrs.Nodup →
      ((((ofTables tables).performAll ops).addGroup key method).2 = .error error ↔
        error = .duplicateGroup key method ∧
          ∃ stored other, (ofTables tables).StillDeclared ops (.group stored other) ∧
            stored.view = key.view ∧ stored.params.Perm key.params)) ∧
    (∀ op error, (op.perform ((ofTables tables).performAll ops)).2 = .error error →
      (ofTables tables).performAll (ops ++ [op]) = (ofTables tables).performAll ops) ∧
    (∀ attr key method, (ofTables tables).StillDeclared ops (.adapter attr key method) →
      ((ofTables tables).performAll ops).tables.adapters.find? attr key = some method) ∧
    (∀ stored method, (ofTables tables).StillDeclared ops (.group stored method) →
      ∀ key : GroupKey, stored.view = key.view → stored.params.Perm key.params →
        ((ofTables tables).performAll ops).tables.groups[key]? = some method) := by
  have h := remembers_performAll tables ops
  refine ⟨fun _ _ _ _ => h.addAdapter_eq_error_iff,
    fun _ _ _ hkey => h.addGroup_eq_error_iff hkey, fun op error hrefused => ?_,
    fun _ _ _ hentry => h.holds_adapter hentry,
    fun _ _ hentry _ hview hparams => h.getElem?_groups hentry hview hparams⟩
  rw [performAll_concat]
  exact op.atomic_perform _ error hrefused

/-- A group adapter stays declared when another owner is cleared, and is refused in another
order. -/
theorem duplicates_performAll_reordered :
    let text : Parameter := ⟨⟨"text"⟩, .named "String"⟩
    let hint : Parameter := ⟨⟨"hint"⟩, .prim .int⟩
    let key : GroupKey := ⟨.named "View", [text, hint]⟩
    let reordered : GroupKey := ⟨.named "View", [hint, text]⟩
    let first : Method := ⟨.named "First", "bind"⟩
    let second : Method := ⟨.named "Second", "bind"⟩
    let ops : List Operation := [.addGroup key (by decide) first, .clear {.named "Second"}]
    reordered.attrs.Nodup ∧ (ofTables {}).StillDeclared ops (.group key first) ∧
      (((ofTables {}).performAll ops).addGroup reordered second).2 =
        .error (.duplicateGroup reordered second) ∧
      ((ofTables {}).performAll ops).tables.groups[reordered]? = some first := by
  intro text hint key reordered first second ops
  have hreordered : reordered.attrs.Nodup := by decide
  have hperm : key.params.Perm reordered.params := List.Perm.swap hint text []
  have hadded : (ofTables {}).StillDeclared [.addGroup key (by decide) first]
      (.group key first) := ⟨[], _, [], rfl, ⟨rfl, rfl⟩, by simp⟩
  have hkept : ¬(Operation.clear {.named "Second"}).Removes
      ((ofTables {}).performAll [.addGroup key (by decide) first]) (.group key first) :=
    (Operation.not_removes_iff (by decide +kernel)).mpr (by decide +kernel)
  have hstill : (ofTables {}).StillDeclared ops (.group key first) :=
    stillDeclared_concat_iff.mpr (Or.inr ⟨hadded, by simp, hkept⟩)
  have h := duplicates_performAll {} ops
  exact ⟨hreordered, hstill,
    (h.2.1 reordered second _ hreordered).mpr ⟨rfl, key, first, hstill, rfl, hperm⟩,
    h.2.2.2.2 key first hstill reordered rfl hperm⟩

end Registry

end SetterResolution
