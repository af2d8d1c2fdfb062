import SetterResolution.Proofs.Registry.Declared
import SetterResolution.Proofs.Registry.Lookup
import SetterResolution.Registry.Round

/-!
# What a round makes of the tables

A round clears the entries of its owners and then takes its declarations one after another. This
file says what is found in the tables afterwards, table by table and key by key: what the round
declares under a key, and otherwise what was found there before unless its owner was cleared.

A declaration that is rejected gives a registry back as well, together with the error, and this is
the one that there was before (`SetterResolution.Registry.atomic_registerAdapter`,
`SetterResolution.Registry.atomic_registerConversion`).

Which of several declarations of one key is heard differs. Of adapters, for one attribute or for a
group, the **first** valid one is: the keys that were declared in the round are remembered, and a
second declaration is refused (`SetterResolution.Registry.find?_adapters_inTurn`,
`SetterResolution.Registry.find?_groups_inTurn`). Renamed setters, conversions and untaggable views
are written over, so that the **last** one is heard.

What is remembered of a round and what the tables hold are two structures, and the inductions over
the adapters of a round carry both along: a key that is remembered keeps the entry that it has, and
every other key takes the first entry that is still to come. Declared group keys do not repeat an
attribute, which is why refusing a key and finding it in the table come to the same.

The main statement is `SetterResolution.Registry.tables_process_lookups`.
-/

namespace SetterResolution.Registry

open Std (ExtTreeMap ExtTreeSet LawfulEqOrd TransOrd OrientedOrd)

/-! ### Taking declarations in turn -/

section InTurn

variable {α : Type} (step : Registry → α → Registry × Report)

theorem inTurn_cons_fst (registry : Registry) (decl : α) (rest : List α) :
    (inTurn step registry (decl :: rest)).1 = (inTurn step (step registry decl).1 rest).1 := rfl

/-- What no declaration changes is not changed by a list of them. -/
theorem inTurn_frame {β : Type} (view : Registry → β)
    (h : ∀ registry decl, view (step registry decl).1 = view registry) (registry : Registry)
    (decls : List α) : view (inTurn step registry decls).1 = view registry := by
  induction decls generalizing registry with
  | nil => rfl
  | cons decl rest ih => rw [inTurn_cons_fst, ih, h]

end InTurn

/-! ### Declarations that are written over -/

/-- Renamed setters change the table of renamed setters alone. -/
theorem tables_inTurn_renamed (registry : Registry) (decls : List RenamedDecl) :
    (inTurn processRenamed registry decls).1.tables =
      { registry.tables with
        renamed := registry.tables.renamed.putAll (decls.map RenamedDecl.entry) } := by
  induction decls generalizing registry with
  | nil => rfl
  | cons decl rest ih =>
    rw [inTurn_cons_fst, ih]
    rfl

theorem processConversion_fst (registry : Registry) (decl : ConversionDecl) :
    (processConversion registry decl).1 =
      match decl.conversion? with
      | some ((source, target), method) => registry.addConversion source target method
      | none => registry := by
  rw [processConversion, registerConversion, ConversionDecl.conversion?]
  cases decl.validate <;> rfl

/-- Conversions change the table of conversions alone. -/
theorem tables_inTurn_conversions (registry : Registry) (decls : List ConversionDecl) :
    (inTurn processConversion registry decls).1.tables =
      { registry.tables with
        conversions :=
          registry.tables.conversions.putAll (decls.filterMap ConversionDecl.conversion?) } := by
  induction decls generalizing registry with
  | nil => rfl
  | cons decl rest ih =>
    rw [inTurn_cons_fst, ih, processConversion_fst, List.filterMap_cons]
    cases decl.conversion? <;> rfl

/-- Untaggable views change their table alone. -/
theorem tables_inTurn_untaggable (registry : Registry) (decls : List UntaggableDecl) :
    (inTurn processUntaggable registry decls).1.tables =
      { registry.tables with
        untaggable := (decls.flatMap UntaggableDecl.entries).foldl
          (fun table entry => table.insert entry.1 entry.2) registry.tables.untaggable } := by
  induction decls generalizing registry with
  | nil => rfl
  | cons decl rest ih =>
    rw [inTurn_cons_fst, ih, List.flatMap_cons, List.foldl_append, UntaggableDecl.entries,
      List.foldl_map]
    rfl

/-! ### Adapters -/

/-- The error for an adapter that is declared for what another is declared for. -/
def duplicate (method : Method) : AdapterTarget → RegistrationError
  | .single attr key => .duplicateAdapter attr key method
  | .group key => .duplicateGroup key method

/-- A registry in which an adapter for one attribute has been declared. -/
def withAdapter (registry : Registry) (key : Attribute × AdapterKey) (method : Method) :
    Registry where
  tables :=
    { registry.tables with adapters := registry.tables.adapters.put key.1 key.2 method }
  declared := { registry.declared with adapters := key :: registry.declared.adapters }

/-- A registry in which a group adapter has been declared. -/
def withGroup (registry : Registry) (key : GroupKey) (method : Method) : Registry where
  tables := { registry.tables with groups := registry.tables.groups.insert key method }
  declared := { registry.declared with groups := key :: registry.declared.groups }

theorem mem_declared_withAdapter {registry : Registry} {key other : Attribute × AdapterKey}
    {method : Method} : other ∈ (registry.withAdapter key method).declared.adapters ↔
      other = key ∨ other ∈ registry.declared.adapters := List.mem_cons

theorem mem_declared_withGroup {registry : Registry} {key other : GroupKey} {method : Method} :
    other ∈ (registry.withGroup key method).declared.groups ↔
      other = key ∨ other ∈ registry.declared.groups := List.mem_cons

theorem addAdapter_eq (registry : Registry) (written : String) (key : AdapterKey)
    (method : Method) :
    registry.addAdapter written key method =
      if (.ofWritten written, key) ∈ registry.declared.adapters then
        (registry, .error (.duplicateAdapter (.ofWritten written) key method))
      else (registry.withAdapter (.ofWritten written, key) method, .ok ()) := rfl

theorem addGroup_eq (registry : Registry) (key : GroupKey) (method : Method) :
    registry.addGroup key method =
      if registry.declared.groups.any (·.agrees key) then
        (registry, .error (.duplicateGroup key method))
      else (registry.withGroup key method, .ok ()) := rfl

/-- Whether an adapter for the target is refused as a duplicate. -/
def refuses (registry : Registry) : AdapterTarget → Bool
  | .single attr key => registry.declared.adapters.contains (attr, key)
  | .group key => registry.declared.groups.any (·.agrees key)

/-- A registry in which an adapter has been declared. -/
def withTarget (registry : Registry) (method : Method) : AdapterTarget → Registry
  | .single attr key => registry.withAdapter (attr, key) method
  | .group key => registry.withGroup key method

/-- **What registering an adapter does**: a malformed one and a duplicate are refused, and every
other one is declared. -/
theorem registerAdapter_eq (registry : Registry) (decl : AdapterDecl) :
    registry.registerAdapter decl =
      match decl.validate with
      | .error flaw => (registry, .error (.malformed decl.method.position flaw))
      | .ok shape =>
        if registry.refuses shape.target then
          (registry, .error (duplicate decl.method.signature.method shape.target))
        else (registry.withTarget decl.method.signature.method shape.target, .ok ()) := by
  have single (written : String) (key : AdapterKey) (method : Method) :
      registry.addAdapter written key method =
        if registry.refuses (.single (.ofWritten written) key) then
          (registry, .error (.duplicateAdapter (.ofWritten written) key method))
        else (registry.withAdapter (.ofWritten written, key) method, .ok ()) := by
    rw [addAdapter_eq, refuses]
    simp only [List.contains_iff_mem]
  rw [registerAdapter]
  rcases decl.validate with flaw | ⟨view, params⟩
  · rfl
  -- the table that an adapter goes to depends on whether it has just one attribute
  · obtain _ | ⟨⟨written, value⟩, _ | ⟨second, rest⟩⟩ := params
    · exact addGroup_eq ..
    · exact single ..
    · exact addGroup_eq ..

/-! ### Rejected declarations -/

/-- An attempt that leaves the registry as it is when it fails. -/
def Atomic (attempt : Registry → Registry × Except RegistrationError Unit) : Prop :=
  ∀ registry error, (attempt registry).2 = .error error → (attempt registry).1 = registry

/-- What is checked before anything is changed is atomic. -/
theorem atomic_ite (refused : Registry → Prop) [DecidablePred refused]
    (reason : RegistrationError) (next : Registry → Registry) :
    Atomic fun registry =>
      if refused registry then (registry, .error reason) else (next registry, .ok ()) := by
  intro registry error h
  dsimp only at h ⊢
  split at h
  next hrefused => rw [if_pos hrefused]
  next => cases h

theorem atomic_addAdapter (written : String) (key : AdapterKey) (method : Method) :
    Atomic (·.addAdapter written key method) :=
  atomic_ite (fun registry => (Attribute.ofWritten written, key) ∈ registry.declared.adapters)
    (.duplicateAdapter (.ofWritten written) key method)
    (·.withAdapter (.ofWritten written, key) method)

theorem atomic_addGroup (key : GroupKey) (method : Method) : Atomic (·.addGroup key method) :=
  atomic_ite (fun registry => registry.declared.groups.any (·.agrees key))
    (.duplicateGroup key method) (·.withGroup key method)

/-- **An adapter that is rejected changes nothing**, whether it is malformed or a duplicate. -/
theorem atomic_registerAdapter (decl : AdapterDecl) : Atomic (·.registerAdapter decl) := by
  intro registry error h
  dsimp only [registerAdapter] at h ⊢
  split at h
  next => rfl
  next => exact atomic_addAdapter _ _ _ registry error h
  next => exact atomic_addGroup _ _ registry error h

/-- **A conversion that is rejected changes nothing.** -/
theorem atomic_registerConversion (decl : ConversionDecl) : Atomic (·.registerConversion decl) := by
  intro registry error h
  dsimp only [registerConversion] at h ⊢
  split at h
  next => rfl
  next => cases h

/-! ### Adapters in turn -/

theorem processAdapter_fst (registry : Registry) (decl : AdapterDecl) :
    (processAdapter registry decl).1 = (registry.registerAdapter decl).1 := by
  rw [processAdapter]
  rcases registry.registerAdapter decl with ⟨next, _ | _⟩ <;> rfl

/-- What is said about an adapter: the warnings about its attributes, and why it is rejected. -/
theorem processAdapter_snd (registry : Registry) (decl : AdapterDecl) :
    (processAdapter registry decl).2 =
      decl.attrs.flatMap (namespaceWarning decl.method.position) ++
        match (registry.registerAdapter decl).2 with
        | .ok () => []
        | .error error => [error.diagnostic decl.method.position] := by
  rw [processAdapter]
  rcases registry.registerAdapter decl with ⟨next, _ | _⟩
  · rfl
  · exact (List.append_nil _).symm

/-- An adapter is declared unless it is malformed or refused. -/
theorem processAdapter_fst_of_target? (registry : Registry) (decl : AdapterDecl) :
    (processAdapter registry decl).1 =
      match decl.target? with
      | some target =>
        if registry.refuses target then registry
        else registry.withTarget decl.method.signature.method target
      | none => registry := by
  rw [processAdapter_fst, registerAdapter_eq, AdapterDecl.target?]
  cases decl.validate with
  | error flaw => rfl
  | ok shape =>
    dsimp only
    cases registry.refuses shape.target <;> rfl

/-- **What one adapter does**: an adapter for one attribute and a group adapter each set an entry
unless their key was declared in the round, and a malformed one does nothing. -/
theorem processAdapter_cases (registry : Registry) (decl : AdapterDecl) :
    (∃ key method, decl.single? = some (key, method) ∧ decl.group? = none ∧
      (processAdapter registry decl).1 =
        if key ∈ registry.declared.adapters then registry
        else registry.withAdapter key method) ∨
    (∃ key method, decl.single? = none ∧ decl.group? = some (key, method) ∧
      (processAdapter registry decl).1 =
        if registry.declared.groups.any (·.agrees key) then registry
        else registry.withGroup key method) ∨
    (decl.single? = none ∧ decl.group? = none ∧
      (processAdapter registry decl).1 = registry) := by
  rw [processAdapter_fst_of_target?, AdapterDecl.single?_eq, AdapterDecl.group?_eq]
  cases decl.target? with
  | none => exact Or.inr (Or.inr ⟨rfl, rfl, rfl⟩)
  | some target =>
    cases target with
    | single attr key =>
      refine Or.inl ⟨_, _, rfl, rfl, ?_⟩
      simp only [refuses, List.contains_iff_mem]
      rfl
    | group key => exact Or.inr (Or.inl ⟨_, _, rfl, rfl, rfl⟩)

/-- Adapters change no table but the two for adapters. -/
theorem inTurn_processAdapter_frame {β : Type} (view : Registry → β)
    (hadapter : ∀ registry key method, view (withAdapter registry key method) = view registry)
    (hgroup : ∀ registry key method, view (withGroup registry key method) = view registry)
    (registry : Registry) (decls : List AdapterDecl) :
    view (inTurn processAdapter registry decls).1 = view registry := by
  refine inTurn_frame _ view (fun registry decl => ?_) registry decls
  rcases processAdapter_cases registry decl with
    ⟨key, method, -, -, hstep⟩ | ⟨key, method, -, -, hstep⟩ | ⟨-, -, hstep⟩
  · rw [hstep]
    split
    · rfl
    · exact hadapter _ _ _
  · rw [hstep]
    split
    · rfl
    · exact hgroup _ _ _
  · rw [hstep]

/-- **The first valid adapter for one attribute is heard.** A key that counts as declared keeps its
entry; of every other key the first declaration that is still to come sets the entry, and none does
if there is no such declaration. -/
theorem find?_adapters_inTurn (registry : Registry) (decls : List AdapterDecl) (attr : Attribute)
    (key : AdapterKey) :
    (inTurn processAdapter registry decls).1.tables.adapters.find? attr key =
      if (attr, key) ∈ registry.declared.adapters then registry.tables.adapters.find? attr key
      else ((decls.filterMap AdapterDecl.single?).lookup (attr, key)).or
        (registry.tables.adapters.find? attr key) := by
  induction decls generalizing registry with
  | nil =>
    rw [List.filterMap_nil, List.lookup_nil, Option.none_or, ite_self]
    rfl
  | cons decl rest ih =>
    rw [inTurn_cons_fst, ih, List.filterMap_cons]
    rcases processAdapter_cases registry decl with
      ⟨declared, method, hentry, -, hstep⟩ | ⟨declared, method, hentry, -, hstep⟩ |
      ⟨hentry, -, hstep⟩
    · rw [hstep, hentry]
      dsimp only
      -- what is declared is the key that is looked up, or has no part in it
      by_cases hkey : (attr, key) = declared
      · subst hkey
        rw [List.lookup_cons_self, Option.some_or]
        by_cases hmem : (attr, key) ∈ registry.declared.adapters
        · rw [if_pos hmem, if_pos hmem, if_pos hmem]
        · rw [if_neg hmem, if_neg hmem, if_pos (mem_declared_withAdapter.mpr (Or.inl rfl))]
          exact Nested.find?_put_self ..
      · rw [List.lookup_cons, beq_false_of_ne hkey]
        by_cases hmem : declared ∈ registry.declared.adapters
        · rw [if_pos hmem]
        · rw [if_neg hmem]
          have hput : (registry.withAdapter declared method).tables.adapters.find? attr key =
              registry.tables.adapters.find? attr key := Nested.find?_put_of_ne _ _ hkey
          have hiff : (attr, key) ∈ (registry.withAdapter declared method).declared.adapters ↔
              (attr, key) ∈ registry.declared.adapters :=
            mem_declared_withAdapter.trans (or_iff_right hkey)
          simp only [hput, hiff]
    -- a group adapter leaves both the table and what is remembered of it alone
    · rw [hstep, hentry]
      split <;> rfl
    · rw [hstep, hentry]

/-- **The first valid group adapter is heard**, and it is stored with its own order of attributes.
The keys that count as declared must not repeat attributes, as no declared key does. -/
theorem find?_groups_inTurn (registry : Registry) (decls : List AdapterDecl) (key : GroupKey)
    (h : ∀ declared ∈ registry.declared.groups, declared.attrs.Nodup) :
    GroupTable.find? (inTurn processAdapter registry decls).1.tables.groups key =
      if registry.declared.groups.any (compare · key == .eq) then
        GroupTable.find? registry.tables.groups key
      else ((decls.filterMap AdapterDecl.group?).find? (compare ·.1 key == .eq)).or
        (GroupTable.find? registry.tables.groups key) := by
  induction decls generalizing registry with
  | nil =>
    rw [List.filterMap_nil, List.find?_nil, Option.none_or, ite_self]
    rfl
  | cons decl rest ih =>
    rw [inTurn_cons_fst, List.filterMap_cons]
    rcases processAdapter_cases registry decl with
      ⟨declared, method, -, hentry, hstep⟩ | ⟨declared, method, -, hentry, hstep⟩ |
      ⟨-, hentry, hstep⟩
    · rw [hstep, hentry]
      split
      · exact ih registry h
      · exact ih (registry.withAdapter declared method) h
    -- to be refused is to agree with a remembered key, and the table only compares
    · have hnodup := AdapterDecl.nodup_of_group? hentry
      have hrefused : registry.declared.groups.any (·.agrees declared) ↔
          registry.declared.groups.any (compare · declared == .eq) := by
        rw [List.any_eq_true, List.any_eq_true]
        refine exists_congr fun other => and_congr_right fun hother => ?_
        rw [GroupKey.agrees_iff_compare_eq (h other hother) hnodup, beq_iff_eq]
      have hnext : ∀ other ∈ (registry.withGroup declared method).declared.groups,
          other.attrs.Nodup := by
        intro other hother
        rcases mem_declared_withGroup.mp hother with rfl | hother
        · exact hnodup
        · exact h other hother
      have hany : (registry.withGroup declared method).declared.groups.any (compare · key == .eq) =
          (compare declared key == .eq || registry.declared.groups.any (compare · key == .eq)) :=
        List.any_cons
      have hfound : GroupTable.find? (registry.withGroup declared method).tables.groups key =
          if compare declared key = .eq then some (declared, method)
          else GroupTable.find? registry.tables.groups key := GroupTable.find?_insert ..
      rw [hstep, hentry]
      by_cases hkey : compare declared key = .eq
      · -- the key that is looked up is the one that is declared
        have hsame : registry.declared.groups.any (compare · key == .eq) =
            registry.declared.groups.any (compare · declared == .eq) := by
          simp only [Std.TransCmp.congr_right hkey]
        rw [List.find?_cons_of_pos (by simpa using hkey), Option.some_or, hsame]
        by_cases hdup : registry.declared.groups.any (·.agrees declared)
        · rw [if_pos hdup, ih registry h, hsame, if_pos (hrefused.mp hdup),
            if_pos (hrefused.mp hdup)]
        · rw [if_neg hdup, if_neg (mt hrefused.mpr hdup), ih _ hnext, hany, hfound, if_pos hkey,
            if_pos (by simp [hkey])]
      · rw [List.find?_cons_of_neg (by simpa using hkey)]
        by_cases hdup : registry.declared.groups.any (·.agrees declared)
        · rw [if_pos hdup, ih registry h]
        · rw [if_neg hdup, ih _ hnext, hany, hfound, if_neg hkey, beq_false_of_ne hkey,
            Bool.false_or]
    · rw [hstep, hentry]
      exact ih registry h

/-! ### A whole round -/

/-- The registry of which a round takes its declarations: nothing counts as declared, and the
entries of the owners are gone. -/
theorem process_fst (registry : Registry) (round : Round) :
    (registry.process round).1 =
      (inTurn processUntaggable
        (inTurn processConversion
          (inTurn processRenamed
            (inTurn processAdapter (ofTables (registry.tables.clear round.owners).1)
              round.adapters).1
            round.renamed).1
          round.conversions).1
        round.untaggable).1 := rfl

/-- **The tables after a round**, each by the declarations that it is for. -/
theorem tables_process (registry : Registry) (round : Round) :
    let cleared := (registry.tables.clear round.owners).1
    let adapters := (inTurn processAdapter (ofTables cleared) round.adapters).1.tables
    (registry.process round).1.tables =
      { adapters := adapters.adapters
        renamed := cleared.renamed.putAll round.renamedEntries
        conversions := cleared.conversions.putAll round.conversionEntries
        groups := adapters.groups
        untaggable := round.untaggableEntries.foldl
          (fun table entry => table.insert entry.1 entry.2) cleared.untaggable } := by
  dsimp only
  have hframe := inTurn_processAdapter_frame
    (fun registry =>
      (registry.tables.renamed, registry.tables.conversions, registry.tables.untaggable))
    (fun _ _ _ => rfl) (fun _ _ _ => rfl) (ofTables (registry.tables.clear round.owners).1)
    round.adapters
  obtain ⟨hrenamed, hconversions, huntaggable⟩ :
      _ = _ ∧ _ = _ ∧ _ = _ := by simpa only [Prod.mk.injEq] using hframe
  rw [process_fst, tables_inTurn_untaggable, tables_inTurn_conversions, tables_inTurn_renamed,
    hrenamed, hconversions, huntaggable]
  rfl

variable (registry : Registry) (round : Round)

theorem find?_adapters_process (attr : Attribute) (key : AdapterKey) :
    (registry.process round).1.tables.adapters.find? attr key =
      (round.adapterEntries.lookup (attr, key)).or
        ((registry.tables.adapters.find? attr key).filter (·.owner ∉ round.owners)) := by
  rw [tables_process]
  dsimp only
  rw [find?_adapters_inTurn,
    if_neg (show _ ∉ (ofTables _).declared.adapters from List.not_mem_nil)]
  exact congrArg _ (Nested.find?_discard_owned ..)

theorem find?_groups_process (key : GroupKey) :
    GroupTable.find? (registry.process round).1.tables.groups key =
      (round.groupEntries.find? (compare ·.1 key == .eq)).or
        ((GroupTable.find? registry.tables.groups key).filter (·.2.owner ∉ round.owners)) := by
  rw [tables_process]
  dsimp only
  rw [find?_groups_inTurn _ _ _ (fun _ h => absurd h List.not_mem_nil),
    if_neg (by simp [ofTables])]
  exact congrArg _ (GroupTable.find?_filter _ (fun method => method.owner ∉ round.owners) key)

theorem find?_renamed_process (attr : Attribute) (target : HostType) :
    (registry.process round).1.tables.renamed.find? attr target =
      (round.renamedEntries.reverse.lookup (attr, target)).or
        ((registry.tables.renamed.find? attr target).filter (·.owner ∉ round.owners)) := by
  rw [tables_process]
  dsimp only
  rw [Nested.find?_putAll]
  exact congrArg _ (Nested.find?_discard_owned ..)

theorem find?_conversions_process (source target : HostType) :
    (registry.process round).1.tables.conversions.find? source target =
      (round.conversionEntries.reverse.lookup (source, target)).or
        ((registry.tables.conversions.find? source target).filter (·.owner ∉ round.owners)) := by
  rw [tables_process]
  dsimp only
  rw [Nested.find?_putAll]
  exact congrArg _ (Nested.find?_discard_owned ..)

theorem getElem?_untaggable_process (view : HostType) :
    (registry.process round).1.tables.untaggable[view]? =
      (round.untaggableEntries.reverse.lookup view).or
        (registry.tables.untaggable[view]?.filter (· ∉ round.owners)) := by
  rw [tables_process]
  dsimp only
  rw [getElem?_foldl_insert]
  exact congrArg _ ExtTreeMap.getElem?_filter'

/-- **What a round makes of the tables, key by key.** Of valid adapters, for one attribute or for a
group, the first of a key is found afterwards, a group key with the order of that declaration; of
renamed setters, valid conversions and untaggable views the last one. Under every other key there is
what was found before, unless its owner is one of the round's. -/
theorem tables_process_lookups (registry : Registry) (round : Round) :
    let before := registry.tables
    let after := (registry.process round).1.tables
    (∀ attr key, after.adapters.find? attr key =
      (round.adapterEntries.lookup (attr, key)).or
        ((before.adapters.find? attr key).filter (·.owner ∉ round.owners))) ∧
    (∀ key, GroupTable.find? after.groups key =
      (round.groupEntries.find? (compare ·.1 key == .eq)).or
        ((GroupTable.find? before.groups key).filter (·.2.owner ∉ round.owners))) ∧
    (∀ attr target, after.renamed.find? attr target =
      (round.renamedEntries.reverse.lookup (attr, target)).or
        ((before.renamed.find? attr target).filter (·.owner ∉ round.owners))) ∧
    (∀ source target, after.conversions.find? source target =
      (round.conversionEntries.reverse.lookup (source, target)).or
        ((before.conversions.find? source target).filter (·.owner ∉ round.owners))) ∧
    (∀ view, after.untaggable[view]? =
      (round.untaggableEntries.reverse.lookup view).or
        (before.untaggable[view]?.filter (· ∉ round.owners))) :=
  ⟨find?_adapters_process registry round, find?_groups_process registry round,
    find?_renamed_process registry round, find?_conversions_process registry round,
    getElem?_untaggable_process registry round⟩

end SetterResolution.Registry
