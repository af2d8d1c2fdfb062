import Mathlib.Data.Option.Basic
import SetterResolution.Proofs.Registry.Position
import SetterResolution.Resolution.Group

/-!
# Every attribute is set once

The calls for the attributes of a view are those of a cover by group adapters, followed by one for
each attribute that is left. This file proves that nothing is set twice and nothing is lost between
the two. There are three reasons, and each is a section.

* A group adapter that accepts the declared values repeats no attribute: a repeated one would leave
  a parameter without a value (`SetterResolution.Context.groupCandidate?_eq_some`).
* The pass over the sorted candidates accepts one only if it sets nothing that was set before
  (`SetterResolution.GroupCandidate.nodup_accept`).
* The single calls are made for the declarations whose attribute the cover does not set, and each
  sets just its own attribute (`SetterResolution.Context.resolve_single`).

The main statement is `SetterResolution.Context.resolveAll_sets_once`.
-/

namespace SetterResolution

/-! ### Group adapters that accept the declared values -/

/-- The slots that could all be read are filled. -/
theorem mapM_id_eq_some_iff {α : Type} {slots : List (Option α)} {values : List α} :
    slots.mapM id = some values ↔ slots = values.map some := by
  induction slots generalizing values with
  | nil => cases values <;> simp
  | cons slot rest ih =>
    rw [List.mapM_cons]
    cases slot with
    | none => cases values <;> simp
    | some value =>
      cases values with
      | nil => simp [Option.bind_eq_some_iff]
      | cons first values =>
        simp only [id_eq, Option.bind_eq_bind, Option.bind_some, Option.bind_eq_some_iff,
          Option.pure_def, Option.some.injEq, List.cons.injEq, List.map_cons]
        constructor
        · rintro ⟨_, hrest, rfl, rfl⟩
          exact ⟨rfl, ih.mp hrest⟩
        · rintro ⟨rfl, hrest⟩
          exact ⟨values, ih.mpr hrest, rfl, rfl⟩

theorem GroupCandidate.size_key (candidate : GroupCandidate) :
    candidate.key.size = candidate.arguments.length :=
  List.length_map ..

namespace Context

variable {ctx : Context} {key : GroupKey} {adapter : Method} {declared : Nat} {view : HostType}
  {bindings : List Binding} {candidate : GroupCandidate}

/-- **What fitting a list of bindings does**: it keeps the slots in number, and a slot that is
filled afterwards was filled before or has the fit of a value that is bound to the attribute of its
parameter. -/
theorem fitBindings?_eq_some {slots filled : List (Option Fit)}
    (h : ctx.fitBindings? key slots bindings = some filled) :
    filled.length = slots.length ∧ ∀ i fit, filled[i]? = some (some fit) →
      slots[i]? = some (some fit) ∨ ∃ param value, key.params[i]? = some param ∧
        key.position? param.attr = some i ∧ (param.attr, value) ∈ bindings ∧
        ctx.fit? value (ctx.qualify param.type) = some fit := by
  induction bindings generalizing slots with
  | nil =>
    rw [fitBindings?] at h
    cases h
    exact ⟨rfl, fun i fit hslot => Or.inl hslot⟩
  | cons binding rest ih =>
    obtain ⟨attr, value⟩ := binding
    rw [fitBindings?] at h
    split at h
    next place type hplace htype =>
      split at h
      next found hfound =>
        obtain ⟨hlength, hfilled⟩ := ih h
        refine ⟨hlength.trans List.length_set, fun i fit hslot => ?_⟩
        rcases hfilled i fit hslot with hbefore | ⟨param, value', hparam, hat, hmem, hfit⟩
        -- either this binding filled the slot or it left it alone
        · rw [List.getElem?_set] at hbefore
          by_cases heq : place = i
          · subst heq
            obtain ⟨j, hj, hparam⟩ := GroupKey.typeFor?_eq_some_iff.mp htype
            obtain rfl := Option.some.inj (hplace.symm.trans hj)
            rw [if_pos rfl] at hbefore
            split at hbefore
            · cases hbefore
              exact Or.inr ⟨⟨attr, type⟩, value, hparam, hplace, List.mem_cons_self, hfound⟩
            · cases hbefore
          · rw [if_neg heq] at hbefore
            exact Or.inl hbefore
        · exact Or.inr ⟨param, value', hparam, hat, List.mem_cons_of_mem _ hmem, hfit⟩
      next => cases h
    next =>
      obtain ⟨hlength, hfilled⟩ := ih h
      refine ⟨hlength, fun i fit hslot => ?_⟩
      rcases hfilled i fit hslot with hbefore | ⟨param, value', hparam, hat, hmem, hfit⟩
      · exact Or.inl hbefore
      · exact Or.inr ⟨param, value', hparam, hat, List.mem_cons_of_mem _ hmem, hfit⟩

/-- A group adapter is a candidate if it has no more attributes than are bound, accepts the view,
and all its slots are filled. -/
theorem groupCandidate?_eq_some_iff :
    ctx.groupCandidate? declared view bindings key adapter = some candidate ↔
      key.size ≤ declared ∧ ctx.hierarchy.accepts (ctx.qualify key.view) view ∧
        ∃ fits, ctx.fitBindings? key (List.replicate key.size none) bindings =
            some (fits.map some) ∧
          ⟨key.view, key.params.zip fits, adapter, ctx.hierarchy.depth (ctx.qualify key.view)⟩ =
            candidate := by
  simp only [groupCandidate?, Option.bind_eq_bind, Option.bind_eq_some_iff, Option.guard_eq_some',
    Option.pure_def, Option.some.injEq, mapM_id_eq_some_iff]
  constructor
  · rintro ⟨-, hsize, -, haccepts, slots, hslots, fits, rfl, hcandidate⟩
    exact ⟨hsize, haccepts, fits, hslots, hcandidate⟩
  · rintro ⟨hsize, haccepts, fits, hslots, hcandidate⟩
    exact ⟨(), hsize, (), haccepts, _, hslots, fits, rfl, hcandidate⟩

/-- There is a fit for each parameter. -/
theorem length_of_fitBindings? {fits : List Fit}
    (h : ctx.fitBindings? key (List.replicate key.size none) bindings = some (fits.map some)) :
    fits.length = key.size := by
  have hlength := (fitBindings?_eq_some h).1
  rwa [List.length_map, List.length_replicate] at hlength

/-- **A group adapter that can be used** is used with its key on a view that it accepts, and each of
its arguments is in the place of its attribute and has the fit of a value that is bound to it. -/
theorem groupCandidate?_eq_some
    (h : ctx.groupCandidate? declared view bindings key adapter = some candidate) :
    candidate.key = key ∧ candidate.adapter = adapter ∧
      ctx.hierarchy.accepts (ctx.qualify key.view) view ∧
      ∀ i param fit, candidate.arguments[i]? = some (param, fit) →
        key.position? param.attr = some i ∧ ∃ value, (param.attr, value) ∈ bindings ∧
          ctx.fit? value (ctx.qualify param.type) = some fit := by
  obtain ⟨-, haccepts, fits, hslots, rfl⟩ := groupCandidate?_eq_some_iff.mp h
  refine ⟨?_, rfl, haccepts, fun i param fit hargument => ?_⟩
  · rw [GroupCandidate.key, List.map_fst_zip (Nat.le_of_eq (length_of_fitBindings? hslots).symm)]
  · obtain ⟨hparam, hfit⟩ := List.getElem?_zip_eq_some.mp hargument
    have hslot : (fits.map some)[i]? = some (some fit) := by rw [List.getElem?_map, hfit]; rfl
    rcases (fitBindings?_eq_some hslots).2 i fit hslot with
      hbefore | ⟨param', value, hparam', hplace, hmem, hfit⟩
    -- no slot was filled at the start
    · rw [List.getElem?_replicate] at hbefore
      split at hbefore <;> cases hbefore
    · obtain rfl := Option.some.inj (hparam.symm.trans hparam')
      exact ⟨hplace, value, hmem, hfit⟩

theorem mem_groupCandidates_iff {attrs : List Attribute} {values : List HostType} :
    candidate ∈ ctx.groupCandidates attrs view values ↔
      ∃ key adapter, (key, adapter) ∈ ctx.tables.groups.toList ∧
        ctx.groupCandidate? attrs.length view (attrs.zip values) key adapter = some candidate := by
  rw [groupCandidates, List.mem_filterMap]
  constructor
  · rintro ⟨⟨key, adapter⟩, hentry, hcandidate⟩
    exact ⟨key, adapter, hentry, hcandidate⟩
  · rintro ⟨key, adapter, hentry, hcandidate⟩
    exact ⟨(key, adapter), hentry, hcandidate⟩

/-- A candidate is for an entry of the table. -/
theorem mem_toList_of_mem_groupCandidates {attrs : List Attribute} {values : List HostType}
    (h : candidate ∈ ctx.groupCandidates attrs view values) :
    (candidate.key, candidate.adapter) ∈ ctx.tables.groups.toList := by
  obtain ⟨key, adapter, hentry, hcandidate⟩ := mem_groupCandidates_iff.mp h
  obtain ⟨rfl, rfl, -⟩ := groupCandidate?_eq_some hcandidate
  exact hentry

theorem attrs_nodup_of_groupCandidate?
    (h : ctx.groupCandidate? declared view bindings key adapter = some candidate) :
    candidate.attrs.Nodup := by
  obtain ⟨rfl, -, -, harguments⟩ := groupCandidate?_eq_some h
  refine GroupKey.nodup_of_position? fun i hi => ?_
  rw [GroupCandidate.size_key] at hi
  exact ⟨_, (harguments i _ _ (List.getElem?_eq_getElem hi)).1⟩

/-- What a group adapter sets is bound. -/
theorem exists_binding_of_groupCandidate? {attr : Attribute}
    (h : ctx.groupCandidate? declared view bindings key adapter = some candidate)
    (hattr : attr ∈ candidate.attrs) : ∃ binding ∈ bindings, binding.1 = attr := by
  obtain ⟨-, -, -, harguments⟩ := groupCandidate?_eq_some h
  rw [GroupCandidate.attrs, GroupKey.attrs, GroupCandidate.key, List.map_map] at hattr
  obtain ⟨⟨param, fit⟩, hmem, rfl⟩ := List.mem_map.mp hattr
  obtain ⟨i, hargument⟩ := List.getElem?_of_mem hmem
  obtain ⟨-, value, hbound, -⟩ := harguments i param fit hargument
  exact ⟨_, hbound, rfl⟩

theorem mem_of_mem_groupCandidates {attrs : List Attribute} {values : List HostType}
    (h : candidate ∈ ctx.groupCandidates attrs view values) {attr : Attribute}
    (hattr : attr ∈ candidate.attrs) : attr ∈ attrs := by
  obtain ⟨key, adapter, -, hcandidate⟩ := mem_groupCandidates_iff.mp h
  obtain ⟨⟨_, value⟩, hbinding, rfl⟩ := exists_binding_of_groupCandidate? hcandidate hattr
  exact (List.of_mem_zip hbinding).1

end Context

/-! ### The cover -/

namespace GroupCandidate

variable {taken : List Attribute} {candidates : List GroupCandidate} {candidate : GroupCandidate}

theorem mem_of_mem_accept (h : candidate ∈ accept taken candidates) : candidate ∈ candidates := by
  induction candidates generalizing taken with
  | nil => cases h
  | cons first rest ih =>
    rw [accept] at h
    split at h
    · exact List.mem_cons_of_mem _ (ih h)
    · rcases List.mem_cons.mp h with rfl | h
      · exact List.mem_cons_self
      · exact List.mem_cons_of_mem _ (ih h)

/-- **The pass over the candidates** sets nothing twice, and nothing that was set before. -/
theorem nodup_accept (htaken : taken.Nodup)
    (hattrs : ∀ candidate ∈ candidates, candidate.attrs.Nodup) :
    (taken ++ (accept taken candidates).flatMap attrs).Nodup := by
  induction candidates generalizing taken with
  | nil => rwa [accept, List.flatMap_nil, List.append_nil]
  | cons first rest ih =>
    have hrest : ∀ candidate ∈ rest, candidate.attrs.Nodup := fun candidate hmem =>
      hattrs candidate (List.mem_cons_of_mem _ hmem)
    rw [accept]
    split
    next => exact ih htaken hrest
    next hfree =>
      -- what is accepted is taken from now on
      have hnext : (taken ++ first.attrs).Nodup := by
        refine List.nodup_append.mpr ⟨htaken, hattrs first List.mem_cons_self, ?_⟩
        rintro attr hattr _ hfirst rfl
        exact hfree (List.any_eq_true.mpr ⟨attr, hfirst, decide_eq_true hattr⟩)
      rw [List.flatMap_cons, ← List.append_assoc]
      exact ih hnext hrest

theorem mem_of_mem_cover (h : candidate ∈ cover candidates) : candidate ∈ candidates :=
  List.mem_mergeSort.mp (mem_of_mem_accept h)

/-- A cover sets nothing twice. -/
theorem nodup_cover (hattrs : ∀ candidate ∈ candidates, candidate.attrs.Nodup) :
    ((cover candidates).flatMap attrs).Nodup := by
  have hsorted : ∀ candidate ∈ sorted candidates, candidate.attrs.Nodup := fun candidate hmem =>
    hattrs candidate (List.mem_mergeSort.mp hmem)
  have hnodup := nodup_accept List.nodup_nil hsorted
  rwa [List.nil_append] at hnodup

end GroupCandidate

/-! ### The calls -/

/-- Whether a call is that of a group adapter. -/
def Call.isGroup : Call → Bool
  | group .. => true
  | _ => false

/-- When lists share nothing and repeat nothing, what is in one of them is in no other one. -/
theorem countP_mem_eq_one {α β : Type} [DecidableEq β] {l : List α} {f : α → List β} {b : β}
    (hnodup : (l.flatMap f).Nodup) (hmem : b ∈ l.flatMap f) : l.countP (b ∈ f ·) = 1 := by
  induction l with
  | nil => cases hmem
  | cons a rest ih =>
    rw [List.flatMap_cons] at hnodup hmem
    obtain ⟨-, hrest, hdisjoint⟩ := List.nodup_append.mp hnodup
    rw [List.countP_cons]
    by_cases ha : b ∈ f a
    · have hnone : rest.countP (b ∈ f ·) = 0 := by
        refine List.countP_eq_zero.mpr fun other hother hb => ?_
        exact hdisjoint b ha b (List.mem_flatMap.mpr ⟨other, hother, of_decide_eq_true hb⟩) rfl
      rw [hnone, if_pos (decide_eq_true ha)]
    · have hmem := (List.mem_append.mp hmem).resolve_left ha
      rw [ih hrest hmem, if_neg (by rwa [decide_eq_true_iff])]

namespace Context

variable (ctx : Context) (written : List String) (view : HostType) (values : List HostType)

/-- **A single call** is none of a group adapter, and sets just the attribute that it was made
for. -/
theorem resolve_single (name : String) (view value : HostType) :
    (ctx.resolve name view value).1.attrs = [Attribute.ofWritten name] ∧
      (ctx.resolve name view value).1.isGroup = false := by
  rw [resolve]
  split
  next best _ =>
    rw [Candidate.call]
    cases best.target <;> exact ⟨rfl, rfl⟩
  next => exact ⟨rfl, rfl⟩

/-- The group adapters that are called for the attributes of a view. -/
def accepted : List GroupCandidate :=
  GroupCandidate.cover (ctx.groupCandidates (written.map Attribute.ofWritten) view values)

/-- The attributes that are set by group adapters. -/
def covered : List Attribute :=
  (ctx.accepted written view values).flatMap GroupCandidate.attrs

/-- The declarations that the cover leaves. -/
def uncovered : List (String × HostType) :=
  (written.zip values).filter fun binding =>
    Attribute.ofWritten binding.1 ∉ ctx.covered written view values

/-- The calls of group adapters. -/
def groupCalls : List Call :=
  (ctx.accepted written view values).map (·.call ctx.minApi)

theorem resolveAll_of_length_ne (h : written.length ≠ values.length) :
    ctx.resolveAll written view values =
      ([], [unequalLists view written.length values.length]) := by
  rw [resolveAll, if_pos h]

theorem resolveAll_of_length_eq (h : written.length = values.length) :
    ctx.resolveAll written view values =
      (ctx.groupCalls written view values ++
        (ctx.uncovered written view values).map fun binding =>
          (ctx.resolve binding.1 view binding.2).1,
        (ctx.uncovered written view values).flatMap fun binding =>
          (ctx.resolve binding.1 view binding.2).2) := by
  rw [resolveAll, if_neg (not_not_intro h)]
  simp only [List.map_map, List.flatMap_map]
  rfl

theorem flatMap_attrs_groupCalls :
    (ctx.groupCalls written view values).flatMap Call.attrs = ctx.covered written view values :=
  List.flatMap_map ..

theorem isGroup_of_mem_groupCalls {call : Call} (h : call ∈ ctx.groupCalls written view values) :
    call.isGroup := by
  obtain ⟨candidate, -, rfl⟩ := List.mem_map.mp h
  rfl

/-- **The cover sets nothing twice.** -/
theorem nodup_covered : (ctx.covered written view values).Nodup := by
  refine GroupCandidate.nodup_cover fun candidate hmem => ?_
  obtain ⟨key, adapter, -, hcandidate⟩ := mem_groupCandidates_iff.mp hmem
  exact attrs_nodup_of_groupCandidate? hcandidate

/-- **The cover sets only what is declared.** -/
theorem mem_map_of_mem_covered {attr : Attribute} (h : attr ∈ ctx.covered written view values) :
    attr ∈ written.map Attribute.ofWritten := by
  obtain ⟨candidate, haccepted, hattr⟩ := List.mem_flatMap.mp h
  exact mem_of_mem_groupCandidates (GroupCandidate.mem_of_mem_cover haccepted) hattr

/-- **What all calls set**: the attributes of the cover, then the declared ones that are not among
them. -/
theorem flatMap_attrs_resolveAll (h : written.length = values.length) :
    (ctx.resolveAll written view values).1.flatMap Call.attrs =
      ctx.covered written view values ++
        (written.map Attribute.ofWritten).filter (· ∉ ctx.covered written view values) := by
  have hsingle : (ctx.uncovered written view values).flatMap
      (fun binding => (ctx.resolve binding.1 view binding.2).1.attrs) =
      (ctx.uncovered written view values).map fun binding => Attribute.ofWritten binding.1 := by
    simp only [resolve_single, List.map_eq_flatMap]
  have hnames : (written.zip values).map (Attribute.ofWritten ∘ Prod.fst) =
      written.map Attribute.ofWritten := by
    rw [← List.map_map, List.map_fst_zip (Nat.le_of_eq h)]
  rw [resolveAll_of_length_eq ctx written view values h, List.flatMap_append,
    flatMap_attrs_groupCalls, List.flatMap_map, hsingle, ← hnames, List.filter_map]
  rfl

/-- **Every attribute is set once.** Lists of different lengths give no call and one error.
Otherwise the calls are those of group adapters, followed by one for each declaration whose
attribute they do not set, in the order of declaration; what is reported is what the single
resolutions report. The group adapters set declared attributes only, and none of them twice, so that
each of several different attributes is set by just one call. -/
theorem resolveAll_sets_once (ctx : Context) (written : List String) (view : HostType)
    (values : List HostType) :
    let attrs := written.map Attribute.ofWritten
    let resolved := ctx.resolveAll written view values
    (written.length ≠ values.length →
      resolved.1 = [] ∧ ∃ diagnostic, resolved.2 = [diagnostic] ∧ diagnostic.severity = .error) ∧
    (written.length = values.length → ∃ groups : List Call,
      let covered := groups.flatMap Call.attrs
      let left := (written.zip values).filter fun binding => .ofWritten binding.1 ∉ covered
      resolved.1 = groups ++ left.map (fun binding => (ctx.resolve binding.1 view binding.2).1) ∧
      resolved.2 = left.flatMap (fun binding => (ctx.resolve binding.1 view binding.2).2) ∧
      (∀ call ∈ groups, call.isGroup) ∧
      (∀ binding ∈ left, ¬ (ctx.resolve binding.1 view binding.2).1.isGroup) ∧
      covered.Nodup ∧ (∀ attr ∈ covered, attr ∈ attrs) ∧
      (attrs.Nodup → ∀ attr ∈ attrs, resolved.1.countP (attr ∈ ·.attrs) = 1)) := by
  intro attrs resolved
  constructor
  · intro h
    have hresolved := resolveAll_of_length_ne ctx written view values h
    exact ⟨congrArg Prod.fst hresolved, _, congrArg Prod.snd hresolved, rfl⟩
  · intro h
    have hresolved := resolveAll_of_length_eq ctx written view values h
    refine ⟨ctx.groupCalls written view values, ?_⟩
    rw [flatMap_attrs_groupCalls]
    refine ⟨congrArg Prod.fst hresolved, congrArg Prod.snd hresolved,
      fun call => isGroup_of_mem_groupCalls ctx written view values, ?_,
      nodup_covered ctx written view values,
      fun attr => mem_map_of_mem_covered ctx written view values, fun hattrs attr hattr => ?_⟩
    · intro binding _
      rw [(resolve_single ..).2]
      exact Bool.false_ne_true
    · have hset := flatMap_attrs_resolveAll ctx written view values h
      refine countP_mem_eq_one ?_ ?_
      · rw [hset]
        refine List.nodup_append.mpr ⟨nodup_covered .., hattrs.filter _, ?_⟩
        rintro attr hcovered _ hleft rfl
        exact of_decide_eq_true (List.mem_filter.mp hleft).2 hcovered
      -- what the cover does not set is left for a single call
      · rw [hset, List.mem_append, List.mem_filter]
        by_cases hcovered : attr ∈ ctx.covered written view values
        · exact Or.inl hcovered
        · exact Or.inr ⟨hattr, decide_eq_true hcovered⟩

end Context

end SetterResolution
