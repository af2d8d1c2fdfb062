import Mathlib.Data.List.Forall2
import Mathlib.Data.List.Induction
import Mathlib.Data.List.Nodup
import Mathlib.Data.Set.List
import SetterResolution.Proofs.Resolution.Locality

/-!
# Which group adapters can be used

Whether a group adapter can be used is found out by filling a slot for each of its parameters, one
binding after another: a value that does not fit refuses the adapter, a later binding of an
attribute fills its slot again, and an adapter that is left with an empty slot is refused, too. All
of this comes to a plain condition (`SetterResolution.Context.Usable`): the attributes of the
adapter are different and all bound, it accepts the view, and all values that are bound to one of
its attributes fit. That an adapter with more attributes than are declared is refused beforehand
does not show, since its attributes could not all be bound.

For keys that repeat no attribute there is one lemma for each of the two things that filling the
slots does: it succeeds if all bindings of the attributes fit
(`SetterResolution.Context.isSome_fitBindings?_iff`), and then each slot has the fit of the last
value that was bound (`SetterResolution.Context.getElem?_of_fitBindings?`). A key that does repeat
an attribute is never used, for want of a binding that fills the slot of the first place.

The main statement is `SetterResolution.Context.groupCandidates_exact`.
-/

namespace SetterResolution

/-- Choosing from a list with a choice that depends on a condition keeps the order. -/
theorem forall₂_filterMap_filter {α β : Type} {f : α → Option β} {p : α → Bool}
    {r : β → α → Prop} {l : List α} (hsome : ∀ a ∈ l, (f a).isSome = p a)
    (hr : ∀ a ∈ l, ∀ b, f a = some b → r b a) :
    List.Forall₂ r (l.filterMap f) (l.filter p) := by
  induction l with
  | nil => exact .nil
  | cons a rest ih =>
    have ih := ih (fun b hb => hsome b (List.mem_cons_of_mem _ hb))
      fun b hb => hr b (List.mem_cons_of_mem _ hb)
    have ha := hsome a List.mem_cons_self
    rw [List.filterMap_cons]
    cases hfa : f a with
    | none =>
      rw [hfa] at ha
      rwa [List.filter_cons_of_neg (by simp [← ha])]
    | some b =>
      rw [hfa] at ha
      rw [List.filter_cons_of_pos ha.symm]
      exact .cons (hr a List.mem_cons_self b hfa) ih

namespace Context

variable {ctx : Context} {key : GroupKey} {adapter : Method} {declared : Nat} {view : HostType}
  {bindings : List Binding} {candidate : GroupCandidate} {attr : Attribute} {param : Parameter}

/-! ### The last value that is bound -/

/-- The value of the last binding of an attribute. -/
def lastValue? (attr : Attribute) (bindings : List Binding) : Option HostType :=
  (bindings.findRev? (·.1 = attr)).map Prod.snd

theorem lastValue?_concat (bindings : List Binding) (binding : Binding) :
    lastValue? attr (bindings ++ [binding]) =
      if binding.1 = attr then some binding.2 else lastValue? attr bindings := by
  rw [lastValue?, lastValue?, List.findRev?_eq_find?_reverse, List.findRev?_eq_find?_reverse,
    List.reverse_append, List.reverse_singleton, List.singleton_append]
  by_cases hattr : binding.1 = attr
  · rw [List.find?_cons_of_pos (by simpa using hattr), if_pos hattr]
    rfl
  · rw [List.find?_cons_of_neg (by simpa using hattr), if_neg hattr]

theorem mem_of_lastValue? {value : HostType} (h : lastValue? attr bindings = some value) :
    (attr, value) ∈ bindings := by
  rw [lastValue?, List.findRev?_eq_find?_reverse] at h
  obtain ⟨⟨found, value⟩, hfound, rfl⟩ := Option.map_eq_some_iff.mp h
  obtain rfl : found = attr := by simpa using List.find?_some hfound
  exact List.mem_reverse.mp (List.mem_of_find?_eq_some hfound)

/-- What is bound has a last value. -/
theorem exists_lastValue? (h : attr ∈ bindings.map Prod.fst) :
    ∃ value, lastValue? attr bindings = some value := by
  obtain ⟨binding, hbinding, rfl⟩ := List.mem_map.mp h
  refine Option.isSome_iff_exists.mp ?_
  rw [lastValue?, Option.isSome_map, List.findRev?_eq_find?_reverse, List.find?_isSome]
  exact ⟨binding, List.mem_reverse.mpr hbinding, decide_eq_true rfl⟩

/-! ### Filling the slots -/

/-- Where no attribute is repeated, a parameter is in the place of its attribute. -/
theorem position?_of_getElem? (hdistinct : key.attrs.Nodup) {i : Nat}
    (hparam : key.params[i]? = some param) : key.position? param.attr = some i := by
  rw [GroupKey.position?_eq_some_iff_of_nodup hdistinct, GroupKey.attrs, List.getElem?_map, hparam]
  rfl

/-- A binding of an attribute of the key fills the slot in its place, if the value fits. -/
theorem fitBindings?_of_getElem? (hdistinct : key.attrs.Nodup) {i : Nat}
    (hparam : key.params[i]? = some param) {binding : Binding} (hattr : binding.1 = param.attr)
    (slots : List (Option Fit)) :
    ctx.fitBindings? key slots [binding] =
      (ctx.fit? binding.2 (ctx.qualify param.type)).map fun fit => slots.set i (some fit) := by
  obtain ⟨attr, value⟩ := binding
  obtain rfl : attr = param.attr := hattr
  have hplace := position?_of_getElem? hdistinct hparam
  have htype : key.typeFor? param.attr = some param.type :=
    GroupKey.typeFor?_eq_some_iff.mpr ⟨i, hplace, hparam⟩
  simp only [fitBindings?, hplace, htype]
  cases ctx.fit? value (ctx.qualify param.type) <;> rfl

/-- **When the slots can be filled**: all values that are bound to an attribute of the key fit. -/
theorem isSome_fitBindings?_iff (hdistinct : key.attrs.Nodup) {slots : List (Option Fit)} :
    (ctx.fitBindings? key slots bindings).isSome ↔
      ∀ param ∈ key.params, ∀ binding ∈ bindings, binding.1 = param.attr →
        (ctx.fit? binding.2 (ctx.qualify param.type)).isSome := by
  induction bindings generalizing slots with
  | nil => simp [fitBindings?]
  | cons binding rest ih =>
    -- a first binding that fits leaves the condition to the others
    have hrest (hfirst : ∀ param ∈ key.params, binding.1 = param.attr →
        (ctx.fit? binding.2 (ctx.qualify param.type)).isSome) :
        (∀ param ∈ key.params, ∀ bound ∈ rest, bound.1 = param.attr →
          (ctx.fit? bound.2 (ctx.qualify param.type)).isSome) ↔
        ∀ param ∈ key.params, ∀ bound ∈ binding :: rest, bound.1 = param.attr →
          (ctx.fit? bound.2 (ctx.qualify param.type)).isSome := by
      refine forall₂_congr fun param hparam => ?_
      rw [List.forall_mem_cons, and_iff_right (hfirst param hparam)]
    rw [fitBindings?_cons]
    by_cases hmem : binding.1 ∈ key.attrs
    · obtain ⟨param, hparam, hattr⟩ := List.mem_map.mp hmem
      obtain ⟨i, hget⟩ := List.getElem?_of_mem hparam
      rw [fitBindings?_of_getElem? hdistinct hget hattr.symm]
      cases hfit : ctx.fit? binding.2 (ctx.qualify param.type) with
      | none =>
        refine iff_of_false Bool.false_ne_true fun hall => ?_
        have hfits := hall param hparam binding List.mem_cons_self hattr.symm
        rw [hfit] at hfits
        cases hfits
      | some fit =>
        rw [Option.map_some, Option.bind_some, ih]
        refine hrest fun other hother heq => ?_
        obtain rfl := List.inj_on_of_nodup_map hdistinct hother hparam (heq.symm.trans hattr.symm)
        rw [hfit]
        rfl
    · rw [fitBindings?_of_not_mem (by simpa using hmem), Option.bind_some, ih]
      exact hrest fun other hother heq => absurd (heq ▸ List.mem_map_of_mem hother) hmem

/-- **What the slots are filled with**: the fit of the last value that is bound to the attribute. -/
theorem getElem?_of_fitBindings? (hdistinct : key.attrs.Nodup) {i : Nat}
    (hparam : key.params[i]? = some param) {slots filled : List (Option Fit)}
    (hi : i < slots.length) (h : ctx.fitBindings? key slots bindings = some filled) :
    filled[i]? = (lastValue? param.attr bindings).elim slots[i]? fun value =>
      some (ctx.fit? value (ctx.qualify param.type)) := by
  induction bindings using List.reverseRecOn generalizing filled with
  | nil =>
    rw [fitBindings?] at h
    cases h
    rfl
  | append_singleton rest binding ih =>
    rw [fitBindings?_append] at h
    obtain ⟨before, hbefore, hlast⟩ := Option.bind_eq_some_iff.mp h
    rw [lastValue?_concat]
    by_cases hattr : binding.1 = param.attr
    · have hlength := (fitBindings?_eq_some hbefore).1
      rw [fitBindings?_of_getElem? hdistinct hparam hattr] at hlast
      obtain ⟨fit, hfit, rfl⟩ := Option.map_eq_some_iff.mp hlast
      rw [if_pos hattr, Option.elim_some, hfit, List.getElem?_set_self (by omega)]
    · rw [if_neg hattr, ← ih hbefore]
      -- a binding of another attribute fills another slot, or none
      rcases fitBindings?_singleton ctx key binding with hsame | hnone | ⟨j, fit, hj, hset⟩
      · rw [hsame] at hlast
        cases hlast
        rfl
      · rw [hnone] at hlast
        cases hlast
      · rw [hset] at hlast
        cases hlast
        exact List.getElem?_set_ne
          (position?_ne hattr hj (position?_of_getElem? hdistinct hparam))

/-! ### Usable adapters -/

/-- An adapter that is a candidate repeats no attribute, and all its attributes are bound. -/
theorem distinct_bound_of_groupCandidate?
    (h : ctx.groupCandidate? declared view bindings key adapter = some candidate) :
    key.attrs.Nodup ∧ ∀ attr ∈ key.attrs, attr ∈ bindings.map Prod.fst := by
  obtain ⟨rfl, -⟩ := groupCandidate?_eq_some h
  refine ⟨attrs_nodup_of_groupCandidate? h, fun attr hattr => ?_⟩
  obtain ⟨binding, hbinding, rfl⟩ := exists_binding_of_groupCandidate? h hattr
  exact List.mem_map_of_mem hbinding

/-- What it takes for a group adapter to be used on a view with some bindings. -/
structure Usable (ctx : Context) (view : HostType) (bindings : List Binding) (key : GroupKey) :
    Prop where
  /-- No attribute is repeated. -/
  distinct : key.attrs.Nodup
  /-- The view is accepted. -/
  accepts : ctx.hierarchy.accepts (ctx.qualify key.view) view
  /-- Every attribute is bound. -/
  bound : ∀ attr ∈ key.attrs, attr ∈ bindings.map Prod.fst
  /-- Every value that is bound to an attribute fits the parameter for it. -/
  fits : ∀ param ∈ key.params, ∀ binding ∈ bindings, binding.1 = param.attr →
    (ctx.fit? binding.2 (ctx.qualify param.type)).isSome

instance : Decidable (ctx.Usable view bindings key) :=
  decidable_of_iff (key.attrs.Nodup ∧ ctx.hierarchy.accepts (ctx.qualify key.view) view ∧
      (∀ attr ∈ key.attrs, attr ∈ bindings.map Prod.fst) ∧
      ∀ param ∈ key.params, ∀ binding ∈ bindings, binding.1 = param.attr →
        (ctx.fit? binding.2 (ctx.qualify param.type)).isSome)
    ⟨fun ⟨distinct, accepts, bound, fits⟩ => ⟨distinct, accepts, bound, fits⟩,
      fun h => ⟨h.distinct, h.accepts, h.bound, h.fits⟩⟩

/-- A candidate is the one for an entry of the table: it is for the key and the adapter of the
entry, and each parameter has the fit of the last value that is bound to its attribute. -/
structure CandidateFor (ctx : Context) (bindings : List Binding) (candidate : GroupCandidate)
    (entry : GroupKey × Method) : Prop where
  /-- The candidate has the key of the entry. -/
  key : candidate.key = entry.1
  /-- The candidate has the adapter of the entry. -/
  adapter : candidate.adapter = entry.2
  /-- The candidate knows how deep the view type stands. -/
  viewDepth : candidate.viewDepth = ctx.hierarchy.depth (ctx.qualify entry.1.view)
  /-- The fits are those of the last values. -/
  fits : ∀ (i : Nat) (param : Parameter), entry.1.params[i]? = some param → ∃ value fit,
    lastValue? param.attr bindings = some value ∧
      ctx.fit? value (ctx.qualify param.type) = some fit ∧ candidate.fits[i]? = some fit

/-- **What an adapter whose slots are filled passes**: the fit of the last value for each of its
parameters. -/
theorem exists_lastValue?_of_fitBindings? (hdistinct : key.attrs.Nodup)
    (hbound : ∀ attr ∈ key.attrs, attr ∈ bindings.map Prod.fst) {slots filled : List (Option Fit)}
    (hlength : slots.length = key.size) (h : ctx.fitBindings? key slots bindings = some filled)
    {i : Nat} (hparam : key.params[i]? = some param) :
    ∃ value, lastValue? param.attr bindings = some value ∧
      filled[i]? = some (ctx.fit? value (ctx.qualify param.type)) := by
  obtain ⟨value, hvalue⟩ :=
    exists_lastValue? (hbound _ (List.mem_map_of_mem (List.mem_of_getElem? hparam)))
  have hi : i < slots.length := hlength ▸ (List.getElem?_eq_some_iff.mp hparam).1
  refine ⟨value, hvalue, ?_⟩
  rw [getElem?_of_fitBindings? hdistinct hparam hi h, hvalue, Option.elim_some]

/-- **Whether a group adapter is a candidate.** -/
theorem isSome_groupCandidate?_iff (hdeclared : bindings.length ≤ declared) :
    (ctx.groupCandidate? declared view bindings key adapter).isSome ↔
      ctx.Usable view bindings key := by
  constructor
  · intro h
    obtain ⟨candidate, hcandidate⟩ := Option.isSome_iff_exists.mp h
    obtain ⟨-, haccepts, fits, hslots, -⟩ := groupCandidate?_eq_some_iff.mp hcandidate
    obtain ⟨hdistinct, hbound⟩ := distinct_bound_of_groupCandidate? hcandidate
    have hfilled : (ctx.fitBindings? key (.replicate key.size none) bindings).isSome := by
      rw [hslots]
      rfl
    exact ⟨hdistinct, haccepts, hbound, (isSome_fitBindings?_iff hdistinct).mp hfilled⟩
  · intro h
    have hfilled : (ctx.fitBindings? key (.replicate key.size none) bindings).isSome :=
      (isSome_fitBindings?_iff h.distinct).mpr h.fits
    obtain ⟨filled, hfilled⟩ := Option.isSome_iff_exists.mp hfilled
    have hlength := (fitBindings?_eq_some hfilled).1.trans List.length_replicate
    -- no slot is left empty, for each attribute is bound
    have hfits : filled ∈ Set.range (List.map some) := by
      rw [Set.range_list_map]
      intro slot hslot
      obtain ⟨i, hi, rfl⟩ := List.getElem_of_mem hslot
      have hparam := List.getElem?_eq_getElem (l := key.params) (hlength ▸ hi)
      obtain ⟨value, hvalue, hfit⟩ := exists_lastValue?_of_fitBindings? h.distinct h.bound
        List.length_replicate hfilled hparam
      rw [List.getElem?_eq_getElem hi] at hfit
      have hfitsValue := h.fits _ (List.mem_of_getElem? hparam) _ (mem_of_lastValue? hvalue) rfl
      rw [← Option.some.inj hfit] at hfitsValue
      obtain ⟨fit, hslot⟩ := Option.isSome_iff_exists.mp hfitsValue
      exact ⟨fit, hslot.symm⟩
    obtain ⟨fits, rfl⟩ := hfits
    have hsize := Nat.le_trans (size_le_length h.distinct h.bound) hdeclared
    exact Option.isSome_iff_exists.mpr
      ⟨_, groupCandidate?_eq_some_iff.mpr ⟨hsize, h.accepts, fits, hfilled, rfl⟩⟩

/-- **Which candidate a group adapter is.** -/
theorem candidateFor_of_groupCandidate?
    (h : ctx.groupCandidate? declared view bindings key adapter = some candidate) :
    ctx.CandidateFor bindings candidate (key, adapter) := by
  obtain ⟨hdistinct, hbound⟩ := distinct_bound_of_groupCandidate? h
  obtain ⟨-, -, fits, hslots, rfl⟩ := groupCandidate?_eq_some_iff.mp h
  have hlength := length_of_fitBindings? hslots
  refine ⟨?_, rfl, rfl, fun i param hparam => ?_⟩
  · rw [GroupCandidate.key, List.map_fst_zip (Nat.le_of_eq hlength.symm)]
  · obtain ⟨value, hvalue, hfit⟩ := exists_lastValue?_of_fitBindings? hdistinct hbound
      List.length_replicate hslots hparam
    rw [List.getElem?_map] at hfit
    obtain ⟨fit, hget, heq⟩ := Option.map_eq_some_iff.mp hfit
    refine ⟨value, fit, hvalue, heq.symm, ?_⟩
    rwa [GroupCandidate.fits, List.map_snd_zip (Nat.le_of_eq hlength)]

/-- **The group adapters that can be used** are the entries of the table that are usable with the
declared values, in the order of the table: an adapter is used exactly if it repeats no attribute,
accepts the view, has only bound attributes, and all values that are bound to one of them fit. Of
several values for an attribute, the last one is passed. No usable adapter has more attributes than
are declared, so that refusing those that do loses none. -/
theorem groupCandidates_exact (ctx : Context) (attrs : List Attribute) (view : HostType)
    (values : List HostType) :
    let bindings := attrs.zip values
    List.Forall₂ (ctx.CandidateFor bindings) (ctx.groupCandidates attrs view values)
      (ctx.tables.groups.toList.filter fun entry => ctx.Usable view bindings entry.1) ∧
    ∀ key, ctx.Usable view bindings key → key.size ≤ attrs.length := by
  intro bindings
  have hlength : bindings.length ≤ attrs.length := by
    rw [List.length_zip]
    exact Nat.min_le_left ..
  constructor
  · refine forall₂_filterMap_filter (fun ⟨key, adapter⟩ _ => ?_)
      fun ⟨key, adapter⟩ _ candidate => candidateFor_of_groupCandidate?
    exact Bool.eq_iff_iff.mpr ((isSome_groupCandidate?_iff hlength).trans decide_eq_true_iff.symm)
  · exact fun key h => Nat.le_trans (size_le_length h.distinct h.bound) hlength

/-- Of two values for an attribute, the second one is passed, but the first one has to fit as
well. -/
example :
    let ctx : Context := { tables := {}, hierarchy := .standard }
    let view : HostType := .named "View"
    let key : GroupKey := ⟨view, [⟨⟨"width"⟩, .prim .int⟩, ⟨⟨"text"⟩, .named "String"⟩]⟩
    let bindings (first : HostType) : List Binding :=
      [(⟨"width"⟩, first), (⟨"text"⟩, .named "String"), (⟨"width"⟩, .prim .int)]
    lastValue? ⟨"width"⟩ (bindings (.prim .short)) = some (.prim .int) ∧
      ctx.Usable view (bindings (.prim .short)) key ∧
      ¬ ctx.Usable view (bindings (.named "String")) key := by
  decide +kernel

end Context

end SetterResolution
