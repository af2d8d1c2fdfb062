import SetterResolution.Proofs.Resolution.Cover

/-!
# The order of attributes does not matter

The attributes of a view may be written in any order. Values are fitted to the parameters of a group
adapter one binding after another, and a value that does not fit ends this at once; but what a
binding does depends on the binding alone (`SetterResolution.Context.fitBindings?_singleton`). It
does nothing, or refuses the adapter, or fills the one slot of its attribute. Bindings of different
attributes fill different slots, and so they can be swapped.

The candidates are therefore the same ones, in the order of the table, and everything that comes
after them, the sorting and the choice of the cover, sees nothing but the candidates. Only the calls
for what the cover leaves follow the order in which the attributes were written.

The main statement is `SetterResolution.Context.resolveAll_perm`.
-/

namespace SetterResolution.Context

variable {ctx : Context} {key : GroupKey} {view : HostType}

/-! ### Fitting bindings in another order -/

theorem fitBindings?_cons (slots : List (Option Fit)) (binding : Binding) (rest : List Binding) :
    ctx.fitBindings? key slots (binding :: rest) =
      (ctx.fitBindings? key slots [binding]).bind (ctx.fitBindings? key · rest) := by
  obtain ⟨attr, value⟩ := binding
  simp only [fitBindings?]
  split
  · split <;> rfl
  · rfl

/-- **What a binding does to the slots**: nothing, or it refuses them whatever they are, or it fills
the slot in the place of its attribute. -/
theorem fitBindings?_singleton (ctx : Context) (key : GroupKey) (binding : Binding) :
    (∀ slots, ctx.fitBindings? key slots [binding] = some slots) ∨
      (∀ slots, ctx.fitBindings? key slots [binding] = none) ∨
      ∃ i fit, key.position? binding.1 = some i ∧
        ∀ slots, ctx.fitBindings? key slots [binding] = some (slots.set i (some fit)) := by
  obtain ⟨attr, value⟩ := binding
  simp only [fitBindings?]
  split
  next i type hplace _ =>
    cases ctx.fit? value (ctx.qualify type) with
    | none => exact Or.inr (Or.inl fun slots => rfl)
    | some fit => exact Or.inr (Or.inr ⟨i, fit, hplace, fun slots => rfl⟩)
  next => exact Or.inl fun slots => rfl

/-- Two attributes do not have one place. -/
theorem position?_ne {first second : Attribute} {i j : Nat} (h : first ≠ second)
    (hfirst : key.position? first = some i) (hsecond : key.position? second = some j) : i ≠ j := by
  rintro rfl
  have hi := (GroupKey.position?_eq_some_iff.mp hfirst).1
  have hj := (GroupKey.position?_eq_some_iff.mp hsecond).1
  exact h (Option.some.inj (hi.symm.trans hj))

/-- **Bindings of different attributes can be swapped.** -/
theorem fitBindings?_swap {first second : Binding} (h : first.1 ≠ second.1)
    (slots : List (Option Fit)) (rest : List Binding) :
    ctx.fitBindings? key slots (first :: second :: rest) =
      ctx.fitBindings? key slots (second :: first :: rest) := by
  rw [fitBindings?_cons, fitBindings?_cons slots second]
  simp only [fitBindings?_cons _ _ rest]
  rcases fitBindings?_singleton ctx key first with hfirst | hfirst | ⟨i, fit, hi, hfirst⟩
  · simp [hfirst]
  · simp [hfirst]
  · rcases fitBindings?_singleton ctx key second with hsecond | hsecond | ⟨j, fit', hj, hsecond⟩
    · simp [hsecond]
    · simp [hsecond]
    · -- both fill a slot, and not the same one
      simp [hfirst, hsecond, List.set_comm _ _ (position?_ne h hi hj)]

/-- The order in which bindings of different attributes are fitted does not matter. -/
theorem fitBindings?_perm {bindings other : List Binding} (h : bindings.Perm other)
    (hdistinct : (bindings.map Prod.fst).Nodup) (slots : List (Option Fit)) :
    ctx.fitBindings? key slots bindings = ctx.fitBindings? key slots other := by
  induction h generalizing slots with
  | nil => rfl
  | cons binding _ ih =>
    rw [List.map_cons, List.nodup_cons] at hdistinct
    refine (fitBindings?_cons slots binding _).trans (.trans ?_
      (fitBindings?_cons slots binding _).symm)
    simp only [ih hdistinct.2]
  | swap first second rest =>
    rw [List.map_cons, List.map_cons, List.nodup_cons] at hdistinct
    refine fitBindings?_swap (fun heq => hdistinct.1 ?_) slots rest
    rw [heq]
    exact List.mem_cons_self
  | trans hfirst _ ih ih' =>
    have hbetween := (hfirst.map Prod.fst).nodup hdistinct
    exact (ih hdistinct slots).trans (ih' hbetween slots)

/-! ### The same cover -/

theorem groupCandidate?_perm {bindings other : List Binding} (h : bindings.Perm other)
    (hdistinct : (bindings.map Prod.fst).Nodup) (declared : Nat) (adapter : Method) :
    ctx.groupCandidate? declared view bindings key adapter =
      ctx.groupCandidate? declared view other key adapter := by
  rw [groupCandidate?, fitBindings?_perm h hdistinct]
  rfl

/-- A binding as it is written, of the attribute that it stands for. -/
def bindingOf (binding : String × HostType) : Binding :=
  (.ofWritten binding.1, binding.2)

/-- The attributes of bindings as they are written. -/
def boundAttrs (bindings : List (String × HostType)) : List Attribute :=
  (bindings.map Prod.fst).map Attribute.ofWritten

theorem boundAttrs_eq (bindings : List (String × HostType)) :
    boundAttrs bindings = (bindings.map bindingOf).map Prod.fst := by
  rw [boundAttrs, List.map_map, List.map_map]
  rfl

theorem boundAttrs_append (first second : List (String × HostType)) :
    boundAttrs (first ++ second) = boundAttrs first ++ boundAttrs second := by
  rw [boundAttrs, List.map_append, List.map_append]
  rfl

theorem boundAttrs_perm {bindings other : List (String × HostType)} (h : bindings.Perm other) :
    (boundAttrs bindings).Perm (boundAttrs other) :=
  (h.map _).map _

/-- Bindings as they are written have their candidates found by what they stand for. -/
theorem groupCandidates_eq (ctx : Context) (view : HostType)
    (bindings : List (String × HostType)) :
    ctx.groupCandidates (boundAttrs bindings) view (bindings.map Prod.snd) =
      ctx.tables.groups.toList.filterMap fun entry =>
        ctx.groupCandidate? bindings.length view (bindings.map bindingOf) entry.1 entry.2 := by
  rw [groupCandidates, boundAttrs, List.length_map, List.length_map, List.map_map, List.zip_map']
  rfl

theorem groupCandidates_perm {bindings other : List (String × HostType)}
    (h : bindings.Perm other) (hdistinct : (boundAttrs bindings).Nodup) :
    ctx.groupCandidates (boundAttrs bindings) view (bindings.map Prod.snd) =
      ctx.groupCandidates (boundAttrs other) view (other.map Prod.snd) := by
  rw [boundAttrs_eq] at hdistinct
  have hlength := h.length_eq
  simp only [groupCandidates_eq, hlength, groupCandidate?_perm (h.map bindingOf) hdistinct]

theorem accepted_eq_cover (ctx : Context) (view : HostType)
    (bindings : List (String × HostType)) :
    ctx.accepted (bindings.map Prod.fst) view (bindings.map Prod.snd) =
      GroupCandidate.cover
        (ctx.groupCandidates (boundAttrs bindings) view (bindings.map Prod.snd)) :=
  rfl

/-- **The group adapters that are called** are the same ones in the same order. -/
theorem accepted_perm {bindings other : List (String × HostType)} (h : bindings.Perm other)
    (hdistinct : (bindings.map fun binding => Attribute.ofWritten binding.1).Nodup) :
    ctx.accepted (bindings.map Prod.fst) view (bindings.map Prod.snd) =
      ctx.accepted (other.map Prod.fst) view (other.map Prod.snd) := by
  have hbound : (boundAttrs bindings).Nodup := by
    rw [boundAttrs, List.map_map]
    exact hdistinct
  rw [accepted_eq_cover, accepted_eq_cover, groupCandidates_perm h hbound]

/-! ### The same calls -/

theorem uncovered_eq_filter (ctx : Context) (view : HostType)
    (bindings : List (String × HostType)) :
    ctx.uncovered (bindings.map Prod.fst) view (bindings.map Prod.snd) =
      bindings.filter fun binding =>
        .ofWritten binding.1 ∉
          ctx.covered (bindings.map Prod.fst) view (bindings.map Prod.snd) := by
  rw [uncovered, List.zip_map', List.map_id']

/-- **The order of attributes does not matter.** When bindings of different attributes are written
in another order, the calls of group adapters are the same ones in the same order, wrappers
included, and they are followed by the calls for the same bindings, each resolved as it was before,
in the new order. What is reported is what these single resolutions report, in the new order. -/
theorem resolveAll_perm (ctx : Context) (view : HostType)
    {bindings other : List (String × HostType)} (hperm : bindings.Perm other)
    (hdistinct : (bindings.map fun binding => Attribute.ofWritten binding.1).Nodup) :
    ∃ (groups : List Call) (isLeft : String × HostType → Bool),
      let resolve (binding : String × HostType) := ctx.resolve binding.1 view binding.2
      let left := bindings.filter isLeft
      let left' := other.filter isLeft
      (∀ call ∈ groups, call.isGroup) ∧ (∀ binding, ¬ (resolve binding).1.isGroup) ∧
      ctx.resolveAll (bindings.map Prod.fst) view (bindings.map Prod.snd) =
        (groups ++ left.map fun binding => (resolve binding).1,
          left.flatMap fun binding => (resolve binding).2) ∧
      ctx.resolveAll (other.map Prod.fst) view (other.map Prod.snd) =
        (groups ++ left'.map fun binding => (resolve binding).1,
          left'.flatMap fun binding => (resolve binding).2) ∧
      left.Perm left' := by
  have haccepted : ctx.accepted (bindings.map Prod.fst) view (bindings.map Prod.snd) =
      ctx.accepted (other.map Prod.fst) view (other.map Prod.snd) := accepted_perm hperm hdistinct
  have hgroups : ctx.groupCalls (other.map Prod.fst) view (other.map Prod.snd) =
      ctx.groupCalls (bindings.map Prod.fst) view (bindings.map Prod.snd) := by
    rw [groupCalls, groupCalls, haccepted]
  have hcovered : ctx.covered (other.map Prod.fst) view (other.map Prod.snd) =
      ctx.covered (bindings.map Prod.fst) view (bindings.map Prod.snd) := by
    rw [covered, covered, haccepted]
  have hresolved (l : List (String × HostType)) :=
    resolveAll_of_length_eq ctx (l.map Prod.fst) view (l.map Prod.snd) (by simp)
  refine ⟨ctx.groupCalls (bindings.map Prod.fst) view (bindings.map Prod.snd),
    fun binding => .ofWritten binding.1 ∉
      ctx.covered (bindings.map Prod.fst) view (bindings.map Prod.snd),
    fun call => isGroup_of_mem_groupCalls ctx _ _ _, fun binding => ?_, ?_, ?_,
    hperm.filter _⟩
  · rw [(resolve_single ..).2]
    exact Bool.false_ne_true
  · rw [hresolved, uncovered_eq_filter]
  · -- what the cover sets is the same, so that the same bindings are left
    rw [hresolved, uncovered_eq_filter, hgroups, hcovered]

/-- Four bindings in one order and in the other. A group adapter sets two of them, and there is no
setter for the other two. -/
theorem resolveAll_perm_reversed :
    let view : HostType := .named "View"
    let string : HostType := .named "String"
    let object : HostType := .named "Object"
    let drawable : HostType := .named "Drawable"
    let hierarchy := Hierarchy.standard.declareClass "View" (some "Object")
      |>.declareClass "Drawable" (some "Object")
    let load : Method := ⟨.named "Adapters", "load"⟩
    let groups : GroupTable := Std.ExtTreeMap.empty.insert
      ⟨view, [⟨⟨"src"⟩, string⟩, ⟨⟨"error"⟩, drawable⟩]⟩ load
    let ctx : Context := { tables := { groups }, hierarchy }
    let bindings := [("app:error", object), ("hint", string), ("app:src", string), ("tint", string)]
    let other := [("tint", string), ("app:src", string), ("hint", string), ("app:error", object)]
    let resolved := ctx.resolveAll (bindings.map Prod.fst) view (bindings.map Prod.snd)
    let resolved' := ctx.resolveAll (other.map Prod.fst) view (other.map Prod.snd)
    bindings.Perm other ∧ (bindings.map fun binding => Attribute.ofWritten binding.1).Nodup ∧
      (∃ groups left left' : List Call, (∀ call ∈ groups, call.isGroup) ∧ left.Perm left' ∧
        resolved.1 = groups ++ left ∧ resolved'.1 = groups ++ left') ∧
      resolved.2.Perm resolved'.2 ∧ resolved.1.length = 3 ∧ resolved.2.length = 2 := by
  intro view string object drawable hierarchy load groups ctx bindings other resolved resolved'
  have hperm : bindings.Perm other := (List.reverse_perm bindings).symm
  have hdistinct : (bindings.map fun binding => Attribute.ofWritten binding.1).Nodup := by
    decide +kernel
  obtain ⟨calls, isLeft, hgroups, -, hresolved, hresolved', hleft⟩ :=
    resolveAll_perm ctx view hperm hdistinct
  refine ⟨hperm, hdistinct, ⟨calls, _, _, hgroups, hleft.map _, congrArg Prod.fst hresolved,
    congrArg Prod.fst hresolved'⟩, ?_, by decide +kernel, by decide +kernel⟩
  rw [congrArg Prod.snd hresolved, congrArg Prod.snd hresolved']
  exact hleft.flatMap_right _

end SetterResolution.Context
