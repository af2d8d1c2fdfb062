import SetterResolution.Proofs.Hierarchy.Subtyping
import SetterResolution.Proofs.Resolution.Setter

/-!
# Methods for just the type of the value

A method of the view that takes a value of just its type comes before everything else that could set
an attribute. It is called as it is, whatever adapters and conversions there are, as long as it is
known for what it is. That is where the type arguments of a generic view come in: they are dropped,
and those of the value with them, before its type is compared with what a method takes
(`SetterResolution.HostType.comparedOn`), while adapters are compared with the type itself. So where
the view and the value are both generic, a method for just the type of the value merely accepts what
is compared with it (`SetterResolution.Context.fit?_erasure`), and an adapter for just that type
comes first.

The main statement is `SetterResolution.Context.resolve_of_takes`.
-/

namespace SetterResolution

/-! ### Types without type arguments -/

namespace HostType

/-- A type that has type arguments to drop is not primitive. -/
theorem isPrimitive_eq_false_of_erasure_ne {type : HostType} (h : type.erasure ≠ type) :
    type.isPrimitive = false := by
  cases type with
  | prim kind => exact absurd rfl h
  | array | named => rfl

/-- What is compared with the parameters of the methods of a view. -/
def comparedOn (view value : HostType) : HostType :=
  if view.erasure = view then value else value.erasure

end HostType

namespace Context

variable {ctx : Context} {attr : Attribute} {view value param : HostType} {signature : Signature}

/-! ### Exact fits -/

theorem fit?_eq_exact_iff : ctx.fit? value param = some .exact ↔ value = param := by
  rw [fit?]
  by_cases heq : value = param
  · simp [heq]
  · rw [if_neg heq]
    -- none of the later cases is the exact one
    refine iff_of_false (fun h => ?_) heq
    repeat' split at h
    all_goals cases h

variable (ctx) in
/-- A generic type merely accepts what is left of it without type arguments. -/
theorem fit?_erasure (h : value.erasure ≠ value) :
    ctx.fit? value.erasure value = some (.assignable (ctx.hierarchy.depth value)) := by
  have hvalue : value.isPrimitive = false := HostType.isPrimitive_eq_false_of_erasure_ne h
  have herased : value.erasure.isPrimitive = false := value.isPrimitive_erasure.trans hvalue
  have hboxing : ctx.hierarchy.differByBoxing value value.erasure = false := by
    rw [Hierarchy.differByBoxing, hvalue, herased]
    rfl
  have hwidening : ctx.hierarchy.wideningTo? value.erasure value = none := by
    rw [Hierarchy.wideningTo?, hvalue, herased]
    rfl
  have haccepts := ctx.hierarchy.accepts_erasure value
  simp [fit?, h, hboxing, hwidening, haccepts]

/-! ### What is called for an exact fit -/

variable (ctx) in
/-- A method of the view, of a name that is tried, that takes one value of just this type and has no
result. -/
structure Takes (attr : Attribute) (view param : HostType) (signature : Signature) : Prop where
  /-- The method is found on the view under a name that is tried. -/
  found : ∃ name, ctx.Tries attr view.erasure name ∧
    signature ∈ ctx.hierarchy.methods view.erasure name 1
  /-- The method has no result. -/
  isVoid : signature.isVoid
  /-- The method takes one value of this type. -/
  params : signature.params = [param]

/-- A method that takes something that the value fits is offered. -/
theorem Takes.offers (h : ctx.Takes attr view param signature) {fit : Fit}
    (hfit : ctx.fit? (view.comparedOn value) param = some fit) :
    ctx.Offers attr view value
      ⟨.direct signature, param, fit, ctx.hierarchy.depth signature.owner, 0⟩ := by
  obtain ⟨name, hname, hmethod⟩ := h.found
  exact .direct hname hmethod h.isVoid h.params hfit

/-- The first tier is that of the methods which take just the type that is compared with them. -/
theorem Offers.takes_of_tier_eq_zero {candidate : Candidate}
    (h : ctx.Offers attr view value candidate) (htier : candidate.tier = 0) :
    ∃ signature, ctx.Takes attr view (view.comparedOn value) signature ∧
      candidate.target = .direct signature ∧ candidate.fit = .exact := by
  cases h with
  | @direct name signature param fit _ hname hmethod hvoid hparams hfit =>
    cases fit with
    | exact =>
      obtain rfl := fit?_eq_exact_iff.mp hfit
      exact ⟨signature, ⟨⟨name, hname, hmethod⟩, hvoid, hparams⟩, rfl, rfl⟩
    | boxing | widening | assignable | converted | cast => cases htier
  | @adapter _ _ fit _ _ _ _ => cases fit <;> cases htier

/-- The second tier is that of the adapters for just the type of the value. -/
theorem adapter_of_tier_eq_one {candidate : Candidate} (h : candidate.tier = 1) :
    ∃ method, candidate.target = .adapter method ∧ candidate.fit = .exact := by
  obtain ⟨target, param, fit, viewDepth, sequence⟩ := candidate
  cases target with
  | direct signature => cases fit <;> cases h
  | adapter method =>
    cases fit with
    | exact => exact ⟨method, rfl, rfl⟩
    | boxing | widening | assignable | converted | cast => cases h

/-- What is called is in no later tier than anything that is offered. -/
theorem resolve_of_offers {written : String} {candidate : Candidate}
    (h : ctx.Offers (.ofWritten written) view value candidate) :
    ∃ best, ctx.Offers (.ofWritten written) view value best ∧ best.tier ≤ candidate.tier ∧
      ctx.resolve written view value = (best.call (.ofWritten written) ctx.minApi, []) := by
  obtain ⟨best, hbest⟩ := exists_best?_candidates h
  refine ⟨best, offers_of_mem_candidates (best?_candidates_eq_some hbest).1, ?_, ?_⟩
  · exact Nat.le_of_not_lt fun hlt => not_preferred_best hbest h (Or.inl hlt)
  · rw [resolve, hbest]

/-- **A method for just the type that is compared with it is called**, without a wrapper. -/
theorem resolve_of_takes_compared {written : String}
    (h : ctx.Takes (.ofWritten written) view (view.comparedOn value) signature) :
    ∃ called, ctx.Takes (.ofWritten written) view (view.comparedOn value) called ∧
      ctx.resolve written view value =
        (.direct (.ofWritten written) called.name .none called.minApi, []) := by
  obtain ⟨best, hoffers, htier, hcall⟩ := resolve_of_offers (h.offers (fit?_eq_exact_iff.mpr rfl))
  obtain ⟨called, htakes, htarget, hfit⟩ :=
    hoffers.takes_of_tier_eq_zero (Nat.le_zero.mp htier)
  refine ⟨called, htakes, hcall.trans ?_⟩
  rw [Candidate.call, htarget, Candidate.wrapper, hfit]

/-- **An adapter for just the type of the value is called** where no method takes just the type that
is compared with it. -/
theorem resolve_of_exact_adapter {written : String} {key : AdapterKey} {method : Method}
    (hentry : ctx.tables.adapters.find? (.ofWritten written) key = some method)
    (hview : ctx.hierarchy.accepts (ctx.qualify key.view) view)
    (hvalue : ctx.qualify key.value = value)
    (hnone : ∀ signature,
      ¬ ctx.Takes (.ofWritten written) view (view.comparedOn value) signature) :
    ∃ called, ctx.resolve written view value =
      (.adapter (.ofWritten written) called .none ctx.minApi, []) := by
  have hadapter : ctx.Offers (.ofWritten written) view value
      ⟨.adapter method, ctx.qualify key.value, .exact,
        ctx.hierarchy.depth (ctx.qualify key.view), 0⟩ :=
    .adapter hentry hview (fit?_eq_exact_iff.mpr hvalue.symm)
  obtain ⟨best, hoffers, htier, hcall⟩ := resolve_of_offers hadapter
  have hone : best.tier = 1 := by
    refine Nat.le_antisymm htier (Nat.one_le_iff_ne_zero.mpr fun hzero => ?_)
    obtain ⟨signature, htakes, -⟩ := hoffers.takes_of_tier_eq_zero hzero
    exact hnone signature htakes
  obtain ⟨called, htarget, hexact⟩ := adapter_of_tier_eq_one hone
  refine ⟨called, hcall.trans ?_⟩
  rw [Candidate.call, htarget, Candidate.wrapper, hexact]

/-- **What a method for just the type of the value is worth.** Unless the view and the value both
have type arguments, such a method is called without a wrapper. If both have them, the method is
offered for what it accepts, without an error; a method for what is left of the type of the value is
called as it is, and where there is none an adapter for just the type of the value is. -/
theorem resolve_of_takes {written : String}
    (h : ctx.Takes (.ofWritten written) view value signature) :
    (view.erasure = view ∨ value.erasure = value →
      ∃ called, ctx.Takes (.ofWritten written) view value called ∧
        ctx.resolve written view value =
          (.direct (.ofWritten written) called.name .none called.minApi, [])) ∧
    (view.erasure ≠ view → value.erasure ≠ value →
      ctx.Offers (.ofWritten written) view value
        ⟨.direct signature, value, .assignable (ctx.hierarchy.depth value),
          ctx.hierarchy.depth signature.owner, 0⟩ ∧
      (ctx.resolve written view value).2 = [] ∧
      ((∃ other, ctx.Takes (.ofWritten written) view value.erasure other) →
        ∃ called, ctx.Takes (.ofWritten written) view value.erasure called ∧
          ctx.resolve written view value =
            (.direct (.ofWritten written) called.name .none called.minApi, [])) ∧
      ((∀ other, ¬ ctx.Takes (.ofWritten written) view value.erasure other) →
        ∀ key method, ctx.tables.adapters.find? (.ofWritten written) key = some method →
          ctx.hierarchy.accepts (ctx.qualify key.view) view → ctx.qualify key.value = value →
          ∃ called, ctx.resolve written view value =
            (.adapter (.ofWritten written) called .none ctx.minApi, []))) := by
  constructor
  · intro hsame
    have hcompared : view.comparedOn value = value := by
      rw [HostType.comparedOn]
      split
      next => rfl
      next hview => exact hsame.resolve_left hview
    rw [← hcompared] at h
    simpa only [hcompared] using resolve_of_takes_compared h
  · intro hview hvalue
    have hcompared : view.comparedOn value = value.erasure := if_neg hview
    have hfit : ctx.fit? (view.comparedOn value) value =
        some (.assignable (ctx.hierarchy.depth value)) := hcompared ▸ fit?_erasure ctx hvalue
    have hoffers := h.offers hfit
    obtain ⟨best, -, -, hcall⟩ := resolve_of_offers hoffers
    refine ⟨hoffers, by rw [hcall], ?_, ?_⟩
    · rintro ⟨other, hother⟩
      rw [← hcompared] at hother ⊢
      exact resolve_of_takes_compared hother
    · intro hnone key method hentry haccepts hkey
      rw [← hcompared] at hnone
      exact resolve_of_exact_adapter hentry haccepts hkey hnone

/-- On a generic view, a method for strings is called for a string although there is an adapter for
just that; and a method for lists of strings is not called for such a list if there is an adapter
for it. -/
theorem resolve_of_takes_box :
    let box : HostType := .named "Box<T>"
    let string : HostType := .named "String"
    let strings : HostType := .named "List<String>"
    let hierarchy := Hierarchy.standard.declareClass "Box" (some "Object")
      |>.declareSetter "Box" "setItems" string |>.declareSetter "Box" "setItems" strings
    let method : Method := ⟨.named "Adapters", "setItems"⟩
    let adapters : Nested Attribute AdapterKey Method :=
      Nested.put (Nested.put ∅ ⟨"items"⟩ ⟨.named "Box", string⟩ method)
        ⟨"items"⟩ ⟨.named "Box", strings⟩ method
    let ctx : Context := { tables := { adapters }, hierarchy }
    ctx.Takes (.ofWritten "app:items") box string (.setter (.named "Box") "setItems" string) ∧
      ctx.Takes (.ofWritten "app:items") box strings (.setter (.named "Box") "setItems" strings) ∧
      (∃ called, ctx.Takes (.ofWritten "app:items") box string called ∧
        ctx.resolve "app:items" box string =
          (.direct (.ofWritten "app:items") called.name .none called.minApi, [])) ∧
      box.erasure ≠ box ∧ strings.erasure ≠ strings ∧
      (ctx.resolve "app:items" box strings).2 = [] := by
  intro box string strings hierarchy method adapters ctx
  have hstring : ctx.Takes (.ofWritten "app:items") box string
      (.setter (.named "Box") "setItems" string) :=
    ⟨⟨_, .conventional, by decide +kernel⟩, rfl, rfl⟩
  have hstrings : ctx.Takes (.ofWritten "app:items") box strings
      (.setter (.named "Box") "setItems" strings) :=
    ⟨⟨_, .conventional, by decide +kernel⟩, rfl, rfl⟩
  have hbox : box.erasure ≠ box := by decide +kernel
  have hgeneric : strings.erasure ≠ strings := by decide +kernel
  exact ⟨hstring, hstrings, (resolve_of_takes hstring).1 (Or.inr (by decide +kernel)), hbox,
    hgeneric, ((resolve_of_takes hstrings).2 hbox hgeneric).2.1⟩

/-- A method for just the type of the value is not called: the view and the value both have type
arguments, and an adapter is called instead. -/
theorem resolve_adapter_of_takes_generic :
    let box : HostType := .named "Box<T>"
    let strings : HostType := .named "List<String>"
    let hierarchy := Hierarchy.standard.declareClass "Box" (some "Object")
      |>.declareSetter "Box" "setItems" strings
    let method : Method := ⟨.named "Adapters", "setItems"⟩
    let adapters : Nested Attribute AdapterKey Method :=
      Nested.put ∅ ⟨"items"⟩ ⟨.named "Box", strings⟩ method
    let ctx : Context := { tables := { adapters }, hierarchy }
    ctx.Takes (.ofWritten "items") box strings (.setter (.named "Box") "setItems" strings) ∧
      ctx.resolve "items" box strings = (.adapter ⟨"items"⟩ method .none lowestPlatform, []) ∧
      ¬∃ attr name minApi,
        (ctx.resolve "items" box strings).1 = .direct attr name .none minApi := by
  intro box strings hierarchy method adapters ctx
  have hcall : ctx.resolve "items" box strings =
      (.adapter ⟨"items"⟩ method .none lowestPlatform, []) := by decide +kernel
  refine ⟨⟨⟨_, .conventional, by decide +kernel⟩, rfl, rfl⟩, hcall, ?_⟩
  rintro ⟨attr, name, minApi, hdirect⟩
  rw [hcall] at hdirect
  cases hdirect

end Context

end SetterResolution
