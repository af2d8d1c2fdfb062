import SetterResolution.Proofs.Resolution.Conversion
import SetterResolution.Proofs.Resolution.Exact

/-!
# Casts are not checked

A value that is an object is cast to every parameter type that is one too, as a last resort: where
it does not reach the parameter as it is, and no conversion leads there
(`SetterResolution.Context.fit?_eq_cast_iff`). That the type which it is cast to lies below its own
is not asked. So a cast always is to another type, and never to one that accepts the value anyway,
but it may be to a type that the value has nothing to do with.

For the same reason an attribute is never reported for a value that is an object if something awaits
an object for it. Where the value is related to none of the types that are awaited
(`SetterResolution.Context.Unrelated`), it is cast to one of them, and only if they are all
primitive there is no setter.

The main statement is `SetterResolution.Context.resolve_casts_unchecked`.
-/

namespace SetterResolution

/-! ### The wrapper of a call -/

namespace Candidate

theorem wrappers_call (candidate : Candidate) (attr : Attribute) (minApi : UInt32) :
    (candidate.call attr minApi).wrappers = [candidate.wrapper] := by
  rw [call]
  cases candidate.target <;> rfl

theorem wrapper_eq_cast_iff {candidate : Candidate} {type : HostType} :
    candidate.wrapper = .cast type ↔ candidate.fit = .cast ∧ candidate.param = type := by
  rw [wrapper]
  cases candidate.fit <;> simp

end Candidate

namespace Context

variable {ctx : Context} {attr : Attribute} {view value compared param : HostType}

/-! ### When a value is cast -/

theorem plainFit?_ne_cast : ctx.plainFit? value param ≠ some .cast := by
  rw [plainFit?]
  repeat' split
  all_goals
    intro h
    cases h

/-- **A cast is the last resort**: the value does not reach the parameter as it is, and there is no
conversion. -/
theorem fit?_eq_cast_iff : ctx.fit? value param = some .cast ↔
    value.isObject ∧ param.isObject ∧ ctx.plainFit? value param = none ∧
      ctx.conversion? value param = none := by
  rw [fit?_eq]
  cases hplain : ctx.plainFit? value param with
  | some fit =>
    have hfit : fit ≠ .cast := fun hcast => plainFit?_ne_cast (hcast ▸ hplain)
    simp [hfit]
  | none => cases ctx.conversion? value param <;> simp

theorem of_plainFit?_eq_none (h : ctx.plainFit? value param = none) :
    value ≠ param ∧ ¬ ctx.hierarchy.accepts param value := by
  rw [plainFit?] at h
  split at h
  · cases h
  next hne =>
    refine ⟨hne, fun haccepts => ?_⟩
    rw [if_pos haccepts] at h
    repeat' split at h
    all_goals cases h

variable (ctx) in
/-- A type that the value has nothing to do with: neither accepts the other one, they do not differ
by boxing or widening, and no conversion leads from the value to it. -/
structure Unrelated (value param : HostType) : Prop where
  /-- The value does not reach the type as it is. -/
  plain : ctx.plainFit? value param = none
  /-- The type is not below that of the value. -/
  below : ¬ ctx.hierarchy.accepts value param
  /-- The value is not converted to the type. -/
  conversion : ctx.conversion? value param = none

/-- A value is cast to what it has nothing to do with, if that is an object. -/
theorem Unrelated.fit?_eq (h : ctx.Unrelated value param) (hvalue : value.isObject) :
    ctx.fit? value param = if param.isObject then some .cast else none := by
  rw [Context.fit?_eq, h.plain, h.conversion, hvalue]
  simp

/-! ### What awaits a value -/

variable (ctx) in
/-- Something that may set the attribute of a view awaits a value of type `param`. What is compared
with that is the type of the value, without type arguments for a method of a generic view. -/
inductive Awaits (attr : Attribute) (view value : HostType) : HostType → HostType → Prop
  /-- A method of the view takes one value of this type. -/
  | direct {signature : Signature} {param : HostType} :
      ctx.Takes attr view param signature → Awaits attr view value (view.comparedOn value) param
  /-- An adapter for the view takes a value of this type. -/
  | adapter {key : AdapterKey} {method : Method} :
      ctx.tables.adapters.find? attr key = some method →
      ctx.hierarchy.accepts (ctx.qualify key.view) view →
      Awaits attr view value value (ctx.qualify key.value)

theorem Awaits.isObject_eq (h : ctx.Awaits attr view value compared param) :
    compared.isObject = value.isObject := by
  cases h with
  | direct =>
    rw [HostType.comparedOn]
    split
    · rfl
    · rw [HostType.isObject, HostType.isPrimitive_erasure, HostType.isObject]
  | adapter => rfl

/-- What awaits a value that fits is offered. -/
theorem Awaits.exists_offers (h : ctx.Awaits attr view value compared param) {fit : Fit}
    (hfit : ctx.fit? compared param = some fit) :
    ∃ candidate, ctx.Offers attr view value candidate := by
  cases h with
  | direct htakes => exact ⟨_, htakes.offers hfit⟩
  | adapter hentry hview => exact ⟨⟨_, _, fit, _, 0⟩, .adapter hentry hview hfit⟩

/-- What is offered awaits a value that fits. -/
theorem Offers.exists_awaits {candidate : Candidate} (h : ctx.Offers attr view value candidate) :
    ∃ compared, ctx.Awaits attr view value compared candidate.param ∧
      ctx.fit? compared candidate.param = some candidate.fit := by
  cases h with
  | direct hname hmethod hvoid hparams hfit =>
    exact ⟨_, .direct ⟨⟨_, hname, hmethod⟩, hvoid, hparams⟩, hfit⟩
  | adapter hentry hview hfit => exact ⟨_, .adapter hentry hview, hfit⟩

/-! ### What is cast, and what is reported -/

/-- Only a candidate that something awaits brings a cast into a call. -/
theorem exists_awaits_of_wrappers_eq {written : String} {type : HostType}
    (h : (ctx.resolve written view value).1.wrappers = [.cast type]) :
    ∃ compared, ctx.Awaits (.ofWritten written) view value compared type ∧
      ctx.fit? compared type = some .cast := by
  cases hbest : Candidate.best? (ctx.candidates (.ofWritten written) view value) with
  | none =>
    rw [resolve, hbest] at h
    cases h
  | some best =>
    rw [resolve_of_best? hbest, Candidate.wrappers_call, List.singleton_inj] at h
    obtain ⟨hfit, rfl⟩ := Candidate.wrapper_eq_cast_iff.mp h
    obtain ⟨compared, hawaits, hcompared⟩ :=
      (offers_of_mem_candidates (best?_candidates_eq_some hbest).1).exists_awaits
    exact ⟨compared, hawaits, hfit ▸ hcompared⟩

section Unrelated

variable (hvalue : value.isObject)
  (hunrelated : ∀ compared param, ctx.Awaits attr view value compared param →
    ctx.Unrelated compared param)

include hvalue hunrelated

/-- Where nothing that is awaited has to do with the value, only casts are offered. -/
theorem Offers.fit_eq_cast {candidate : Candidate} (h : ctx.Offers attr view value candidate) :
    candidate.param.isObject ∧ candidate.fit = .cast := by
  obtain ⟨compared, hawaits, hfit⟩ := h.exists_awaits
  rw [(hunrelated compared _ hawaits).fit?_eq (hawaits.isObject_eq.trans hvalue)] at hfit
  split at hfit
  next hobject => exact ⟨hobject, (Option.some.inj hfit).symm⟩
  next => cases hfit

/-- One of the casts is the best candidate if there is any. -/
theorem exists_cast_of_awaits (h : ctx.Awaits attr view value compared param)
    (hobject : param.isObject) :
    ∃ best, Candidate.best? (ctx.candidates attr view value) = some best ∧
      best.wrapper = .cast best.param ∧ best.param.isObject ∧
        ∃ compared, ctx.Awaits attr view value compared best.param := by
  have hcast := (hunrelated compared param h).fit?_eq (h.isObject_eq.trans hvalue)
  rw [if_pos hobject] at hcast
  obtain ⟨candidate, hoffers⟩ := h.exists_offers hcast
  obtain ⟨best, hbest⟩ := exists_best?_candidates hoffers
  have hbestoffers := offers_of_mem_candidates (best?_candidates_eq_some hbest).1
  obtain ⟨htype, hfit⟩ := hbestoffers.fit_eq_cast hvalue hunrelated
  obtain ⟨compared, hawaits, -⟩ := hbestoffers.exists_awaits
  exact ⟨best, hbest, Candidate.wrapper_eq_cast_iff.mpr ⟨hfit, rfl⟩, htype, compared, hawaits⟩

/-- Nothing is offered if all that is awaited is primitive. -/
theorem not_offers_of_awaits_primitive
    (hprimitive : ∀ compared param, ctx.Awaits attr view value compared param →
      ¬ param.isObject) (candidate : Candidate) :
    ¬ ctx.Offers attr view value candidate := by
  intro hoffers
  obtain ⟨compared, hawaits, -⟩ := hoffers.exists_awaits
  exact hprimitive compared _ hawaits (hoffers.fit_eq_cast hvalue hunrelated).1

end Unrelated

/-- **Casts are not checked.** A value is cast only from one object type to another one that does
not accept it and to which there is no conversion, and only where this is awaited; nothing else is
known of the two. A value that is an object and has nothing to do with any of the types that are
awaited is cast to one of them, and nothing is reported, if one of them is an object type. If they
are all primitive the conventional setter is called, which is an error unless the view is a
container. -/
theorem resolve_casts_unchecked (ctx : Context) (written : String) (view value : HostType) :
    let attr := Attribute.ofWritten written
    let resolved := ctx.resolve written view value
    (∀ type, resolved.1.wrappers = [.cast type] → ∃ compared,
      ctx.Awaits attr view value compared type ∧ compared.isObject ∧ type.isObject ∧
        compared ≠ type ∧ ¬ ctx.hierarchy.accepts type compared ∧
        ctx.conversion? compared type = none) ∧
    (value.isObject →
      (∀ compared param, ctx.Awaits attr view value compared param →
        ctx.Unrelated compared param) →
      ((∃ compared param, ctx.Awaits attr view value compared param ∧ param.isObject) →
        resolved.2 = [] ∧ ∃ compared type, ctx.Awaits attr view value compared type ∧
          type.isObject ∧ resolved.1.wrappers = [.cast type]) ∧
      ((∀ compared param, ctx.Awaits attr view value compared param → ¬ param.isObject) →
        resolved.1 = .fallback attr attr.conventionalSetter ctx.minApi ∧
        resolved.2 = if ctx.hierarchy.isContainer view then [] else [noSetter attr view])) := by
  intro attr resolved
  constructor
  · intro type hwrappers
    obtain ⟨compared, hawaits, hfit⟩ := exists_awaits_of_wrappers_eq hwrappers
    obtain ⟨hcompared, htype, hplain, hconversion⟩ := fit?_eq_cast_iff.mp hfit
    obtain ⟨hne, haccepts⟩ := of_plainFit?_eq_none hplain
    exact ⟨compared, hawaits, hcompared, htype, hne, haccepts, hconversion⟩
  · intro hvalue hunrelated
    constructor
    · rintro ⟨compared, param, hawaits, hobject⟩
      obtain ⟨best, hbest, hwrapper, htype, compared, hbestawaits⟩ :=
        exists_cast_of_awaits hvalue hunrelated hawaits hobject
      have hresolved : resolved = (best.call attr ctx.minApi, []) := resolve_of_best? hbest
      rw [hresolved]
      refine ⟨rfl, compared, best.param, hbestawaits, htype, ?_⟩
      rw [Candidate.wrappers_call, hwrapper]
    · intro hprimitive
      have hresolved : resolved = _ :=
        resolve_of_not_offers (not_offers_of_awaits_primitive hvalue hunrelated hprimitive)
      rw [hresolved]
      exact ⟨rfl, rfl⟩

/-- The one method that awaits the image of a view takes a drawable, and a string is cast to it. -/
theorem resolve_casts_unchecked_drawable :
    let view : HostType := .named "View"
    let string : HostType := .named "String"
    let drawable : HostType := .named "Drawable"
    let hierarchy := Hierarchy.standard.declareClass "View" (some "Object")
      |>.declareClass "Drawable" (some "Object") |>.declareSetter "View" "setImage" drawable
    let ctx : Context := { tables := {}, hierarchy }
    string.isObject ∧ drawable.isObject ∧ ctx.Awaits ⟨"image"⟩ view string string drawable ∧
      (∀ compared param, ctx.Awaits ⟨"image"⟩ view string compared param →
        ctx.Unrelated compared param) ∧
      (ctx.resolve "image" view string).2 = [] ∧
      ∃ compared type, ctx.Awaits ⟨"image"⟩ view string compared type ∧ type.isObject ∧
        (ctx.resolve "image" view string).1.wrappers = [.cast type] := by
  intro view string drawable hierarchy ctx
  have hwritten : Attribute.ofWritten "image" = ⟨"image"⟩ := by decide +kernel
  have hcompared : view.comparedOn string = string := by decide +kernel
  have hname : "setImage" ∈ ctx.setterNames ⟨"image"⟩ view.erasure := by decide +kernel
  have hmethod : .setter view "setImage" drawable ∈
      ctx.hierarchy.methods view.erasure "setImage" 1 := by decide +kernel
  have hparams : ∀ name ∈ ctx.setterNames ⟨"image"⟩ view.erasure,
      ∀ signature ∈ ctx.hierarchy.methods view.erasure name 1,
        signature.params = [drawable] := by decide +kernel
  have hawaits : ctx.Awaits ⟨"image"⟩ view string string drawable :=
    hcompared ▸ .direct ⟨⟨_, mem_setterNames_iff.mp hname, hmethod⟩, rfl, rfl⟩
  have hunrelated : ∀ compared param, ctx.Awaits ⟨"image"⟩ view string compared param →
      ctx.Unrelated compared param := by
    intro compared param h
    cases h with
    | direct htakes =>
      obtain ⟨⟨name, hname, hmethod⟩, -, hparam⟩ := htakes
      obtain rfl := List.singleton_inj.mp
        (hparam.symm.trans (hparams name (mem_setterNames_iff.mpr hname) _ hmethod))
      rw [hcompared]
      exact ⟨by decide +kernel, by decide +kernel, by decide +kernel⟩
    -- there are no adapters
    | adapter hentry => cases hentry
  have hresolved := (resolve_casts_unchecked ctx "image" view string).2
  rw [hwritten] at hresolved
  exact ⟨rfl, rfl, hawaits, hunrelated, (hresolved rfl hunrelated).1 ⟨_, _, hawaits, rfl⟩⟩

/-- A string is cast to a drawable, though neither is a subtype of the other one. -/
theorem resolve_casts_to_unrelated :
    let view : HostType := .named "View"
    let string : HostType := .named "String"
    let drawable : HostType := .named "Drawable"
    let hierarchy := Hierarchy.standard.declareClass "View" (some "Object")
      |>.declareClass "Drawable" (some "Object") |>.declareSetter "View" "setImage" drawable
    let ctx : Context := { tables := {}, hierarchy }
    ctx.resolve "image" view string =
        (.direct ⟨"image"⟩ "setImage" (.cast drawable) lowestPlatform, []) ∧
      ¬ ctx.hierarchy.accepts string drawable ∧ ctx.Unrelated string drawable := by
  intro view string drawable hierarchy ctx
  have hbelow : ¬ ctx.hierarchy.accepts string drawable := by decide +kernel
  exact ⟨by decide +kernel, hbelow, by decide +kernel, hbelow, by decide +kernel⟩

end Context

end SetterResolution
