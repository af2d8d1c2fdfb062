import SetterResolution.Proofs.Resolution.Cover
import SetterResolution.Proofs.Resolution.Setter

/-!
# What is done to the values of a group adapter

A group adapter takes one value for each of its parameters, and what is done to a value depends on
how it fits. The values are declared in an order of their own, so this file says that the wrapper in
each place of a call is for the value which is bound to the attribute in that place
(`SetterResolution.Context.groupCandidate?_eq_some` keeps the two together).

The fit is that of the value to the parameter type with short names replaced, as it is for an
adapter for one attribute. The wrapper is the same, too, with one exception: a cast is to the type
as the group adapter was declared with it, short names and all, while an adapter for one attribute
casts to the type that the value was fitted to. Nothing but a cast shows the type
(`SetterResolution.Fit.wrapper_eq_iff`), so the two differ just for casts to types that are
imported.

The main statement is `SetterResolution.Context.wrappers_of_mem_resolveAll`.
-/

namespace SetterResolution

/-! ### The wrapper of a fit -/

/-- What is done to a value that fits in this way, where a cast is to `target`. -/
def Fit.wrapper (target : HostType) : Fit → Wrapper
  | converted method => .convert method
  | cast => .cast target
  | _ => .none

/-- Only a cast shows the type. -/
theorem Fit.wrapper_eq_iff {fit : Fit} {a b : HostType} :
    fit.wrapper a = fit.wrapper b ↔ (fit = .cast → a = b) := by
  cases fit with
  | cast => simp [wrapper]
  | exact | boxing | widening | assignable | converted => simp [wrapper]

theorem Candidate.wrapper_eq (candidate : Candidate) :
    candidate.wrapper = candidate.fit.wrapper candidate.param := by
  rw [wrapper]
  cases candidate.fit <;> rfl

theorem GroupCandidate.wrapper_eq (param : Parameter) (fit : Fit) :
    wrapper (param, fit) = fit.wrapper param.type := by
  cases fit <;> rfl

/-! ### The wrappers of a call -/

/-- A list of different keys is zipped with one value for each. -/
theorem eq_of_mem_zip {α β : Type} {keys : List α} {values : List β} (hkeys : keys.Nodup) {a : α}
    {b c : β} (hb : (a, b) ∈ keys.zip values) (hc : (a, c) ∈ keys.zip values) : b = c := by
  obtain ⟨i, hb⟩ := List.getElem?_of_mem hb
  obtain ⟨j, hc⟩ := List.getElem?_of_mem hc
  obtain ⟨hi, hb⟩ := List.getElem?_zip_eq_some.mp hb
  obtain ⟨hj, hc⟩ := List.getElem?_zip_eq_some.mp hc
  have hlt : i < keys.length := (List.getElem?_eq_some_iff.mp hi).1
  obtain rfl := (List.getElem?_inj hlt hkeys).mp (hi.trans hj.symm)
  exact Option.some.inj (hb.symm.trans hc)

namespace Context

variable {ctx : Context} {written : List String} {view : HostType} {values : List HostType}

/-- A call of a group adapter is the call of a candidate. -/
theorem exists_candidate_of_mem_resolveAll {call : Call}
    (hcall : call ∈ (ctx.resolveAll written view values).1) (hgroup : call.isGroup) :
    ∃ candidate ∈ ctx.groupCandidates (written.map Attribute.ofWritten) view values,
      call = candidate.call ctx.minApi := by
  by_cases hlength : written.length = values.length
  · rw [resolveAll_of_length_eq ctx written view values hlength] at hcall
    rcases List.mem_append.mp hcall with hcall | hcall
    · obtain ⟨candidate, hmem, rfl⟩ := List.mem_map.mp hcall
      exact ⟨candidate, GroupCandidate.mem_of_mem_cover hmem, rfl⟩
    · -- the calls that are left to single resolutions are none of group adapters
      obtain ⟨binding, -, rfl⟩ := List.mem_map.mp hcall
      rw [(resolve_single ..).2] at hgroup
      cases hgroup
  · rw [resolveAll_of_length_ne ctx written view values hlength] at hcall
    cases hcall

/-- What is done to a value by an adapter for one attribute of this view and this parameter type. -/
theorem adapterCandidate?_of_fit? {value : HostType} {fit : Fit} (key : AdapterKey)
    (adapter : Method) (hview : ctx.hierarchy.accepts (ctx.qualify key.view) view)
    (hfit : ctx.fit? value (ctx.qualify key.value) = some fit) :
    ∃ candidate, ctx.adapterCandidate? view value key adapter = some candidate ∧
      candidate.wrapper = fit.wrapper (ctx.qualify key.value) := by
  refine ⟨_, adapterCandidate?_eq_some_iff.mpr ⟨hview, fit, hfit, rfl⟩, ?_⟩
  rw [Candidate.wrapper_eq]

/-- **What is done to the values of a group adapter.** In each place of a call stands the wrapper
for the one value that is bound to the attribute in that place. It is that of the fit of the value
to the parameter type with short names replaced, where a cast is to the type as it was declared. An
adapter for one attribute with this parameter type has the same wrapper, unless that is a cast and
replacing short names changes the type. -/
theorem wrappers_of_mem_resolveAll {attrs : List Attribute} {adapter : Method}
    {wrappers : List Wrapper} {minApi : UInt32}
    (hdistinct : (written.map Attribute.ofWritten).Nodup)
    (hcall : .group attrs adapter wrappers minApi ∈ (ctx.resolveAll written view values).1) :
    ∃ key, (key, adapter) ∈ ctx.tables.groups.toList ∧ attrs = key.attrs ∧
      wrappers.length = key.size ∧
      ∀ (i : Nat) (param : Parameter), key.params[i]? = some param → ∃ value fit candidate,
        (∀ other, (param.attr, other) ∈ (written.map Attribute.ofWritten).zip values ↔
          other = value) ∧
        ctx.fit? value (ctx.qualify param.type) = some fit ∧
        wrappers[i]? = some (fit.wrapper param.type) ∧
        ctx.adapterCandidate? view value ⟨key.view, param.type⟩ adapter = some candidate ∧
        candidate.wrapper = fit.wrapper (ctx.qualify param.type) ∧
        (wrappers[i]? = some candidate.wrapper ↔
          (fit = .cast → ctx.qualify param.type = param.type)) := by
  obtain ⟨group, hmem, heq⟩ := exists_candidate_of_mem_resolveAll hcall rfl
  obtain ⟨rfl, rfl, rfl, -⟩ := Call.group.inj heq
  obtain ⟨key, adapter, hentry, hgroup⟩ := mem_groupCandidates_iff.mp hmem
  obtain ⟨rfl, rfl, hview, harguments⟩ := groupCandidate?_eq_some hgroup
  refine ⟨group.key, hentry, rfl, ?_, fun i param hparam => ?_⟩
  · rw [GroupKey.size, GroupCandidate.key, List.length_map, List.length_map]
  · obtain ⟨⟨found, fit⟩, hargument, hfound⟩ :=
      Option.map_eq_some_iff.mp (List.getElem?_map.symm.trans hparam)
    obtain rfl : found = param := hfound
    obtain ⟨-, value, hbound, hfit⟩ := harguments i found fit hargument
    obtain ⟨candidate, hcandidate, hwrapper⟩ :=
      adapterCandidate?_of_fit? ⟨group.key.view, found.type⟩ group.adapter hview hfit
    have hplace : (group.arguments.map GroupCandidate.wrapper)[i]? =
        some (fit.wrapper found.type) := by
      rw [List.getElem?_map, hargument, Option.map_some, GroupCandidate.wrapper_eq]
    refine ⟨value, fit, candidate, fun other => ?_, hfit, hplace, hcandidate, hwrapper, ?_⟩
    · exact ⟨fun hother => eq_of_mem_zip hdistinct hother hbound, fun h => h ▸ hbound⟩
    · rw [hplace, hwrapper, Option.some.injEq, Fit.wrapper_eq_iff]
      exact imp_congr_right fun _ => eq_comm

/-- The attributes are declared in another order than that of the parameters, one of the values is
converted and one is cast. -/
theorem wrappers_of_mem_resolveAll_crossed :
    let view : HostType := .named "View"
    let url : HostType := .named "Url"
    let drawable : HostType := .named "Drawable"
    let object : HostType := .named "Object"
    let string : HostType := .named "String"
    let hierarchy := Hierarchy.standard.declareClass "View" (some "Object")
      |>.declareClass "Url" (some "Object") |>.declareClass "Drawable" (some "Object")
    let parse : Method := ⟨.named "Urls", "parse"⟩
    let load : Method := ⟨.named "Adapters", "load"⟩
    let conversions : Nested HostType HostType Method := Nested.put ∅ string url parse
    let groups : GroupTable := Std.ExtTreeMap.empty.insert
      ⟨view, [⟨⟨"src"⟩, url⟩, ⟨⟨"error"⟩, drawable⟩]⟩ load
    let ctx : Context := { tables := { conversions, groups }, hierarchy }
    let written := ["app:error", "app:src"]
    (written.map Attribute.ofWritten).Nodup ∧
      .group [⟨"src"⟩, ⟨"error"⟩] load [.convert parse, .cast drawable] lowestPlatform ∈
        (ctx.resolveAll written view [object, string]).1 ∧
      ∃ key : GroupKey, key.attrs = [⟨"src"⟩, ⟨"error"⟩] ∧
        ∀ (i : Nat) (param : Parameter), key.params[i]? = some param →
          ∃ value fit, ctx.fit? value (ctx.qualify param.type) = some fit ∧
            [Wrapper.convert parse, .cast drawable][i]? = some (fit.wrapper param.type) := by
  intro view url drawable object string hierarchy parse load conversions groups ctx written
  have hdistinct : (written.map Attribute.ofWritten).Nodup := by decide +kernel
  have hcall :
      .group [⟨"src"⟩, ⟨"error"⟩] load [.convert parse, .cast drawable] lowestPlatform ∈
        (ctx.resolveAll written view [object, string]).1 := by decide +kernel
  obtain ⟨key, -, hattrs, -, hwrappers⟩ := wrappers_of_mem_resolveAll hdistinct hcall
  refine ⟨hdistinct, hcall, key, hattrs.symm, fun i param hparam => ?_⟩
  obtain ⟨value, fit, -, -, hfit, hwrapper, -⟩ := hwrappers i param hparam
  exact ⟨value, fit, hfit, hwrapper⟩

/-- A value is cast to the short name of an imported type by a group adapter, though it was fitted
to the type with its full name, and an adapter for one attribute casts to that. -/
theorem resolveAll_casts_to_short_name :
    let view : HostType := .named "View"
    let drawable : HostType := .named "Drawable"
    let object : HostType := .named "Object"
    let string : HostType := .named "String"
    let hierarchy := Hierarchy.standard.declareClass "View" (some "Object")
      |>.declareClass "android.graphics.Drawable" (some "Object")
    let load : Method := ⟨.named "Adapters", "load"⟩
    let fail : Method := ⟨.named "Adapters", "fail"⟩
    let adapters : Nested Attribute AdapterKey Method :=
      Nested.put ∅ ⟨"error"⟩ ⟨view, drawable⟩ fail
    let groups : GroupTable := Std.ExtTreeMap.empty.insert
      ⟨view, [⟨⟨"src"⟩, string⟩, ⟨⟨"error"⟩, drawable⟩]⟩ load
    let imports : Imports := Std.ExtTreeMap.empty.insert "Drawable" "android.graphics.Drawable"
    let ctx : Context := { tables := { adapters, groups }, hierarchy, imports }
    (["src", "error"].map Attribute.ofWritten).Nodup ∧
      ctx.fit? object (ctx.qualify drawable) = some .cast ∧
      ctx.resolveAll ["src", "error"] view [string, object] =
        ([.group [⟨"src"⟩, ⟨"error"⟩] load [.none, .cast drawable] lowestPlatform], []) ∧
      ctx.resolve "error" view object =
        (.adapter ⟨"error"⟩ fail (.cast (ctx.qualify drawable)) lowestPlatform, []) ∧
      Wrapper.cast drawable ≠ .cast (ctx.qualify drawable) := by
  decide +kernel

end Context

end SetterResolution
