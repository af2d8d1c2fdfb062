import SetterResolution.Proofs.Resolution.Wrappers

/-!
# No value is lost in a call

A call is rendered with one value for each of its attributes, and what is done to a value is looked
up in a list of its own. In a call of a group adapter the two lists are zipped, so that a list of
wrappers that is too short would drop values without a word. Nothing in a call keeps this from being
so; it is how calls come about that does. A group adapter that can be used has a fit for each
parameter of the key that it is stored under, and its call has the attributes of this key and a
wrapper for each fit (`SetterResolution.Context.Resolved.exists_entry`).

The main statement is `SetterResolution.Context.render_of_resolved`.
-/

namespace SetterResolution

/-! ### What is passed -/

/-- A wrapper puts something before a value and something behind it. -/
theorem Wrapper.exists_wrap_eq (wrapper : Wrapper) (value : String) :
    ∃ before after, wrapper.wrap value = before ++ value ++ after := by
  cases wrapper with
  | none => exact ⟨"", "", by simp [wrap]⟩
  | convert method => exact ⟨method.callName ++ "(", ")", rfl⟩
  | cast type => exact ⟨"(" ++ type.text ++ ") ", "", by simp [wrap]⟩

namespace Call

variable {call : Call} {target : String} {values : List String}

/-- What is done to the value of each attribute. A fallback passes its value as it is. -/
def passing : Call → List Wrapper
  | fallback .. => [.none]
  | call => call.wrappers

/-- The expressions that are passed for the values. -/
def passed (call : Call) (values : List String) : List String :=
  List.zipWith Wrapper.wrap call.passing values

/-- **Where there is a wrapper for each attribute**, every value is passed in its place, with the
wrapper in this place. -/
theorem getElem?_passed (hlength : call.passing.length = call.attrs.length)
    (hvalues : values.length = call.attrs.length) {i : Nat} {value : String}
    (hvalue : values[i]? = some value) :
    ∃ attr wrapper, call.attrs[i]? = some attr ∧ call.passing[i]? = some wrapper ∧
      (call.passed values)[i]? = some (wrapper.wrap value) := by
  have hi : i < values.length := (List.getElem?_eq_some_iff.mp hvalue).1
  have hattr := List.getElem?_eq_getElem (hvalues ▸ hi)
  have hwrapper := List.getElem?_eq_getElem (hlength.trans hvalues.symm ▸ hi)
  refine ⟨_, _, hattr, hwrapper, ?_⟩
  rw [passed, List.getElem?_zipWith, hwrapper, hvalue]

/-- Besides the values only the view is passed, in front of them, and only to a static adapter. -/
theorem arguments_eq (hvalues : values.length = call.attrs.length) :
    call.arguments target values = match call.adapterMethod? with
      | some _ => target :: call.passed values
      | none => call.passed values := by
  cases call with
  | group => rfl
  | direct | adapter | fallback =>
    obtain ⟨value, rfl⟩ := List.length_eq_one_iff.mp hvalues
    rfl

/-- **The text of a call** that has a value for each attribute. -/
theorem render_eq (hvalues : values.length = call.attrs.length) :
    call.render target values = .ok (match call.adapterMethod? with
      | some method => method.owner.text ++ "." ++ method.name ++ "(" ++
          ", ".intercalate (target :: call.passed values) ++ ")"
      | none => target ++ "." ++ call.methodName ++ "(" ++
          ", ".intercalate (call.passed values) ++ ")") := by
  rw [render, arity, if_neg (not_not_intro hvalues), arguments_eq hvalues, callee]
  cases call.adapterMethod? <;> rfl

end Call

namespace Context

variable {ctx : Context} {call : Call}

/-! ### The calls that are made -/

variable (ctx) in
/-- The calls that resolutions answer with. -/
inductive Resolved : Call → Prop
  /-- One attribute is resolved. -/
  | one (written : String) (view value : HostType) : Resolved (ctx.resolve written view value).1
  /-- All attributes of a view are resolved. -/
  | all {written : List String} {view : HostType} {values : List HostType} {call : Call} :
      call ∈ (ctx.resolveAll written view values).1 → Resolved call

/-- **A call of a group adapter has a wrapper for each parameter** of a key in the table. -/
theorem Resolved.exists_entry (h : ctx.Resolved call) (hgroup : call.isGroup) :
    ∃ key method, (key, method) ∈ ctx.tables.groups.toList ∧ call.adapterMethod? = some method ∧
      call.attrs = key.attrs ∧ call.wrappers.length = key.size := by
  cases h with
  | one written view value =>
    rw [(resolve_single ..).2] at hgroup
    cases hgroup
  | all hcall =>
    obtain ⟨candidate, hmem, rfl⟩ := exists_candidate_of_mem_resolveAll hcall hgroup
    refine ⟨candidate.key, candidate.adapter, mem_toList_of_mem_groupCandidates hmem, rfl, rfl, ?_⟩
    show (candidate.arguments.map GroupCandidate.wrapper).length = candidate.key.size
    rw [List.length_map, candidate.size_key]

/-- **A call has a wrapper for each attribute.** -/
theorem Resolved.length_passing (h : ctx.Resolved call) :
    call.passing.length = call.attrs.length := by
  cases hcall : call with
  | direct | adapter | fallback => rfl
  | group attrs method wrappers minApi =>
    rw [hcall] at h
    obtain ⟨key, -, -, -, hattrs, hwrappers⟩ := h.exists_entry rfl
    rw [hattrs, key.length_attrs]
    exact hwrappers

/-- **No value is lost in a call.** A call that was made is rendered exactly if there are as many
values as it has attributes, and otherwise their numbers are reported. Its text is a method of the
view, or a static method to which the view is passed first, and in parentheses, separated by commas,
an argument for each value: in the place of an attribute stands its value in what the wrapper for
this attribute puts around it. -/
theorem render_of_resolved (h : ctx.Resolved call) (target : String) (values : List String) :
    ((∃ text, call.render target values = .ok text) ↔ values.length = call.attrs.length) ∧
    (values.length ≠ call.attrs.length → call.render target values =
      .error (.valueCount call.methodName call.attrs.length values.length)) ∧
    ∀ text, call.render target values = .ok text → ∃ passed : List String,
      passed.length = call.attrs.length ∧
      (∀ (i : Nat) (value : String), values[i]? = some value →
        ∃ (attr : Attribute) (wrapper : Wrapper) (before after : String),
          call.attrs[i]? = some attr ∧ call.passing[i]? = some wrapper ∧
          passed[i]? = some (wrapper.wrap value) ∧
          wrapper.wrap value = before ++ value ++ after) ∧
      text = match call.adapterMethod? with
        | some method => method.owner.text ++ "." ++ method.name ++ "(" ++
            ", ".intercalate (target :: passed) ++ ")"
        | none => target ++ "." ++ call.methodName ++ "(" ++ ", ".intercalate passed ++ ")" := by
  have hrefused (hvalues : values.length ≠ call.attrs.length) : call.render target values =
      .error (.valueCount call.methodName call.attrs.length values.length) := by
    rw [Call.render, Call.arity, if_pos hvalues]
  have hiff : (∃ text, call.render target values = .ok text) ↔
      values.length = call.attrs.length := by
    refine ⟨fun ⟨text, htext⟩ => ?_, fun hvalues => ⟨_, Call.render_eq hvalues⟩⟩
    by_contra hvalues
    rw [hrefused hvalues] at htext
    cases htext
  refine ⟨hiff, hrefused, fun text htext => ?_⟩
  have hvalues := hiff.mp ⟨text, htext⟩
  have hpassing := h.length_passing
  rw [Call.render_eq hvalues] at htext
  refine ⟨call.passed values, ?_, fun i value hvalue => ?_, (Except.ok.inj htext).symm⟩
  · rw [Call.passed, List.length_zipWith, hpassing, hvalues, Nat.min_self]
  · obtain ⟨attr, wrapper, hattr, hwrapper, hplace⟩ :=
      Call.getElem?_passed hpassing hvalues hvalue
    obtain ⟨before, after, hwrap⟩ := wrapper.exists_wrap_eq value
    exact ⟨attr, wrapper, before, after, hattr, hwrapper, hplace, hwrap⟩

/-- The attributes of a group adapter are declared in another order than that of its parameters, and
one of the values is converted and one cast. With one value the call is not rendered. -/
theorem render_of_resolved_group :
    let view : HostType := .named "View"
    let url : HostType := .named "Url"
    let drawable : HostType := .named "Drawable"
    let hierarchy := Hierarchy.standard.declareClass "View" (some "Object")
      |>.declareClass "Url" (some "Object") |>.declareClass "Drawable" (some "Object")
    let conversions : Nested HostType HostType Method :=
      Nested.put ∅ (.named "String") url ⟨.named "Urls", "parse"⟩
    let groups : GroupTable := Std.ExtTreeMap.empty.insert
      ⟨view, [⟨⟨"src"⟩, url⟩, ⟨⟨"error"⟩, drawable⟩]⟩ ⟨.named "Adapters", "load"⟩
    let ctx : Context := { tables := { conversions, groups }, hierarchy }
    let call : Call := .group [⟨"src"⟩, ⟨"error"⟩] ⟨.named "Adapters", "load"⟩
      [.convert ⟨.named "Urls", "parse"⟩, .cast drawable] lowestPlatform
    ctx.Resolved call ∧ (¬ ∃ text, call.render "v" ["a"] = .ok text) ∧
      call.render "v" ["a", "b"] = .ok "Adapters.load(v, Urls.parse(a), (Drawable) b)" ∧
      ∃ passed : List String, passed.length = 2 ∧
        "Adapters.load(v, Urls.parse(a), (Drawable) b)" =
          "Adapters" ++ "." ++ "load" ++ "(" ++ ", ".intercalate ("v" :: passed) ++ ")" := by
  intro view url drawable hierarchy conversions groups ctx call
  have hcall : call ∈ (ctx.resolveAll ["app:error", "app:src"] view
      [.named "Object", .named "String"]).1 := by decide +kernel
  have hresolved : ctx.Resolved call := .all hcall
  have htext : call.render "v" ["a", "b"] =
      .ok "Adapters.load(v, Urls.parse(a), (Drawable) b)" := by decide +kernel
  obtain ⟨passed, hlength, -, heq⟩ := (render_of_resolved hresolved "v" ["a", "b"]).2.2 _ htext
  refine ⟨hresolved, fun hok => ?_, htext, passed, hlength, heq⟩
  exact absurd ((render_of_resolved hresolved "v" ["a"]).1.mp hok) (by decide)

end Context

end SetterResolution
