import SetterResolution.Proofs.Hierarchy.Depth
import SetterResolution.Resolution.Setter

/-!
# The narrower of two parameter types

Of two parameter types that accept a value as it is, the one that stands deeper has the better rank.
That is meant to be the narrower one, and it is as long as depth grows from a type to its subtypes
(`SetterResolution.Hierarchy.depth_of_conforms`): for declared types, classes and interfaces alike,
and for an array beside the root. Two arrays stand equally deep, though, and neither of them ranks
before the other. What is called for such a value is then a matter of where a candidate was found,
and may well be what takes the wider arrays
(`SetterResolution.Context.resolve_prefers_wider_array`).

The main statement is `SetterResolution.Context.narrower_ranks_better`.
-/

namespace SetterResolution

namespace Context

variable {ctx : Context} {value param : HostType} {depth : Nat}

/-- What accepts a value as it is ranks by how deep it stands. -/
theorem fit?_eq_assignable (h : ctx.fit? value param = some (.assignable depth)) :
    depth = ctx.hierarchy.depth param := by
  rw [fit?] at h
  repeat' split at h
  all_goals cases h
  rfl

end Context

/-- The deeper type has the better rank. -/
theorem Fit.compare_rank_assignable {a b : Nat} (h : b < a) :
    compare (assignable a).rank (assignable b).rank = .lt := by
  refine Ordering.then_eq_lt.mpr (Or.inr ⟨rfl, Int.compare_eq_lt.mpr ?_⟩)
  simpa [rank] using h

namespace Context

variable {value narrow wide : HostType} {depth depth' : Nat}

/-- **The narrower parameter type ranks better, unless it is an array type among array types.** Let
supertypes run in no circle and the root have none. If two parameter types accept a value as it is,
and the one accepts the other and differs from it in more than type arguments, then the other has
the better rank; but if the wider one is an array type, so is the narrower one, and the two have the
same rank. -/
theorem narrower_ranks_better (ctx : Context) (hroot : ctx.hierarchy.RootOnTop)
    (hacyclic : ctx.hierarchy.Acyclic)
    (hnarrow : ctx.fit? value narrow = some (.assignable depth))
    (hwide : ctx.fit? value wide = some (.assignable depth'))
    (haccepts : ctx.hierarchy.accepts wide narrow) (hne : narrow.erasure ≠ wide.erasure) :
    (¬ wide.element?.isSome →
      compare (Fit.assignable depth).rank (Fit.assignable depth').rank = .lt) ∧
    (wide.element?.isSome → narrow.element?.isSome ∧
      (Fit.assignable depth).rank = (Fit.assignable depth').rank) := by
  obtain rfl := fit?_eq_assignable hnarrow
  obtain rfl := fit?_eq_assignable hwide
  have hconforms := Hierarchy.accepts_iff.mp haccepts
  have hdepth := Hierarchy.depth_of_conforms hroot hacyclic hconforms hne
  constructor
  · intro hwide
    rw [if_neg hwide] at hdepth
    exact Fit.compare_rank_assignable hdepth
  · intro hwide
    rw [if_pos hwide] at hdepth
    refine ⟨?_, by rw [hdepth]⟩
    rw [← HostType.isSome_element?_erasure] at hwide ⊢
    exact hconforms.isSome_element? hwide

/-- A list is passed as what it implements, and an array of lists as an array of that or as the
root. -/
theorem narrower_ranks_better_collection :
    let list : HostType := .named "List<String>"
    let collection : HostType := .named "Collection"
    let value : HostType := .named "ArrayList"
    let root : HostType := .named "Object"
    let hierarchy := Hierarchy.standard.declareImplements "List" "Collection"
      |>.declareClass "ArrayList" (some "Object") |>.declareImplements "ArrayList" "List"
    let ctx : Context := { tables := {}, hierarchy }
    hierarchy.RootOnTop ∧ hierarchy.Acyclic ∧
      ctx.fit? value list = some (.assignable 2) ∧
      ctx.fit? value collection = some (.assignable 1) ∧
      hierarchy.accepts collection list ∧ list.erasure ≠ collection.erasure ∧
      compare (Fit.assignable 2).rank (Fit.assignable 1).rank = .lt ∧
      ctx.fit? (.array value) (.array list) = some (.assignable 1) ∧
      ctx.fit? (.array value) root = some (.assignable 0) ∧
      hierarchy.accepts root (.array list) ∧ (HostType.array list).erasure ≠ root.erasure ∧
      compare (Fit.assignable 1).rank (Fit.assignable 0).rank = .lt := by
  intro list collection value root hierarchy ctx
  have hroot : hierarchy.RootOnTop := by decide +kernel
  have hacyclic : hierarchy.Acyclic := by decide +kernel
  have hlist : ctx.fit? value list = some (.assignable 2) := by decide +kernel
  have hcollection : ctx.fit? value collection = some (.assignable 1) := by decide +kernel
  have hbelow : hierarchy.accepts collection list := by decide +kernel
  have hne : list.erasure ≠ collection.erasure := by decide +kernel
  have hlists : ctx.fit? (.array value) (.array list) = some (.assignable 1) := by decide +kernel
  have hobject : ctx.fit? (.array value) root = some (.assignable 0) := by decide +kernel
  have hbelow' : hierarchy.accepts root (.array list) := by decide +kernel
  have hne' : (HostType.array list).erasure ≠ root.erasure := by decide +kernel
  refine ⟨hroot, hacyclic, hlist, hcollection, hbelow, hne, ?_, hlists, hobject, hbelow', hne', ?_⟩
  · exact (narrower_ranks_better ctx hroot hacyclic hlist hcollection hbelow hne).1
      Bool.false_ne_true
  · exact (narrower_ranks_better ctx hroot hacyclic hlists hobject hbelow' hne').1
      Bool.false_ne_true

/-- An adapter for arrays of objects is called for an array of titles, though there is one for
arrays of texts, which are narrower: the two have the same rank, and the one for objects was found
first. -/
theorem resolve_prefers_wider_array :
    let view : HostType := .named "View"
    let objects : HostType := .array (.named "Object")
    let texts : HostType := .array (.named "Text")
    let titles : HostType := .array (.named "Title")
    let hierarchy := Hierarchy.standard.declareClass "View" (some "Object")
      |>.declareClass "Text" (some "Object") |>.declareClass "Title" (some "Text")
    let setObjects : Method := ⟨.named "Adapters", "setObjects"⟩
    let setTexts : Method := ⟨.named "Adapters", "setTexts"⟩
    let adapters : Nested Attribute AdapterKey Method :=
      Nested.put (Nested.put ∅ ⟨"items"⟩ ⟨view, texts⟩ setTexts)
        ⟨"items"⟩ ⟨view, objects⟩ setObjects
    let ctx : Context := { tables := { adapters }, hierarchy }
    hierarchy.RootOnTop ∧ hierarchy.Acyclic ∧
      ctx.fit? titles texts = some (.assignable 1) ∧
      ctx.fit? titles objects = some (.assignable 1) ∧
      hierarchy.accepts objects texts ∧ texts.erasure ≠ objects.erasure ∧
      compare (Fit.assignable 1).rank (Fit.assignable 1).rank ≠ .lt ∧
      ctx.resolve "items" view titles =
        (.adapter ⟨"items"⟩ setObjects .none lowestPlatform, []) := by
  intro view objects texts titles hierarchy setObjects setTexts adapters ctx
  exact ⟨by decide +kernel, by decide +kernel, by decide +kernel, by decide +kernel,
    by decide +kernel, by decide +kernel, by decide +kernel, by decide +kernel⟩

end Context

end SetterResolution
