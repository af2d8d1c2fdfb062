import SetterResolution.Proofs.Registry.Merge
import SetterResolution.Resolution.Fit

/-!
# Which conversion is found

A conversion for just the two types that are asked for comes first. Otherwise the table is searched
for one that takes the source and whose result can stand for the target, row by row. A row that was
read from a file may be without entries, and a search does not notice such a row: it goes through
the entries in the order of their keys (`SetterResolution.Nested.cells`), and they are all that it
sees (`SetterResolution.Context.conversion?_eq`).

There are three consequences. Which conversion is found depends on lookups alone, since these
determine the entries and their order (`SetterResolution.Nested.cells_eq_of_find?`). Whether one is
found depends on whether there is an entry that applies, which can only become true when entries are
added (`SetterResolution.Context.isSome_conversion?_iff`). And if imports leave the two types as
they are, an entry for just these types is one that applies, and without it the least of those that
apply is found (`SetterResolution.Context.conversion?_least`).

A value is converted only where the hierarchy does not let it reach a parameter as it is, and it is
cast only where there is no conversion (`SetterResolution.Context.fit?_eq`).
-/

namespace SetterResolution

open Std (ExtTreeMap TransOrd LawfulEqOrd OrientedCmp)

/-! ### The order of entries -/

namespace Nested

variable {α β γ : Type} [Ord α] [Ord β] [TransOrd α] [TransOrd β]

/-- Entries are compared by their outer keys, then by their inner ones. -/
def compareCells : α × β × γ → α × β × γ → Ordering :=
  compareLex (compareOn fun cell => cell.1) (compareOn fun cell => cell.2.1)

instance : Std.TransCmp (compareCells (α := α) (β := β) (γ := γ)) :=
  inferInstanceAs (Std.TransCmp (compareLex _ _))

/-- The entries of a table of two levels are listed in the order of their keys. -/
theorem pairwise_cells [LawfulEqOrd α] (table : Nested α β γ) :
    table.cells.Pairwise fun x y => compareCells x y = .lt := by
  refine List.pairwise_flatMap.mpr ⟨fun ⟨outer, row⟩ _ => ?_, ?_⟩
  · refine List.pairwise_map.mpr (ExtTreeMap.ordered_keys_toList.imp fun hinner => ?_)
    exact Ordering.then_eq_lt.mpr (Or.inr ⟨Std.ReflCmp.compare_self, hinner⟩)
  · refine ExtTreeMap.ordered_keys_toList.imp fun houter => ?_
    rintro x hx y hy
    obtain ⟨_, -, rfl⟩ := List.mem_map.mp hx
    obtain ⟨_, -, rfl⟩ := List.mem_map.mp hy
    exact Ordering.then_eq_lt.mpr (Or.inl houter)

/-- **Lookups determine the entries and their order**, though not whether there are rows without
entries. -/
theorem cells_eq_of_find? [LawfulEqOrd α] [LawfulEqOrd β] {a b : Nested α β γ}
    (h : ∀ outer inner, a.find? outer inner = b.find? outer inner) : a.cells = b.cells := by
  have hperm : a.cells.Perm b.cells := by
    refine (List.perm_ext_iff_of_nodup a.nodup_cells b.nodup_cells).mpr fun cell => ?_
    obtain ⟨outer, inner, entry⟩ := cell
    rw [mem_cells, mem_cells, h]
  refine hperm.eq_of_pairwise (fun x y _ _ hxy hyx => ?_) a.pairwise_cells b.pairwise_cells
  rw [OrientedCmp.gt_of_lt hxy] at hyx
  cases hyx

omit [TransOrd α] [TransOrd β] in
theorem isLE_compareCells_iff [LawfulEqOrd α] {x y : α × β × γ} :
    (compareCells x y).isLE ↔
      compare x.1 y.1 = .lt ∨ x.1 = y.1 ∧ (compare x.2.1 y.2.1).isLE := by
  rw [compareCells, compareLex, compareOn, compareOn, Ordering.isLE_then_iff_or,
    Std.LawfulEqCmp.compare_eq_iff_eq]

/-- Keys tell the entries of one table apart. -/
theorem eq_of_compareCells [LawfulEqOrd α] [LawfulEqOrd β] {table : Nested α β γ}
    {x y : α × β × γ} (hx : x ∈ table.cells) (hy : y ∈ table.cells)
    (h : compareCells x y = .eq) : x = y := by
  obtain ⟨outer, inner, entry⟩ := x
  obtain ⟨outer', inner', entry'⟩ := y
  obtain ⟨houter, hinner⟩ := compareLex_eq_eq.mp h
  obtain rfl : outer = outer' := LawfulEqOrd.eq_of_compare houter
  obtain rfl : inner = inner' := LawfulEqOrd.eq_of_compare hinner
  rw [mem_cells] at hx hy
  rw [Option.some.inj (hx.symm.trans hy)]

/-- **A search finds the least entry** of those that it is after. -/
theorem find?_cells_eq_some_iff [LawfulEqOrd α] [LawfulEqOrd β] {table : Nested α β γ}
    {sought : α × β × γ → Bool} {cell : α × β × γ} :
    table.cells.find? sought = some cell ↔
      cell ∈ table.cells ∧ sought cell ∧
        ∀ other ∈ table.cells, sought other → (compareCells cell other).isLE := by
  have hleast {cell : α × β × γ} (hfind : table.cells.find? sought = some cell) :
      ∀ other ∈ table.cells, sought other → (compareCells cell other).isLE := by
    obtain ⟨-, before, after, hcells, hbefore⟩ := List.find?_eq_some_iff_append.mp hfind
    have hpairwise := table.pairwise_cells
    rw [hcells, List.pairwise_append, List.pairwise_cons] at hpairwise
    intro other hother hsought
    rw [hcells, List.mem_append, List.mem_cons] at hother
    obtain hmem | rfl | hmem := hother
    · exact absurd hsought (by simpa using hbefore other hmem)
    · exact Std.ReflCmp.isLE_rfl
    · exact Ordering.isLE_of_eq_lt (hpairwise.2.1.1 other hmem)
  refine ⟨fun hfind => ⟨List.mem_of_find?_eq_some hfind, List.find?_some hfind, hleast hfind⟩, ?_⟩
  rintro ⟨hmem, hsought, hle⟩
  -- something is found, and neither it nor `cell` is before the other one
  obtain ⟨found, hfind⟩ := Option.isSome_iff_exists.mp (List.find?_isSome.mpr ⟨cell, hmem, hsought⟩)
  have hfound := List.mem_of_find?_eq_some hfind
  have heq := OrientedCmp.isLE_antisymm (hle found hfound (List.find?_some hfind))
    (hleast hfind cell hmem hsought)
  rw [hfind, eq_of_compareCells hmem hfound heq]

end Nested

namespace Hierarchy

/-- What can stand for a type is this type, what differs from it by boxing, and what it accepts. -/
theorem standsFor_iff {h : Hierarchy} {source target : HostType} :
    h.standsFor source target ↔
      source = target ∨ h.differByBoxing source target ∨ h.accepts target source := by
  rw [standsFor, Bool.or_eq_true, Bool.or_eq_true, beq_iff_eq, or_assoc]

end Hierarchy

namespace Context

variable (ctx : Context) {source target : HostType}

/-! ### The search -/

/-- Whether an entry of the table of conversions takes the source and gives what can stand for the
target. -/
def applies (source target : HostType) (cell : HostType × HostType × Method) : Bool :=
  ctx.hierarchy.standsFor source (ctx.qualify cell.1) &&
    ctx.hierarchy.standsFor (ctx.qualify cell.2.1) target

/-- **The conversion that is found** is the one for just these types, or else the first entry that
applies. -/
theorem conversion?_eq (source target : HostType) :
    ctx.conversion? source target = (ctx.tables.conversions.find? source target).or
      ((ctx.tables.conversions.cells.find? (ctx.applies source target)).map (·.2.2)) := by
  have hrows (rows : List (HostType × ExtTreeMap HostType Method)) :
      (((rows.filter fun row => ctx.hierarchy.standsFor source (ctx.qualify row.1)).flatMap
          (·.2.toList)).find? fun entry =>
            ctx.hierarchy.standsFor (ctx.qualify entry.1) target).map Prod.snd =
        ((rows.flatMap fun row => row.2.toList.map fun entry => (row.1, entry.1, entry.2)).find?
          (ctx.applies source target)).map (·.2.2) := by
    induction rows with
    | nil => rfl
    | cons row rest ih =>
      rw [List.filter_cons, List.flatMap_cons, List.find?_append, Option.map_or, ← ih,
        List.find?_map]
      -- a row that does not take the source is left out, or has no entry that applies
      by_cases hsource : ctx.hierarchy.standsFor source (ctx.qualify row.1)
      · rw [if_pos hsource, List.flatMap_cons, List.find?_append, Option.map_or, Option.map_map]
        simp only [Function.comp_def, applies, hsource, Bool.true_and]
      · have hnone : row.2.toList.find? (ctx.applies source target ∘ fun entry =>
            (row.1, entry.1, entry.2)) = none :=
          List.find?_eq_none.mpr fun entry _ => by simp [applies, hsource]
        rw [if_neg hsource, hnone, Option.map_none, Option.map_none, Option.none_or]
  rw [conversion?]
  cases ctx.tables.conversions.find? source target with
  | some method => rfl
  | none => exact hrows ctx.tables.conversions.toList

/-- **There is a conversion** if one is declared for just these types, or if one applies. -/
theorem isSome_conversion?_iff :
    (ctx.conversion? source target).isSome ↔
      (ctx.tables.conversions.find? source target).isSome ∨
        ∃ param result method, ctx.tables.conversions.find? param result = some method ∧
          ctx.hierarchy.standsFor source (ctx.qualify param) ∧
          ctx.hierarchy.standsFor (ctx.qualify result) target := by
  rw [conversion?_eq, Option.isSome_or, Bool.or_eq_true, Option.isSome_map, List.find?_isSome]
  refine or_congr_right ⟨?_, ?_⟩
  · rintro ⟨⟨param, result, method⟩, hmem, happlies⟩
    exact ⟨param, result, method, Nested.mem_cells.mp hmem, Bool.and_eq_true_iff.mp happlies⟩
  · rintro ⟨param, result, method, hfound, happlies⟩
    exact ⟨⟨param, result, method⟩, Nested.mem_cells.mpr hfound, Bool.and_eq_true_iff.mpr happlies⟩

/-! ### Types that imports leave as they are -/

/-- An entry of the table of conversions that takes the source and gives what can stand for the
target. Imports replace the short names of the entry, and only those. -/
structure Converts (source target param result : HostType) (method : Method) : Prop where
  /-- The entry is in the table. -/
  found : ctx.tables.conversions.find? param result = some method
  /-- The source can stand for what the method takes. -/
  takes : source = ctx.qualify param ∨ ctx.hierarchy.differByBoxing source (ctx.qualify param) ∨
    ctx.hierarchy.accepts (ctx.qualify param) source
  /-- What the method returns can stand for the target. -/
  gives : ctx.qualify result = target ∨ ctx.hierarchy.differByBoxing (ctx.qualify result) target ∨
    ctx.hierarchy.accepts target (ctx.qualify result)

variable {ctx} {param result : HostType} {method : Method}

theorem converts_iff :
    ctx.Converts source target param result method ↔
      (param, result, method) ∈ ctx.tables.conversions.cells ∧
        ctx.applies source target (param, result, method) := by
  rw [Nested.mem_cells, applies, Bool.and_eq_true, Hierarchy.standsFor_iff, Hierarchy.standsFor_iff]
  exact ⟨fun h => ⟨h.found, h.takes, h.gives⟩, fun h => ⟨h.1, h.2.1, h.2.2⟩⟩

/-- The search finds the least entry that applies. -/
theorem find?_applies_eq_some_iff :
    ctx.tables.conversions.cells.find? (ctx.applies source target) =
        some (param, result, method) ↔
      ctx.Converts source target param result method ∧
        ∀ param' result' method', ctx.Converts source target param' result' method' →
          compare param param' = .lt ∨ param = param' ∧ (compare result result').isLE := by
  rw [Nested.find?_cells_eq_some_iff, ← and_assoc, ← converts_iff]
  simp only [Prod.forall, Nested.isLE_compareCells_iff, converts_iff, and_imp]

/-- An entry for just two types applies to them, if imports leave them as they are. -/
theorem converts_self (hsource : ctx.qualify source = source)
    (htarget : ctx.qualify target = target)
    (hfound : ctx.tables.conversions.find? source target = some method) :
    ctx.Converts source target source target method :=
  ⟨hfound, Or.inl hsource.symm, Or.inl htarget⟩

theorem exists_converts_of_conversion? (hsource : ctx.qualify source = source)
    (htarget : ctx.qualify target = target) (h : ctx.conversion? source target = some method) :
    ∃ param result, ctx.Converts source target param result method := by
  rw [conversion?_eq, Option.or_eq_some_iff, Option.map_eq_some_iff] at h
  obtain hfound | ⟨-, ⟨param, result, _⟩, hfind, rfl⟩ := h
  · exact ⟨source, target, converts_self hsource htarget hfound⟩
  · exact ⟨param, result, (find?_applies_eq_some_iff.mp hfind).1⟩

/-- **The least conversion that applies is found.** Let imports leave two types as they are. A value
of one is converted to the other just if there is an entry whose parameter the one can stand for and
whose result can stand for the other. The entry for just these two types is used if there is one,
and otherwise the one that comes first, by parameter and then by result. -/
theorem conversion?_least (ctx : Context) {source target : HostType}
    (hsource : ctx.qualify source = source) (htarget : ctx.qualify target = target) :
    ((ctx.conversion? source target).isSome ↔
      ∃ param result method, ctx.Converts source target param result method) ∧
    (∀ method, ctx.tables.conversions.find? source target = some method →
      ctx.conversion? source target = some method) ∧
    (ctx.tables.conversions.find? source target = none → ∀ method,
      ctx.conversion? source target = some method ↔
        ∃ param result, ctx.Converts source target param result method ∧
          ∀ param' result' method', ctx.Converts source target param' result' method' →
            compare param param' = .lt ∨ param = param' ∧ (compare result result').isLE) := by
  refine ⟨⟨fun h => ?_, ?_⟩, fun method hfound => ?_, fun hnone method => ?_⟩
  · obtain ⟨method, hmethod⟩ := Option.isSome_iff_exists.mp h
    obtain ⟨param, result, hconverts⟩ := exists_converts_of_conversion? hsource htarget hmethod
    exact ⟨param, result, method, hconverts⟩
  · rintro ⟨param, result, method, hconverts⟩
    obtain ⟨hmem, happlies⟩ := converts_iff.mp hconverts
    exact ctx.isSome_conversion?_iff.mpr (Or.inr
      ⟨param, result, method, hconverts.found, Bool.and_eq_true_iff.mp happlies⟩)
  · rw [conversion?_eq, hfound, Option.some_or]
  · rw [conversion?_eq, hnone, Option.none_or, Option.map_eq_some_iff]
    simp only [Prod.exists, find?_applies_eq_some_iff, exists_eq_right]

/-- A number is converted to a drawable by what takes numbers and gives colors, both names being
short. The entry for `int` is before this one but gives a text, and the one for the root is after
it. A text has an entry of its own, the last of all. -/
theorem conversion?_least_drawable :
    let hierarchy := Hierarchy.standard.declareClass "android.Drawable" (some "Object")
      |>.declareClass "android.Color" (some "android.Drawable")
    let drawable : HostType := .named "android.Drawable"
    let via (name : String) : Method := ⟨.named "Conversions", name⟩
    let conversions : Nested HostType HostType Method :=
      Nested.put (Nested.put (Nested.put (Nested.put ∅
        (.prim .int) (.named "String") (via "format"))
        (.named "Object") (.named "Drawable") (via "fromObject"))
        (.named "Num") (.named "Color") (via "fromNumber"))
        (.named "String") drawable (via "fromString")
    let imports : Imports := .ofList
      [("Num", "Number"), ("Color", "android.Color"), ("Drawable", "android.Drawable")]
    let ctx : Context := { tables := { conversions }, hierarchy, imports }
    ctx.qualify (.named "Integer") = .named "Integer" ∧
      ctx.qualify (.named "String") = .named "String" ∧ ctx.qualify drawable = drawable ∧
      (ctx.conversion? (.named "Integer") drawable).isSome ∧
      (∃ param result, ctx.Converts (.named "Integer") drawable param result (via "fromNumber") ∧
        ∀ param' result' method',
          ctx.Converts (.named "Integer") drawable param' result' method' →
            compare param param' = .lt ∨ param = param' ∧ (compare result result').isLE) ∧
      ctx.conversion? (.named "String") drawable = some (via "fromString") := by
  intro hierarchy drawable via conversions imports ctx
  have hinteger : ctx.qualify (.named "Integer") = .named "Integer" := by decide +kernel
  have hstring : ctx.qualify (.named "String") = .named "String" := by decide +kernel
  have hdrawable : ctx.qualify drawable = drawable := by decide +kernel
  have hnumber : ctx.Converts (.named "Integer") drawable (.named "Num") (.named "Color")
      (via "fromNumber") :=
    ⟨by decide +kernel, by decide +kernel, by decide +kernel⟩
  have hleast := conversion?_least ctx hinteger hdrawable
  exact ⟨hinteger, hstring, hdrawable, hleast.1.mpr ⟨_, _, _, hnumber⟩,
    (hleast.2.2 (by decide +kernel) _).mp (by decide +kernel),
    (conversion?_least ctx hstring hdrawable).2.1 _ (by decide +kernel)⟩

/-! ### What it is used for -/

variable (ctx)

/-- How a value reaches a parameter without being converted or cast. -/
def plainFit? (value param : HostType) : Option Fit :=
  if value = param then some .exact
  else if ctx.hierarchy.differByBoxing param value then some .boxing
  else match ctx.hierarchy.wideningTo? value param with
    | some distance => some (.widening distance)
    | none =>
      if ctx.hierarchy.accepts param value then some (.assignable (ctx.hierarchy.depth param))
      else none

/-- A conversion comes after everything that the hierarchy decides, and before a cast. -/
theorem fit?_eq (value param : HostType) :
    ctx.fit? value param = (ctx.plainFit? value param).or
      (((ctx.conversion? value param).map .converted).or
        (if value.isObject && param.isObject then some .cast else none)) := by
  rw [fit?, plainFit?]
  by_cases hexact : value = param
  · rw [if_pos hexact, if_pos hexact, Option.some_or]
  by_cases hboxing : ctx.hierarchy.differByBoxing param value
  · rw [if_neg hexact, if_neg hexact, if_pos hboxing, if_pos hboxing, Option.some_or]
  rw [if_neg hexact, if_neg hexact, if_neg hboxing, if_neg hboxing]
  cases ctx.hierarchy.wideningTo? value param with
  | some distance => rfl
  | none =>
    dsimp only
    split
    · rfl
    · cases ctx.conversion? value param <;> rfl

end Context

end SetterResolution
