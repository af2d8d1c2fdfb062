import SetterResolution.Proofs.Registry.Duplicates
import SetterResolution.Proofs.Registry.Position

/-!
# The identity of group keys

Three things are written by hand over the bindings of a group key: when two keys agree, how they are
ordered, and what is hashed of them. A table in the order of its keys and a set of hashed keys are
right only if the three say the same, and none of them may depend on the order in which the
attributes were declared. This is so for keys that do not repeat an attribute.

Bindings are in ascending order, so what keys can have in common is a set of parameters
(`SetterResolution.GroupKey.agrees_iff_mem`). The items that are hashed lay the bindings out in such
a way that they can be read back (`SetterResolution.GroupKey.hashItems_eq_iff`). And the place at
which a key finds the parameter for an attribute moves with the declared order, but the type that
stands there is the one that the attribute is bound to
(`SetterResolution.GroupKey.typeFor?_eq_some_iff_mem`).

The main statement is `SetterResolution.GroupKey.identity_coherent`.
-/

namespace SetterResolution

/-- Parameters can be read back from what is hashed of them, one after the other. -/
theorem Parameter.flatMap_hashItems_inj {params params' : List Parameter} :
    params.flatMap hashItems = params'.flatMap hashItems ↔ params = params' := by
  refine ⟨fun h => ?_, congrArg _⟩
  induction params generalizing params' with
  | nil =>
    cases params' with
    | nil => rfl
    | cons param' rest' => cases h
  | cons param rest ih =>
    cases params' with
    | nil => cases h
    | cons param' rest' =>
      obtain ⟨attr, type⟩ := param
      obtain ⟨attr', type'⟩ := param'
      simp only [List.flatMap_cons, hashItems, List.cons_append, List.nil_append,
        List.cons_eq_cons, Sum.inr.injEq, Sum.inl.injEq] at h
      obtain ⟨hattr, htype, hrest⟩ := h
      rw [hattr, htype, ih hrest]

namespace GroupKey

variable {a b key : GroupKey} {params : List Parameter} {attr : Attribute} {type : HostType}

/-- **Keys agree exactly if they have the same view and the same set of parameters.** -/
theorem agrees_iff_mem (ha : a.attrs.Nodup) (hb : b.attrs.Nodup) :
    a.agrees b ↔ a.view = b.view ∧ ∀ param, param ∈ a.params ↔ param ∈ b.params := by
  rw [agrees_iff_perm ha hb,
    List.perm_ext_iff_of_nodup (List.Nodup.of_map _ ha) (List.Nodup.of_map _ hb)]

/-- **The same is hashed** of two keys exactly if they are found under one another. -/
theorem hashItems_eq_iff : a.hashItems = b.hashItems ↔ compare a b = .eq := by
  rw [compare_eq_iff, hashItems, hashItems, List.cons_eq_cons, Sum.inl.injEq,
    Parameter.flatMap_hashItems_inj]

/-! ### The declared order -/

/-- The type for an attribute is the one that some parameter binds it to. -/
theorem typeFor?_eq_some_iff_mem (h : key.attrs.Nodup) :
    key.typeFor? attr = some type ↔ ⟨attr, type⟩ ∈ key.params := by
  rw [typeFor?_eq_some_iff, List.mem_iff_getElem?]
  refine exists_congr fun i => and_iff_right_of_imp fun hparam => ?_
  rw [position?_eq_some_iff_of_nodup h, attrs, List.getElem?_map, hparam, Option.map_some]

theorem nodup_attrs_of_perm (h : key.attrs.Nodup) (hperm : key.params.Perm params) :
    (⟨key.view, params⟩ : GroupKey).attrs.Nodup :=
  (hperm.map Parameter.attr).nodup_iff.mp h

/-- **The type for an attribute does not depend on the declared order.** -/
theorem typeFor?_of_perm (h : key.attrs.Nodup) (hperm : key.params.Perm params) :
    (⟨key.view, params⟩ : GroupKey).typeFor? attr = key.typeFor? attr := by
  refine Option.ext fun type => ?_
  rw [typeFor?_eq_some_iff_mem h, typeFor?_eq_some_iff_mem (nodup_attrs_of_perm h hperm),
    hperm.mem_iff]

/-! ### Coherence -/

/-- **The identity of keys is coherent.** Two keys that do not repeat an attribute agree just if
they have the same view and the same set of parameters, just if neither comes before the other one,
and just if the same is hashed of them. The order of keys is total, and antisymmetric up to
agreement. Keys that differ in the declared order of their parameters agree, and bind each attribute
to the same type, which is the one of a parameter. -/
theorem identity_coherent (ha : a.attrs.Nodup) (hb : b.attrs.Nodup) :
    (a.agrees b ↔ a.view = b.view ∧ ∀ param, param ∈ a.params ↔ param ∈ b.params) ∧
    (a.agrees b ↔ compare a b = .eq) ∧
    (a.agrees b ↔ a.hashItems = b.hashItems) ∧
    compare b a = (compare a b).swap ∧
    ((compare a b).isLE ∨ (compare b a).isLE) ∧
    ((compare a b).isLE → (compare b a).isLE → a.agrees b) ∧
    (∀ c, (compare a b).isLE → (compare b c).isLE → (compare a c).isLE) ∧
    ∀ params, a.params.Perm params → a.agrees ⟨a.view, params⟩ ∧
      ∀ attr, (⟨a.view, params⟩ : GroupKey).typeFor? attr = a.typeFor? attr ∧
        ∀ type, a.typeFor? attr = some type ↔ ⟨attr, type⟩ ∈ a.params := by
  have hcompare := agrees_iff_compare_eq ha hb
  refine ⟨agrees_iff_mem ha hb, hcompare, hcompare.trans hashItems_eq_iff.symm,
    Std.OrientedCmp.eq_swap, ?_, fun hab hba => ?_, fun c => Std.TransCmp.isLE_trans,
    fun params hperm => ⟨?_, fun attr => ?_⟩⟩
  · rw [← Std.OrientedCmp.isGE_iff_isLE (a := a)]
    cases compare a b <;> decide
  · exact hcompare.mpr (Std.OrientedCmp.isLE_antisymm hab hba)
  · exact (agrees_iff_perm ha (nodup_attrs_of_perm ha hperm)).mpr ⟨rfl, hperm⟩
  · exact ⟨typeFor?_of_perm ha hperm, fun type => typeFor?_eq_some_iff_mem ha⟩

/-- A label and its color are the same key in either order, however the attributes were written. A
key that takes a wider number for the color is another one, and is hashed otherwise. -/
theorem identity_coherent_label :
    let key (params : List (String × HostType)) : GroupKey := .ofWritten (.named "View") params
    let label := key [("android:text", .named "String"), ("app:textColor", .prim .int)]
    let swapped := key [("textColor", .prim .int), ("android:text", .named "String")]
    let wide := key [("textColor", .prim .long), ("android:text", .named "String")]
    label.attrs.Nodup ∧ swapped.attrs.Nodup ∧ wide.attrs.Nodup ∧ label.agrees swapped ∧
      label.hashItems = swapped.hashItems ∧ label.typeFor? ⟨"textColor"⟩ = some (.prim .int) ∧
      swapped.typeFor? ⟨"textColor"⟩ = some (.prim .int) ∧ ¬ label.agrees wide ∧
      label.hashItems ≠ wide.hashItems := by
  intro key label swapped wide
  have hlabel : label.attrs.Nodup := by decide +kernel
  have hswapped : swapped.attrs.Nodup := by decide +kernel
  have hwide : wide.attrs.Nodup := by decide +kernel
  have hperm : label.params.Perm swapped.params := List.Perm.swap ..
  obtain ⟨-, -, hhash, -, -, -, -, horder⟩ := identity_coherent hlabel hswapped
  obtain ⟨hwiden, -, hwidehash, -⟩ := identity_coherent hlabel hwide
  have hsame : label.agrees swapped := (horder _ hperm).1
  have htype := (horder _ hperm).2 ⟨"textColor"⟩
  have hcolor : label.typeFor? ⟨"textColor"⟩ = some (.prim .int) :=
    (htype.2 _).mpr (by decide +kernel)
  have hother : ¬ label.agrees wide := fun h =>
    absurd ((hwiden.mp h).2 ⟨⟨"textColor"⟩, .prim .int⟩) (by decide +kernel)
  exact ⟨hlabel, hswapped, hwide, hsame, hhash.mp hsame, hcolor, htype.1.trans hcolor, hother,
    fun h => hother (hwidehash.mpr h)⟩

end GroupKey

end SetterResolution
