import SetterResolution.Registry.Key

/-!
# The places of attributes in a group key

A group key finds the parameter for an attribute by the last place of the attribute
(`SetterResolution.GroupKey.position?_eq_some_iff`). A key whose every place is the place of some
attribute therefore repeats none (`SetterResolution.GroupKey.nodup_of_position?`), which is how a
repeated attribute shows when values are fitted to parameters.
-/

namespace SetterResolution.GroupKey

variable {key : GroupKey} {attr : Attribute} {attrs : List Attribute} {i : Nat}

theorem lastPosition?_eq_none_iff : lastPosition? attr attrs = none ↔ attr ∉ attrs := by
  induction attrs with
  | nil => simp [lastPosition?]
  | cons first rest ih =>
    rw [lastPosition?, List.mem_cons, not_or, ← ih]
    cases lastPosition? attr rest with
    | some j => simp
    | none =>
      by_cases hfirst : first = attr
      · simp [hfirst]
      · simp [hfirst, Ne.symm hfirst]

/-- **The last place** of an attribute holds it, and no later place does. -/
theorem lastPosition?_eq_some_iff :
    lastPosition? attr attrs = some i ↔ attrs[i]? = some attr ∧ attr ∉ attrs.drop (i + 1) := by
  induction attrs generalizing i with
  | nil => simp [lastPosition?]
  | cons first rest ih =>
    rw [lastPosition?, List.drop_succ_cons]
    cases hrest : lastPosition? attr rest with
    -- the head is never the last place of an attribute that occurs again
    | some j =>
      have hmem : attr ∈ rest := by
        refine Decidable.byContradiction fun hmem => ?_
        rw [lastPosition?_eq_none_iff.mpr hmem] at hrest
        cases hrest
      cases i with
      | zero => simp [hmem]
      | succ i =>
        rw [List.getElem?_cons_succ, ← ih, hrest]
        simp
    | none =>
      have hmem : attr ∉ rest := lastPosition?_eq_none_iff.mp hrest
      dsimp only
      cases i with
      | zero => by_cases hfirst : first = attr <;> simp [hfirst, hmem]
      | succ i =>
        have hget : rest[i]? ≠ some attr := fun hget => hmem (List.mem_of_getElem? hget)
        by_cases hfirst : first = attr <;> simp [hfirst, hget]

theorem position?_eq_some_iff :
    key.position? attr = some i ↔ key.attrs[i]? = some attr ∧ attr ∉ key.attrs.drop (i + 1) :=
  lastPosition?_eq_some_iff

/-- Where no attribute is repeated, each has the only place that holds it. -/
theorem position?_eq_some_iff_of_nodup (h : key.attrs.Nodup) :
    key.position? attr = some i ↔ key.attrs[i]? = some attr := by
  rw [position?_eq_some_iff, and_iff_left_iff_imp]
  intro hget hlater
  obtain ⟨j, hj, hlater⟩ := List.mem_drop_iff_getElem.mp hlater
  have hi : i < key.attrs.length := (List.getElem?_eq_some_iff.mp hget).1
  have hplace : key.attrs[i]? = key.attrs[i + 1 + j]? := by
    rw [hget, List.getElem?_eq_some_iff.mpr ⟨_, hlater⟩]
  have heq := (List.getElem?_inj hi h).mp hplace
  omega

/-- The type for an attribute is that of the parameter in its place, which is one for it. -/
theorem typeFor?_eq_some_iff {type : HostType} :
    key.typeFor? attr = some type ↔
      ∃ i, key.position? attr = some i ∧ key.params[i]? = some ⟨attr, type⟩ := by
  simp only [typeFor?, Option.bind_eq_bind, Option.bind_eq_some_iff, Option.pure_def,
    Option.some.injEq]
  refine exists_congr fun i => and_congr_right fun hplace => ?_
  have hattr : key.params[i]?.map Parameter.attr = some attr :=
    List.getElem?_map.symm.trans (position?_eq_some_iff.mp hplace).1
  constructor
  · rintro ⟨param, hparam, rfl⟩
    rw [hparam, Option.map_some, Option.some.injEq] at hattr
    rw [hparam, ← hattr]
  · exact fun hparam => ⟨_, hparam, rfl⟩

/-- Bindings are in ascending order of the attributes, so that no attribute has two. -/
theorem ascending_bindings (key : GroupKey) :
    key.bindings.Pairwise fun a b => compare a.attr b.attr = .lt :=
  List.pairwise_map.mpr Std.ExtTreeMap.ordered_keys_toList

theorem length_attrs (key : GroupKey) : key.attrs.length = key.size :=
  List.length_map ..

/-- A key of which every place is found by some attribute does not repeat an attribute. -/
theorem nodup_of_position? (h : ∀ i < key.size, ∃ attr, key.position? attr = some i) :
    key.attrs.Nodup := by
  refine List.pairwise_iff_getElem.mpr fun i j hi hj hij heq => ?_
  obtain ⟨attr, hplace⟩ := h i (by rwa [← length_attrs])
  obtain ⟨hget, hlast⟩ := position?_eq_some_iff.mp hplace
  rw [List.getElem?_eq_getElem hi, heq] at hget
  -- the later of the two places contradicts that the earlier one is the last
  refine hlast (List.mem_drop_iff_getElem.mpr ⟨j - (i + 1), by omega, ?_⟩)
  have hsum : i + 1 + (j - (i + 1)) = j := by omega
  simp only [hsum]
  exact Option.some.inj hget

end SetterResolution.GroupKey
