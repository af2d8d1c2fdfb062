import Mathlib.Data.List.Nodup
import SetterResolution.Registry.Key

/-!
# Group keys from two lists

A group key comes as two lists. A declaration writes the attributes, and its method has the types; a
snapshot has the attributes and then the types. Either way there has to be one type for each
attribute, and then the key has the lists that it was made of
(`SetterResolution.GroupKey.mk_zipWith_eq_iff`). Of written attributes a key is made just if there
are as many types (`SetterResolution.GroupKey.ofLists?_eq_some_iff`).

Either way an attribute that is repeated is looked for, among names as written or among attributes.
None is found exactly if the attributes are pairwise different
(`SetterResolution.Attribute.firstRepeated?_eq_none_iff`).
-/

namespace SetterResolution

/-! ### Repeated attributes -/

theorem Attribute.firstRepeated?_eq_none_iff {α : Type} {attr : α → Attribute}
    {seen : List Attribute} {items : List α} :
    firstRepeated? attr seen items = none ↔
      (items.map attr).Nodup ∧ ∀ item ∈ items, attr item ∉ seen := by
  induction items generalizing seen with
  | nil => simp [firstRepeated?]
  | cons item rest ih =>
    rw [firstRepeated?, List.map_cons, List.nodup_cons, List.forall_mem_cons]
    by_cases h : attr item ∈ seen
    · simp [h]
    · rw [if_neg h, ih]
      simp only [List.mem_cons, not_or]
      constructor
      · rintro ⟨hnodup, hseen⟩
        refine ⟨⟨fun hmem => ?_, hnodup⟩, h, fun other hother => (hseen other hother).2⟩
        -- an attribute that comes again would have been seen
        obtain ⟨other, hother, heq⟩ := List.mem_map.mp hmem
        exact (hseen other hother).1 heq
      · rintro ⟨⟨hmem, hnodup⟩, -, hseen⟩
        exact ⟨hnodup, fun other hother =>
          ⟨fun heq => hmem (List.mem_map.mpr ⟨other, hother, heq⟩), hseen other hother⟩⟩

/-! ### Keys -/

namespace GroupKey

variable {view : HostType} {types : List HostType} {key : GroupKey}

/-- **A key that is made of attributes and types** has these and no others. -/
theorem mk_zipWith_eq_iff {attrs : List Attribute} (h : attrs.length = types.length) :
    mk view (List.zipWith Parameter.mk attrs types) = key ↔
      key.view = view ∧ key.attrs = attrs ∧ key.params.map Parameter.type = types := by
  constructor
  · rintro rfl
    rw [← List.map_uncurry_zip_eq_zipWith]
    refine ⟨rfl, ?_, ?_⟩
    · rw [GroupKey.attrs, List.map_map]
      exact List.map_fst_zip (Nat.le_of_eq h)
    · rw [List.map_map]
      exact List.map_snd_zip (Nat.le_of_eq h.symm)
  · rintro ⟨rfl, rfl, rfl⟩
    rw [GroupKey.attrs, List.zipWith_map_left, List.zipWith_map_right, List.zipWith_self,
      List.map_id']

theorem ofWritten_zip (view : HostType) (written : List String) (types : List HostType) :
    ofWritten view (written.zip types) =
      mk view (List.zipWith Parameter.mk (written.map .ofWritten) types) := by
  rw [ofWritten, List.zipWith_map_left, ← List.map_uncurry_zip_eq_zipWith]
  rfl

/-- **A key is made of written attributes and types** just if there are as many of them, and it has
these attributes and types. -/
theorem ofLists?_eq_some_iff {written : List String} :
    ofLists? view written types = some key ↔
      written.length = types.length ∧
        key.view = view ∧ key.attrs = written.map .ofWritten ∧
          key.params.map Parameter.type = types := by
  rw [ofLists?, Option.ite_none_right_eq_some, Option.some.injEq, ofWritten_zip]
  refine and_congr_right fun h => ?_
  exact mk_zipWith_eq_iff (by rw [List.length_map, h])

end GroupKey

end SetterResolution
