import SetterResolution.Proofs.Registry.Position

/-!
# Reading a group key by places

The attributes of a group key and the types of its parameters stand in two lists, and beside them an
index is kept that has a place for each attribute (`SetterResolution.GroupKey.places`). Whoever
looks for what belongs to an attribute gets a place from the index and reads there, without asking
whether the list is long enough. So it matters that the index and the lists go together.

The index is made in one of two ways: all attributes are entered in their order, so that of a
repeated one the last place stays, or a repeated attribute is refused
(`SetterResolution.GroupKey.enterOnce?`). Where nothing is refused both give the same index
(`SetterResolution.GroupKey.enterOnce?_attrs_eq_some_iff`).

A list that has one value for each attribute becomes a table by attributes when it is read at all
places of the index (`SetterResolution.GroupKey.readAt?_eq`). That no place is beyond its end is
what the reading needs; that the table has the last value of each attribute is what comes out. What
a key says about its attributes follows (`SetterResolution.GroupKey.wellIndexed`).
-/

namespace SetterResolution

open Std (ExtTreeMap)

/-- Where there is a result for each member, there is one for the list. -/
theorem mapM_eq_some_filterMap {α β : Type} {f : α → Option β} {l : List α}
    (h : ∀ a ∈ l, (f a).isSome) : l.mapM f = some (l.filterMap f) := by
  induction l with
  | nil => rfl
  | cons a rest ih =>
    obtain ⟨b, hb⟩ := Option.isSome_iff_exists.mp (h a List.mem_cons_self)
    rw [List.mapM_cons, hb, ih fun other hother => h other (List.mem_cons_of_mem _ hother),
      List.filterMap_cons_some hb]
    rfl

namespace GroupKey

variable {key : GroupKey} {attr : Attribute} {attrs : List Attribute} {β : Type} {values : List β}
  {table : ExtTreeMap Attribute β} {index : ExtTreeMap Attribute Nat} {i j : Nat}

/-! ### The index -/

/-- The index of a key: a place for each attribute. -/
def places (key : GroupKey) : ExtTreeMap Attribute Nat :=
  ExtTreeMap.ofList key.attrs.zipIdx

/-- The parameter types in declared order. -/
def paramTypes (key : GroupKey) : List HostType :=
  key.params.map Parameter.type

theorem length_paramTypes (key : GroupKey) : key.paramTypes.length = key.size :=
  List.length_map ..

theorem lt_length_of_lastPosition? (h : lastPosition? attr attrs = some i) : i < attrs.length :=
  (List.getElem?_eq_some_iff.mp (lastPosition?_eq_some_iff.mp h).1).1

/-- No place after the last one has the attribute. -/
theorem le_of_lastPosition? (h : lastPosition? attr attrs = some i)
    (hj : attrs[j]? = some attr) : j ≤ i := by
  refine Nat.not_lt.mp fun hlt => (lastPosition?_eq_some_iff.mp h).2 ?_
  refine List.mem_iff_getElem?.mpr ⟨j - (i + 1), ?_⟩
  rw [List.getElem?_drop, ← hj]
  congr 1
  omega

/-- Of the values that are entered for an attribute, the one in its last place stays. -/
theorem getElem?_insertMany_zip (h : attrs.length = values.length) :
    (table.insertMany (attrs.zip values))[attr]? =
      ((lastPosition? attr attrs).bind (values[·]?)).or table[attr]? := by
  induction attrs generalizing values table with
  | nil => rfl
  | cons first rest ih =>
    obtain ⟨value, values, rfl⟩ := List.exists_cons_of_length_eq_add_one h.symm
    have hrest : rest.length = values.length := by simpa using h
    rw [List.zip_cons_cons, ExtTreeMap.insertMany_cons, ih hrest, lastPosition?,
      ExtTreeMap.getElem?_insert]
    cases hlast : lastPosition? attr rest with
    | some i =>
      -- a later place of the attribute has a value, which hides the one that was entered first
      have hi : i < values.length := hrest ▸ lt_length_of_lastPosition? hlast
      simp [List.getElem?_eq_getElem hi]
    | none => by_cases hfirst : first = attr <;> simp [hfirst]

/-- **A table by attributes** has the value in the last place of each. -/
theorem getElem?_ofList_zip (h : attrs.length = values.length) :
    (ExtTreeMap.ofList (attrs.zip values))[attr]? =
      (lastPosition? attr attrs).bind (values[·]?) := by
  rw [ExtTreeMap.ofList_eq_insertMany_empty, getElem?_insertMany_zip h, ExtTreeMap.getElem?_empty,
    Option.or_none]

/-- **The place of an attribute in the index** is its position. -/
theorem getElem?_places (key : GroupKey) (attr : Attribute) :
    key.places[attr]? = key.position? attr := by
  rw [places, List.zipIdx_eq_zip_range', getElem?_ofList_zip (by simp), position?]
  cases hlast : lastPosition? attr key.attrs with
  | none => rfl
  | some i => simp [lt_length_of_lastPosition? hlast]

/-- The table of values by attributes is found by places. -/
theorem getElem?_table (h : values.length = key.size) :
    (ExtTreeMap.ofList (key.attrs.zip values))[attr]? = key.places[attr]?.bind (values[·]?) := by
  rw [getElem?_ofList_zip (key.length_attrs.trans h.symm), getElem?_places, position?]

/-- A place of the index is one of the key. -/
theorem lt_size_of_places (h : key.places[attr]? = some i) : i < key.size := by
  rw [getElem?_places] at h
  exact key.length_attrs ▸ lt_length_of_lastPosition? h

/-- There is a value at a place of the index, in a list that has one for each attribute. -/
theorem exists_getElem?_of_places (hlength : values.length = key.size)
    (h : key.places[attr]? = some i) : ∃ value, values[i]? = some value :=
  ⟨_, List.getElem?_eq_getElem (hlength.symm ▸ lt_size_of_places h)⟩

/-! ### Entering each attribute once -/

/-- Enters places one by one, and refuses an attribute that was entered before. -/
def enterOnce? (index : ExtTreeMap Attribute Nat) :
    List (Attribute × Nat) → Option (ExtTreeMap Attribute Nat)
  | [] => some index
  | (attr, i) :: rest => if attr ∈ index then none else enterOnce? (index.insert attr i) rest

/-- **What is not refused** is entered as it would be without asking: there it is new and entered
only once. -/
theorem enterOnce?_eq_some_iff {filled : ExtTreeMap Attribute Nat} :
    enterOnce? index (attrs.zipIdx i) = some filled ↔
      (attrs.Nodup ∧ ∀ attr ∈ attrs, attr ∉ index) ∧
        index.insertMany (attrs.zipIdx i) = filled := by
  induction attrs generalizing index i with
  | nil => simp [enterOnce?]
  | cons first rest ih =>
    rw [List.zipIdx_cons, enterOnce?, ExtTreeMap.insertMany_cons, List.nodup_cons,
      List.forall_mem_cons]
    by_cases hfirst : first ∈ index
    · simp [hfirst]
    · have hnew : (∀ attr ∈ rest, attr ∉ index.insert first i) ↔
          first ∉ rest ∧ ∀ attr ∈ rest, attr ∉ index := by
        simp only [ExtTreeMap.mem_insert, Std.LawfulEqCmp.compare_eq_iff_eq]
        grind
      rw [if_neg hfirst, ih, hnew, and_left_comm, ← and_assoc, and_iff_right hfirst]

/-- **Both ways give one index**, where no attribute is repeated. -/
theorem enterOnce?_attrs_eq_some_iff :
    enterOnce? ∅ key.attrs.zipIdx = some index ↔ key.attrs.Nodup ∧ key.places = index := by
  rw [enterOnce?_eq_some_iff, places, ExtTreeMap.ofList_eq_insertMany_empty,
    and_iff_left fun _ _ => ExtTreeMap.not_mem_empty]

/-! ### Reading at the places -/

/-- The values at the places of a key, in ascending order of the attributes. There is no result if
some place is beyond the end of the list. -/
def readAt? (key : GroupKey) (values : List β) : Option (List (Attribute × β)) :=
  key.places.toList.mapM fun (attr, i) => (values[i]?).map (attr, ·)

/-- **Reading a list at all places** of a key is never out of bounds, and gives the table that has
the last value of each attribute. -/
theorem readAt?_eq (h : values.length = key.size) :
    key.readAt? values = some (ExtTreeMap.ofList (key.attrs.zip values)).toList := by
  have htable : ExtTreeMap.ofList (key.attrs.zip values) =
      key.places.filterMap fun _ i => values[i]? := by
    refine ExtTreeMap.ext_getElem? fun attr => ?_
    rw [getElem?_table h, ExtTreeMap.getElem?_filterMap']
  rw [readAt?, mapM_eq_some_filterMap, htable, ExtTreeMap.toList_filterMap]
  rintro ⟨attr, i⟩ hentry
  obtain ⟨value, hvalue⟩ :=
    exists_getElem?_of_places h (ExtTreeMap.mem_toList_iff_getElem?_eq_some.mp hentry)
  simp [hvalue]

/-- The type for `attr`, read at its place. There is no result if the place is beyond the end of the
types, and none in the result if the attribute has no place. -/
def typeAt? (key : GroupKey) (attr : Attribute) : Option (Option HostType) :=
  key.places[attr]?.mapM (key.paramTypes[·]?)

/-- The attributes in ascending order, each with the type that is read at its place. -/
def bindingsAt? (key : GroupKey) : Option (List Parameter) :=
  (key.readAt? key.paramTypes).map fun types => types.map fun (attr, type) => ⟨attr, type⟩

theorem typeFor?_eq_bind (key : GroupKey) (attr : Attribute) :
    key.typeFor? attr = key.places[attr]?.bind (key.paramTypes[·]?) := by
  simp only [getElem?_places, typeFor?, paramTypes, List.getElem?_map, Option.map_eq_bind,
    Option.bind_eq_bind, Option.pure_def, Function.comp_def]

/-- **The type for an attribute** is read within bounds. -/
theorem typeAt?_eq (key : GroupKey) (attr : Attribute) :
    key.typeAt? attr = some (key.typeFor? attr) := by
  rw [typeAt?, typeFor?_eq_bind]
  cases hplace : key.places[attr]? with
  | none => rfl
  | some i =>
    obtain ⟨type, htype⟩ := exists_getElem?_of_places key.length_paramTypes hplace
    simp [htype]

theorem types_eq (key : GroupKey) :
    key.types = ExtTreeMap.ofList (key.attrs.zip key.paramTypes) := by
  rw [types, attrs, paramTypes, List.zip_map']

/-- **The bindings** are read within bounds. -/
theorem bindingsAt?_eq (key : GroupKey) : key.bindingsAt? = some key.bindings := by
  rw [bindingsAt?, readAt?_eq key.length_paramTypes, ← types_eq]
  rfl

theorem mem_bindings_iff {param : Parameter} :
    param ∈ key.bindings ↔ key.typeFor? param.attr = some param.type := by
  rw [typeFor?_eq_bind, ← getElem?_table key.length_paramTypes, ← types_eq,
    ← ExtTreeMap.mem_toList_iff_getElem?_eq_some, bindings, List.mem_map]
  constructor
  · rintro ⟨entry, hentry, rfl⟩
    exact hentry
  · exact fun hentry => ⟨_, hentry, rfl⟩

/-! ### What the index says -/

/-- The index, the attributes and the types of a key go together. -/
structure WellIndexed (key : GroupKey) : Prop where
  /-- The index is where positions are looked up. -/
  position : ∀ attr, key.places[attr]? = key.position? attr
  /-- The place of an attribute is one of the key and holds it, and no later place does. -/
  last : ∀ attr i, key.places[attr]? = some i →
    i < key.size ∧ key.attrs[i]? = some attr ∧ ∀ j, key.attrs[j]? = some attr → j ≤ i
  /-- Each attribute that is listed has a place. -/
  listed : ∀ attr, attr ∈ key.attrs ↔ ∃ i, key.places[attr]? = some i
  /-- The bindings are in ascending order, so that no attribute is in them twice. -/
  ascending : key.bindings.Pairwise fun a b => compare a.attr b.attr = .lt
  /-- The attributes of the bindings are those that are listed. -/
  bound : ∀ attr, attr ∈ key.bindings.map Parameter.attr ↔ attr ∈ key.attrs
  /-- Each binding has the type in the place of its attribute. -/
  typed : ∀ param ∈ key.bindings,
    ∃ i, key.places[param.attr]? = some i ∧ key.paramTypes[i]? = some param.type

/-- Each attribute that is listed has a place, and others have none. -/
theorem exists_places_iff : (∃ i, key.places[attr]? = some i) ↔ attr ∈ key.attrs := by
  rw [← Option.isSome_iff_exists, Option.isSome_iff_ne_none, ne_eq, getElem?_places, position?,
    lastPosition?_eq_none_iff, Decidable.not_not]

/-- Each attribute that is listed has a type. -/
theorem exists_typeFor?_iff : (∃ type, key.typeFor? attr = some type) ↔ attr ∈ key.attrs := by
  rw [← exists_places_iff, typeFor?_eq_bind]
  constructor
  · rintro ⟨type, htype⟩
    obtain ⟨i, hplace, -⟩ := Option.bind_eq_some_iff.mp htype
    exact ⟨i, hplace⟩
  · rintro ⟨i, hplace⟩
    rw [hplace]
    exact exists_getElem?_of_places key.length_paramTypes hplace

/-- **Every key is well indexed**, also one that repeats an attribute. -/
theorem wellIndexed (key : GroupKey) : key.WellIndexed where
  position := key.getElem?_places
  last attr i hplace := by
    have hlast : lastPosition? attr key.attrs = some i :=
      (key.getElem?_places attr).symm.trans hplace
    exact ⟨lt_size_of_places hplace, (lastPosition?_eq_some_iff.mp hlast).1,
      fun j => le_of_lastPosition? hlast⟩
  listed attr := exists_places_iff.symm
  ascending := key.ascending_bindings
  bound attr := by
    rw [← exists_typeFor?_iff, List.mem_map]
    constructor
    · rintro ⟨param, hparam, rfl⟩
      exact ⟨param.type, mem_bindings_iff.mp hparam⟩
    · rintro ⟨type, htype⟩
      exact ⟨⟨attr, type⟩, mem_bindings_iff.mpr htype, rfl⟩
  typed param hparam := by
    rwa [mem_bindings_iff, typeFor?_eq_bind, Option.bind_eq_some_iff] at hparam

end GroupKey

end SetterResolution
