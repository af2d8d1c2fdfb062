import SetterResolution.Proofs.Registry.Places
import SetterResolution.Proofs.Resolution.Cover
import SetterResolution.Proofs.Snapshot.Codec

/-!
# Group adapters are tried within bounds

Where a group adapter is tried, the place of an attribute is used three times without a question: to
read the type of the parameter, to fill the slot for the fit, and to rank a candidate by the fits in
the order of its attributes. Each of the three is stated here once more with a check, so that there
is no result where a place is beyond the end
(`SetterResolution.Context.fitBindingsAt?`, `SetterResolution.GroupCandidate.rankAt?`), and the
checks are shown to change nothing.

For the slots the invariant is that there are as many of them as the key has parameters: filling one
keeps their number, and every place in the index is below it. A candidate comes from a run that
filled all the slots, so it has a fit in every place of its key.

The main statement is `SetterResolution.Context.places_in_bounds`. It holds for keys that are
declared, which may repeat an attribute, as well as for those that are read from a snapshot, where
an attribute that is repeated is refused.
-/

namespace SetterResolution

open Std (ExtTreeMap)

/-! ### Keys -/

namespace GroupKey

/-- The attributes and the types of a key that is declared stand in the lists that it is made of. -/
theorem lists_ofWritten {written : List String} {types : List HostType} (view : HostType)
    (h : written.length = types.length) :
    (ofWritten view (written.zip types)).attrs = written.map .ofWritten ∧
      (ofWritten view (written.zip types)).paramTypes = types := by
  have hkey : ofLists? view written types = some (ofWritten view (written.zip types)) := if_pos h
  exact (ofLists?_eq_some_iff.mp hkey).2.2

/-- A key that is read has the lists that were read, and entering the attributes refuses none. -/
theorem lists_of_groupKey {view : HostType} {attrs : List Attribute} {types : List HostType}
    {key : GroupKey} (h : Snapshot.groupKey view attrs types = .ok key) :
    key.attrs = attrs ∧ key.paramTypes = types ∧
      enterOnce? ∅ attrs.zipIdx = some key.places := by
  obtain ⟨⟨-, hdistinct⟩, -, rfl, htypes⟩ := Snapshot.groupKey_eq_ok_iff.mp h
  exact ⟨rfl, htypes, enterOnce?_attrs_eq_some_iff.mpr ⟨hdistinct, rfl⟩⟩

end GroupKey

/-! ### Ranks -/

namespace GroupCandidate

variable {candidate : GroupCandidate}

/-- The fit for each attribute of the bindings, read at its place. -/
def sortedFitsAt? (candidate : GroupCandidate) : Option (List (Attribute × Fit)) := do
  let bindings ← candidate.key.bindingsAt?
  let found ← bindings.mapM fun param =>
    candidate.key.places[param.attr]?.mapM fun i => (candidate.fits[i]?).map (param.attr, ·)
  return found.filterMap id

/-- The rank of a candidate, with each fit read at the place of its attribute. -/
def rankAt? (candidate : GroupCandidate) : Option Rank :=
  candidate.sortedFitsAt?.map fun sorted =>
    { size := candidate.key.size
      viewDepth := candidate.viewDepth
      attrs := sorted.map Prod.fst
      fits := sorted.map fun (_, fit) => fit.rank
      adapter := candidate.adapter }

theorem length_fits (candidate : GroupCandidate) : candidate.fits.length = candidate.key.size := by
  rw [size_key, fits, List.length_map]

theorem sortedFits_eq (candidate : GroupCandidate) :
    candidate.sortedFits = (ExtTreeMap.ofList (candidate.key.attrs.zip candidate.fits)).toList := by
  rw [sortedFits, GroupKey.attrs, key, fits, List.map_map, List.zip_map']
  rfl

/-- The fit for an attribute that has a place is read within bounds. -/
theorem fitAt?_eq (candidate : GroupCandidate) (attr : Attribute) :
    (candidate.key.places[attr]?.mapM fun i => (candidate.fits[i]?).map (attr, ·)) =
      some ((candidate.key.places[attr]?.bind (candidate.fits[·]?)).map (attr, ·)) := by
  cases hplace : candidate.key.places[attr]? with
  | none => rfl
  | some i =>
    obtain ⟨fit, hfit⟩ := GroupKey.exists_getElem?_of_places candidate.length_fits hplace
    simp [hfit]

/-- The fits in the order of the attributes are what is found for the bindings. -/
theorem sortedFits_eq_filterMap (candidate : GroupCandidate) :
    candidate.sortedFits = candidate.key.bindings.filterMap fun param =>
      (candidate.key.places[param.attr]?.bind (candidate.fits[·]?)).map (param.attr, ·) := by
  have htable : ExtTreeMap.ofList (candidate.key.attrs.zip candidate.fits) =
      candidate.key.types.filterMap fun attr _ =>
        candidate.key.places[attr]?.bind (candidate.fits[·]?) := by
    refine ExtTreeMap.ext_getElem? fun attr => ?_
    rw [GroupKey.getElem?_table candidate.length_fits, ExtTreeMap.getElem?_filterMap',
      candidate.key.types_eq, GroupKey.getElem?_table candidate.key.length_paramTypes]
    cases hplace : candidate.key.places[attr]? with
    | none => rfl
    | some i =>
      obtain ⟨type, htype⟩ :=
        GroupKey.exists_getElem?_of_places candidate.key.length_paramTypes hplace
      simp [htype]
  rw [sortedFits_eq, htable, ExtTreeMap.toList_filterMap, GroupKey.bindings, List.filterMap_map]
  rfl

theorem sortedFitsAt?_eq (candidate : GroupCandidate) :
    candidate.sortedFitsAt? = some candidate.sortedFits := by
  simp only [sortedFitsAt?, GroupKey.bindingsAt?_eq, fitAt?_eq, Option.bind_eq_bind,
    Option.bind_some]
  rw [mapM_eq_some_filterMap fun _ _ => rfl, Option.bind_some,
    List.filterMap_filterMap, sortedFits_eq_filterMap]
  rfl

/-- **The rank of a candidate** is read within bounds. -/
theorem rankAt?_eq (candidate : GroupCandidate) : candidate.rankAt? = some candidate.rank := by
  rw [rankAt?, sortedFitsAt?_eq, size_key]
  rfl

end GroupCandidate

/-! ### Slots -/

namespace Context

variable (ctx : Context) {key : GroupKey} {slots : List (Option Fit)} {bindings : List Binding}

/-- Fits the bound values to the parameters of a key as `fitBindings?` does, with a type that is
read, and a slot that is filled, at the place in the index. There is no result at all if a place is
beyond the end of the types or of the slots, and none in the result if some value does not fit. -/
def fitBindingsAt? (key : GroupKey) (slots : List (Option Fit)) :
    List Binding → Option (Option (List (Option Fit)))
  | [] => some (some slots)
  | (attr, value) :: rest =>
    match key.places[attr]? with
    | none => fitBindingsAt? key slots rest
    | some i =>
      match key.paramTypes[i]? with
      | none => none
      | some type =>
        match ctx.fit? value (ctx.qualify type) with
        | none => some none
        | some fit =>
          if i < slots.length then fitBindingsAt? key (slots.set i (some fit)) rest else none

variable {ctx}

/-- **Values are fitted within bounds**, as long as there is a slot for each parameter. -/
theorem fitBindingsAt?_eq (h : slots.length = key.size) :
    ctx.fitBindingsAt? key slots bindings = some (ctx.fitBindings? key slots bindings) := by
  induction bindings generalizing slots with
  | nil => rfl
  | cons binding rest ih =>
    obtain ⟨attr, value⟩ := binding
    rw [fitBindingsAt?, fitBindings?, key.typeFor?_eq_bind, ← key.getElem?_places]
    cases hplace : key.places[attr]? with
    | none => exact ih h
    | some i =>
      have hi : i < key.size := GroupKey.lt_size_of_places hplace
      obtain ⟨type, htype⟩ := GroupKey.exists_getElem?_of_places key.length_paramTypes hplace
      simp only [Option.bind_some, htype]
      cases ctx.fit? value (ctx.qualify type) with
      | none => rfl
      | some fit =>
        dsimp only
        rw [if_pos (h.symm ▸ hi), ih (List.length_set.trans h)]

/-- **A candidate has a fit in each slot of its key.** -/
theorem fitBindings?_of_mem_groupCandidates {attrs : List Attribute} {view : HostType}
    {values : List HostType} {candidate : GroupCandidate}
    (h : candidate ∈ ctx.groupCandidates attrs view values) :
    ctx.fitBindings? candidate.key (.replicate candidate.key.size none) (attrs.zip values) =
      some (candidate.fits.map some) := by
  obtain ⟨key, adapter, -, hcandidate⟩ := mem_groupCandidates_iff.mp h
  obtain ⟨rfl, -⟩ := groupCandidate?_eq_some hcandidate
  obtain ⟨-, -, fits, hslots, heq⟩ := groupCandidate?_eq_some_iff.mp hcandidate
  have hfits : candidate.fits = fits := by
    rw [← heq, GroupCandidate.fits]
    exact List.map_snd_zip (Nat.le_of_eq (length_of_fitBindings? hslots))
  exact hfits ▸ hslots

/-- **Every place that is used is within bounds.** The index of a key, the list of its attributes
and the list of its types go together, and the type of an attribute, the bindings and the fits of
bound values are found without reading or filling beyond the end of a list. The lists are those that
the key was made of, whether it was declared or read; where it was read, each attribute was entered
in the index once. And every candidate is for an entry of the table and has a fit in each slot of
its key, at whose places its rank is read. -/
theorem places_in_bounds (ctx : Context) :
    (∀ key : GroupKey, key.WellIndexed ∧
      (∀ attr, key.typeAt? attr = some (key.typeFor? attr)) ∧
      key.bindingsAt? = some key.bindings ∧
      ∀ bindings, ctx.fitBindingsAt? key (.replicate key.size none) bindings =
        some (ctx.fitBindings? key (.replicate key.size none) bindings)) ∧
    (∀ (view : HostType) (written : List String) (types : List HostType),
      written.length = types.length →
        (GroupKey.ofWritten view (written.zip types)).attrs = written.map .ofWritten ∧
        (GroupKey.ofWritten view (written.zip types)).paramTypes = types) ∧
    (∀ (view : HostType) (attrs : List Attribute) (types : List HostType) (key : GroupKey),
      Snapshot.groupKey view attrs types = .ok key →
        key.attrs = attrs ∧ key.paramTypes = types ∧
        GroupKey.enterOnce? ∅ attrs.zipIdx = some key.places) ∧
    ∀ (attrs : List Attribute) (view : HostType) (values : List HostType),
      ∀ candidate ∈ ctx.groupCandidates attrs view values,
        (candidate.key, candidate.adapter) ∈ ctx.tables.groups.toList ∧
        ctx.fitBindingsAt? candidate.key (.replicate candidate.key.size none) (attrs.zip values) =
          some (some (candidate.fits.map some)) ∧
        candidate.fits.length = candidate.key.size ∧
        candidate.rankAt? = some candidate.rank := by
  refine ⟨fun key => ⟨key.wellIndexed, key.typeAt?_eq, key.bindingsAt?_eq, fun bindings =>
      fitBindingsAt?_eq List.length_replicate⟩,
    fun view written types => GroupKey.lists_ofWritten view,
    fun view attrs types key => GroupKey.lists_of_groupKey,
    fun attrs view values candidate hcandidate => ?_⟩
  refine ⟨mem_toList_of_mem_groupCandidates hcandidate, ?_, candidate.length_fits,
    candidate.rankAt?_eq⟩
  rw [fitBindingsAt?_eq List.length_replicate, fitBindings?_of_mem_groupCandidates hcandidate]

/-- An adapter for an image and its width is a candidate, with the fits read in the order of the
attributes. A key that has the width twice is read when it is declared, and found at the last place,
but not when it comes from a snapshot. -/
theorem places_in_bounds_image :
    let view : HostType := .named "View"
    let src : Attribute := ⟨"src"⟩
    let width : Attribute := ⟨"width"⟩
    let load : Method := ⟨.named "Adapters", "load"⟩
    let key : GroupKey := ⟨view, [⟨width, .prim .long⟩, ⟨src, .named "String"⟩]⟩
    let twice : GroupKey := .ofWritten view
      (["width", "src", "app:width"].zip [.prim .long, .named "String", .prim .int])
    let groups : GroupTable := Std.ExtTreeMap.empty.insert key load
    let ctx : Context :=
      { tables := { groups }, hierarchy := Hierarchy.standard.declareClass "View" (some "Object") }
    let candidate : GroupCandidate :=
      ⟨view, [(⟨width, .prim .long⟩, .widening 1), (⟨src, .named "String"⟩, .exact)], load, 1⟩
    Snapshot.groupKey view key.attrs key.paramTypes = .ok key ∧
      GroupKey.enterOnce? ∅ key.attrs.zipIdx = some key.places ∧
      candidate ∈ ctx.groupCandidates [src, width] view [.named "String", .prim .int] ∧
      candidate.rankAt? = some candidate.rank ∧
      candidate.rank.attrs = [src, width] ∧
      twice.attrs = [width, src, width] ∧ twice.places[width]? = some 2 ∧ 2 < twice.size ∧
      twice.typeAt? width = some (some (.prim .int)) ∧
      GroupKey.enterOnce? ∅ twice.attrs.zipIdx = none := by
  intro view src width load key twice groups ctx candidate
  obtain ⟨hkey, hwritten, hread, hcandidates⟩ := places_in_bounds ctx
  have hok : Snapshot.groupKey view key.attrs key.paramTypes = .ok key := by decide +kernel
  have hcandidate :
      candidate ∈ ctx.groupCandidates [src, width] view [.named "String", .prim .int] := by
    decide +kernel
  have hplace : twice.places[width]? = some 2 := by decide +kernel
  obtain ⟨-, -, -, hrank⟩ := hcandidates _ _ _ candidate hcandidate
  obtain ⟨hindexed, htype, -⟩ := hkey twice
  refine ⟨hok, (hread _ _ _ _ hok).2.2, hcandidate, hrank, by decide +kernel,
    (hwritten view _ _ rfl).1.trans (by decide +kernel), hplace, (hindexed.last _ _ hplace).1,
    (htype width).trans (by decide +kernel), by decide +kernel⟩

end Context

end SetterResolution
