import SetterResolution.Proofs.Registry.Reported

/-!
# Registering one adapter

An adapter for `n` attributes takes a view and then `n` values, or `n` old values and then `n` new
ones. What is said here about its shape is said by **places**: the view is in place `0`, the value
for attribute number `i` is in place `i + 1`, and the new value for it is `n` places further on.

* Validation reads parameters by their places only after it has counted them.
  `SetterResolution.AdapterDecl.validateAt?` is the same check with every place looked up on its
  own, and none of its lookups fails (`SetterResolution.AdapterDecl.validateAt?_eq`).
* A declaration has a flaw exactly if it is malformed, which is said without an order in which flaws
  are looked for (`SetterResolution.AdapterDecl.malformed_iff`).
* One that has none is for the types in its places
  (`SetterResolution.AdapterDecl.asksFor_target`). It sets the one entry that it is for and changes
  nothing else (`SetterResolution.Registry.lookup?_withTarget_of_not_agrees`), unless this was
  declared in the round before.

The main statement is `SetterResolution.Registry.registerAdapter_places`.
-/

namespace SetterResolution

namespace AdapterDecl

/-! ### Validation by places -/

/-- Whether the type in place `i` is not the one that is `n` places further on. -/
def differ? (params : List HostType) (n i : Nat) : Option Bool := do
  let old ← params[i]?
  let new ← params[i + n]?
  return old != new

/-- The view in the first place, and the attributes with the types in the places after it. -/
def shapeAt? (decl : AdapterDecl) : Option AdapterShape := do
  let params := decl.method.signature.params
  let view ← params[0]?
  let values ← (List.range' 1 decl.attrs.length).mapM (params[·]?)
  return ⟨view, decl.attrs.zip values⟩

/-- Validation in which parameters are looked up by their places. There is no result if a place is
looked up that does not exist. -/
def validateAt? (decl : AdapterDecl) : Option (Except Flaw AdapterShape) :=
  let name := decl.method.signature.name
  let params := decl.method.signature.params
  let n := decl.attrs.length
  if !decl.method.isPublicStatic then some (.error (.notPublicStatic "@BindingAdapter" name))
  else if n = 0 then some (.error (.noAttributes name))
  else match Attribute.firstRepeated? .ofWritten [] decl.attrs with
    | some written => some (.error (.repeatedAttribute name written))
    | none =>
      if params.length = 1 + 2 * n then do
        match ← (List.range' 1 n).findM? (differ? params n) with
        | some i => return .error (.unequalHalves name (i + 1) (i + n + 1))
        | none => return .ok (← decl.shapeAt?)
      else if params.length ≠ 1 + n then some (.error (.parameterCount name n params.length))
      else return .ok (← decl.shapeAt?)

theorem mapM_range'_getElem? {values : List HostType} {start count : Nat}
    (h : start + count ≤ values.length) :
    (List.range' start count).mapM (values[·]?) = some ((values.drop start).take count) := by
  induction count generalizing start with
  | zero => rfl
  | succ count ih =>
    rw [List.range'_succ, List.mapM_cons, ih (by omega), List.getElem?_eq_getElem (by omega),
      List.drop_eq_getElem_cons (by omega : start < values.length), List.take_succ_cons]
    rfl

/-- The first place that differs, where all places exist. It is counted from the beginning of all
parameters, and not of those that are compared. -/
theorem findM?_differ? {params : List HostType} {n start count : Nat}
    (h : start + count + n ≤ params.length) :
    (List.range' start count).findM? (differ? params n) =
      some ((((params.drop start).take count).zip (params.drop (start + n))).findIdx?
        (fun (old, new) => old ≠ new) |>.map (start + ·)) := by
  induction count generalizing start with
  | zero => rfl
  | succ count ih =>
    have hold : start < params.length := by omega
    have hnew : start + n < params.length := by omega
    have hdiffer : differ? params n start = some (params[start] != params[start + n]) := by
      rw [differ?, List.getElem?_eq_getElem hold, List.getElem?_eq_getElem hnew]
      rfl
    rw [List.range'_succ, List.findM?, hdiffer, ih (by omega), List.drop_eq_getElem_cons hold,
      List.drop_eq_getElem_cons hnew, List.take_succ_cons, List.zip_cons_cons, List.findIdx?_cons]
    by_cases heq : params[start] = params[start + n]
    · have hshift : (start + 1 + ·) = (start + ·) ∘ (· + 1) :=
        funext fun i => Nat.add_right_comm start 1 i
      rw [if_neg (by simpa using heq), bne_eq_false_iff_eq.mpr heq, Option.map_map, hshift,
        Nat.add_right_comm start 1 n]
      rfl
    · rw [if_pos (by simpa using heq), bne_iff_ne.mpr heq, Option.map_some]
      rfl

theorem shapeAt?_eq {decl : AdapterDecl} {view : HostType} {values : List HostType}
    (hparams : decl.method.signature.params = view :: values)
    (hlen : decl.attrs.length ≤ values.length) :
    decl.shapeAt? = some ⟨view, decl.attrs.zip values⟩ := by
  rw [shapeAt?, hparams, mapM_range'_getElem? (by rw [List.length_cons]; omega),
    ← zip_take_length decl.attrs values]
  rfl

/-- **Validation looks at no place that does not exist**: where every place is looked up on its own,
there is a result, and it is the same one. -/
theorem validateAt?_eq (decl : AdapterDecl) : decl.validateAt? = some decl.validate := by
  rw [validateAt?, validate]
  cases decl.method.isPublicStatic with
  | false => rfl
  | true =>
    by_cases hnone : decl.attrs.length = 0
    · simp [hnone]
    cases Attribute.firstRepeated? .ofWritten [] decl.attrs with
    | some written => simp [hnone]
    | none =>
      cases hparams : decl.method.signature.params with
      | nil => simp [hnone, eq_comm (a := 0)]
      | cons view values =>
        simp only [Bool.not_true, Bool.false_eq_true, if_false, if_neg hnone, List.length_cons]
        by_cases hdouble : values.length = 2 * decl.attrs.length
        · rw [if_pos (by omega), if_pos hdouble, shapeAt?_eq hparams (by omega),
            findM?_differ? (by rw [List.length_cons]; omega), Nat.add_comm 1 decl.attrs.length]
          simp only [List.drop_succ_cons, List.drop_zero, zip_take_length]
          cases List.findIdx? _ _ with
          | none => rfl
          | some i =>
            have hold : 1 + i + 1 = i + 2 := by omega
            have hnew : 1 + i + decl.attrs.length + 1 = i + decl.attrs.length + 2 := by omega
            exact congrArg₂ (fun old new => some (Except.error (Flaw.unequalHalves _ old new)))
              hold hnew
        · rw [if_neg (by omega), if_neg hdouble]
          by_cases hsingle : values.length = decl.attrs.length
          · rw [if_neg (by omega), if_pos hsingle, shapeAt?_eq hparams (by omega)]
            rfl
          · rw [if_pos (by omega), if_neg hsingle]

/-! ### Malformed declarations -/

/-- What no adapter may be: not public and static, without attributes, with one attribute twice,
with parameters for neither one nor two values for each attribute, or with two values for an
attribute that differ in type. -/
def Malformed (decl : AdapterDecl) : Prop :=
  let params := decl.method.signature.params
  let n := decl.attrs.length
  ¬ decl.method.isPublicStatic ∨ n = 0 ∨ ¬ (decl.attrs.map Attribute.ofWritten).Nodup ∨
    (params.length ≠ n + 1 ∧ params.length ≠ 2 * n + 1) ∨
    (params.length = 2 * n + 1 ∧ ∃ i, 1 ≤ i ∧ i ≤ n ∧ params[i]? ≠ params[i + n]?)

/-- The two halves of a list are the same if they are in each place. -/
theorem take_eq_drop_iff_getElem? {values : List HostType} {n : Nat}
    (h : values.length = 2 * n) :
    values.take n = values.drop n ↔ ∀ i < n, values[i]? = values[i + n]? := by
  refine ⟨fun heq i hi => ?_, fun heq => List.ext_getElem? fun i => ?_⟩
  · rw [← List.getElem?_take_of_lt hi, heq, List.getElem?_drop, Nat.add_comm]
  · rw [List.getElem?_drop, Nat.add_comm n i]
    by_cases hi : i < n
    · rw [List.getElem?_take_of_lt hi, heq i hi]
    · rw [List.getElem?_take_eq_none (by omega), List.getElem?_eq_none (by omega)]

/-- One value or two for each of `n` attributes, by the number of parameters and by their places. -/
theorem takesValues_iff {params : List HostType} {n : Nat} :
    (∃ view values, params = view :: values ∧
      (values.length = n ∨ ∃ half, values = half ++ half ∧ half.length = n)) ↔
    params.length = n + 1 ∨ params.length = 2 * n + 1 ∧
      ∀ i, 1 ≤ i → i ≤ n → params[i]? = params[i + n]? := by
  cases params with
  | nil => simp
  | cons view values =>
    simp only [List.cons_eq_cons, and_assoc, exists_and_left, exists_eq_left', List.length_cons,
      Nat.add_right_cancel_iff]
    refine or_congr_right ⟨?_, ?_⟩
    · rintro ⟨half, rfl, rfl⟩
      have hlen : (half ++ half).length = 2 * half.length := by rw [List.length_append]; omega
      refine ⟨hlen, fun i hpos hi => ?_⟩
      obtain ⟨j, rfl⟩ := Nat.exists_eq_add_of_le' hpos
      have heq := (take_eq_drop_iff hlen).mpr ⟨half, rfl, rfl⟩
      rw [Nat.add_right_comm, List.getElem?_cons_succ, List.getElem?_cons_succ]
      exact (take_eq_drop_iff_getElem? hlen).mp heq j hi
    · rintro ⟨hlen, hplaces⟩
      refine (take_eq_drop_iff hlen).mp ((take_eq_drop_iff_getElem? hlen).mpr fun i hi => ?_)
      have heq := hplaces (i + 1) (by omega) hi
      rwa [Nat.add_right_comm, List.getElem?_cons_succ, List.getElem?_cons_succ] at heq

/-- When an adapter is valid, by the number of its parameters and by their places. -/
theorem exists_validate_eq_ok_iff {decl : AdapterDecl} :
    (∃ shape, decl.validate = .ok shape) ↔
      decl.method.isPublicStatic ∧ decl.attrs ≠ [] ∧
        (decl.attrs.map Attribute.ofWritten).Nodup ∧
        (decl.method.signature.params.length = decl.attrs.length + 1 ∨
          decl.method.signature.params.length = 2 * decl.attrs.length + 1 ∧
            ∀ i, 1 ≤ i → i ≤ decl.attrs.length → decl.method.signature.params[i]? =
              decl.method.signature.params[i + decl.attrs.length]?) := by
  simp only [← takesValues_iff, validate_eq_ok_iff]
  constructor
  · rintro ⟨shape, hstatic, hattrs, hnodup, values, hparams, -, hlen⟩
    exact ⟨hstatic, hattrs, hnodup, shape.view, values, hparams, hlen⟩
  · rintro ⟨hstatic, hattrs, hnodup, view, values, hparams, hlen⟩
    exact ⟨⟨view, _⟩, hstatic, hattrs, hnodup, values, hparams, rfl, hlen⟩

/-- **A declaration is malformed exactly if it is not valid.** -/
theorem not_malformed_iff {decl : AdapterDecl} :
    ¬ decl.Malformed ↔ ∃ shape, decl.validate = .ok shape := by
  rw [exists_validate_eq_ok_iff, Malformed]
  simp only [not_or, not_and, not_not, not_exists, ne_eq, List.length_eq_zero_iff]
  refine and_congr_right fun _ => and_congr_right fun _ => and_congr_right fun _ => ?_
  constructor
  · rintro ⟨hcount, hplaces⟩
    by_cases hsingle : decl.method.signature.params.length = decl.attrs.length + 1
    · exact Or.inl hsingle
    · exact Or.inr ⟨hcount hsingle, hplaces (hcount hsingle)⟩
  · rintro (hsingle | ⟨hdouble, hplaces⟩)
    -- one value and two values for each attribute are as many only if there are no attributes
    · exact ⟨fun h => absurd hsingle h, fun hdouble i hpos hi => by omega⟩
    · exact ⟨fun _ => hdouble, fun _ => hplaces⟩

theorem malformed_iff {decl : AdapterDecl} :
    decl.Malformed ↔ ∃ flaw, decl.validate = .error flaw := by
  rw [← not_iff_not, not_malformed_iff]
  cases decl.validate <;> simp

end AdapterDecl

/-! ### What a declaration is for -/

namespace AdapterTarget

/-- The view type that an adapter is for. -/
def view : AdapterTarget → HostType
  | single _ key => key.view
  | group key => key.view

/-- The attributes that an adapter is for, each with its type. -/
def params : AdapterTarget → List Parameter
  | single attr key => [⟨attr, key.value⟩]
  | group key => key.params

/-- Whether an adapter is for one attribute and not for a group. -/
def isSingle : AdapterTarget → Bool
  | single .. => true
  | group _ => false

end AdapterTarget

namespace AdapterShape

theorem view_target (shape : AdapterShape) : shape.target.view = shape.view := by
  obtain ⟨view, _ | ⟨param, _ | ⟨second, rest⟩⟩⟩ := shape <;> rfl

theorem params_target (shape : AdapterShape) :
    shape.target.params = shape.params.map fun (written, type) => ⟨.ofWritten written, type⟩ := by
  obtain ⟨view, _ | ⟨param, _ | ⟨second, rest⟩⟩⟩ := shape <;> rfl

theorem isSingle_target (shape : AdapterShape) :
    shape.target.isSingle ↔ shape.params.length = 1 := by
  obtain ⟨view, _ | ⟨param, _ | ⟨second, rest⟩⟩⟩ := shape <;>
    simp [target, AdapterTarget.isSingle]

end AdapterShape

namespace AdapterDecl

/-- A declaration is for the types in its places. -/
structure AsksFor (decl : AdapterDecl) (target : AdapterTarget) : Prop where
  /-- The view is the first parameter. -/
  view : decl.method.signature.params[0]? = some target.view
  /-- There are as many attributes as were written. -/
  size : target.params.length = decl.attrs.length
  /-- Each attribute has the type of the parameter in the place after its own one. -/
  param : ∀ i written, decl.attrs[i]? = some written →
    ∃ type, decl.method.signature.params[i + 1]? = some type ∧
      target.params[i]? = some ⟨.ofWritten written, type⟩
  /-- It is no group adapter if there is just one attribute. -/
  table : target.isSingle ↔ decl.attrs.length = 1

/-- **A valid declaration is for the types in its places.** -/
theorem asksFor_target {decl : AdapterDecl} {shape : AdapterShape}
    (h : decl.validate = .ok shape) : decl.AsksFor shape.target := by
  have hlen : shape.params.length = decl.attrs.length := by
    rw [← attrs_of_validate h, List.length_map]
  obtain ⟨-, -, -, values, hparams, hzip, -⟩ := validate_eq_ok_iff.mp h
  refine ⟨?_, ?_, fun i written hwritten => ?_, ?_⟩
  · rw [hparams, shape.view_target, List.getElem?_cons_zero]
  · rw [shape.params_target, List.length_map, hlen]
  · have hi : i < values.length := by
      have hattr := (List.getElem?_eq_some_iff.mp hwritten).1
      rw [hzip, List.length_zip] at hlen
      omega
    have hvalue : values[i]? = some values[i] := List.getElem?_eq_getElem hi
    have hpair : (decl.attrs.zip values)[i]? = some (written, values[i]) :=
      List.getElem?_zip_eq_some.mpr ⟨hwritten, hvalue⟩
    refine ⟨values[i], ?_, ?_⟩
    · rw [hparams, List.getElem?_cons_succ, hvalue]
    · rw [shape.params_target, hzip, List.getElem?_map, hpair, Option.map_some]
  · rw [shape.isSingle_target, hlen]

end AdapterDecl

/-! ### What is registered -/

namespace Registry

variable {registry : Registry} {method : Method} {target : AdapterTarget} {key : EntryKey}

/-- An adapter that is declared is found under every key that agrees with its own. -/
theorem lookup?_withTarget_of_agrees (h : key.Agrees (target.entry method).key) :
    (registry.withTarget method target).tables.lookup? key = some (target.entry method) := by
  rw [Tables.lookup?_congr _ h]
  cases target with
  | single attr inner =>
    exact congrArg (Option.map (Entry.adapter attr inner)) (Nested.find?_put_self ..)
  | group stored =>
    have hfound := GroupTable.find?_insert registry.tables.groups stored stored method
    rw [if_pos Std.ReflCmp.compare_self] at hfound
    exact congrArg (Option.map fun found => Entry.group found.1 found.2) hfound

/-- **An adapter that is declared changes nothing else.** -/
theorem lookup?_withTarget_of_not_agrees (h : ¬ key.Agrees (target.entry method).key) :
    (registry.withTarget method target).tables.lookup? key = registry.tables.lookup? key := by
  cases target with
  | single attr inner =>
    cases key with
    | adapter attr' inner' =>
      have hne : (attr', inner') ≠ (attr, inner) := by
        rintro ⟨⟩
        exact h (.refl _)
      exact congrArg (Option.map (Entry.adapter attr' inner')) (Nested.find?_put_of_ne _ _ hne)
    | group | renamed | conversion | untaggable => rfl
  | group stored =>
    cases key with
    | group other =>
      have hne : compare stored other ≠ .eq := fun heq =>
        h (.group (Std.OrientedCmp.eq_symm heq))
      have hfound := GroupTable.find?_insert registry.tables.groups stored other method
      rw [if_neg hne] at hfound
      exact congrArg (Option.map fun found => Entry.group found.1 found.2) hfound
    | adapter | renamed | conversion | untaggable => rfl

/-- A declaration is reported to be malformed with the flaw that validation finds, and a duplicate
is reported as something else. -/
theorem registerAdapter_eq_malformed_iff {decl : AdapterDecl} {position : Position} {flaw : Flaw} :
    (registry.registerAdapter decl).2 = .error (.malformed position flaw) ↔
      decl.method.position = position ∧ decl.validate = .error flaw := by
  rw [registerAdapter_eq]
  cases decl.validate with
  | error found => simp
  | ok shape =>
    have hother :
        duplicate decl.method.signature.method shape.target ≠ .malformed position flaw := by
      cases shape.target <;> nofun
    dsimp only
    split <;> simp [hother]

/-- **An adapter is registered by the places of its parameters.** Validation looks at no place that
does not exist. It rejects a declaration exactly if this is malformed, and then nothing changes. Any
other declaration is for the type of its first parameter and for its attributes, each with the type
in the place after its own. If that was declared in the round before, it is refused; if not, one
entry is set and all others are as they were. -/
theorem registerAdapter_places (registry : Registry) (decl : AdapterDecl) :
    decl.validateAt? = some decl.validate ∧
    ((∃ position flaw, (registry.registerAdapter decl).2 = .error (.malformed position flaw)) ↔
      decl.Malformed) ∧
    (decl.Malformed → (registry.registerAdapter decl).1 = registry ∧
      (registry.processAdapter decl).1 = registry) ∧
    (¬ decl.Malformed → ∃ target, decl.AsksFor target ∧
      let entry := target.entry decl.method.signature.method
      (registry.refuses target → registry.registerAdapter decl =
        (registry, .error (duplicate decl.method.signature.method target))) ∧
      (¬ registry.refuses target → ∃ next, registry.registerAdapter decl = (next, .ok ()) ∧
        (∀ key, key.Agrees entry.key → next.tables.lookup? key = some entry) ∧
        ∀ key, ¬ key.Agrees entry.key →
          next.tables.lookup? key = registry.tables.lookup? key)) := by
  have hregister := registerAdapter_eq registry decl
  refine ⟨decl.validateAt?_eq, ?_, fun hmalformed => ?_, fun hmalformed => ?_⟩
  · simp [registerAdapter_eq_malformed_iff, AdapterDecl.malformed_iff]
  · obtain ⟨flaw, hflaw⟩ := AdapterDecl.malformed_iff.mp hmalformed
    have hunchanged := atomic_registerAdapter decl registry _
      (registerAdapter_eq_malformed_iff.mpr ⟨rfl, hflaw⟩)
    exact ⟨hunchanged, (processAdapter_fst registry decl).trans hunchanged⟩
  · obtain ⟨shape, hvalid⟩ := AdapterDecl.not_malformed_iff.mp hmalformed
    rw [hvalid] at hregister
    refine ⟨shape.target, AdapterDecl.asksFor_target hvalid, fun hrefuses => ?_, fun hnew => ?_⟩
    · rw [hregister]
      exact if_pos hrefuses
    · exact ⟨_, hregister.trans (if_neg hnew), fun key => lookup?_withTarget_of_agrees,
        fun key => lookup?_withTarget_of_not_agrees⟩

/-- An adapter that takes the old label and color of a view and then the new ones is registered for
the two attributes. One that takes each color after its label is malformed, and leaves the entry
that an earlier round had for the label. -/
theorem registerAdapter_places_label :
    let view : HostType := .named "View"
    let label : HostType := .named "String"
    let color : HostType := .prim .int
    let adapter (params : List HostType) : AdapterDecl :=
      { attrs := ["android:text", "app:color"]
        method :=
          ⟨⟨.named "Adapters", "setLabel", params, none, true, true, 1⟩, ⟨"Adapters", 7, 1⟩⟩ }
    let halves := adapter [view, label, color, label, color]
    let pairs := adapter [view, label, label, color, color]
    let earlier : Nested Attribute AdapterKey Method :=
      Nested.put ∅ ⟨"android:text"⟩ ⟨view, label⟩ ⟨.named "Adapters", "setText"⟩
    let registry := ofTables { adapters := earlier }
    (∃ target next, halves.AsksFor target ∧ registry.registerAdapter halves = (next, .ok ()) ∧
      next.tables.lookup? (target.entry halves.method.signature.method).key =
        some (target.entry halves.method.signature.method)) ∧
      pairs.Malformed ∧
      (∃ position flaw, (registry.registerAdapter pairs).2 = .error (.malformed position flaw)) ∧
      (registry.processAdapter pairs).1 = registry := by
  intro view label color adapter halves pairs earlier registry
  have hhalves : ¬ halves.Malformed := AdapterDecl.not_malformed_iff.mpr
    ⟨⟨view, [("android:text", label), ("app:color", color)]⟩, by decide +kernel⟩
  have hpairs : pairs.Malformed :=
    AdapterDecl.malformed_iff.mpr ⟨.unequalHalves "setLabel" 2 4, by decide +kernel⟩
  have hfresh (target : AdapterTarget) : ¬ registry.refuses target := by
    cases target <;> exact Bool.false_ne_true
  obtain ⟨-, -, -, haccepted⟩ := registerAdapter_places registry halves
  obtain ⟨-, hreported, hunchanged, -⟩ := registerAdapter_places registry pairs
  obtain ⟨target, hasks, -, hnew⟩ := haccepted hhalves
  obtain ⟨next, hnext, hentry, -⟩ := hnew (hfresh target)
  exact ⟨⟨target, next, hasks, hnext, hentry _ (.refl _)⟩, hpairs, hreported.mpr hpairs,
    (hunchanged hpairs).2⟩

end Registry

end SetterResolution
