import SetterResolution.Proofs.Registry.KeyLists
import SetterResolution.Proofs.Registry.Lookup
import SetterResolution.Registry.Declaration

/-!
# What declarations ask for

A valid declaration asks for entries of the tables. This file says for which ones, declaration by
declaration and round by round, without saying what becomes of them: which of several declarations
of one key is heard is the subject of `SetterResolution.Proofs.Registry.Outcome`.

An adapter is valid exactly if its method is public and static, if it has attributes, no two of them
the same, and if its parameters after the view are one value for each attribute or all old values
followed by all new ones (`SetterResolution.AdapterDecl.validate_eq_ok_iff`).

What it is declared for is one attribute or a group of them (`SetterResolution.AdapterTarget`), and
the two go to different tables.

A valid declaration has one type for each attribute, so that its group key can be made of the two
lists (`SetterResolution.AdapterDecl.ofLists?_of_group?`). And it never repeats an attribute. That
is what makes the two notions of equal group keys one: a key is refused as a duplicate if it
*agrees* with a declared one, which compares the number of attributes too, while a table only
*compares* the bindings (`SetterResolution.GroupKey.agrees_iff_compare_eq`).
-/

namespace SetterResolution

open Std (ExtTreeMap ExtTreeSet LawfulEqOrd)

/-! ### Identity of group keys -/

namespace GroupKey

/-- Without a repeated attribute, the bindings of a key are its parameters, in another order. -/
theorem bindings_perm_params {key : GroupKey} (h : key.attrs.Nodup) :
    key.bindings.Perm key.params := by
  have hkeys : ((key.params.map fun param => (param.attr, param.type)).map Prod.fst).Nodup := by
    rwa [List.map_map]
  have hperm := (toList_ofList_perm hkeys).map fun entry => (⟨entry.1, entry.2⟩ : Parameter)
  have hparams : (key.params.map fun param => (param.attr, param.type)).map
      (fun entry => (⟨entry.1, entry.2⟩ : Parameter)) = key.params := by
    rw [List.map_map]
    exact List.map_id' _
  rwa [hparams] at hperm

/-- **Keys without repeated attributes agree exactly if they are found under one another.** -/
theorem agrees_iff_compare_eq {a b : GroupKey} (ha : a.attrs.Nodup) (hb : b.attrs.Nodup) :
    a.agrees b ↔ compare a b = .eq := by
  rw [compare_eq_iff, agrees, Bool.and_eq_true, Bool.and_eq_true, beq_iff_eq, beq_iff_eq,
    beq_iff_eq]
  constructor
  · rintro ⟨⟨hv, -⟩, hbind⟩
    exact ⟨hv, hbind⟩
  · rintro ⟨hv, hbind⟩
    refine ⟨⟨hv, ?_⟩, hbind⟩
    rw [size, size, ← (bindings_perm_params ha).length_eq, ← (bindings_perm_params hb).length_eq,
      hbind]

end GroupKey

/-! ### Valid adapters -/

theorem findIdx?_zip_ne_eq_none_iff {a b : List HostType} (h : a.length = b.length) :
    ((a.zip b).findIdx? fun (old, new) => old ≠ new) = none ↔ a = b := by
  rw [List.findIdx?_eq_none_iff]
  induction a generalizing b with
  | nil =>
    obtain rfl := List.eq_nil_of_length_eq_zero h.symm
    simp
  | cons x a ih =>
    obtain _ | ⟨y, b⟩ := b
    · simp at h
    · have ih := ih (b := b) (by simpa using h)
      simp only [List.zip_cons_cons, List.mem_cons, forall_eq_or_imp, ih, List.cons.injEq]
      simp

theorem take_eq_drop_iff {values : List HostType} {n : Nat} (h : values.length = 2 * n) :
    values.take n = values.drop n ↔ ∃ half, values = half ++ half ∧ half.length = n := by
  constructor
  · intro heq
    refine ⟨values.take n, ?_, by rw [List.length_take]; omega⟩
    rw [← List.take_append_drop n values, ← heq, List.take_left' (by rw [List.length_take]; omega)]
  · rintro ⟨half, rfl, rfl⟩
    rw [List.take_left, List.drop_left]

theorem zip_take_length (attrs : List String) (values : List HostType) :
    attrs.zip (values.take attrs.length) = attrs.zip values := by
  induction attrs generalizing values with
  | nil => rfl
  | cons attr rest ih =>
    cases values with
    | nil => rfl
    | cons value values =>
      rw [List.length_cons, List.take_succ_cons, List.zip_cons_cons, List.zip_cons_cons, ih]

namespace AdapterDecl

/-- **An adapter is valid** exactly if its method is public and static, if it has attributes that
are pairwise different, and if after the view it takes one value for each attribute, or the old
values and then the new ones. -/
theorem validate_eq_ok_iff {decl : AdapterDecl} {shape : AdapterShape} :
    decl.validate = .ok shape ↔
      decl.method.isPublicStatic ∧ decl.attrs ≠ [] ∧ (decl.attrs.map Attribute.ofWritten).Nodup ∧
      ∃ values, decl.method.signature.params = shape.view :: values ∧
        shape.params = decl.attrs.zip values ∧
        (values.length = decl.attrs.length ∨
          ∃ half, values = half ++ half ∧ half.length = decl.attrs.length) := by
  obtain ⟨view, params⟩ := shape
  rw [validate]
  cases hs : decl.method.isPublicStatic with
  | false => simp
  | true =>
    by_cases hn : decl.attrs = []
    · simp [hn]
    cases hr : Attribute.firstRepeated? .ofWritten [] decl.attrs with
    | some written =>
      have hdup : ¬(decl.attrs.map Attribute.ofWritten).Nodup := fun hnodup => by
        rw [Attribute.firstRepeated?_eq_none_iff.mpr ⟨hnodup, by simp⟩] at hr
        cases hr
      simp [hn, hdup]
    | none =>
      have hnodup := (Attribute.firstRepeated?_eq_none_iff.mp hr).1
      have hpos : decl.attrs.length ≠ 0 := fun h => hn (List.eq_nil_of_length_eq_zero h)
      cases hp : decl.method.signature.params with
      | nil => simp [hn]
      | cons first values =>
        simp only [Bool.not_true, Bool.false_eq_true, if_false, if_neg hpos, true_and, ne_eq, hn,
          not_false_eq_true, hnodup, List.cons.injEq, and_assoc, exists_and_left, exists_eq_left']
        -- twice as many values as attributes are taken for old and new ones
        by_cases hdouble : values.length = 2 * decl.attrs.length
        · rw [if_pos hdouble, zip_take_length, ← take_eq_drop_iff hdouble,
            ← findIdx?_zip_ne_eq_none_iff (by rw [List.length_take, List.length_drop]; omega)]
          have hsingle : values.length ≠ decl.attrs.length := by omega
          cases List.findIdx? _ _ with
          | some i => simp [hsingle]
          | none => simp [hsingle, eq_comm]
        · have hhalf : ¬∃ half, values = half ++ half ∧ half.length = decl.attrs.length := by
            rintro ⟨half, rfl, hlen⟩
            rw [List.length_append] at hdouble
            omega
          rw [if_neg hdouble]
          by_cases hsingle : values.length = decl.attrs.length
          · simp [hsingle, eq_comm]
          · simp [hsingle, hhalf]

theorem attrs_of_validate {decl : AdapterDecl} {shape : AdapterShape}
    (h : decl.validate = .ok shape) : shape.params.map Prod.fst = decl.attrs := by
  obtain ⟨-, -, -, values, -, hparams, hlen⟩ := validate_eq_ok_iff.mp h
  rw [hparams]
  refine List.map_fst_zip ?_
  rcases hlen with hlen | ⟨half, rfl, hlen⟩
  · exact Nat.le_of_eq hlen.symm
  · rw [List.length_append]
    omega

theorem nodup_of_validate {decl : AdapterDecl} {shape : AdapterShape}
    (h : decl.validate = .ok shape) :
    (shape.params.map fun param => Attribute.ofWritten param.1).Nodup := by
  have hnodup := (validate_eq_ok_iff.mp h).2.2.1
  rwa [← attrs_of_validate h, List.map_map] at hnodup

end AdapterDecl

/-! ### Entries that are asked for -/

/-- What an adapter is declared for. -/
inductive AdapterTarget where
  /-- One attribute, with the types of the view and of the value. -/
  | single (attr : Attribute) (key : AdapterKey)
  /-- A group of attributes. -/
  | group (key : GroupKey)
  deriving DecidableEq, Repr

/-- What a well-formed adapter is declared for. -/
def AdapterShape.target : AdapterShape → AdapterTarget
  | ⟨view, [(written, value)]⟩ => .single (.ofWritten written) ⟨view, value⟩
  | ⟨view, params⟩ => .group (.ofWritten view params)

namespace AdapterDecl

/-- What a valid adapter is declared for. -/
def target? (decl : AdapterDecl) : Option AdapterTarget :=
  match decl.validate with
  | .ok shape => some shape.target
  | .error _ => none

/-- The entry that a valid adapter for one attribute asks for. -/
def single? (decl : AdapterDecl) : Option ((Attribute × AdapterKey) × Method) :=
  match decl.validate with
  | .ok ⟨view, [(written, value)]⟩ =>
    some ((.ofWritten written, ⟨view, value⟩), decl.method.signature.method)
  | _ => none

/-- The entry that a valid adapter for a group of attributes asks for. -/
def group? (decl : AdapterDecl) : Option (GroupKey × Method) :=
  match decl.validate with
  | .ok ⟨view, params⟩ =>
    if params.length = 1 then none
    else some (.ofWritten view params, decl.method.signature.method)
  | .error _ => none

theorem single?_eq (decl : AdapterDecl) :
    decl.single? = match decl.target? with
      | some (.single attr key) => some ((attr, key), decl.method.signature.method)
      | _ => none := by
  rw [single?, target?]
  rcases decl.validate with flaw | ⟨view, _ | ⟨⟨written, value⟩, _ | ⟨second, rest⟩⟩⟩ <;> rfl

theorem group?_eq (decl : AdapterDecl) :
    decl.group? = match decl.target? with
      | some (.group key) => some (key, decl.method.signature.method)
      | _ => none := by
  rw [group?, target?]
  rcases decl.validate with flaw | ⟨view, _ | ⟨⟨written, value⟩, _ | ⟨second, rest⟩⟩⟩
  · rfl
  · rfl
  · rfl
  · exact if_neg (by simp)

theorem single?_eq_some_iff {decl : AdapterDecl} {attr : Attribute} {key : AdapterKey}
    {method : Method} : decl.single? = some ((attr, key), method) ↔
      decl.target? = some (.single attr key) ∧ decl.method.signature.method = method := by
  rw [single?_eq]
  rcases decl.target? with _ | ⟨attr', key'⟩ | key' <;> simp [and_assoc]

theorem group?_eq_some_iff_target? {decl : AdapterDecl} {key : GroupKey} {method : Method} :
    decl.group? = some (key, method) ↔
      decl.target? = some (.group key) ∧ decl.method.signature.method = method := by
  rw [group?_eq]
  rcases decl.target? with _ | ⟨attr, key'⟩ | key' <;> simp

theorem method_of_single? {decl : AdapterDecl} {key : Attribute × AdapterKey}
    {method : Method} (h : decl.single? = some (key, method)) :
    method = decl.method.signature.method := by
  rw [single?] at h
  split at h
  · cases h
    rfl
  · cases h

theorem group?_eq_some_iff {decl : AdapterDecl} {key : GroupKey} {method : Method} :
    decl.group? = some (key, method) ↔
      ∃ shape, decl.validate = .ok shape ∧ shape.params.length ≠ 1 ∧
        key = .ofWritten shape.view shape.params ∧ method = decl.method.signature.method := by
  rw [group?]
  cases hv : decl.validate with
  | error flaw => simp
  | ok shape =>
    by_cases hone : shape.params.length = 1
    · simp [hone]
    · simp [hone, eq_comm]

/-- A declared group key does not repeat an attribute. -/
theorem nodup_of_group? {decl : AdapterDecl} {key : GroupKey} {method : Method}
    (h : decl.group? = some (key, method)) : key.attrs.Nodup := by
  obtain ⟨shape, hv, -, rfl, -⟩ := group?_eq_some_iff.mp h
  rw [GroupKey.attrs, GroupKey.ofWritten, List.map_map]
  exact nodup_of_validate hv

/-- **A declared group key has one type for each written attribute.** -/
theorem ofLists?_of_group? {decl : AdapterDecl} {key : GroupKey} {method : Method}
    (h : decl.group? = some (key, method)) :
    GroupKey.ofLists? key.view decl.attrs (key.params.map Parameter.type) = some key := by
  obtain ⟨shape, hv, -, rfl, -⟩ := group?_eq_some_iff.mp h
  rw [GroupKey.ofLists?_eq_some_iff, ← attrs_of_validate hv]
  simp [GroupKey.attrs, GroupKey.ofWritten]

end AdapterDecl

/-- The entry that a valid conversion asks for. -/
def ConversionDecl.conversion? (decl : ConversionDecl) : Option ((HostType × HostType) × Method) :=
  match decl.validate with
  | .ok types => some (types, decl.method.signature.method)
  | .error _ => none

theorem ConversionDecl.method_of_conversion? {decl : ConversionDecl} {types : HostType × HostType}
    {method : Method} (h : decl.conversion? = some (types, method)) :
    method = decl.method.signature.method := by
  rw [conversion?] at h
  split at h
  · cases h
    rfl
  · cases h

/-- The entry that a renamed setter asks for. -/
def RenamedDecl.entry (decl : RenamedDecl) : (Attribute × HostType) × Method :=
  ((.ofWritten decl.attr, decl.target), ⟨decl.owner, decl.setter⟩)

/-- The entries that untaggable views ask for. -/
def UntaggableDecl.entries (decl : UntaggableDecl) : List (HostType × HostType) :=
  decl.views.map fun view => (view, decl.owner)

namespace Round

/-- The entries of valid adapters for one attribute, in the order of declaration. -/
def adapterEntries (round : Round) : List ((Attribute × AdapterKey) × Method) :=
  round.adapters.filterMap AdapterDecl.single?

/-- The entries of valid group adapters, in the order of declaration. -/
def groupEntries (round : Round) : List (GroupKey × Method) :=
  round.adapters.filterMap AdapterDecl.group?

/-- The entries of renamed setters, in the order of declaration. -/
def renamedEntries (round : Round) : List ((Attribute × HostType) × Method) :=
  round.renamed.map RenamedDecl.entry

/-- The entries of valid conversions, in the order of declaration. -/
def conversionEntries (round : Round) : List ((HostType × HostType) × Method) :=
  round.conversions.filterMap ConversionDecl.conversion?

/-- The entries of untaggable views, in the order of declaration. -/
def untaggableEntries (round : Round) : List (HostType × HostType) :=
  round.untaggable.flatMap UntaggableDecl.entries

end Round

end SetterResolution
