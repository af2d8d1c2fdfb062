import SetterResolution.Attribute
import SetterResolution.HostType

/-!
# Keys of adapters

An adapter for one attribute is found by the view type and the value type that it takes. An adapter
for a group of attributes is found by its view type and by the attributes, each with the type that
the adapter takes for it; in which order the attributes were declared does not matter, so group keys
are compared by their `bindings`, the attributes in ascending order with their types.

A group key may repeat an attribute. Then the last occurrence is the one that counts.
-/

namespace SetterResolution

open Std (ExtTreeMap)

/-- What an adapter for one attribute is declared for. -/
structure AdapterKey where
  /-- The type of the view. -/
  view : HostType
  /-- The type of the value. -/
  value : HostType
  deriving DecidableEq, Repr

namespace AdapterKey

/-- The key as it is shown. -/
def text (key : AdapterKey) : String :=
  "AK(" ++ key.view.text ++ ", " ++ key.value.text ++ ")"

instance : Ord AdapterKey := ⟨compareLex (compareOn view) (compareOn value)⟩

instance : Std.TransOrd AdapterKey :=
  inferInstanceAs (Std.TransCmp (compareLex (compareOn view) (compareOn value)))

instance : Std.LawfulEqOrd AdapterKey where
  eq_of_compare {a b} h := by
    obtain ⟨hv, hw⟩ := compareLex_eq_eq.mp h
    have hv : a.view = b.view := Std.LawfulEqOrd.eq_of_compare hv
    have hw : a.value = b.value := Std.LawfulEqOrd.eq_of_compare hw
    cases a; cases b; simp_all

end AdapterKey

/-- One parameter of a group adapter: an attribute and the type that is taken for it. -/
structure Parameter where
  /-- The attribute that the parameter is bound to. -/
  attr : Attribute
  /-- The type of the parameter. -/
  type : HostType
  deriving DecidableEq, Repr

namespace Parameter

/-- What is hashed of a parameter: the attribute, then its type. -/
def hashItems (param : Parameter) : List (HostType ⊕ Attribute) :=
  [.inr param.attr, .inl param.type]

instance : Ord Parameter := ⟨compareLex (compareOn attr) (compareOn type)⟩

instance : Std.TransOrd Parameter :=
  inferInstanceAs (Std.TransCmp (compareLex (compareOn attr) (compareOn type)))

instance : Std.LawfulEqOrd Parameter where
  eq_of_compare {a b} h := by
    obtain ⟨ha, ht⟩ := compareLex_eq_eq.mp h
    have ha : a.attr = b.attr := Std.LawfulEqOrd.eq_of_compare ha
    have ht : a.type = b.type := Std.LawfulEqOrd.eq_of_compare ht
    cases a; cases b; simp_all

end Parameter

/-- What a group adapter is declared for. -/
structure GroupKey where
  /-- The type of the view. -/
  view : HostType
  /-- The parameters after the view, in declared order. -/
  params : List Parameter
  deriving DecidableEq, Repr

namespace GroupKey

/-- The key of a view type and of attributes as written, each with its parameter type. -/
def ofWritten (view : HostType) (params : List (String × HostType)) : GroupKey where
  view := view
  params := params.map fun (written, type) => ⟨.ofWritten written, type⟩

/-- The key of attributes as written and of parameter types in the same order. There has to be one
type for each attribute. -/
def ofLists? (view : HostType) (written : List String) (types : List HostType) : Option GroupKey :=
  if written.length = types.length then some (ofWritten view (written.zip types)) else none

/-- The attributes in declared order. -/
def attrs (key : GroupKey) : List Attribute :=
  key.params.map Parameter.attr

/-- How many parameters a key has. -/
def size (key : GroupKey) : Nat :=
  key.params.length

/-- Whether a key has the attribute. -/
def requires (key : GroupKey) (attr : Attribute) : Bool :=
  attr ∈ key.attrs

/-- The last place of `attr` in a list. -/
def lastPosition? (attr : Attribute) : List Attribute → Option Nat
  | [] => none
  | first :: rest =>
    match lastPosition? attr rest with
    | some i => some (i + 1)
    | none => if first = attr then some 0 else none

/-- The position of the parameter for `attr`. -/
def position? (key : GroupKey) (attr : Attribute) : Option Nat :=
  lastPosition? attr key.attrs

/-- The type of the parameter for `attr`. -/
def typeFor? (key : GroupKey) (attr : Attribute) : Option HostType := do
  let i ← key.position? attr
  let param ← key.params[i]?
  return param.type

/-- The type for each attribute. -/
def types (key : GroupKey) : ExtTreeMap Attribute HostType :=
  ExtTreeMap.ofList (key.params.map fun param => (param.attr, param.type))

/-- The attributes in ascending order, each once and with its type. -/
def bindings (key : GroupKey) : List Parameter :=
  key.types.toList.map fun (attr, type) => ⟨attr, type⟩

/-- The key as it is shown. -/
def text (key : GroupKey) : String :=
  let params := key.params.map fun param => ", " ++ param.attr.name ++ ": " ++ param.type.text
  "MK(" ++ key.view.text ++ String.join params ++ ")"

/-! ### Identity -/

/-- Keys are ordered by view type, then by their bindings. -/
instance : Ord GroupKey := ⟨compareLex (compareOn view) (compareOn bindings)⟩

instance : Std.TransOrd GroupKey :=
  inferInstanceAs (Std.TransCmp (compareLex (compareOn view) (compareOn bindings)))

/-- Whether two keys are declared for the same: the same view type, the same number of parameters
and the same bindings. -/
def agrees (a b : GroupKey) : Bool :=
  a.view == b.view && a.size == b.size && a.bindings == b.bindings

/-- What is hashed of a key: the view type, then its bindings. -/
def hashItems (key : GroupKey) : List (HostType ⊕ Attribute) :=
  .inl key.view :: key.bindings.flatMap Parameter.hashItems

theorem compare_eq_iff {a b : GroupKey} :
    compare a b = .eq ↔ a.view = b.view ∧ a.bindings = b.bindings := by
  rw [show compare a b = compareLex (compareOn view) (compareOn bindings) a b from rfl,
    compareLex_eq_eq]
  simp [compareOn]

end GroupKey

end SetterResolution
