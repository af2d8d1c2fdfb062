/-!
# Primitive kinds

The nine primitive kinds of the host language, their keywords and the implicit widening between
numbers. The kinds are ordered as they are listed; this order is also the one that persisted
registries count them in.
-/

namespace SetterResolution

/-- A primitive kind of the host language. -/
inductive Primitive where
  | boolean
  | byte
  | char
  | short
  | int
  | long
  | float
  | double
  | void
  deriving DecidableEq, Repr

namespace Primitive

/-- All kinds, in order. -/
def all : List Primitive :=
  [boolean, byte, char, short, int, long, float, double, void]

/-- The place of a kind in `all`. -/
def index : Primitive → Nat
  | boolean => 0
  | byte => 1
  | char => 2
  | short => 3
  | int => 4
  | long => 5
  | float => 6
  | double => 7
  | void => 8

/-- The keyword of a kind. -/
def name : Primitive → String
  | boolean => "boolean"
  | byte => "byte"
  | char => "char"
  | short => "short"
  | int => "int"
  | long => "long"
  | float => "float"
  | double => "double"
  | void => "void"

/-- The kind with a given keyword. -/
def ofName? (name : String) : Option Primitive :=
  all.find? fun kind => kind.name == name

/-- The kind at a given place of `all`. -/
def ofIndex? (i : Nat) : Option Primitive :=
  all[i]?

/-- The rung of a kind on the widening ladder; `boolean` and `void` do not stand on it. -/
def rung? : Primitive → Option Nat
  | byte => some 0
  | char => some 1
  | short => some 2
  | int => some 3
  | long => some 4
  | float => some 5
  | double => some 6
  | boolean | void => none

/-- How many rungs an implicit widening from one kind to another climbs. There is none down the
ladder, none that stays, and none into `char`. -/
def wideningTo? (source target : Primitive) : Option Nat :=
  if target = char then none
  else match source.rung?, target.rung? with
    | some low, some high => if low < high then some (high - low) else none
    | _, _ => none

/-! ### Order -/

instance : Ord Primitive := ⟨compareOn index⟩

theorem ofIndex?_index (kind : Primitive) : ofIndex? kind.index = some kind := by
  cases kind <;> rfl

theorem index_injective {a b : Primitive} (h : a.index = b.index) : a = b := by
  have := congrArg ofIndex? h
  simpa [ofIndex?_index] using this

instance : Std.TransOrd Primitive := inferInstanceAs (Std.TransCmp (compareOn index))

instance : Std.LawfulEqOrd Primitive where
  eq_of_compare h := index_injective (Nat.compare_eq_eq.mp h)

end Primitive

end SetterResolution
