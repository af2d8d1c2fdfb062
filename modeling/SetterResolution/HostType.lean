import SetterResolution.Text.Blank
import SetterResolution.Primitive
import Std.Data.ExtTreeMap

/-!
# Host types

A type of the host language is known only by its shape: a primitive, an array of another type, or a
declared class or interface with its name. Whatever else there is to know about a type is asked of
a hierarchy.

The text of a type is its keyword or name, with `[]` for every array level. `HostType.parse` reads
such a text back, and is lenient about blanks around the text and around each element type.
-/

namespace SetterResolution

open Text

/-- A type of the host language. -/
inductive HostType where
  /-- A primitive type. -/
  | prim (kind : Primitive)
  /-- An array with the given element type. -/
  | array (element : HostType)
  /-- A declared class or interface. -/
  | named (name : String)
  deriving DecidableEq, Repr, Inhabited

/-- Short names in force, each with the qualified name it stands for. -/
abbrev Imports := Std.ExtTreeMap String String

namespace HostType

/-! ### Shape -/

/-- Whether a type is primitive, `void` included. -/
def isPrimitive : HostType → Bool
  | prim _ => true
  | _ => false

/-- Whether values of a type are object references. -/
def isObject (type : HostType) : Bool :=
  !type.isPrimitive

/-- Whether a type is `void`. -/
def isVoid (type : HostType) : Bool :=
  type == prim .void

/-- The kind of a primitive type. -/
def primitive? : HostType → Option Primitive
  | prim kind => some kind
  | _ => none

/-- The element type of an array. -/
def element? : HostType → Option HostType
  | array element => some element
  | _ => none

/-- The name of a declared type. -/
def name? : HostType → Option String
  | named name => some name
  | _ => none

/-- The type with the name at its core replaced by what it stands for among `imports`. Primitives
stay, and so does a name that is not imported. -/
def withImports (imports : Imports) : HostType → HostType
  | prim kind => prim kind
  | array element => array (element.withImports imports)
  | named name => named (imports.getD name name)

/-! ### Text -/

/-- The text of a type. -/
def text : HostType → String
  | prim kind => kind.name
  | array element => element.text ++ "[]"
  | named name => name

/-- The type that a text without brackets and blanks around it names: a keyword is a primitive. -/
def ofWord (word : String) : HostType :=
  match Primitive.ofName? word with
  | some kind => prim kind
  | none => named word

/-- Reads a type from the characters of its text in reverse order: blanks are dropped, a pair of
brackets is an array level, and the remaining characters are a word. -/
def ofReversed : List Char → HostType
  | [] => ofWord ""
  | c :: rest =>
    if isBlank c then ofReversed rest
    else match c, rest with
      | ']', '[' :: inner => array (ofReversed inner)
      | c, rest => ofWord (String.ofList (c :: rest).reverse)

/-- The type that a text names. -/
def parse (text : String) : HostType :=
  ofReversed (text.toList.dropWhile isBlank).reverse

/-! ### Order -/

/-- Primitives come before arrays and arrays before declared types. Primitives are ordered by kind,
arrays by their elements, and declared types by name. -/
protected def compare : HostType → HostType → Ordering
  | prim a, prim b => Ord.compare a b
  | prim _, _ => .lt
  | array _, prim _ => .gt
  | array a, array b => a.compare b
  | array _, named _ => .lt
  | named a, named b => Ord.compare a b
  | named _, _ => .gt

instance : Ord HostType := ⟨HostType.compare⟩

private theorem compare_swap (a b : HostType) : a.compare b = (b.compare a).swap := by
  induction a generalizing b with
  | prim a => cases b <;> simp [HostType.compare, Std.OrientedOrd.eq_swap (a := a)]
  | array a ih => cases b <;> simp [HostType.compare, ih]
  | named a => cases b <;> simp [HostType.compare, Std.OrientedOrd.eq_swap (a := a)]

private theorem isLE_compare_trans {a b c : HostType} (hab : (a.compare b).isLE)
    (hbc : (b.compare c).isLE) : (a.compare c).isLE := by
  induction a generalizing b c with
  | prim a =>
    cases c with
    | prim c =>
      cases b with
      | prim b => exact Std.TransOrd.isLE_trans (a := a) (b := b) hab hbc
      | array b => exact absurd hbc Bool.false_ne_true
      | named b => exact absurd hbc Bool.false_ne_true
    | array c => rfl
    | named c => rfl
  | array a ih =>
    cases b with
    | prim b => exact absurd hab Bool.false_ne_true
    | array b =>
      cases c with
      | prim c => exact absurd hbc Bool.false_ne_true
      | array c => exact ih (b := b) hab hbc
      | named c => rfl
    | named b =>
      cases c with
      | prim c => exact absurd hbc Bool.false_ne_true
      | array c => exact absurd hbc Bool.false_ne_true
      | named c => rfl
  | named a =>
    cases b with
    | prim b => exact absurd hab Bool.false_ne_true
    | array b => exact absurd hab Bool.false_ne_true
    | named b =>
      cases c with
      | prim c => exact absurd hbc Bool.false_ne_true
      | array c => exact absurd hbc Bool.false_ne_true
      | named c => exact Std.TransOrd.isLE_trans (a := a) (b := b) hab hbc

private theorem compare_eq {a b : HostType} : a.compare b = .eq ↔ a = b := by
  induction a generalizing b with
  | prim a => cases b <;> simp [HostType.compare]
  | array a ih => cases b <;> simp [HostType.compare, ih]
  | named a => cases b <;> simp [HostType.compare]

instance : Std.TransOrd HostType where
  eq_swap := compare_swap _ _
  isLE_trans := isLE_compare_trans

instance : Std.LawfulEqOrd HostType where
  eq_of_compare := compare_eq.mp

end HostType

end SetterResolution
