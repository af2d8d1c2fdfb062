import SetterResolution.Method

/-!
# Hierarchies of types

A `Hierarchy` says which classes and interfaces there are, what they extend and implement, which
methods they declare, how primitives are boxed and which types are binding containers. It may name a
root, the implicit supertype of every object type.

Nothing forbids a hierarchy to name undeclared types, or to run in a circle; what is computed from
a hierarchy is defined for these as well.
-/

namespace SetterResolution

open Std (ExtTreeMap)

/-- What a hierarchy says about one declared type. -/
structure TypeEntry where
  /-- The class that it extends. -/
  superclass : Option String := none
  /-- The interfaces that it implements, in the order in which that was declared. -/
  interfaces : List String := []
  /-- The methods that it declares, in the order in which that was declared. -/
  methods : List Signature := []

/-- Classes, interfaces, boxes and binding containers of a host program. -/
structure Hierarchy where
  /-- The implicit supertype of every object type. -/
  root : Option String := none
  /-- The declared types by name. -/
  types : ExtTreeMap String TypeEntry := ∅
  /-- The box type of each primitive that has one. -/
  boxes : ExtTreeMap Primitive String := ∅
  /-- The types that are declared to be binding containers. -/
  containers : List String := []

namespace Hierarchy

/-- The hierarchy without root and types. -/
def empty : Hierarchy := {}

/-- What is known about the type `name`, nothing if it is not declared. -/
def entry (h : Hierarchy) (name : String) : TypeEntry :=
  h.types.getD name {}

/-- The direct supertypes of `name`, the superclass first. -/
def supertypes (h : Hierarchy) (name : String) : List String :=
  (h.entry name).superclass.toList ++ (h.entry name).interfaces

/-- Declares `name` if it is not declared, and changes what is known about it. -/
def modify (h : Hierarchy) (name : String) (change : TypeEntry → TypeEntry) : Hierarchy :=
  { h with types := h.types.insert name (change (h.entry name)) }

/-! ### Declaring -/

/-- Declares a class with its superclass. A class declared again keeps interfaces and methods. -/
def declareClass (h : Hierarchy) (name : String) (superclass : Option String) : Hierarchy :=
  h.modify name fun entry => { entry with superclass }

/-- Declares an interface, unless there already is a type of this name. -/
def declareInterface (h : Hierarchy) (name : String) : Hierarchy :=
  h.modify name id

/-- Declares that a class implements an interface, and both of them if needed. -/
def declareImplements (h : Hierarchy) (name interface : String) : Hierarchy :=
  (h.declareInterface interface).modify name fun entry =>
    if interface ∈ entry.interfaces then entry
    else { entry with interfaces := entry.interfaces ++ [interface] }

/-- Declares a method of the type that its signature names, and the type if needed. -/
def declareMethod (h : Hierarchy) (method : Signature) : Hierarchy :=
  h.modify method.owner.text fun entry => { entry with methods := entry.methods ++ [method] }

/-- Declares a public method of `owner` that takes one value and gives none. -/
def declareSetter (h : Hierarchy) (owner name : String) (param : HostType) : Hierarchy :=
  h.declareMethod (.setter (.named owner) name param)

/-- Makes `name` the box type of a primitive. -/
def declareBox (h : Hierarchy) (kind : Primitive) (name : String) : Hierarchy :=
  { h with boxes := h.boxes.insert kind name }

/-- Makes `name` and its subtypes binding containers. -/
def declareContainer (h : Hierarchy) (name : String) : Hierarchy :=
  { h with containers := h.containers ++ [name] }

/-! ### The standard hierarchy -/

/-- The box types of the standard hierarchy, each with its primitive and its superclass. -/
def standardBoxes : List (Primitive × String × String) :=
  [(.boolean, "Boolean", "Object"), (.char, "Character", "Object"), (.byte, "Byte", "Number"),
    (.short, "Short", "Number"), (.int, "Integer", "Number"), (.long, "Long", "Number"),
    (.float, "Float", "Number"), (.double, "Double", "Number"), (.void, "Void", "Object")]

/-- The hierarchy with the root `Object`, with `String`, `Number` and the usual box types. -/
def standard : Hierarchy :=
  let h := ({ root := some "Object" } : Hierarchy)
    |>.declareClass "Object" none
    |>.declareClass "String" (some "Object")
    |>.declareClass "Number" (some "Object")
  standardBoxes.foldl (fun h (kind, name, superclass) =>
    (h.declareClass name (some superclass)).declareBox kind name) h

end Hierarchy

end SetterResolution
