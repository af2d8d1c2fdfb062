import SetterResolution.Graph.BreadthFirst
import SetterResolution.Hierarchy.Basic

/-!
# Supertypes and depth

The proper supertypes of a type, nearest first, and the length of the longest chain of supertype
steps that starts at it. The chain is what makes one of two accepting parameter types the narrower
one. Where supertypes run in a circle, a chain ends at the first type that it meets again.
-/

namespace SetterResolution.Hierarchy

variable (h : Hierarchy)

/-- The names that occur as a supertype. -/
def supertypeNames : List String :=
  h.types.toList.flatMap fun (_, entry) => entry.superclass.toList ++ entry.interfaces

variable {h} in
theorem entry_eq_of_mem_supertypes {name parent : String} (hp : parent ∈ h.supertypes name) :
    h.types[name]? = some (h.entry name) := by
  unfold supertypes entry at hp
  unfold entry
  rw [Std.ExtTreeMap.getD_eq_getD_getElem?] at hp ⊢
  cases he : h.types[name]? with
  | none => simp [he] at hp
  | some e => rfl

variable {h} in
/-- A type with supertypes is declared. -/
theorem mem_keys_of_mem_supertypes {name parent : String} (hp : parent ∈ h.supertypes name) :
    name ∈ h.types.keys := by
  rw [Std.ExtTreeMap.mem_keys, Std.ExtTreeMap.mem_iff_isSome_getElem?,
    entry_eq_of_mem_supertypes hp]
  rfl

variable {h} in
theorem mem_supertypeNames {name parent : String} (hp : parent ∈ h.supertypes name) :
    parent ∈ h.supertypeNames :=
  List.mem_flatMap.mpr ⟨(name, h.entry name),
    Std.ExtTreeMap.mem_toList_iff_getElem?_eq_some.mpr (entry_eq_of_mem_supertypes hp), hp⟩

/-- The graph of direct supertypes. -/
def supertypeGraph : Graph.Digraph String where
  next := h.supertypes
  nodes := h.supertypeNames
  mem_nodes := mem_supertypeNames

/-- The proper supertypes of `name`, nearest first. The root comes last unless it was reached. -/
def ancestors (name : String) : List String :=
  let reached := Graph.breadthFirst h.supertypeGraph name
  reached.tail ++ h.root.toList.filter fun root => root ∉ reached

/-- The length of the implicit step from a type without supertypes to the root. -/
def rootStep (name : String) : Nat :=
  if h.root.isSome ∧ h.root ≠ some name then 1 else 0

/-- The length of the longest chain of supertype steps from `name` that avoids `path`, the types
that the chain came from. Every step leaves fewer declared types to come through. -/
def chainLength (path : List String) (name : String) : Nat :=
  if hn : name ∈ path then 0
  else
    let lengths := (h.supertypes name).attach.map fun ⟨parent, _⟩ =>
      chainLength (name :: path) parent + 1
    lengths.max?.getD (h.rootStep name)
termination_by Graph.unseen h.types.keys path
decreasing_by
  exact Graph.unseen_cons_lt (mem_keys_of_mem_supertypes ‹_›) hn

end SetterResolution.Hierarchy
