import SetterResolution.Graph.BreadthFirst

/-!
# Modules and what they depend on

A module sees its own registry and those of all modules that it depends on, directly or not. They
are loaded in breadth-first order, the module itself first and its dependencies in the order in
which they were declared, so that nearer modules come before farther ones. Modules may depend on
each other in a circle.

All dependencies are kept in one list of edges. Edges are only ever added at its end, so that the
dependencies of one module are read from the list in the order in which they were declared.
-/

namespace SetterResolution

/-- Modules in the order in which they were added, and what they depend on. -/
structure ModuleGraph where
  /-- The names of the modules. -/
  modules : List String := []
  /-- The modules that depend on others, each with one that it depends on, in the order in which
  that was declared. The number of an edge is its place in the list. -/
  edges : List (String × String) := []
  /-- Both ends of an edge are modules. -/
  ends : ∀ edge ∈ edges, edge.1 ∈ modules ∧ edge.2 ∈ modules := by simp
  deriving DecidableEq, Repr

namespace ModuleGraph

/-- The graph without modules. -/
def empty : ModuleGraph := {}

/-- The place of a module in the order in which modules were added. -/
def index? (graph : ModuleGraph) (name : String) : Option Nat :=
  graph.modules.findIdx? (· == name)

/-- Whether a module was added. -/
def contains (graph : ModuleGraph) (name : String) : Bool :=
  graph.modules.contains name

/-- How many modules there are. -/
def size (graph : ModuleGraph) : Nat :=
  graph.modules.length

/-- Adds a module, unless it is there. -/
def add (graph : ModuleGraph) (name : String) : ModuleGraph :=
  if graph.contains name then graph
  else
    { graph with
      modules := graph.modules ++ [name]
      ends := fun edge h =>
        (graph.ends edge h).imp (List.mem_append_left _) (List.mem_append_left _) }

theorem mem_modules_add {graph : ModuleGraph} {name other : String} :
    other ∈ (graph.add name).modules ↔ other ∈ graph.modules ∨ other = name := by
  rw [add]
  split
  next h =>
    refine (or_iff_left_of_imp ?_).symm
    rintro rfl
    exact List.contains_iff_mem.mp h
  next => simp

/-- Declares that a module depends on another, and adds both if needed. To declare it again changes
nothing. -/
def addDependency (graph : ModuleGraph) (name dependency : String) : ModuleGraph :=
  let added := (graph.add name).add dependency
  if (name, dependency) ∈ added.edges then added
  else
    { added with
      edges := added.edges ++ [(name, dependency)]
      ends := by
        intro edge h
        rcases List.mem_append.mp h with h | h
        · exact added.ends edge h
        · obtain rfl := List.mem_singleton.mp h
          exact ⟨mem_modules_add.mpr (Or.inl (mem_modules_add.mpr (Or.inr rfl))),
            mem_modules_add.mpr (Or.inr rfl)⟩ }

/-- What a module depends on directly: where its edges lead, in the order in which they were
declared. -/
def dependencies (graph : ModuleGraph) (name : String) : List String :=
  graph.edges.filterMap fun edge => if edge.1 = name then some edge.2 else none

/-- The graph of direct dependencies. -/
def dependencyGraph (graph : ModuleGraph) : Graph.Digraph String where
  next := graph.dependencies
  nodes := graph.modules
  mem_nodes h := by
    obtain ⟨edge, hedge, htarget⟩ := List.mem_filterMap.mp h
    obtain ⟨-, heq⟩ := Option.ite_none_right_eq_some.mp htarget
    exact Option.some.inj heq ▸ (graph.ends edge hedge).2

/-- The modules that a module sees, in the order in which they are loaded. A module that was not
added sees itself alone. -/
def loadOrder (graph : ModuleGraph) (name : String) : List String :=
  Graph.breadthFirst graph.dependencyGraph name

end ModuleGraph

end SetterResolution
