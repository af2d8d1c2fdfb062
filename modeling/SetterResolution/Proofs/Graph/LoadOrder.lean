import Mathlib.Data.List.Induction
import SetterResolution.ModuleGraph
import SetterResolution.Proofs.Graph.Discovery

/-!
# The load order of modules

A graph of modules is built by declarations: that there is a module, or that one depends on another.
Modules may depend on themselves or on each other in a circle, and a dependency may be declared
several times. The graph has one list of edges for all modules, in which those of different modules
come mixed. What becomes of a list of declarations is said by the dependencies of each module: they
are those that were declared for it, each once and in the order in which it was declared first
(`SetterResolution.ModuleGraph.dependencies_ofDeclarations`). So the load order is the breadth-first
order of the graph of declared dependencies (`SetterResolution.ModuleGraph.declaredGraph`), and what
is known about such orders holds of it.

The main statement is `SetterResolution.ModuleGraph.loadOrder_ofDeclarations`.
-/

namespace SetterResolution.ModuleGraph

/-! ### Declarations -/

/-- What can be declared about modules. -/
inductive Declaration where
  /-- There is a module. -/
  | add (name : String)
  /-- A module depends on a module. -/
  | depends (name dependency : String)
  deriving DecidableEq, Repr

namespace Declaration

/-- The modules that a declaration names. -/
def modules : Declaration → List String
  | add name => [name]
  | depends name dependency => [name, dependency]

/-- What the module `name` depends on by a declaration. -/
def dependency? (name : String) : Declaration → Option String
  | add _ => none
  | depends dependent dependency => if dependent = name then some dependency else none

theorem mem_modules_of_dependency? {decl : Declaration} {name dependency : String}
    (h : decl.dependency? name = some dependency) :
    name ∈ decl.modules ∧ dependency ∈ decl.modules := by
  cases decl with
  | add => cases h
  | depends dependent other =>
    obtain ⟨rfl, heq⟩ := Option.ite_none_right_eq_some.mp h
    cases heq
    simp [modules]

end Declaration

/-- The graph after a declaration. -/
def declare (graph : ModuleGraph) : Declaration → ModuleGraph
  | .add name => graph.add name
  | .depends name dependency => graph.addDependency name dependency

/-- The graph that is built by declarations, one after another. -/
def ofDeclarations (decls : List Declaration) : ModuleGraph :=
  decls.foldl declare empty

/-- What a module was declared to depend on, each module once and in the order in which that was
declared first. -/
def declared (decls : List Declaration) (name : String) : List String :=
  (decls.filterMap (·.dependency? name)).eraseDups

theorem mem_declared_iff {decls : List Declaration} {name dependency : String} :
    dependency ∈ declared decls name ↔
      ∃ decl ∈ decls, decl.dependency? name = some dependency := by
  rw [declared, List.mem_eraseDups, List.mem_filterMap]

/-- The graph of declared dependencies. -/
def declaredGraph (decls : List Declaration) : Graph.Digraph String where
  next := declared decls
  nodes := decls.flatMap Declaration.modules
  mem_nodes h := by
    obtain ⟨decl, hdecl, hdependency⟩ := mem_declared_iff.mp h
    exact List.mem_flatMap.mpr
      ⟨decl, hdecl, (Declaration.mem_modules_of_dependency? hdependency).2⟩

/-! ### What the graph knows -/

/-- A module that is added has no dependencies yet, and all others keep theirs. -/
theorem dependencies_add (graph : ModuleGraph) (name other : String) :
    (graph.add name).dependencies other = graph.dependencies other := by
  rw [add]
  split <;> rfl

/-- A module depends on another if there is an edge between them. -/
theorem mem_dependencies_iff {graph : ModuleGraph} {name dependency : String} :
    dependency ∈ graph.dependencies name ↔ (name, dependency) ∈ graph.edges := by
  simp only [dependencies, List.mem_filterMap, Option.ite_none_right_eq_some, Option.some.injEq]
  constructor
  · rintro ⟨edge, hedge, rfl, rfl⟩
    exact hedge
  · exact fun h => ⟨_, h, rfl, rfl⟩

/-- **A dependency that is declared** comes behind those of its module, unless it is one of them. -/
theorem dependencies_addDependency (graph : ModuleGraph) (name dependency other : String) :
    (graph.addDependency name dependency).dependencies other =
      if other = name ∧ dependency ∉ graph.dependencies other then
        graph.dependencies other ++ [dependency]
      else graph.dependencies other := by
  have hadded (dependent : String) :
      ((graph.add name).add dependency).dependencies dependent = graph.dependencies dependent :=
    (dependencies_add _ _ _).trans (dependencies_add _ _ _)
  have hedge : (name, dependency) ∈ ((graph.add name).add dependency).edges ↔
      dependency ∈ graph.dependencies name := by
    rw [← mem_dependencies_iff, hadded]
  rw [addDependency]
  split
  next h =>
    rw [hadded, if_neg]
    rintro ⟨rfl, hnot⟩
    exact hnot (hedge.mp h)
  next h =>
    -- the new edge is the last one
    rw [dependencies, List.filterMap_append]
    by_cases hname : other = name
    · subst hname
      rw [if_pos ⟨rfl, mt hedge.mpr h⟩, ← hadded]
      simp [dependencies]
    · rw [if_neg fun hand => hname hand.1, ← hadded]
      simp [dependencies, Ne.symm hname]

/-- **One declaration** adds at most one dependency to each module. -/
theorem dependencies_declare (graph : ModuleGraph) (decl : Declaration) (name : String) :
    (graph.declare decl).dependencies name =
      graph.dependencies name ++
        (decl.dependency? name).toList.filter (· ∉ graph.dependencies name) := by
  cases decl with
  | add other => rw [declare, dependencies_add, Declaration.dependency?]; simp
  | depends dependent dependency =>
    rw [declare, dependencies_addDependency, Declaration.dependency?]
    by_cases hname : name = dependent
    · subst hname
      by_cases hmem : dependency ∈ graph.dependencies name <;> simp [hmem]
    · simp [hname, Ne.symm hname]

/-- **The dependencies of a module** are the declared ones in the order of first declaration. -/
theorem dependencies_ofDeclarations (decls : List Declaration) (name : String) :
    (ofDeclarations decls).dependencies name = declared decls name := by
  induction decls using List.reverseRecOn with
  | nil => rfl
  | append_singleton decls decl ih =>
    have hlast : ofDeclarations (decls ++ [decl]) = (ofDeclarations decls).declare decl :=
      List.foldl_concat ..
    rw [hlast, dependencies_declare, ih, declared, declared, List.filterMap_append,
      List.eraseDups_append]
    generalize decls.filterMap (·.dependency? name) = earlier
    cases hdecl : decl.dependency? name with
    | none => simp [hdecl]
    | some dependency =>
      by_cases hmem : dependency ∈ earlier <;>
        simp [List.removeAll, List.eraseDups_cons, hdecl, hmem]

/-! ### The load order -/

theorem loadOrder_eq_breadthFirst (decls : List Declaration) (name : String) :
    (ofDeclarations decls).loadOrder name = Graph.breadthFirst (declaredGraph decls) name :=
  Graph.walk_congr (dependencies_ofDeclarations decls) _ _

/-- What is found anew behind a module are its declared dependencies but for the module itself. -/
theorem fresh_declared (decls : List Declaration) (start name : String) :
    Graph.fresh [start] (declared decls name) = (declared decls name).filter (· ≠ start) := by
  have hnodup : (declared decls name).Nodup := by
    rw [declared, ← Graph.fresh_nil_eq_eraseDups]
    exact Graph.nodup_fresh _ _
  simp only [Graph.fresh_of_nodup [start] hnodup, List.mem_singleton]

/-- **Modules are loaded breadth-first.** Whatever was declared, the load order of a module begins
with it and has no module twice. It consists of the modules that declared dependencies lead to, and
a nearer one comes before a farther one. The modules that are discovered from one module come in the
order in which this one was declared to depend on them. A module that no declaration names is loaded
alone. -/
theorem loadOrder_ofDeclarations (decls : List Declaration) (name : String) :
    let order := (ofDeclarations decls).loadOrder name
    let graph := declaredGraph decls
    (∃ rest, order = name :: rest) ∧ order.Nodup ∧
    (∀ a, a ∈ order ↔ ∃ n, graph.Leads name n a) ∧
    (order.Pairwise fun a b => ∀ m n, graph.Distance name m a → graph.Distance name n b → m ≤ n) ∧
    (∀ a, (order.tail.filter fun b => graph.discoverer? order b = some a) =
      (declared decls a).filter fun b => b ≠ name ∧ graph.discoverer? order b = some a) ∧
    ((∀ decl ∈ decls, name ∉ decl.modules) → order = [name]) := by
  intro order graph
  have horder : order = Graph.breadthFirst graph name := loadOrder_eq_breadthFirst decls name
  rw [horder]
  refine ⟨Graph.breadthFirst_eq_cons graph name, Graph.nodup_breadthFirst graph name,
    fun a => Graph.mem_breadthFirst_iff, Graph.pairwise_breadthFirst graph name, fun a => ?_,
    fun hnew => Graph.breadthFirst_eq_singleton (List.eq_nil_iff_forall_not_mem.mpr ?_)⟩
  · rw [Graph.filter_tail_breadthFirst graph name a,
      show graph.next a = declared decls a from rfl, fresh_declared, List.filter_filter]
    refine List.filter_congr fun b _ => ?_
    rw [Bool.decide_and, Bool.and_comm]
  · intro dependency hmem
    obtain ⟨decl, hdecl, hdependency⟩ := mem_declared_iff.mp hmem
    exact hnew decl hdecl (Declaration.mem_modules_of_dependency? hdependency).1

/-- Modules that depend on each other in a circle, one of them on itself as well, with a dependency
that is declared twice; and a module that was not declared. -/
theorem loadOrder_ofDeclarations_circle :
    let decls : List Declaration :=
      [.depends "app" "feature", .depends "app" "ui", .depends "feature" "core",
        .depends "ui" "ui", .depends "ui" "icons", .depends "ui" "core", .depends "core" "app",
        .depends "app" "feature", .add "tools"]
    let order := (ofDeclarations decls).loadOrder "app"
    let graph := declaredGraph decls
    order = ["app", "feature", "ui", "core", "icons"] ∧
      (order.Pairwise fun a b =>
        ∀ m n, graph.Distance "app" m a → graph.Distance "app" n b → m ≤ n) ∧
      ((order.tail.filter fun b => graph.discoverer? order b = some "app") =
        (declared decls "app").filter fun b => b ≠ "app" ∧ graph.discoverer? order b = some "app") ∧
      (∀ decl ∈ decls, "web" ∉ decl.modules) ∧
      (ofDeclarations decls).loadOrder "web" = ["web"] := by
  intro decls order graph
  have hnew : ∀ decl ∈ decls, "web" ∉ decl.modules := by decide
  obtain ⟨-, -, -, hdistance, hdiscovered, -⟩ := loadOrder_ofDeclarations decls "app"
  obtain ⟨-, -, -, -, -, halone⟩ := loadOrder_ofDeclarations decls "web"
  exact ⟨by decide +kernel, hdistance, hdiscovered "app", hnew, halone hnew⟩

end SetterResolution.ModuleGraph
