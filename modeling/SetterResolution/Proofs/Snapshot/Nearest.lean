import SetterResolution.Proofs.Graph.Levels
import SetterResolution.Proofs.Registry.Merge
import SetterResolution.Snapshot.Layout

/-!
# The nearest module wins

A module sees the tables of its own file and of the files of all modules that it depends on,
directly or not. The files are merged in breadth-first order and no entry replaces another one, so
under every key there is what the first file in this order has that has anything there. A file that
is missing, or that is no snapshot, has no tables at all
(`SetterResolution.Layout.tables?`), and it is as if its module did not stand in the order.

That nearer modules come first is a fact about breadth-first order
(`SetterResolution.Graph.pairwise_breadthFirst`). It holds in any graph, also where modules depend
on each other in a circle or where several ways lead to one module.

The main statement is `SetterResolution.Layout.loadMerged_nearest`.
-/

namespace SetterResolution

open Std (ExtTreeMap)

namespace Tables

/-- **The first of many tables**: where tables are merged one after another, the first of them that
has an entry under a key decides. -/
theorem lookup?_foldl_merge {α : Type} (tablesOf : α → Tables) (names : List α) (tables : Tables)
    (key : EntryKey) :
    (names.foldl (fun merged name => merged.merge (tablesOf name)) tables).lookup? key =
      (tables.lookup? key).or (names.findSome? fun name => (tablesOf name).lookup? key) := by
  induction names generalizing tables with
  | nil => rw [List.foldl_nil, List.findSome?_nil, Option.or_none]
  | cons name rest ih =>
    rw [List.foldl_cons, ih, lookup?_merge, Option.or_assoc, List.findSome?_cons]
    cases (tablesOf name).lookup? key <;> rfl

end Tables

namespace Layout

variable {layout : Layout} {disk : Disk} {graph : ModuleGraph} {name winner : String}
  {key : EntryKey} {entry : Entry}

/-! ### What a file has -/

/-- The tables in the file of a module, if the file can be read and is a snapshot of one schema or
the other. -/
def tables? (layout : Layout) (disk : Disk) (name : String) : Option Tables :=
  (disk.read (layout.path name)).toOption.bind fun bytes => (Snapshot.decode bytes).toOption

/-- The file of a module has an entry under a key. -/
def Provides (layout : Layout) (disk : Disk) (name : String) (key : EntryKey) (entry : Entry) :
    Prop :=
  ∃ tables, layout.tables? disk name = some tables ∧ tables.lookup? key = some entry

/-- Of the modules that `name` sees, `winner` is the first in load order whose file has an entry
under a key. -/
structure Wins (layout : Layout) (disk : Disk) (graph : ModuleGraph) (name : String)
    (key : EntryKey) (winner : String) (entry : Entry) : Prop where
  /-- Its file has the entry. -/
  provides : layout.Provides disk winner key entry
  /-- No file of a module that is loaded before has one. -/
  first : ∃ before after, graph.loadOrder name = before ++ winner :: after ∧
    ∀ module ∈ before, ∀ other, ¬ layout.Provides disk module key other

theorem provides_iff : layout.Provides disk name key entry ↔
    (layout.tables? disk name).bind (·.lookup? key) = some entry :=
  Option.bind_eq_some_iff.symm

variable (layout disk) in
/-- Whether a file is missing or damaged makes no difference. -/
theorem readOrEmpty_eq_getD (name : String) :
    Snapshot.readOrEmpty disk (layout.path name) = (layout.tables? disk name).getD .empty := by
  rw [Snapshot.readOrEmpty, Snapshot.read, tables?]
  cases disk.read (layout.path name) with
  | error error => cases error <;> rfl
  | ok bytes =>
    have hbytes : (Except.ok bytes : Except FileError (List UInt8)).toOption = some bytes := rfl
    rw [hbytes, Option.bind_some]
    dsimp only
    cases Snapshot.decode bytes <;> rfl

theorem lookup?_readOrEmpty_eq_some_iff :
    (Snapshot.readOrEmpty disk (layout.path name)).lookup? key = some entry ↔
      layout.Provides disk name key entry := by
  rw [readOrEmpty_eq_getD, Provides]
  cases layout.tables? disk name with
  | none => simp [Tables.lookup?_empty]
  | some tables => simp

theorem lookup?_readOrEmpty_eq_none_iff :
    (Snapshot.readOrEmpty disk (layout.path name)).lookup? key = none ↔
      ∀ entry, ¬ layout.Provides disk name key entry := by
  simp only [← lookup?_readOrEmpty_eq_some_iff, Option.eq_none_iff_forall_ne_some, ne_eq]

/-! ### What a module sees -/

theorem lookup?_loadMerged : (layout.loadMerged disk graph name).lookup? key =
    (graph.loadOrder name).findSome? fun module =>
      (Snapshot.readOrEmpty disk (layout.path module)).lookup? key := by
  rw [loadMerged, Tables.lookup?_foldl_merge, Tables.lookup?_empty, Option.none_or]

/-- **The first file that has a key decides.** -/
theorem lookup?_loadMerged_eq_some_iff :
    (layout.loadMerged disk graph name).lookup? key = some entry ↔
      ∃ winner, layout.Wins disk graph name key winner entry := by
  rw [lookup?_loadMerged, List.findSome?_eq_some_iff]
  simp only [lookup?_readOrEmpty_eq_some_iff, lookup?_readOrEmpty_eq_none_iff]
  constructor
  · rintro ⟨before, winner, after, horder, hprovides, hfirst⟩
    exact ⟨winner, hprovides, before, after, horder, hfirst⟩
  · rintro ⟨winner, hprovides, before, after, horder, hfirst⟩
    exact ⟨before, winner, after, horder, hprovides, hfirst⟩

/-- **A key is not there** if, and only if, no file has it that the module sees. -/
theorem lookup?_loadMerged_eq_none_iff :
    (layout.loadMerged disk graph name).lookup? key = none ↔
      ∀ module n, graph.dependencyGraph.Leads name n module →
        ∀ entry, ¬ layout.Provides disk module key entry := by
  rw [lookup?_loadMerged, List.findSome?_eq_none_iff]
  simp only [lookup?_readOrEmpty_eq_none_iff, ModuleGraph.loadOrder, Graph.mem_breadthFirst_iff]
  exact ⟨fun h module n hleads => h module ⟨n, hleads⟩, fun h module ⟨n, hleads⟩ =>
    h module n hleads⟩

/-- The module itself comes first. -/
theorem Wins.of_provides (h : layout.Provides disk name key entry) :
    layout.Wins disk graph name key name entry where
  provides := h
  first := by
    obtain ⟨rest, horder⟩ := Graph.breadthFirst_eq_cons graph.dependencyGraph name
    exact ⟨[], rest, horder, fun module hmem => by cases hmem⟩

/-- **What a module's own file has** is found, whatever the module depends on. -/
theorem lookup?_loadMerged_of_own (graph : ModuleGraph)
    (h : (Snapshot.readOrEmpty disk (layout.path name)).lookup? key = some entry) :
    (layout.loadMerged disk graph name).lookup? key = some entry :=
  lookup?_loadMerged_eq_some_iff.mpr
    ⟨name, .of_provides (lookup?_readOrEmpty_eq_some_iff.mp h)⟩

/-- A module that depends on nothing sees its own file. -/
theorem loadMerged_of_no_dependencies (h : graph.dependencies name = []) :
    layout.loadMerged disk graph name = Snapshot.readOrEmpty disk (layout.path name) := by
  have horder : graph.loadOrder name = [name] := Graph.breadthFirst_eq_singleton h
  rw [loadMerged, horder, List.foldl_cons, List.foldl_nil, Tables.empty_merge]

/-- **No nearer module has the key**: what is loaded later than the winner is not nearer. -/
theorem Wins.nearest (h : layout.Wins disk graph name key winner entry) :
    ∃ n, graph.dependencyGraph.Distance name n winner ∧
      ∀ m < n, ∀ module, graph.dependencyGraph.Distance name m module →
        ∀ other, ¬ layout.Provides disk module key other := by
  obtain ⟨before, after, horder, hfirst⟩ := h.first
  have hpairwise := Graph.pairwise_breadthFirst graph.dependencyGraph name
  rw [ModuleGraph.loadOrder] at horder
  have hmem {module : String} {m : Nat}
      (hdistance : graph.dependencyGraph.Distance name m module) :
      module ∈ before ++ winner :: after :=
    horder ▸ Graph.mem_breadthFirst_iff.mpr ⟨m, hdistance.leads⟩
  obtain ⟨length, hleads⟩ := Graph.mem_breadthFirst_iff.mp
    (horder ▸ List.mem_append_right before List.mem_cons_self)
  obtain ⟨n, -, hwinner⟩ := hleads.exists_distance
  refine ⟨n, hwinner, fun m hm module hdistance => ?_⟩
  rcases List.mem_append.mp (hmem hdistance) with hbefore | hnot
  · exact hfirst module hbefore
  · rcases List.mem_cons.mp hnot with rfl | hafter
    · exact absurd (hdistance.unique hwinner) (Nat.ne_of_lt hm)
    · rw [horder] at hpairwise
      have hle := (List.pairwise_cons.mp (List.pairwise_append.mp hpairwise).2.1).1 module hafter
        n m hwinner hdistance
      omega

/-- Modules without tables might as well not be loaded. -/
theorem foldl_merge_filterMap (names : List String) (tables : Tables) :
    names.foldl (fun merged name =>
        merged.merge (Snapshot.readOrEmpty disk (layout.path name))) tables =
      (names.filterMap (layout.tables? disk)).foldl Tables.merge tables := by
  induction names generalizing tables with
  | nil => rfl
  | cons name rest ih =>
    rw [List.foldl_cons, ih, readOrEmpty_eq_getD, List.filterMap_cons]
    cases layout.tables? disk name with
    | none => rw [Option.getD_none, Tables.merge_empty]
    | some found => rfl

/-- **The nearest module wins.** Under every key of each of the five tables, a module finds what the
first file in its load order has that has anything there; it finds nothing if, and only if, no file
of a module that it sees has anything. So what its own file has is always found, and no module that
is nearer than the winner has the key. Files that are missing or damaged change nothing: the same
tables are merged as if their modules were not in the order. -/
theorem loadMerged_nearest (layout : Layout) (disk : Disk) (graph : ModuleGraph) (name : String) :
    let merged := layout.loadMerged disk graph name
    (∀ key entry, merged.lookup? key = some entry ↔
      ∃ winner, layout.Wins disk graph name key winner entry) ∧
    (∀ key, merged.lookup? key = none ↔
      ∀ module n, graph.dependencyGraph.Leads name n module →
        ∀ entry, ¬ layout.Provides disk module key entry) ∧
    (∀ key entry, layout.Provides disk name key entry → merged.lookup? key = some entry) ∧
    (∀ key winner entry, layout.Wins disk graph name key winner entry →
      ∃ n, graph.dependencyGraph.Distance name n winner ∧
        ∀ m < n, ∀ module, graph.dependencyGraph.Distance name m module →
          ∀ other, ¬ layout.Provides disk module key other) ∧
    merged = ((graph.loadOrder name).filterMap (layout.tables? disk)).foldl .merge .empty := by
  intro merged
  refine ⟨fun key entry => lookup?_loadMerged_eq_some_iff,
    fun key => lookup?_loadMerged_eq_none_iff, fun key entry hown => ?_,
    fun key winner entry hwins => hwins.nearest, foldl_merge_filterMap _ _⟩
  exact lookup?_loadMerged_eq_some_iff.mpr ⟨name, .of_provides hown⟩

/-- The app depends on two libraries that depend on a third, and that on the app again. The file of
the first library is damaged and the app has none, so that the second library wins. -/
theorem loadMerged_nearest_circle :
    let layout : Layout := { suffix := ".bin" }
    let entry (owner : String) : Entry :=
      .adapter ⟨"hint"⟩ ⟨.named "View", .named "String"⟩ ⟨.named owner, "bind"⟩
    let tables (owner : String) : Tables :=
      { adapters := Nested.put ∅ ⟨"hint"⟩ ⟨.named "View", .named "String"⟩
          ⟨.named owner, "bind"⟩ }
    let file (owner : String) : Disk.Node := .file (Snapshot.encode (tables owner))
    let disk : Disk :=
      { nodes := ((ExtTreeMap.empty.insert ["left.bin"] (.file [0])).insert ["right.bin"]
          (file "Right")).insert ["base.bin"] (file "Base") }
    let graph := ((((ModuleGraph.empty.addDependency "app" "left").addDependency "app" "right")
      |>.addDependency "left" "base").addDependency "right" "base").addDependency "base" "app"
    layout.Wins disk graph "app" (entry "Right").key "right" (entry "Right") ∧
      (layout.loadMerged disk graph "app").lookup? (entry "Right").key = some (entry "Right") ∧
      ∃ n, graph.dependencyGraph.Distance "app" n "right" ∧
        ∀ m < n, ∀ module, graph.dependencyGraph.Distance "app" m module →
          ∀ other, ¬ layout.Provides disk module (entry "Right").key other := by
  intro layout entry tables file disk graph
  have hright : layout.Provides disk "right" (entry "Right").key (entry "Right") :=
    provides_iff.mpr (by decide +kernel)
  have horder : graph.loadOrder "app" = ["app", "left", "right", "base"] := by decide +kernel
  have hnone : ∀ module ∈ ["app", "left"],
      (layout.tables? disk module).bind (·.lookup? (entry "Right").key) = none := by
    decide +kernel
  have hwins : layout.Wins disk graph "app" (entry "Right").key "right" (entry "Right") := by
    refine ⟨hright, ["app", "left"], ["base"], horder, fun module hmem other hother => ?_⟩
    rw [provides_iff, hnone module hmem] at hother
    cases hother
  obtain ⟨hfinds, -, -, hnearest, -⟩ := loadMerged_nearest layout disk graph "app"
  exact ⟨hwins, (hfinds _ _).mpr ⟨"right", hwins⟩, hnearest _ _ _ hwins⟩

end Layout

end SetterResolution
