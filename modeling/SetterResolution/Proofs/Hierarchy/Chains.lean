import Mathlib.Order.Bounds.Defs
import SetterResolution.Proofs.Hierarchy.Depth

/-!
# Depth is the length of the longest chain

How deep a type stands was computed by a search. Here it is compared with what it measures: the
chains of steps up that start at the type. A step leads to a declared supertype; from a type that
has none, and is not the root itself, it leads to the root
(`SetterResolution.Hierarchy.stepGraph`). So the chains are those of a graph, and a chain may go
through names that are not declared, which have no supertypes and are one step below the root.

Each step makes what is left of the search shorter, so that no chain is longer than the depth
(`SetterResolution.Hierarchy.chainLength_add_le_of_leads`). On the other hand a search that has
not ended has a step that it follows (`SetterResolution.Hierarchy.exists_step`), so that some chain
is as long as the depth. Both rest on there being no circles: then it does not matter to the search
through which types it came, and types that are reached on several ways are measured in full on
each of them.

The main statement is `SetterResolution.Hierarchy.depth_isGreatest`.
-/

namespace SetterResolution.Hierarchy

variable {h : Hierarchy} {name parent sub sup top : String} {n : Nat}

/-! ### Steps up -/

variable (h) in
/-- The graph of the steps up: from a type to its declared supertypes, or to the root if it has none
and is not the root itself. -/
def stepGraph : Graph.Digraph String where
  next name :=
    if h.supertypes name = [] then h.root.toList.filter (· ≠ name) else h.supertypes name
  nodes := h.supertypeNames ++ h.root.toList
  mem_nodes {name parent} hparent := by
    split at hparent
    · exact List.mem_append_right _ (List.mem_filter.mp hparent).1
    · exact List.mem_append_left _ (mem_supertypeNames hparent)

/-- **A step up** leads to a declared supertype, or from a type without any to the root. -/
theorem mem_next_stepGraph_iff : parent ∈ h.stepGraph.next name ↔
    parent ∈ h.supertypes name ∨ h.supertypes name = [] ∧ h.root = some parent ∧ parent ≠ name := by
  show parent ∈ (if h.supertypes name = [] then _ else _) ↔ _
  by_cases hnone : h.supertypes name = []
  · simp [hnone]
  · simp [hnone]

/-- What is left above a supertype is shorter than what is left above the type. -/
theorem chainLength_lt_of_step (hroot : h.RootOnTop) (hacyclic : h.Acyclic)
    (hstep : parent ∈ h.stepGraph.next name) : h.chainLength [] parent < h.chainLength [] name := by
  rcases mem_next_stepGraph_iff.mp hstep with hparent | ⟨-, hr, hne⟩
  · exact chainLength_lt hacyclic hparent
  · rw [chainLength_root hroot hr]
    exact chainLength_pos hr (Ne.symm hne)

/-- **No chain is longer** than what the search finds. -/
theorem chainLength_add_le_of_leads (hroot : h.RootOnTop) (hacyclic : h.Acyclic)
    (hleads : h.stepGraph.Leads name n top) :
    h.chainLength [] top + n ≤ h.chainLength [] name := by
  induction hleads with
  | here => exact Nat.le_refl _
  | arrow _ hstep ih =>
    have hlt := chainLength_lt_of_step hroot hacyclic hstep
    omega

/-- A search that has not ended goes on with a step after which one less is left. -/
theorem exists_step (hroot : h.RootOnTop) (hacyclic : h.Acyclic)
    (hlength : h.chainLength [] name = n + 1) :
    ∃ parent, parent ∈ h.stepGraph.next name ∧ h.chainLength [] parent = n := by
  simp only [mem_next_stepGraph_iff]
  rcases chainLength_cases List.not_mem_nil with ⟨hnone, heq⟩ | ⟨parent, hparent, heq⟩
  · -- without supertypes the one step that there is leads to the root
    rw [heq, rootStep] at hlength
    split at hlength
    next hstep =>
      obtain ⟨root, hr⟩ := Option.isSome_iff_exists.mp hstep.1
      have hne : root ≠ name := fun heq => hstep.2 (heq ▸ hr)
      refine ⟨root, Or.inr ⟨hnone, hr, hne⟩, ?_⟩
      rw [chainLength_root hroot hr]
      omega
    next => omega
  · rw [heq, chainLength_singleton hacyclic hparent] at hlength
    exact ⟨parent, Or.inl hparent, by omega⟩

/-- **Some chain is as long** as what the search finds. -/
theorem exists_leads_chainLength (hroot : h.RootOnTop) (hacyclic : h.Acyclic)
    (hlength : h.chainLength [] name = n) : ∃ top, h.stepGraph.Leads name n top := by
  induction n generalizing name with
  | zero => exact ⟨name, .here⟩
  | succ n ih =>
    obtain ⟨parent, hstep, hparent⟩ := exists_step hroot hacyclic hlength
    obtain ⟨top, hleads⟩ := ih hparent
    have hfirst : h.stepGraph.Leads name 1 parent := .arrow .here hstep
    rw [Nat.add_comm]
    exact ⟨top, hfirst.trans hleads⟩

/-! ### Depth -/

/-- **The depth of a declared type is the length of the longest chain of steps up** that starts at
its name without type arguments, if there are no circles and the root has no supertypes. So of two
declared types that differ in more than their type arguments, one that may be assigned to the other
stands deeper. -/
theorem depth_isGreatest (h : Hierarchy) (hroot : h.RootOnTop) (hacyclic : h.Acyclic) :
    (∀ type name, type.erasure = .named name →
      IsGreatest {n | ∃ top, h.stepGraph.Leads name n top} (h.depth type)) ∧
    (∀ source target sub sup, source.erasure = .named sub → target.erasure = .named sup →
      sub ≠ sup → h.accepts target source → h.depth target < h.depth source) := by
  constructor
  · intro type name htype
    rw [depth_of_erasure_named htype]
    refine ⟨exists_leads_chainLength hroot hacyclic rfl, ?_⟩
    rintro n ⟨top, hleads⟩
    have hle := chainLength_add_le_of_leads hroot hacyclic hleads
    omega
  · intro source target sub sup hsource htarget hne haccepts
    have hconforms := accepts_iff.mp haccepts
    rw [hsource, htarget] at hconforms
    cases hconforms with
    | named hinherits =>
      rw [depth_of_erasure_named hsource, depth_of_erasure_named htarget]
      exact chainLength_lt_of_below hroot hacyclic ⟨hinherits, hne⟩

/-- Two ways lead from a class to an interface: through its superclass, and through two other
interfaces. The second one is longer, and from there it is one step to the root. -/
theorem depth_isGreatest_two_ways :
    let h := Hierarchy.standard.declareClass "Shelf" (some "Furniture")
      |>.declareImplements "Furniture" "Store" |>.declareImplements "Shelf" "Rack"
      |>.declareImplements "Rack" "Frame" |>.declareImplements "Frame" "Store"
    let shelf : HostType := .named "Shelf<Book>"
    let store : HostType := .named "Store"
    h.RootOnTop ∧ h.Acyclic ∧ shelf.erasure = .named "Shelf" ∧ h.depth shelf = 4 ∧
      IsGreatest {n | ∃ top, h.stepGraph.Leads "Shelf" n top} (h.depth shelf) ∧
      h.accepts store shelf ∧ h.depth store < h.depth shelf := by
  intro h shelf store
  have hroot : h.RootOnTop := by decide +kernel
  have hacyclic : h.Acyclic := by decide +kernel
  have hshelf : shelf.erasure = .named "Shelf" := by decide +kernel
  have hstore : store.erasure = .named "Store" := by decide +kernel
  have haccepts : h.accepts store shelf := by decide +kernel
  obtain ⟨hlongest, hdeeper⟩ := depth_isGreatest h hroot hacyclic
  exact ⟨hroot, hacyclic, hshelf, by decide +kernel, hlongest shelf "Shelf" hshelf, haccepts,
    hdeeper shelf store "Shelf" "Store" hshelf hstore (by decide) haccepts⟩

end SetterResolution.Hierarchy
