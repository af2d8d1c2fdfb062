import SetterResolution.Proofs.Graph.Rounds
import SetterResolution.Proofs.Hierarchy.Ancestors

/-!
# The ancestors are all that supertypes lead to

The ancestors of a type were said, together with the type itself, to be what it inherits from. Here
the list is taken by itself. A type is no ancestor of its own, even if supertypes lead back to it,
and no ancestor is listed twice (`SetterResolution.Hierarchy.nodup_cons_ancestors`). So the list has
just the types that one or more supertype steps lead to, but for the type itself, and the root
(`SetterResolution.Hierarchy.mem_ancestors_iff`). How many steps lead to a type is a matter of the
declared supertypes, and by this number the types are ordered; the root has no part in this unless
declared supertypes lead to it, and otherwise it is last
(`SetterResolution.Hierarchy.getLast?_ancestors`).

The main statement is `SetterResolution.Hierarchy.ancestors_closure`.
-/

namespace SetterResolution.Hierarchy

variable {h : Hierarchy} {name sup root : String}

/-- **The walk for the ancestors** is over after one round for the type itself and one for each type
that it finds, and the root is put behind these unless it is among them. -/
theorem exists_iterate_round (h : Hierarchy) (name : String) : ∃ reached,
    (Graph.Progress.round h.supertypeGraph)^[reached.length + 1] (.start name) =
      ⟨[], name :: reached⟩ ∧
    h.ancestors name = reached ++ h.root.toList.filter (· ∉ name :: reached) := by
  obtain ⟨reached, hwalk⟩ := Graph.breadthFirst_eq_cons h.supertypeGraph name
  have hrounds := Graph.iterate_round_start h.supertypeGraph name
  rw [hwalk, List.length_cons] at hrounds
  refine ⟨reached, hrounds, ?_⟩
  rw [ancestors, hwalk]
  rfl

/-- **No type is listed twice**, and a type is no ancestor of its own. -/
theorem nodup_cons_ancestors (h : Hierarchy) (name : String) :
    (name :: h.ancestors name).Nodup := by
  rw [cons_ancestors, List.nodup_append]
  refine ⟨Graph.nodup_breadthFirst h.supertypeGraph name, ?_, ?_⟩
  · cases h.root with
    | none => exact .nil
    | some root => exact (List.nodup_singleton root).filter _
  · rintro reached hreached root hroot rfl
    exact of_decide_eq_true (List.mem_filter.mp hroot).2 hreached

/-- Between two different types, steps are one step or more. -/
theorem exists_leads_succ_iff (hne : sup ≠ name) :
    (∃ n, h.supertypeGraph.Leads name (n + 1) sup) ↔ ∃ n, h.supertypeGraph.Leads name n sup := by
  constructor
  · rintro ⟨n, hleads⟩
    exact ⟨n + 1, hleads⟩
  · rintro ⟨n, hleads⟩
    cases n with
    | zero => exact absurd (Graph.Digraph.leads_zero_iff.mp hleads) hne
    | succ n => exact ⟨n, hleads⟩

/-- **The ancestors** are the other types that supertype steps lead to, and the root. -/
theorem mem_ancestors_iff : sup ∈ h.ancestors name ↔
    sup ≠ name ∧ ((∃ n, h.supertypeGraph.Leads name (n + 1) sup) ∨ h.root = some sup) := by
  have hnot := (List.nodup_cons.mp (h.nodup_cons_ancestors name)).1
  constructor
  · intro hsup
    have hne : sup ≠ name := fun heq => hnot (heq ▸ hsup)
    rw [exists_leads_succ_iff hne]
    exact ⟨hne, mem_cons_ancestors_iff.mp (List.mem_cons_of_mem name hsup)⟩
  · rintro ⟨hne, hsup⟩
    rw [exists_leads_succ_iff hne] at hsup
    exact (List.mem_cons.mp (mem_cons_ancestors_iff.mpr hsup)).resolve_left hne

theorem NoFarther.le_of_distance {a b : String} {m n : Nat} (hab : h.NoFarther name a b)
    (ha : h.supertypeGraph.Distance name m a) (hb : h.supertypeGraph.Distance name n b) :
    m ≤ n := by
  obtain ⟨k, hk, hleast⟩ := hab
  have hm : m ≤ k := Nat.le_of_not_lt fun hlt => ha.least k hlt hk
  exact Nat.le_trans hm (hleast n hb.leads)

/-- **The root comes last** if no supertype steps lead to it. -/
theorem getLast?_ancestors (hroot : h.root = some root) (hne : root ≠ name)
    (hnot : ∀ n, ¬ h.supertypeGraph.Leads name (n + 1) root) :
    (h.ancestors name).getLast? = some root := by
  have hnew : root ∉ Graph.breadthFirst h.supertypeGraph name := by
    rw [Graph.mem_breadthFirst_iff, ← exists_leads_succ_iff hne]
    exact fun ⟨n, hleads⟩ => hnot n hleads
  rw [ancestors, hroot]
  simp [hnew]

/-- **The ancestors of a type are the closure of its declared supertypes, in order of distance.**
Whatever a hierarchy declares, the walk for them is over after one round for each type that it
finds. No type is listed twice, and the type itself is not listed. All types are listed that one or
more supertype steps lead to, and the root, and no others. Of two types that steps lead to, none
comes before one to which fewer steps lead; and the root comes last if no steps lead to it. -/
theorem ancestors_closure (h : Hierarchy) (name : String) :
    let order := h.ancestors name
    let graph := h.supertypeGraph
    (∃ reached, (Graph.Progress.round graph)^[reached.length + 1] (.start name) =
        ⟨[], name :: reached⟩ ∧ order = reached ++ h.root.toList.filter (· ∉ name :: reached)) ∧
    order.Nodup ∧ name ∉ order ∧
    (∀ sup, sup ∈ order ↔
      sup ≠ name ∧ ((∃ n, graph.Leads name (n + 1) sup) ∨ h.root = some sup)) ∧
    (order.Pairwise fun a b => ∀ m n, graph.Distance name m a → graph.Distance name n b → m ≤ n) ∧
    (∀ root, h.root = some root → root ≠ name → (∀ n, ¬ graph.Leads name (n + 1) root) →
      order.getLast? = some root) := by
  intro order graph
  obtain ⟨hself, hnodup⟩ := List.nodup_cons.mp (h.nodup_cons_ancestors name)
  have hordered := (List.pairwise_cons.mp (h.pairwise_cons_ancestors name)).2
  refine ⟨h.exists_iterate_round name, hnodup, hself, fun sup => mem_ancestors_iff,
    hordered.imp ?_, fun root hroot hne hnot => getLast?_ancestors hroot hne hnot⟩
  intro a b hab m n ha hb
  exact hab.le_of_distance ha hb

/-- Two classes that extend each other, and a type that two ways of different length lead to. The
root is no declared supertype of any of them. -/
theorem ancestors_closure_circle :
    let h := Hierarchy.standard.declareClass "Leaf" (some "Node")
      |>.declareImplements "Leaf" "Linked" |>.declareClass "Node" (some "Cell")
      |>.declareClass "Cell" (some "Node") |>.declareImplements "Cell" "Table"
      |>.declareImplements "Cell" "Linked"
    h.ancestors "Leaf" = ["Node", "Linked", "Cell", "Table", "Object"] ∧
      h.ancestors "Node" = ["Cell", "Table", "Linked", "Object"] ∧
      h.supertypeGraph.Leads "Node" 2 "Node" ∧ h.root = some "Object" ∧
      (∀ n, ¬ h.supertypeGraph.Leads "Node" (n + 1) "Object") ∧
      (h.ancestors "Node").getLast? = some "Object" := by
  intro h
  have hcell : "Cell" ∈ h.supertypeGraph.next "Node" := by decide +kernel
  have hnode : "Node" ∈ h.supertypeGraph.next "Cell" := by decide +kernel
  have hroot : h.root = some "Object" := by decide +kernel
  have hwalk : "Object" ∉ Graph.breadthFirst h.supertypeGraph "Node" := by decide +kernel
  have hnot : ∀ n, ¬ h.supertypeGraph.Leads "Node" (n + 1) "Object" := fun n hleads =>
    hwalk (Graph.mem_breadthFirst_iff.mpr ⟨n + 1, hleads⟩)
  obtain ⟨-, -, -, -, -, hlast⟩ := ancestors_closure h "Node"
  exact ⟨by decide +kernel, by decide +kernel, .arrow (.arrow .here hcell) hnode, hroot, hnot,
    hlast "Object" hroot (by decide) hnot⟩

end SetterResolution.Hierarchy
