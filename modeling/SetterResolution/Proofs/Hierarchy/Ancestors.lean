import Mathlib.Logic.Basic
import SetterResolution.Hierarchy.Supertypes
import SetterResolution.Proofs.Graph.Levels

/-!
# What a type inherits from

A type inherits from itself, from all types that its declared supertypes lead to, and from the root.
The ancestors of a type are listed by a walk along the declared supertypes, behind which the root is
put if the walk did not come to it. So the list, with the type itself at its head, has just the
types that it inherits from (`SetterResolution.Hierarchy.mem_cons_ancestors_iff`), and a type comes
before another one only if it is no farther away
(`SetterResolution.Hierarchy.pairwise_cons_ancestors`).

How far a type is away is a matter of the declared supertypes alone. The root is farther than
everything unless these lead to it. And a type may well be as near as one that is below it: it can
be declared to be a direct supertype though another direct supertype leads to it as well.
-/

namespace SetterResolution.Hierarchy

variable (h : Hierarchy)

/-- One type inherits from another one: declared supertypes lead to it, or it is the root. -/
def Inherits (sub sup : String) : Prop :=
  (∃ n, h.supertypeGraph.Leads sub n sup) ∨ h.root = some sup

/-- One type is a proper subtype of another one. -/
def Below (sub sup : String) : Prop :=
  h.Inherits sub sup ∧ sub ≠ sup

/-- No supertypes that are declared lead from a type back to itself. -/
def Acyclic : Prop :=
  ∀ name n, ¬ h.supertypeGraph.Leads name (n + 1) name

/-- Seen from `name`, one type is not farther away than another one. -/
def NoFarther (name a b : String) : Prop :=
  ∃ n, h.supertypeGraph.Leads name n a ∧ ∀ m, h.supertypeGraph.Leads name m b → n ≤ m

/-- Seen from `name`, one type is nearer than another one. -/
def Nearer (name a b : String) : Prop :=
  ∃ n, h.supertypeGraph.Leads name n a ∧ ∀ m, h.supertypeGraph.Leads name m b → n < m

variable {h}

theorem NoFarther.not_nearer {name a b : String} (hab : h.NoFarther name a b) :
    ¬ h.Nearer name b a := by
  rintro ⟨m, hb, hm⟩
  obtain ⟨n, ha, hn⟩ := hab
  have hle := hn m hb
  have hlt := hm n ha
  omega

/-- Of two types on different levels of the walk, the one on the lower level is nearer. -/
theorem nearer_of_mem_level {name a b : String} {n m : Nat}
    (ha : a ∈ Graph.level h.supertypeGraph name n) (hb : b ∈ Graph.level h.supertypeGraph name m)
    (hlt : n < m) : h.Nearer name a b := by
  refine ⟨n, (Graph.mem_level_iff.mp ha).leads, fun k hk => Nat.lt_of_lt_of_le hlt ?_⟩
  exact Nat.le_of_not_lt fun hshort => (Graph.mem_level_iff.mp hb).least k hshort hk

/-- A hierarchy is acyclic if its types can be ranked such that all supertypes have a lower rank. -/
theorem acyclic_of_rank (rank : String → Nat)
    (hrank : ∀ sub ∈ h.types.keys, ∀ sup ∈ h.supertypes sub, rank sup < rank sub) :
    h.Acyclic := by
  have hleads {name : String} (n : Nat) :
      ∀ sup, h.supertypeGraph.Leads name n sup → rank sup + n ≤ rank name := by
    induction n with
    | zero =>
      intro sup hzero
      rw [Graph.Digraph.leads_zero_iff.mp hzero]
      exact Nat.le_refl _
    | succ n ih =>
      intro sup hsucc
      obtain ⟨sub, hsub, hsup⟩ := Graph.Digraph.leads_succ_iff.mp hsucc
      have hlt := hrank sub (mem_keys_of_mem_supertypes hsup) sup hsup
      have hle := ih sub hsub
      omega
  intro name n hcircle
  have hle := hleads (n + 1) name hcircle
  omega

variable (h)

/-- The ancestors behind the type itself are the walk, and then the root if it is not in it. -/
theorem cons_ancestors (name : String) :
    name :: h.ancestors name = Graph.breadthFirst h.supertypeGraph name ++
      h.root.toList.filter fun root => root ∉ Graph.breadthFirst h.supertypeGraph name := by
  obtain ⟨rest, hwalk⟩ := Graph.breadthFirst_eq_cons h.supertypeGraph name
  rw [ancestors, hwalk]
  rfl

variable {h}

/-- **The ancestors of a type**, with the type itself, are what it inherits from. -/
theorem mem_cons_ancestors_iff {name sup : String} :
    sup ∈ name :: h.ancestors name ↔ h.Inherits name sup := by
  rw [cons_ancestors, List.mem_append, List.mem_filter, decide_eq_true_iff, Option.mem_toList,
    Graph.mem_breadthFirst_iff, Inherits]
  exact or_congr_right' fun hnot => and_iff_left hnot

variable (h) in
/-- **Nearer ancestors come first**, and the root comes last unless declared supertypes lead to
it. -/
theorem pairwise_cons_ancestors (name : String) :
    (name :: h.ancestors name).Pairwise (h.NoFarther name) := by
  rw [cons_ancestors, List.pairwise_append]
  refine ⟨?_, ?_, ?_⟩
  · refine (Graph.pairwise_breadthFirst h.supertypeGraph name).imp_of_mem ?_
    intro a b ha hb hle
    obtain ⟨_, hleads⟩ := Graph.mem_breadthFirst_iff.mp ha
    obtain ⟨n, -, hn⟩ := hleads.exists_distance
    refine ⟨n, hn.leads, fun m hm => ?_⟩
    obtain ⟨k, hk, hdistance⟩ := hm.exists_distance
    exact Nat.le_trans (hle n k hn hdistance) hk
  · cases h.root with
    | none => exact .nil
    | some root => exact (List.pairwise_singleton _ root).filter _
  · intro a ha root hroot
    obtain ⟨n, hn⟩ := Graph.mem_breadthFirst_iff.mp ha
    have hnot := of_decide_eq_true (List.mem_filter.mp hroot).2
    exact ⟨n, hn, fun m hm => absurd (Graph.mem_breadthFirst_iff.mpr ⟨m, hm⟩) hnot⟩

end SetterResolution.Hierarchy
