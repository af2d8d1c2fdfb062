import Mathlib.Data.List.Nodup
import SetterResolution.Proofs.Graph.Levels

/-!
# From which node each node is discovered

A breadth-first walk finds every node but the first one from some node before it: from the first
node of the list that an arrow leads from (`SetterResolution.Graph.Digraph.discoverer?`). This file
says that the list is put together from what its nodes discover. Behind the start stand, for one
node of the list after the other, the nodes that are discovered from it, in the order of its arrows
(`SetterResolution.Graph.breadthFirst_eq_cons_flatMap`). Together with the start this determines the
list.

The proof follows the queue. A node at the head of the queue brings what has not been found before,
and whatever it brings is no more discovered from a later one; as no node is listed twice, the head
itself does not come again (`SetterResolution.Graph.walk_eq_append_flatMap`).
-/

namespace SetterResolution.Graph

variable {α : Type} [DecidableEq α]

/-! ### What is found anew -/

theorem nodup_fresh (seen found : List α) : (fresh seen found).Nodup := by
  induction found generalizing seen with
  | nil => exact .nil
  | cons a rest ih =>
    rw [fresh]
    split
    · exact ih seen
    · exact List.nodup_cons.mpr ⟨fun hmem => (mem_fresh_iff.mp hmem).2 List.mem_cons_self, ih _⟩

/-- What is found anew among nodes that are all different are those that were not found before. -/
theorem fresh_of_nodup (seen : List α) {found : List α} (h : found.Nodup) :
    fresh seen found = found.filter (· ∉ seen) := by
  induction found generalizing seen with
  | nil => rfl
  | cons a rest ih =>
    obtain ⟨ha, hrest⟩ := List.nodup_cons.mp h
    rw [fresh]
    split
    next hseen => rw [ih seen hrest, List.filter_cons_of_neg (by simpa using hseen)]
    next hseen =>
      rw [ih (a :: seen) hrest, List.filter_cons_of_pos (by simpa using hseen)]
      refine congrArg (a :: ·) (List.filter_congr fun b hb => ?_)
      have hne : b ≠ a := fun heq => ha (heq ▸ hb)
      simp [hne]

/-- What is found anew are the nodes that were not found before, each where it stands first. -/
theorem fresh_eq_eraseDups (seen found : List α) :
    fresh seen found = (found.filter (· ∉ seen)).eraseDups := by
  induction found generalizing seen with
  | nil => rfl
  | cons a rest ih =>
    rw [fresh]
    split
    next hseen => rw [ih, List.filter_cons_of_neg (by simpa using hseen)]
    next hseen =>
      rw [ih, List.filter_cons_of_pos (by simpa using hseen), List.eraseDups_cons,
        List.filter_filter]
      refine congrArg (a :: List.eraseDups ·) (List.filter_congr fun b _ => ?_)
      by_cases hab : b = a <;> simp [hab]

theorem fresh_nil_eq_eraseDups (found : List α) : fresh [] found = found.eraseDups := by
  rw [fresh_eq_eraseDups, List.filter_eq_self.mpr (by simp)]

theorem nodup_eraseDups (found : List α) : found.eraseDups.Nodup := by
  rw [← fresh_nil_eq_eraseDups]
  exact nodup_fresh _ _

/-- With more nodes found before, less is found anew. -/
theorem fresh_append_left (seen more found : List α) :
    fresh (seen ++ more) found = (fresh seen found).filter (· ∉ more) := by
  induction found generalizing seen with
  | nil => rfl
  | cons a rest ih =>
    rw [fresh, fresh]
    by_cases hseen : a ∈ seen
    · rw [if_pos (List.mem_append_left more hseen), if_pos hseen, ih]
    rw [if_neg hseen]
    by_cases hmore : a ∈ more
    · -- the node is left out, and it makes no difference whether it counts as seen
      have hsame : ∀ b, b ∈ seen ++ more ↔ b ∈ (a :: seen) ++ more := fun b => by
        simp only [List.cons_append, List.mem_cons, List.mem_append]
        exact ⟨Or.inr, fun hb => hb.elim (fun heq => Or.inr (heq ▸ hmore)) id⟩
      rw [if_pos (List.mem_append_right seen hmore), List.filter_cons_of_neg (by simpa using hmore),
        fresh_congr rest hsame, ih]
    · rw [if_neg (by simp [hseen, hmore]), List.filter_cons_of_pos (by simpa using hmore),
        ← List.cons_append, ih]

/-! ### No node is listed twice -/

variable {graph : Digraph α} {start : α}

theorem nodup_level (n : Nat) : (level graph start n).Nodup := by
  cases n with
  | zero => exact List.nodup_singleton start
  | succ n => exact nodup_fresh _ _

variable (graph start) in
/-- **Every node is listed once.** -/
theorem nodup_breadthFirst : (breadthFirst graph start).Nodup := by
  obtain ⟨n, -, hlist⟩ := breadthFirst_eq_levels graph start
  rw [hlist, List.nodup_flatMap]
  refine ⟨fun m _ => nodup_level m, List.pairwise_lt_range.imp fun hlt a ha hb => ?_⟩
  -- a node has just one distance
  have heq := (mem_level_iff.mp ha).unique (mem_level_iff.mp hb)
  omega

/-- The walk depends on the arrows alone, and not on what else is listed as a node. -/
theorem walk_congr {other : Digraph α} (h : ∀ a, graph.next a = other.next a)
    (queue seen : List α) : walk graph queue seen = walk other queue seen := by
  induction queue, seen using walk.induct graph with
  | case1 seen => rw [walk, walk]
  | case2 seen a rest ih => rw [walk, walk, ih, h]

/-! ### Discovery -/

/-- The first of the listed nodes from which an arrow leads to `a`. -/
def Digraph.discoverer? (graph : Digraph α) (order : List α) (a : α) : Option α :=
  order.find? fun b => a ∈ graph.next b

theorem discoverer?_cons_of_mem {a b : α} {order : List α} (h : b ∈ graph.next a) :
    graph.discoverer? (a :: order) b = some a :=
  List.find?_cons_of_pos (by simpa using h)

theorem discoverer?_cons_of_not_mem {a b : α} {order : List α} (h : b ∉ graph.next a) :
    graph.discoverer? (a :: order) b = graph.discoverer? order b :=
  List.find?_cons_of_neg (by simpa using h)

/-- **A walk lists its queue and what is discovered**: for one listed node after the other, what was
not seen before the walk and is discovered from that node. -/
theorem walk_eq_append_flatMap (queue seen : List α) (h : (walk graph queue seen).Nodup) :
    walk graph queue seen = queue ++ (walk graph queue seen).flatMap fun a =>
      (fresh seen (graph.next a)).filter fun b =>
        graph.discoverer? (walk graph queue seen) b = some a := by
  induction queue, seen using walk.induct graph with
  | case1 seen =>
    rw [walk]
    rfl
  | case2 seen a rest ih =>
    rw [walk] at h ⊢
    obtain ⟨ha, hnodup⟩ := List.nodup_cons.mp h
    have ih := ih hnodup
    generalize walk graph _ _ = after at ha ih ⊢
    -- the head discovers all that it brings
    have hhead : ((fresh seen (graph.next a)).filter fun b =>
        graph.discoverer? (a :: after) b = some a) = fresh seen (graph.next a) :=
      List.filter_eq_self.mpr fun b hb =>
        decide_eq_true (discoverer?_cons_of_mem (mem_fresh_iff.mp hb).1)
    -- what is discovered from a later node was not brought by the head
    have htail : ∀ c ∈ after,
        ((fresh (seen ++ fresh seen (graph.next a)) (graph.next c)).filter fun b =>
          graph.discoverer? after b = some c) =
        (fresh seen (graph.next c)).filter fun b =>
          graph.discoverer? (a :: after) b = some c := by
      intro c hc
      have hne : a ≠ c := fun heq => ha (heq ▸ hc)
      rw [fresh_append_left, List.filter_filter]
      refine List.filter_congr fun b hb => ?_
      have hnew := (mem_fresh_iff.mp hb).2
      by_cases hnext : b ∈ graph.next a
      · simp [mem_fresh_iff, hnext, hnew, discoverer?_cons_of_mem hnext, hne]
      · simp [mem_fresh_iff, hnext, discoverer?_cons_of_not_mem hnext]
    rw [List.flatMap_cons, hhead, ← List.flatMap_congr htail, List.cons_append, ← List.append_assoc,
      ← ih]

variable (graph start)

/-- **The list is what its nodes discover**, one after another, behind the start. -/
theorem breadthFirst_eq_cons_flatMap :
    breadthFirst graph start = start :: (breadthFirst graph start).flatMap fun a =>
      (fresh [start] (graph.next a)).filter fun b =>
        graph.discoverer? (breadthFirst graph start) b = some a :=
  walk_eq_append_flatMap [start] [start] (nodup_breadthFirst graph start)

omit [DecidableEq α] in
/-- Where all but one member of a list without repetition bring nothing, that one brings
everything. -/
theorem flatMap_eq_of_nodup {β : Type} {order : List α} (hnodup : order.Nodup) {a : α}
    (ha : a ∈ order) {f : α → List β} (h : ∀ c, c ≠ a → f c = []) : order.flatMap f = f a := by
  obtain ⟨before, after, rfl⟩ := List.append_of_mem ha
  obtain ⟨-, hafter, hbefore⟩ := List.nodup_append.mp hnodup
  have hnil {l : List α} (hl : a ∉ l) : l.flatMap f = [] :=
    List.flatMap_eq_nil_iff.mpr fun c hc => h c fun heq => hl (heq ▸ hc)
  rw [List.flatMap_append, List.flatMap_cons, hnil (List.nodup_cons.mp hafter).1,
    hnil fun hmem => hbefore a hmem a List.mem_cons_self rfl, List.nil_append, List.append_nil]

/-- **What is discovered from one node** is listed in the order of its arrows. -/
theorem filter_tail_breadthFirst (a : α) :
    ((breadthFirst graph start).tail.filter fun b =>
      graph.discoverer? (breadthFirst graph start) b = some a) =
      (fresh [start] (graph.next a)).filter fun b =>
        graph.discoverer? (breadthFirst graph start) b = some a := by
  have hlist := breadthFirst_eq_cons_flatMap graph start
  have hnodup := nodup_breadthFirst graph start
  generalize breadthFirst graph start = order at hlist hnodup
  have htail := congrArg List.tail hlist
  dsimp only [List.tail_cons] at htail
  by_cases ha : a ∈ order
  · rw [htail, List.filter_flatMap, flatMap_eq_of_nodup hnodup ha, List.filter_filter]
    · simp only [Bool.and_self]
    -- what is discovered from another node is left out
    · intro c hne
      refine List.filter_eq_nil_iff.mpr fun b hb => ?_
      have hc := of_decide_eq_true (List.mem_filter.mp hb).2
      simpa [hc] using hne
  · -- from a node that is not listed nothing is discovered
    have hnone : ∀ b, graph.discoverer? order b ≠ some a := fun b hb =>
      ha (List.mem_of_find?_eq_some hb)
    simp only [hnone, decide_false, List.filter_false]

end SetterResolution.Graph
