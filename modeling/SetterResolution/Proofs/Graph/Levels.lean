import SetterResolution.Graph.BreadthFirst

/-!
# Breadth-first order by distance

A breadth-first walk is written with a queue, but what it lists is a matter of distance: the start,
then the nodes at distance one, at distance two and so on. The link between the two is that a queue
can be emptied in one go. When all of its members have been looked at, it consists of what their
successors brought anew (`SetterResolution.Graph.walk_append`), so that a walk whose queue is a
whole level comes to the next level (`SetterResolution.Graph.walk_level`).

* The nodes of a level are those at its distance (`SetterResolution.Graph.mem_level_iff`).
* A walk is the levels one after another, up to one that is empty
  (`SetterResolution.Graph.breadthFirst_eq_levels`).
* So it lists the nodes that can be reached (`SetterResolution.Graph.mem_breadthFirst_iff`), and
  none comes before a nearer one (`SetterResolution.Graph.pairwise_breadthFirst`).
-/

namespace SetterResolution.Graph

/-! ### Distance -/

section Distance

variable {α : Type}

/-- A chain of so many arrows leads from `start` to a node. -/
inductive Digraph.Leads (graph : Digraph α) (start : α) : Nat → α → Prop
  /-- No arrow leads from a node to itself. -/
  | here : Leads graph start 0 start
  /-- A chain goes on along an arrow. -/
  | arrow {n : Nat} {a b : α} :
      Leads graph start n a → b ∈ graph.next a → Leads graph start (n + 1) b

/-- So many arrows lead from `start` to a node, and no fewer do. -/
structure Digraph.Distance (graph : Digraph α) (start : α) (n : Nat) (a : α) : Prop where
  /-- There is a chain of this length. -/
  leads : graph.Leads start n a
  /-- There is no shorter one. -/
  least : ∀ m < n, ¬ graph.Leads start m a

variable {graph : Digraph α} {start a : α} {n : Nat}

theorem Digraph.leads_zero_iff : graph.Leads start 0 a ↔ a = start := by
  constructor
  · intro h
    cases h
    rfl
  · rintro rfl
    exact .here

theorem Digraph.leads_succ_iff :
    graph.Leads start (n + 1) a ↔ ∃ b, graph.Leads start n b ∧ a ∈ graph.next b := by
  constructor
  · intro h
    cases h with
    | arrow hleads harrow => exact ⟨_, hleads, harrow⟩
  · rintro ⟨b, hleads, harrow⟩
    exact .arrow hleads harrow

/-- Chains are put together. -/
theorem Digraph.Leads.trans {b : α} {m : Nat} (ha : graph.Leads start m a)
    (hb : graph.Leads a n b) : graph.Leads start (m + n) b := by
  induction hb with
  | here => exact ha
  | arrow _ harrow ih => exact .arrow ih harrow

/-- From a node without arrows no chain leads away. -/
theorem Digraph.Leads.eq_of_next_eq_nil (h : graph.Leads start n a)
    (hnil : graph.next start = []) : a = start := by
  induction h with
  | here => rfl
  | arrow _ harrow ih =>
    rw [ih, hnil] at harrow
    cases harrow

namespace Digraph.Distance

theorem unique {m : Nat} (hm : graph.Distance start m a) (hn : graph.Distance start n a) :
    m = n := by
  rcases Nat.lt_trichotomy m n with h | h | h
  · exact absurd hm.leads (hn.least m h)
  · exact h
  · exact absurd hn.leads (hm.least n h)

theorem zero_iff : graph.Distance start 0 a ↔ a = start := by
  rw [← leads_zero_iff]
  exact ⟨leads, fun h => ⟨h, fun m hm => absurd hm (Nat.not_lt_zero m)⟩⟩

/-- A node that is one arrow farther than `n` is a successor of a node at distance `n`. -/
theorem succ_iff : graph.Distance start (n + 1) a ↔
    (∃ b, graph.Distance start n b ∧ a ∈ graph.next b) ∧ ∀ m ≤ n, ¬ graph.Leads start m a := by
  constructor
  · intro h
    obtain ⟨b, hleads, harrow⟩ := leads_succ_iff.mp h.leads
    refine ⟨⟨b, ⟨hleads, fun m hm hshort => ?_⟩, harrow⟩, fun m hm => h.least m (by omega)⟩
    exact h.least (m + 1) (by omega) (.arrow hshort harrow)
  · rintro ⟨⟨b, hb, harrow⟩, hleast⟩
    exact ⟨.arrow hb.leads harrow, fun m hm => hleast m (by omega)⟩

/-- On the way to a node there are nodes at every smaller distance. -/
theorem exists_of_le (h : graph.Distance start n a) {m : Nat} (hm : m ≤ n) :
    ∃ b, graph.Distance start m b := by
  induction n generalizing a with
  | zero => exact ⟨a, Nat.le_zero.mp hm ▸ h⟩
  | succ n ih =>
    rcases Nat.lt_or_eq_of_le hm with hlt | rfl
    · obtain ⟨⟨b, hb, -⟩, -⟩ := succ_iff.mp h
      exact ih hb (by omega)
    · exact ⟨a, h⟩

end Digraph.Distance

/-- A node that some chain leads to has a distance, which is at most the length of the chain. -/
theorem Digraph.Leads.exists_distance (h : graph.Leads start n a) :
    ∃ m ≤ n, graph.Distance start m a := by
  induction n using Nat.strongRecOn with
  | ind n ih =>
    by_cases hshort : ∃ m < n, graph.Leads start m a
    · obtain ⟨m, hm, hleads⟩ := hshort
      obtain ⟨k, hk, hdistance⟩ := ih m hm hleads
      exact ⟨k, by omega, hdistance⟩
    · exact ⟨n, Nat.le_refl n, h, fun m hm hleads => hshort ⟨m, hm, hleads⟩⟩

end Distance

variable {α : Type} [DecidableEq α]

/-! ### What is found anew -/

theorem mem_fresh_iff {seen found : List α} {a : α} :
    a ∈ fresh seen found ↔ a ∈ found ∧ a ∉ seen := by
  induction found generalizing seen with
  | nil => simp [fresh]
  | cons b rest ih =>
    rw [fresh]
    split
    next hb =>
      rw [ih, List.mem_cons]
      refine and_congr_left fun ha => (or_iff_right ?_).symm
      rintro rfl
      exact ha hb
    next hb =>
      rw [List.mem_cons, List.mem_cons, ih, List.mem_cons, not_or]
      by_cases hab : a = b
      · simp [hab, hb]
      · simp [hab]

theorem fresh_congr {seen seen' : List α} (found : List α) (h : ∀ a, a ∈ seen ↔ a ∈ seen') :
    fresh seen found = fresh seen' found := by
  induction found generalizing seen seen' with
  | nil => rfl
  | cons b rest ih =>
    have hcons : ∀ a, a ∈ b :: seen ↔ a ∈ b :: seen' := fun a => by
      rw [List.mem_cons, List.mem_cons, h a]
    rw [fresh, fresh, ih h, ih hcons]
    simp only [h b]

/-- What a second list brings anew has not been brought by the first one either. -/
theorem fresh_append (seen first second : List α) :
    fresh seen (first ++ second) =
      fresh seen first ++ fresh (seen ++ fresh seen first) second := by
  induction first generalizing seen with
  | nil => rw [fresh, List.nil_append, List.nil_append, List.append_nil]
  | cons b rest ih =>
    rw [List.cons_append, fresh, fresh]
    split
    · exact ih seen
    · have hsame : ∀ a, a ∈ (b :: seen) ++ fresh (b :: seen) rest ↔
          a ∈ seen ++ b :: fresh (b :: seen) rest := by simp [or_left_comm]
      rw [ih, fresh_congr second hsame, List.cons_append]

/-! ### Levels -/

section Levels

variable (graph : Digraph α) (start : α)

/-- **A queue is emptied in one go**: its members are listed, and what their successors bring anew
is queued behind all that was queued before. -/
theorem walk_append (queue more seen : List α) :
    walk graph (queue ++ more) seen =
      queue ++ walk graph (more ++ fresh seen (queue.flatMap graph.next))
        (seen ++ fresh seen (queue.flatMap graph.next)) := by
  induction queue generalizing more seen with
  | nil => simp [fresh]
  | cons a rest ih =>
    rw [List.cons_append, walk, List.append_assoc, ih, List.flatMap_cons, fresh_append,
      List.cons_append, List.append_assoc, List.append_assoc]

/-- What is found by so many arrows, and of that what has just been found. -/
def sweep : Nat → List α × List α
  | 0 => ([start], [start])
  | n + 1 =>
    let (seen, last) := sweep n
    let level := fresh seen (last.flatMap graph.next)
    (seen ++ level, level)

/-- The nodes that are found by at most `n` arrows, in the order in which they are found. -/
def within (n : Nat) : List α := (sweep graph start n).1

/-- The nodes that are found by `n` arrows and not before, in the order in which they are found. -/
def level (n : Nat) : List α := (sweep graph start n).2

theorem level_succ (n : Nat) : level graph start (n + 1) =
    fresh (within graph start n) ((level graph start n).flatMap graph.next) := rfl

theorem within_succ (n : Nat) :
    within graph start (n + 1) = within graph start n ++ level graph start (n + 1) := rfl

/-- **From level to level**: a walk whose queue is a level goes on with the next one. -/
theorem walk_level (n : Nat) :
    walk graph (level graph start n) (within graph start n) =
      level graph start n ++
        walk graph (level graph start (n + 1)) (within graph start (n + 1)) := by
  have hqueue := walk_append graph (level graph start n) [] (within graph start n)
  rwa [List.append_nil, List.nil_append] at hqueue

theorem breadthFirst_eq_append (n : Nat) : breadthFirst graph start =
    (List.range n).flatMap (level graph start) ++
      walk graph (level graph start n) (within graph start n) := by
  induction n with
  | zero => rfl
  | succ n ih =>
    rw [ih, walk_level, List.range_succ, List.flatMap_append, List.flatMap_singleton,
      List.append_assoc]

variable {graph start}

/-- By at most `n` arrows those nodes are found that so many arrows lead to, and the nodes of a
level are those at its distance. -/
theorem mem_within_iff_and_mem_level_iff (n : Nat) (a : α) :
    (a ∈ within graph start n ↔ ∃ m ≤ n, graph.Leads start m a) ∧
      (a ∈ level graph start n ↔ graph.Distance start n a) := by
  induction n generalizing a with
  | zero =>
    have hstart : a ∈ [start] ↔ a = start := List.mem_singleton
    have hzero : graph.Leads start 0 a ↔ a = start := Digraph.leads_zero_iff
    refine ⟨?_, hstart.trans Digraph.Distance.zero_iff.symm⟩
    rw [within, sweep, hstart, ← hzero]
    exact ⟨fun h => ⟨0, Nat.le_refl 0, h⟩, fun ⟨m, hm, h⟩ => Nat.le_zero.mp hm ▸ h⟩
  | succ n ih =>
    have hlevel : a ∈ level graph start (n + 1) ↔ graph.Distance start (n + 1) a := by
      rw [level_succ, mem_fresh_iff, (ih a).1, Digraph.Distance.succ_iff, List.mem_flatMap]
      simp only [(ih _).2, not_exists, not_and]
    refine ⟨?_, hlevel⟩
    rw [within_succ, List.mem_append, (ih a).1, hlevel]
    constructor
    · rintro (⟨m, hm, hleads⟩ | hdistance)
      · exact ⟨m, by omega, hleads⟩
      · exact ⟨n + 1, Nat.le_refl _, hdistance.leads⟩
    · rintro ⟨m, hm, hleads⟩
      -- what a chain leads to has a distance, and that may be the last one allowed
      obtain ⟨k, hk, hdistance⟩ := hleads.exists_distance
      rcases Nat.lt_or_eq_of_le (Nat.le_trans hk hm) with hlt | rfl
      · exact Or.inl ⟨k, by omega, hdistance.leads⟩
      · exact Or.inr hdistance

/-- **A level** has the nodes at its distance. -/
theorem mem_level_iff {n : Nat} {a : α} :
    a ∈ level graph start n ↔ graph.Distance start n a :=
  (mem_within_iff_and_mem_level_iff n a).2

variable (graph start)

/-- As long as there are new nodes, there are fewer and fewer that are still to be found. -/
theorem unseen_within_add_le (n : Nat) (h : ∀ m < n, level graph start (m + 1) ≠ []) :
    unseen graph.nodes (within graph start n) + n ≤ unseen graph.nodes [start] := by
  induction n with
  | zero => exact Nat.le_refl _
  | succ n ih =>
    have hbefore := ih fun m hm => h m (by omega)
    have hstep := unseen_fresh_le graph.nodes (within graph start n)
      ((level graph start n).flatMap graph.next) fun b hb => by
        obtain ⟨a, -, harrow⟩ := List.mem_flatMap.mp hb
        exact graph.mem_nodes harrow
    rw [← level_succ, ← within_succ] at hstep
    have hlength := List.length_pos_iff.mpr (h n (Nat.lt_succ_self n))
    omega

/-- Some level is empty, as there are finitely many nodes to be found. -/
theorem exists_level_eq_nil : ∃ n, level graph start n = [] := by
  refine Classical.byContradiction fun hnone => ?_
  have hmany := unseen_within_add_le graph start (unseen graph.nodes [start] + 1)
    fun m _ hm => hnone ⟨m + 1, hm⟩
  omega

/-- **A breadth-first walk** lists level after level, up to one that is empty. -/
theorem breadthFirst_eq_levels : ∃ n, level graph start n = [] ∧
    breadthFirst graph start = (List.range n).flatMap (level graph start) := by
  obtain ⟨n, hnil⟩ := exists_level_eq_nil graph start
  refine ⟨n, hnil, ?_⟩
  rw [breadthFirst_eq_append graph start n, hnil, walk, List.append_nil]

/-! ### What is listed, and in which order -/

/-- The walk begins with the node that it starts from. -/
theorem breadthFirst_eq_cons : ∃ rest, breadthFirst graph start = start :: rest := by
  rw [breadthFirst, walk]
  exact ⟨_, rfl⟩

variable {graph start}

/-- A node without arrows is listed alone. -/
theorem breadthFirst_eq_singleton (h : graph.next start = []) :
    breadthFirst graph start = [start] := by
  simp [breadthFirst, walk, fresh, h]

/-- **All nodes that can be reached** are listed, and no others. -/
theorem mem_breadthFirst_iff {a : α} :
    a ∈ breadthFirst graph start ↔ ∃ n, graph.Leads start n a := by
  obtain ⟨n, hnil, hlist⟩ := breadthFirst_eq_levels graph start
  rw [hlist, List.mem_flatMap]
  simp only [List.mem_range, mem_level_iff]
  constructor
  · rintro ⟨m, -, hdistance⟩
    exact ⟨m, hdistance.leads⟩
  · rintro ⟨m, hleads⟩
    obtain ⟨k, -, hdistance⟩ := hleads.exists_distance
    refine ⟨k, Nat.lt_of_not_le fun hle => ?_, hdistance⟩
    -- beyond an empty level there are no nodes
    obtain ⟨b, hb⟩ := hdistance.exists_of_le hle
    rw [← mem_level_iff, hnil] at hb
    cases hb

variable (graph start) in
/-- **Nearer nodes come first**: none is listed after a node that is farther. -/
theorem pairwise_breadthFirst : (breadthFirst graph start).Pairwise fun a b =>
    ∀ m n, graph.Distance start m a → graph.Distance start n b → m ≤ n := by
  obtain ⟨n, -, hlist⟩ := breadthFirst_eq_levels graph start
  rw [hlist, List.pairwise_flatMap]
  constructor
  · intro k _
    refine List.pairwise_iff_getElem.mpr fun i j hi hj _ m n hm hn => ?_
    have hleft := hm.unique (mem_level_iff.mp (List.getElem_mem hi))
    have hright := hn.unique (mem_level_iff.mp (List.getElem_mem hj))
    omega
  · refine List.pairwise_lt_range.imp fun hlt a ha b hb m n hm hn => ?_
    have hleft := hm.unique (mem_level_iff.mp ha)
    have hright := hn.unique (mem_level_iff.mp hb)
    omega

end Levels

end SetterResolution.Graph
