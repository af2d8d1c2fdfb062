/-!
# Breadth-first order

A finite directed graph lists, for every node, the nodes its arrows lead to. `breadthFirst` walks it
from one node: the node itself comes first, and each node of the walk is followed, after all that
were found before, by those of its successors that were not yet found. So every node that can be
reached is listed once, nearer nodes come before farther ones, and cycles do no harm.

The walk ends because a node is found only once: each step takes one node from the queue, and
whatever it adds to the queue leaves the nodes that are still to be found (`unseen_fresh_le`).
-/

namespace SetterResolution.Graph

/-- A directed graph whose arrows all lead into one finite list of nodes. -/
structure Digraph (α : Type) where
  /-- The nodes that the arrows from a node lead to, in order. -/
  next : α → List α
  /-- Nodes, among them every node that an arrow leads to. -/
  nodes : List α
  /-- Arrows lead to listed nodes. -/
  mem_nodes : ∀ {a b : α}, b ∈ next a → b ∈ nodes

variable {α : Type} [DecidableEq α]

/-- The members of a list that are not in `seen`, each once. -/
def fresh (seen : List α) : List α → List α
  | [] => []
  | a :: rest => if a ∈ seen then fresh seen rest else a :: fresh (a :: seen) rest

/-- How many of `nodes` are not in `seen`. -/
def unseen (nodes seen : List α) : Nat :=
  nodes.countP fun a => a ∉ seen

theorem unseen_cons_lt {nodes seen : List α} {a : α} (ha : a ∈ nodes) (h : a ∉ seen) :
    unseen nodes (a :: seen) < unseen nodes seen := by
  induction nodes with
  | nil => cases ha
  | cons b rest ih =>
    have le : unseen rest (a :: seen) ≤ unseen rest seen :=
      List.countP_mono_left fun b _ hb => by simp_all
    have split (seen : List α) :
        unseen (b :: rest) seen = unseen rest seen + if b ∉ seen then 1 else 0 := by
      simp [unseen, List.countP_cons]
    rw [split, split]
    by_cases hab : b = a
    · subst hab
      simp only [List.mem_cons, true_or, not_true_eq_false, if_false, h, not_false_eq_true,
        if_true]
      omega
    · have tail := ih (by simpa [Ne.symm hab] using ha)
      have head : (b ∉ a :: seen) ↔ b ∉ seen := by simp [hab]
      simp only [head]
      omega

theorem unseen_congr {seen seen' : List α} (nodes : List α) (h : ∀ a, a ∈ seen ↔ a ∈ seen') :
    unseen nodes seen = unseen nodes seen' := by
  simp [unseen, h]

/-- What is found anew is taken from the unseen nodes. -/
theorem unseen_fresh_le (nodes seen found : List α) (h : ∀ a ∈ found, a ∈ nodes) :
    unseen nodes (seen ++ fresh seen found) + (fresh seen found).length ≤ unseen nodes seen := by
  induction found generalizing seen with
  | nil => simp [fresh]
  | cons a rest ih =>
    rw [fresh]
    split
    · exact ih seen fun b hb => h b (List.mem_cons_of_mem _ hb)
    next ha =>
      have tail := ih (a :: seen) fun b hb => h b (List.mem_cons_of_mem _ hb)
      have head := unseen_cons_lt (h a List.mem_cons_self) ha
      have same : unseen nodes (seen ++ a :: fresh (a :: seen) rest) =
          unseen nodes ((a :: seen) ++ fresh (a :: seen) rest) :=
        unseen_congr nodes (by simp [or_left_comm])
      simp only [List.length_cons]
      omega

/-- The walk with a queue of found nodes whose successors are still to be looked at, where `seen`
are all nodes found so far. It lists the queue and what is found from there on. -/
def walk (graph : Digraph α) (queue seen : List α) : List α :=
  match queue with
  | [] => []
  | a :: rest =>
    a :: walk graph (rest ++ fresh seen (graph.next a)) (seen ++ fresh seen (graph.next a))
termination_by unseen graph.nodes seen + queue.length
decreasing_by
  have := unseen_fresh_le graph.nodes seen (graph.next a) fun b hb => graph.mem_nodes hb
  simp only [List.length_append, List.length_cons]
  omega

/-- The nodes that can be reached from `start`, in breadth-first order. -/
def breadthFirst (graph : Digraph α) (start : α) : List α :=
  walk graph [start] [start]

end SetterResolution.Graph
