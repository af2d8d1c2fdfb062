import Mathlib.Logic.Function.Iterate
import SetterResolution.Proofs.Graph.Discovery

/-!
# A breadth-first walk in rounds

A breadth-first walk was written as a recursion that lists a node when it comes to the head of the
queue. It can as well be followed round by round, with a list of all nodes that were found, to which
a node is added together with the queue (`SetterResolution.Graph.Progress`). In each round the head
of the queue is taken off, and what its successors bring anew is put behind both lists. Nodes leave
the queue in the order in which they were found. So the list of found nodes is at all times what has
been at the head of the queue, followed by the queue, and when the queue is empty it is the walk.

Every node of the walk is at the head of the queue in one round, and after these rounds the queue is
empty (`SetterResolution.Graph.iterate_round_start`).
-/

namespace SetterResolution.Graph

/-- How far a breadth-first walk has come. -/
structure Progress (α : Type) where
  /-- The nodes that were found but whose successors were not yet looked at. -/
  queue : List α
  /-- All nodes that were found, in the order in which they were found. -/
  found : List α

variable {α : Type} [DecidableEq α] (graph : Digraph α)

namespace Progress

omit [DecidableEq α] in
/-- Only the node is found that a walk starts from. -/
def start (node : α) : Progress α :=
  ⟨[node], [node]⟩

/-- A round of a walk. If the queue is empty, the walk is over and nothing happens. -/
def round : Progress α → Progress α
  | ⟨[], found⟩ => ⟨[], found⟩
  | ⟨a :: rest, found⟩ =>
    ⟨rest ++ fresh found (graph.next a), found ++ fresh found (graph.next a)⟩

end Progress

/-- **From any round on** there are as many rounds as nodes in what is left of the walk, and what is
left is added to what was at the head of the queue before. -/
theorem iterate_round (before : List α) {queue seen : List α} (hseen : seen = before ++ queue) :
    (Progress.round graph)^[(walk graph queue seen).length] ⟨queue, seen⟩ =
      ⟨[], before ++ walk graph queue seen⟩ := by
  induction queue, seen using walk.induct graph generalizing before with
  | case1 seen =>
    rw [hseen, walk]
    rfl
  | case2 seen a rest ih =>
    rw [walk, List.length_cons, Function.iterate_succ_apply, Progress.round,
      ih (before ++ [a]) (by simp [hseen]), List.append_assoc, List.singleton_append]

/-- **A walk is over** after one round for each of its nodes, and these are the nodes that were
found. -/
theorem iterate_round_start (node : α) :
    (Progress.round graph)^[(breadthFirst graph node).length] (.start node) =
      ⟨[], breadthFirst graph node⟩ :=
  iterate_round graph [] rfl

end SetterResolution.Graph
