/-!
# The first of the best

Picks from a list by a comparison. Of several members that compare equal and below all others, the
first one is picked, so the pick does not depend on how a sort treats equals.
-/

namespace SetterResolution

/-- The first member of a list that no other member is less than. -/
def best? {α : Type} (cmp : α → α → Ordering) : List α → Option α
  | [] => none
  | a :: rest =>
    match best? cmp rest with
    | none => some a
    | some b => if (cmp b a).isLT then some b else some a

end SetterResolution
