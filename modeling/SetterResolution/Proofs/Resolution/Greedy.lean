import Mathlib.Algebra.BigOperators.Ring.List
import Mathlib.Algebra.Order.BigOperators.Group.List
import Mathlib.Algebra.Order.Ring.Nat
import Mathlib.Data.List.Dedup
import SetterResolution.Proofs.Resolution.Best
import SetterResolution.Proofs.Resolution.Locality

/-!
# The cover is chosen greedily

A cover is described as a loop: take the best candidate that remains, the first one of several that
are equally good, drop all that share an attribute with it, and go on with the rest
(`SetterResolution.GroupCandidate.greedy`). It is computed in another way, by one pass over the
sorted candidates that remembers which attributes are taken. The two agree for two reasons.

* The best candidate is the head of the sorted list, and what follows it there is the sorted list of
  the others (`SetterResolution.mergeSort_of_best?`).
* A pass that starts with some attributes taken is a pass over those candidates that need none of
  them, and it does not matter whether these are selected before or after they are sorted
  (`SetterResolution.GroupCandidate.accept_append`).

From the loop it can be read off what a cover leaves out: a candidate is dropped only for one that
is at least as good and that shares an attribute with it. This also bounds what is lost by not
looking for the cover that sets the most attributes. Every candidate that could have been used
instead needs an attribute that is set, and candidates that share nothing need different ones, so
there are at most as many of them as there are attributes that are set
(`SetterResolution.GroupCandidate.sum_countP_le`).

The main statements are `SetterResolution.GroupCandidate.cover_chosen_greedily` for the loop and
`SetterResolution.GroupCandidate.sum_length_attrs_le_cover` for the bound.
-/

namespace SetterResolution

open Std (OrientedCmp TransCmp)

/-! ### The head of a sorted list -/

section Sorting

variable {α : Type}

/-- A member that is less than all before it and not greater than any after it comes first. -/
theorem mergeSort_append_cons {le : α → α → Bool} (htrans : ∀ a b c, le a b → le b c → le a c)
    (htotal : ∀ a b, le a b || le b a) {before after : List α} {a : α}
    (hbefore : ∀ b ∈ before, ¬ le b a) (hafter : ∀ b ∈ after, le a b) :
    (before ++ a :: after).mergeSort le = a :: (before ++ after).mergeSort le := by
  induction before with
  | nil =>
    obtain ⟨front, back, hcons, hrest, hfront, -⟩ :=
      exists_mergeSort_cons htrans htotal a after
    have hsmall : ∀ b ∈ front, b ∈ after.mergeSort le := fun b hb => by
      rw [hrest]
      exact List.mem_append_left _ hb
    have hnil : front = [] := List.eq_nil_iff_forall_not_mem.mpr fun b hb =>
      hfront b hb (hafter b (List.mem_mergeSort.mp (hsmall b hb)))
    rw [List.nil_append, List.nil_append, hcons, hrest, hnil, List.nil_append, List.nil_append]
  | cons b before ih =>
    have ih := ih fun c hc => hbefore c (List.mem_cons_of_mem _ hc)
    obtain ⟨front, back, hcons, hrest, hfront, hback⟩ :=
      exists_mergeSort_cons htrans htotal b (before ++ a :: after)
    rw [ih] at hrest
    cases front with
    | nil =>
      -- the head is put behind what it is greater than
      rw [List.nil_append] at hrest
      refine absurd (hback a ?_) (hbefore b List.mem_cons_self)
      rw [← hrest]
      exact List.mem_cons_self
    | cons c front =>
      rw [List.cons_append, List.cons.injEq] at hrest
      obtain ⟨rfl, htail⟩ := hrest
      obtain ⟨front', back', hcons', hrest', hfront', hback'⟩ :=
        exists_mergeSort_cons htrans htotal b (before ++ after)
      obtain ⟨rfl, rfl⟩ := append_inj_of_forall (htail.symm.trans hrest')
        (fun d hd => hfront d (List.mem_cons_of_mem _ hd)) hback hfront' hback'
      rw [List.cons_append, hcons, List.cons_append, List.cons_append, hcons']

variable {cmp : α → α → Ordering} [TransCmp cmp]

/-- **The best member is sorted first**, and the others are sorted after it. -/
theorem mergeSort_of_best? [DecidableEq α] {l : List α} {a : α} (h : best? cmp l = some a) :
    l.mergeSort (fun x y => (cmp x y).isLE) =
      a :: (l.erase a).mergeSort fun x y => (cmp x y).isLE := by
  obtain ⟨before, after, rfl, hbefore, hafter⟩ := best?_eq_some h
  have hnot : ∀ b ∈ before, ¬ (cmp b a).isLE := fun b hb hle => by
    rw [OrientedCmp.gt_of_lt (hbefore b hb)] at hle
    cases hle
  have hmem : a ∉ before := fun hmem => hnot a hmem Std.ReflCmp.isLE_rfl
  rw [mergeSort_append_cons (fun _ _ _ => TransCmp.isLE_trans) isLE_total hnot hafter,
    List.erase_append_right _ hmem, List.erase_cons_head]

theorem isLE_of_best? {l : List α} {a b : α} (h : best? cmp l = some a) (hb : b ∈ l) :
    (cmp a b).isLE := by
  obtain ⟨before, after, rfl, hbefore, hafter⟩ := best?_eq_some h
  rcases List.mem_append.mp hb with hb | hb
  · rw [hbefore b hb]
    rfl
  · rcases List.mem_cons.mp hb with rfl | hb
    · exact Std.ReflCmp.isLE_rfl
    · exact hafter b hb

end Sorting

namespace GroupCandidate

variable {candidates : List GroupCandidate} {first : GroupCandidate}

/-! ### The loop -/

/-- Whether two candidates set an attribute in common. -/
def shares (a b : GroupCandidate) : Bool :=
  a.attrs.any (· ∈ b.attrs)

theorem shares_iff {a b : GroupCandidate} : a.shares b ↔ ∃ attr ∈ a.attrs, attr ∈ b.attrs := by
  rw [shares, List.any_eq_true]
  simp only [decide_eq_true_iff]

theorem shares_comm {a b : GroupCandidate} : a.shares b ↔ b.shares a := by
  rw [shares_iff, shares_iff]
  exact exists_congr fun _ => and_comm

/-- The candidates that remain when one of them is accepted. -/
def remaining (candidates : List GroupCandidate) (accepted : GroupCandidate) :
    List GroupCandidate :=
  (candidates.erase accepted).filter fun other => !other.shares accepted

theorem length_remaining_lt (h : best? (compareOn rank) candidates = some first) :
    (remaining candidates first).length < candidates.length := by
  have hmem := mem_of_best? h
  have hpos := List.length_pos_of_mem hmem
  have hle := List.length_filter_le (fun other => !other.shares first) (candidates.erase first)
  rw [List.length_erase_of_mem hmem] at hle
  rw [remaining]
  omega

/-- The greedy choice: the first of the best candidates is accepted, those that share an attribute
with it are discarded, and so on until none remains. -/
def greedy (candidates : List GroupCandidate) : List GroupCandidate :=
  match _h : best? (compareOn rank) candidates with
  | none => []
  | some first => first :: greedy (remaining candidates first)
termination_by candidates.length
decreasing_by exact length_remaining_lt _h

/-- **What is taken beforehand** keeps just those candidates out of a pass that need some of it. -/
theorem accept_append (taken more : List Attribute) (candidates : List GroupCandidate) :
    accept (taken ++ more) candidates =
      accept more (candidates.filter fun candidate => !candidate.attrs.any (· ∈ taken)) := by
  induction candidates generalizing more with
  | nil => rfl
  | cons first rest ih =>
    have hany : first.attrs.any (· ∈ taken ++ more) =
        (first.attrs.any (· ∈ taken) || first.attrs.any (· ∈ more)) := by
      rw [Bool.eq_iff_iff]
      simp [and_or_left, exists_or]
    rw [accept, hany]
    by_cases htaken : first.attrs.any (· ∈ taken)
    · rw [List.filter_cons_of_neg (by simpa using htaken), htaken, Bool.true_or, if_pos rfl, ih]
    · rw [List.filter_cons_of_pos (by simpa using htaken), accept, Bool.eq_false_iff.mpr htaken,
        Bool.false_or, ih, List.append_assoc, ih]

theorem cover_nil : cover [] = [] := by
  rw [cover, sorted, List.mergeSort_nil, accept]

/-- **A cover accepts the best candidate**, and goes on with those that remain. -/
theorem cover_of_best? (h : best? (compareOn rank) candidates = some first) :
    cover candidates = first :: cover (remaining candidates first) := by
  have hsorted : sorted candidates = first :: sorted (candidates.erase first) := by
    rw [sorted_eq, mergeSort_of_best? h, sorted_eq]
  have hfree : ¬ first.attrs.any (· ∈ ([] : List Attribute)) := by simp
  rw [cover, hsorted, accept, if_neg hfree, List.nil_append, cover, remaining,
    ← filter_sorted]
  refine congrArg _ ?_
  have happend := accept_append first.attrs [] (sorted (candidates.erase first))
  rwa [List.append_nil] at happend

theorem cover_eq_greedy : cover candidates = greedy candidates := by
  induction candidates using greedy.induct with
  | case1 candidates hnone =>
    obtain rfl := best?_eq_none_iff.mp hnone
    rw [cover_nil, greedy, hnone]
  | case2 candidates first hbest ih =>
    rw [cover_of_best? hbest, greedy, hbest, ih]

/-! ### What a cover leaves out -/

theorem not_shares_of_mem_remaining {accepted other : GroupCandidate}
    (h : other ∈ remaining candidates accepted) : ¬ accepted.shares other := by
  rw [shares_comm]
  simpa using (List.mem_filter.mp h).2

theorem pairwise_cover (candidates : List GroupCandidate) :
    (cover candidates).Pairwise fun a b => ¬ a.shares b := by
  induction candidates using greedy.induct with
  | case1 candidates hnone =>
    obtain rfl := best?_eq_none_iff.mp hnone
    rw [cover_nil]
    exact .nil
  | case2 candidates first hbest ih =>
    rw [cover_of_best? hbest]
    exact .cons (fun other hother => not_shares_of_mem_remaining (mem_of_mem_cover hother)) ih

theorem exists_rejected (candidates : List GroupCandidate) :
    ∃ rejected, candidates.Perm (cover candidates ++ rejected) ∧
      ∀ candidate ∈ rejected, ∃ accepted ∈ cover candidates,
        accepted.shares candidate ∧ (compare accepted.rank candidate.rank).isLE := by
  induction candidates using greedy.induct with
  | case1 candidates hnone =>
    obtain rfl := best?_eq_none_iff.mp hnone
    rw [cover_nil]
    exact ⟨[], .nil, nofun⟩
  | case2 candidates first hbest ih =>
    obtain ⟨rejected, hperm, hrejected⟩ := ih
    have hsplit := (List.filter_append_perm (fun other => !other.shares first)
      (candidates.erase first)).symm.trans (hperm.append_right _)
    rw [List.append_assoc] at hsplit
    rw [cover_of_best? hbest]
    refine ⟨_, (List.perm_cons_erase (mem_of_best? hbest)).trans (hsplit.cons first), ?_⟩
    intro candidate hcandidate
    rcases List.mem_append.mp hcandidate with hlater | hdropped
    · obtain ⟨accepted, haccepted, hshares⟩ := hrejected candidate hlater
      exact ⟨accepted, List.mem_cons_of_mem _ haccepted, hshares⟩
    · obtain ⟨hmem, hshares⟩ := List.mem_filter.mp hdropped
      have hle : (compareOn rank first candidate).isLE :=
        isLE_of_best? hbest (List.mem_of_mem_erase hmem)
      exact ⟨first, List.mem_cons_self, shares_comm.mp (by simpa using hshares), hle⟩

/-- **The cover is the greedy choice.** The pass over the sorted candidates accepts what is accepted
by taking the first of the best candidates, discarding all that share an attribute with it, and
going on with the rest until none remains. So no two of the accepted candidates share an attribute,
and each of the others shares one with an accepted candidate that does not come after it. -/
theorem cover_chosen_greedily (candidates : List GroupCandidate) :
    cover candidates = greedy candidates ∧
      (cover candidates).Pairwise (fun a b => ¬ a.shares b) ∧
      ∃ rejected, candidates.Perm (cover candidates ++ rejected) ∧
        ∀ candidate ∈ rejected, ∃ accepted ∈ cover candidates,
          accepted.shares candidate ∧ (compare accepted.rank candidate.rank).isLE :=
  ⟨cover_eq_greedy, pairwise_cover candidates, exists_rejected candidates⟩

/-! ### What is lost by choosing greedily -/

/-- How many attributes a candidate needs at most. -/
def largest (candidates : List GroupCandidate) : Nat :=
  (candidates.map fun candidate => candidate.attrs.length).max?.getD 0

theorem length_attrs_le_largest {candidate : GroupCandidate} (h : candidate ∈ candidates) :
    candidate.attrs.length ≤ largest candidates := by
  have hlength : candidate.attrs.length ∈ candidates.map fun candidate => candidate.attrs.length :=
    List.mem_map_of_mem h
  cases hmax : (candidates.map fun candidate => candidate.attrs.length).max? with
  | none =>
    rw [List.max?_eq_none_iff.mp hmax] at hlength
    cases hlength
  | some n =>
    rw [largest, hmax, Option.getD_some]
    exact (List.max?_eq_some_iff.mp hmax).2 _ hlength

/-- A candidate that needs an attribute needs one that the cover sets. -/
theorem exists_mem_flatMap_cover {candidate : GroupCandidate} (h : candidate ∈ candidates)
    (hattrs : candidate.attrs ≠ []) :
    ∃ attr ∈ (cover candidates).flatMap attrs, attr ∈ candidate.attrs := by
  obtain ⟨rejected, hperm, hrejected⟩ := exists_rejected candidates
  rcases List.mem_append.mp (hperm.mem_iff.mp h) with haccepted | hleft
  · obtain ⟨attr, hattr⟩ := List.exists_mem_of_ne_nil _ hattrs
    exact ⟨attr, List.mem_flatMap.mpr ⟨candidate, haccepted, hattr⟩, hattr⟩
  · obtain ⟨accepted, haccepted, hshares, -⟩ := hrejected candidate hleft
    obtain ⟨attr, hattr, hmem⟩ := shares_iff.mp hshares
    exact ⟨attr, List.mem_flatMap.mpr ⟨accepted, haccepted, hattr⟩, hmem⟩

/-- Each of several attributes is needed by at most one of the candidates that share none. -/
theorem sum_countP_le {family : List GroupCandidate}
    (hfamily : family.Pairwise fun a b => ¬ a.shares b) (set : List Attribute) :
    (family.map fun candidate => set.countP (· ∈ candidate.attrs)).sum ≤ set.length := by
  induction family generalizing set with
  | nil => exact Nat.zero_le _
  | cons first rest ih =>
    obtain ⟨hfirst, hrest⟩ := List.pairwise_cons.mp hfamily
    -- the others need only what the first one does not need
    have hothers : ∀ other ∈ rest, set.countP (· ∈ other.attrs) =
        (set.filter (· ∉ first.attrs)).countP (· ∈ other.attrs) := by
      intro other hother
      rw [List.countP_filter]
      refine List.countP_congr fun attr _ => ?_
      have hapart : attr ∈ other.attrs → attr ∉ first.attrs := fun hattr hmem =>
        hfirst other hother (shares_iff.mpr ⟨attr, hmem, hattr⟩)
      simpa using hapart
    have hlength : set.length =
        set.countP (· ∈ first.attrs) + (set.filter (· ∉ first.attrs)).length := by
      rw [← List.countP_eq_length_filter]
      simpa using List.length_eq_countP_add_countP (· ∈ first.attrs) (l := set)
    rw [List.map_cons, List.sum_cons, List.map_congr_left hothers, hlength]
    exact Nat.add_le_add_left (ih hrest _) _

/-- **What is lost by choosing greedily is bounded.** Candidates that share no attribute set at most
as many attributes as the cover does, times the number of those that a candidate sets at most. -/
theorem sum_length_attrs_le_cover {candidates family : List GroupCandidate}
    (hcandidates : ∀ candidate ∈ family, candidate ∈ candidates)
    (hfamily : family.Pairwise fun a b => ¬ a.shares b) :
    (family.map fun candidate => candidate.attrs.length).sum ≤
      largest candidates * ((cover candidates).flatMap attrs).dedup.length := by
  have hcharge : ∀ candidate ∈ family, candidate.attrs.length ≤ largest candidates *
      ((cover candidates).flatMap attrs).dedup.countP (· ∈ candidate.attrs) := by
    intro candidate hcandidate
    have hmem := hcandidates candidate hcandidate
    rcases eq_or_ne candidate.attrs [] with hnil | hattrs
    · rw [hnil]
      exact Nat.zero_le _
    · obtain ⟨attr, hset, hattr⟩ := exists_mem_flatMap_cover hmem hattrs
      have hpos : 0 < ((cover candidates).flatMap attrs).dedup.countP (· ∈ candidate.attrs) :=
        List.countP_pos_iff.mpr ⟨attr, List.mem_dedup.mpr hset, decide_eq_true hattr⟩
      exact (length_attrs_le_largest hmem).trans (Nat.le_mul_of_pos_right _ hpos)
  calc (family.map fun candidate => candidate.attrs.length).sum
      ≤ (family.map fun candidate => largest candidates *
          ((cover candidates).flatMap attrs).dedup.countP (· ∈ candidate.attrs)).sum :=
        List.sum_le_sum hcharge
    _ = largest candidates * (family.map fun candidate =>
          ((cover candidates).flatMap attrs).dedup.countP (· ∈ candidate.attrs)).sum :=
        List.sum_map_mul_left ..
    _ ≤ largest candidates * ((cover candidates).flatMap attrs).dedup.length :=
        Nat.mul_le_mul_left _ (sum_countP_le hfamily _)

/-- The bound is attained: two candidates that share no attribute set four, and each of them shares
one with the candidate for the two that the cover sets. -/
theorem sum_length_attrs_le_cover_attained :
    let candidate (names : List String) : GroupCandidate :=
      ⟨.named "View", names.map fun name => (⟨⟨name⟩, .prim .int⟩, .exact),
        ⟨.named "Adapters", "set"⟩, 1⟩
    let candidates := [candidate ["b", "y"], candidate ["a", "b"], candidate ["a", "z"]]
    let family := [candidate ["a", "z"], candidate ["b", "y"]]
    (∀ candidate ∈ family, candidate ∈ candidates) ∧
      family.Pairwise (fun a b => ¬ a.shares b) ∧
      (family.map fun candidate => candidate.attrs.length).sum ≤
        largest candidates * ((cover candidates).flatMap attrs).dedup.length ∧
      (family.map fun candidate => candidate.attrs.length).sum = 4 ∧
      largest candidates = 2 ∧ cover candidates = [candidate ["a", "b"]] := by
  intro candidate candidates family
  have hcandidates : ∀ candidate ∈ family, candidate ∈ candidates := by decide +kernel
  have hfamily : family.Pairwise fun a b => ¬ a.shares b := by decide +kernel
  have hbest : best? (compareOn rank) candidates = some (candidate ["a", "b"]) := by decide +kernel
  have hnone : remaining candidates (candidate ["a", "b"]) = [] := by decide +kernel
  refine ⟨hcandidates, hfamily, sum_length_attrs_le_cover hcandidates hfamily, by decide +kernel,
    by decide +kernel, ?_⟩
  rw [cover_of_best? hbest, hnone, cover_nil]

end GroupCandidate

end SetterResolution
