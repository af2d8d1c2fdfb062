import SetterResolution.Resolution.Candidate

/-!
# The pick of the best

What `SetterResolution.best?` picks is told apart from the other members by where it stands: it is
better than everything before it, and nothing after it is better
(`SetterResolution.best?_eq_some`). When the comparison is that of the ranks of candidates, this
says which candidate is called. A candidate is **preferred** to another one for its tier, then for
the depth of its view type, then for its fit; the place in which it was found is left out, since
that is no merit of a candidate but settles ties
(`SetterResolution.Candidate.compare_rank_eq_lt_iff`).
-/

namespace SetterResolution

open Std (OrientedCmp ReflCmp TransCmp TransOrd)

/-! ### Any comparison -/

section Best

variable {α β : Type}

theorem best?_eq_none_iff {cmp : α → α → Ordering} {l : List α} : best? cmp l = none ↔ l = [] := by
  constructor
  · intro h
    cases l with
    | nil => rfl
    | cons a rest =>
      rw [best?] at h
      split at h
      · cases h
      · split at h <;> cases h
  · rintro rfl
    rfl

/-- **What is picked** is better than all that stands before it and at least as good as all that
stands after it. -/
theorem best?_eq_some {cmp : α → α → Ordering} [TransCmp cmp] {l : List α} {a : α}
    (h : best? cmp l = some a) :
    ∃ before after, l = before ++ a :: after ∧ (∀ b ∈ before, cmp a b = .lt) ∧
      ∀ b ∈ after, (cmp a b).isLE := by
  induction l generalizing a with
  | nil => cases h
  | cons c rest ih =>
    rw [best?] at h
    split at h
    next hrest =>
      obtain rfl := best?_eq_none_iff.mp hrest
      cases h
      exact ⟨[], [], rfl, by simp, by simp⟩
    next b hrest =>
      obtain ⟨before, after, rfl, hbefore, hafter⟩ := ih hrest
      by_cases hlt : (cmp b c).isLT
      · rw [if_pos hlt] at h
        cases h
        refine ⟨c :: before, after, rfl, ?_, hafter⟩
        rintro d (_ | ⟨_, hd⟩)
        · exact Ordering.isLT_iff_eq_lt.mp hlt
        · exact hbefore d hd
      · -- the head stays, since it is as good as the best of the rest
        rw [if_neg hlt] at h
        cases h
        have hhead : (cmp c b).isLE := by
          have hswap : cmp c b = (cmp b c).swap := OrientedCmp.eq_swap
          rw [hswap]
          cases hcb : cmp b c with
          | lt => exact absurd (by rw [hcb]; rfl) hlt
          | eq => rfl
          | gt => rfl
        refine ⟨[], before ++ b :: after, rfl, by simp, fun d hd => ?_⟩
        -- all of the rest compares to its best, and through that to the head
        have hbest : (cmp b d).isLE := by
          rcases List.mem_append.mp hd with hd | hd
          · rw [hbefore d hd]
            rfl
          · rcases List.mem_cons.mp hd with rfl | hd
            · have hself : cmp d d = .eq := ReflCmp.compare_self
              rw [hself]
              rfl
            · exact hafter d hd
        exact TransCmp.isLE_trans hhead hbest

theorem mem_of_best? {cmp : α → α → Ordering} [TransCmp cmp] {l : List α} {a : α}
    (h : best? cmp l = some a) : a ∈ l := by
  obtain ⟨before, after, rfl, -⟩ := best?_eq_some h
  exact List.mem_append_right _ List.mem_cons_self

/-- A member that is better than all that stands before it and at least as good as all that stands
after it is picked. -/
theorem best?_append_cons {cmp : α → α → Ordering} [TransCmp cmp] {before after : List α} {a : α}
    (hbefore : ∀ b ∈ before, cmp a b = .lt) (hafter : ∀ b ∈ after, (cmp a b).isLE) :
    best? cmp (before ++ a :: after) = some a := by
  induction before with
  | nil =>
    rw [List.nil_append, best?]
    split
    next => rfl
    next b hrest =>
      refine if_neg fun hlt => ?_
      have hle := hafter b (mem_of_best? hrest)
      rw [OrientedCmp.gt_of_lt (Ordering.isLT_iff_eq_lt.mp hlt)] at hle
      cases hle
  | cons c before ih =>
    rw [List.cons_append, best?, ih fun b hb => hbefore b (List.mem_cons_of_mem _ hb)]
    exact if_pos (Ordering.isLT_iff_eq_lt.mpr (hbefore c List.mem_cons_self))

/-- What is picked from a list is picked from every part of the list that it is left in. -/
theorem best?_filter {cmp : α → α → Ordering} [TransCmp cmp] {l : List α} {a : α} {p : α → Bool}
    (h : best? cmp l = some a) (ha : p a) : best? cmp (l.filter p) = some a := by
  obtain ⟨before, after, rfl, hbefore, hafter⟩ := best?_eq_some h
  rw [List.filter_append, List.filter_cons_of_pos ha]
  exact best?_append_cons (fun b hb => hbefore b (List.mem_filter.mp hb).1)
    fun b hb => hafter b (List.mem_filter.mp hb).1

/-- Picking commutes with a map that is seen through by the comparison. -/
theorem best?_map (cmp : β → β → Ordering) (f : α → β) (l : List α) :
    best? cmp (l.map f) = (best? (fun a b => cmp (f a) (f b)) l).map f := by
  induction l with
  | nil => rfl
  | cons a rest ih =>
    rw [List.map_cons, best?, best?, ih]
    cases best? (fun a b => cmp (f a) (f b)) rest with
    | none => rfl
    | some b =>
      rw [Option.map_some]
      dsimp only
      split <;> rfl

end Best

/-! ### Candidates -/

namespace Candidate

instance : TransOrd Rank :=
  inferInstanceAs (TransCmp (compareLex (compareOn Rank.tier)
    (compareLex (fun a b => compareOn Rank.viewDepth b a)
      (compareLex (compareOn Rank.fit) (compareOn Rank.sequence)))))

/-- One candidate is preferred to another one: it has the better tier, or else the deeper view type,
or else the better fit. -/
def Preferred (a b : Candidate) : Prop :=
  a.tier < b.tier ∨ a.tier = b.tier ∧
    (b.viewDepth < a.viewDepth ∨ a.viewDepth = b.viewDepth ∧ compare a.fit.rank b.fit.rank = .lt)

/-- One candidate is as good as another one but was found earlier. -/
def Earlier (a b : Candidate) : Prop :=
  a.tier = b.tier ∧ a.viewDepth = b.viewDepth ∧ a.fit.rank = b.fit.rank ∧ a.sequence < b.sequence

/-- A candidate ranks before another one if it is preferred, or if it is as good and was found
earlier. -/
theorem compare_rank_eq_lt_iff {a b : Candidate} :
    compare a.rank b.rank = .lt ↔ a.Preferred b ∨ a.Earlier b := by
  rw [show compare a.rank b.rank = Rank.compare a.rank b.rank from rfl, Rank.compare]
  simp only [compareLex, compareOn, rank, Ordering.then_eq_lt, Nat.compare_eq_lt,
    Std.LawfulEqOrd.compare_eq_iff_eq, Preferred, Earlier]
  constructor
  · rintro (h | ⟨htier, h | ⟨hview, h | ⟨hfit, h⟩⟩⟩)
    · exact Or.inl (Or.inl h)
    · exact Or.inl (Or.inr ⟨htier, Or.inl h⟩)
    · exact Or.inl (Or.inr ⟨htier, Or.inr ⟨hview.symm, h⟩⟩)
    · exact Or.inr ⟨htier, hview.symm, hfit, h⟩
  · rintro ((h | ⟨htier, h | ⟨hview, h⟩⟩) | ⟨htier, hview, hfit, h⟩)
    · exact Or.inl h
    · exact Or.inr ⟨htier, Or.inl h⟩
    · exact Or.inr ⟨htier, Or.inr ⟨hview.symm, Or.inl h⟩⟩
    · exact Or.inr ⟨htier, Or.inr ⟨hview.symm, Or.inr ⟨hfit, h⟩⟩⟩

/-- Candidates that do not differ in rank were found in the same place. -/
theorem sequence_of_compare_rank_eq {a b : Candidate} (h : compare a.rank b.rank = .eq) :
    a.sequence = b.sequence := by
  rw [show compare a.rank b.rank = Rank.compare a.rank b.rank from rfl, Rank.compare] at h
  obtain ⟨-, h⟩ := compareLex_eq_eq.mp h
  obtain ⟨-, h⟩ := compareLex_eq_eq.mp h
  obtain ⟨-, h⟩ := compareLex_eq_eq.mp h
  exact Std.LawfulEqOrd.eq_of_compare h

end Candidate

end SetterResolution
