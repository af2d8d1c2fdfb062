import SetterResolution.Proofs.Registry.Lookup
import SetterResolution.Proofs.Resolution.Greedy

/-!
# The order of candidates does not matter

The candidates are sorted by their ranks, and the sort is stable. So candidates of one rank, such as
those for the overloads of a method, stay in the order in which they were found, and the cover is
not the same one when they are found in another order. But it has the same ranks. A rank tells which
attributes a candidate sets (`SetterResolution.GroupCandidate.mem_attrs_rank_iff`), so that
candidates of one rank take away the same attributes and leave the same ones; whichever of them is
accepted makes no difference to those that come after it
(`SetterResolution.GroupCandidate.map_rank_accept`).

Nor does it matter in which order an adapter takes its parameters, as a rank lists the attributes in
ascending order and the fits in the order of the attributes
(`SetterResolution.GroupCandidate.zip_rank_perm`).

The main statement is `SetterResolution.GroupCandidate.rank_cover_perm`.
-/

namespace SetterResolution.GroupCandidate

open Std (ExtTreeMap LawfulEqOrd OrientedCmp TransCmp)

variable {candidates other : List GroupCandidate} {candidate : GroupCandidate}

/-! ### What a rank tells -/

instance : LawfulEqOrd Rank where
  eq_of_compare {a b} h := by
    rw [show compare a b = Rank.compare a b from rfl, Rank.compare] at h
    simp only [compareLex_eq_eq, compareOn, LawfulEqOrd.compare_eq_iff_eq] at h
    obtain ⟨hsize, hdepth, hattrs, hfits, hadapter⟩ := h
    cases a; cases b; simp_all

theorem attrs_eq (candidate : GroupCandidate) :
    candidate.attrs =
      (candidate.arguments.map fun (param, fit) => (param.attr, fit)).map Prod.fst := by
  rw [attrs, GroupKey.attrs, key, List.map_map, List.map_map]
  rfl

/-- A rank has the attributes in ascending order. -/
theorem pairwise_attrs_rank (candidate : GroupCandidate) :
    candidate.rank.attrs.Pairwise fun a b => compare a b = .lt :=
  List.pairwise_map.mpr ExtTreeMap.ordered_keys_toList

/-- **A rank tells which attributes are set.** -/
theorem mem_attrs_rank_iff {attr : Attribute} :
    attr ∈ candidate.rank.attrs ↔ attr ∈ candidate.attrs := by
  rw [rank, sortedFits, ExtTreeMap.map_fst_toList_eq_keys, ExtTreeMap.mem_keys,
    ExtTreeMap.mem_ofList, List.contains_iff_mem, attrs_eq]

/-- **A rank tells how well the value of each attribute fits**, in whichever order the adapter takes
them. -/
theorem zip_rank_perm (h : candidate.attrs.Nodup) :
    (candidate.rank.attrs.zip candidate.rank.fits).Perm
      (candidate.arguments.map fun (param, fit) => (param.attr, fit.rank)) := by
  rw [attrs_eq] at h
  have hperm := (toList_ofList_perm h).map fun entry => (entry.1, entry.2.rank)
  rw [List.map_map] at hperm
  rwa [rank, List.zip_map']

/-! ### Candidates of one rank -/

/-- **A pass over other candidates of the same ranks** accepts candidates of the same ranks. -/
theorem map_rank_accept {taken taken' : List Attribute}
    (hranks : candidates.map rank = other.map rank)
    (htaken : ∀ attr, attr ∈ taken ↔ attr ∈ taken') :
    (accept taken candidates).map rank = (accept taken' other).map rank := by
  induction candidates generalizing other taken taken' with
  | nil =>
    obtain rfl := List.map_eq_nil_iff.mp hranks.symm
    rfl
  | cons first rest ih =>
    obtain ⟨first', rest', rfl, hfirst, hrest⟩ := List.map_eq_cons_iff.mp hranks.symm
    have hattrs (attr : Attribute) : attr ∈ first.attrs ↔ attr ∈ first'.attrs := by
      rw [← mem_attrs_rank_iff, ← hfirst, mem_attrs_rank_iff]
    have hany : first.attrs.any (· ∈ taken) = first'.attrs.any (· ∈ taken') := by
      rw [Bool.eq_iff_iff, List.any_eq_true, List.any_eq_true]
      simp only [hattrs, htaken, decide_eq_true_iff]
    rw [accept, accept, hany]
    split
    · exact ih hrest.symm htaken
    · -- both take the same attributes away
      rw [List.map_cons, List.map_cons, hfirst]
      refine congrArg _ (ih hrest.symm fun attr => ?_)
      rw [List.mem_append, List.mem_append, htaken, hattrs]

theorem pairwise_sorted (candidates : List GroupCandidate) :
    (sorted candidates).Pairwise fun a b => (compare a.rank b.rank).isLE :=
  List.pairwise_mergeSort (fun _ _ _ => TransCmp.isLE_trans) (fun a b => isLE_total a.rank b.rank) _

theorem sorted_perm (candidates : List GroupCandidate) : (sorted candidates).Perm candidates :=
  List.mergeSort_perm ..

theorem rank_eq_of_isLE {a b : Rank} (hab : (compare a b).isLE) (hba : (compare b a).isLE) :
    a = b :=
  LawfulEqOrd.eq_of_compare (OrientedCmp.isLE_antisymm hab hba)

/-- The ranks of the sorted candidates are the sorted ranks. -/
theorem map_rank_sorted (h : (candidates.map rank).Perm (other.map rank)) :
    (sorted candidates).map rank = (sorted other).map rank := by
  refine List.Perm.eq_of_pairwise (fun _ _ _ _ => rank_eq_of_isLE)
    (List.pairwise_map.mpr (pairwise_sorted candidates))
    (List.pairwise_map.mpr (pairwise_sorted other)) ?_
  exact ((sorted_perm candidates).map rank).trans (h.trans ((sorted_perm other).map rank).symm)

/-- Candidates of different ranks are sorted in one way. -/
theorem sorted_eq_of_perm (h : candidates.Perm other) (hranks : (candidates.map rank).Nodup) :
    sorted candidates = sorted other := by
  refine List.Perm.eq_of_pairwise (fun a b ha hb hab hba => ?_) (pairwise_sorted candidates)
    (pairwise_sorted other) ((sorted_perm candidates).trans (h.trans (sorted_perm other).symm))
  exact List.inj_on_of_nodup_map hranks (List.mem_mergeSort.mp ha)
    (h.mem_iff.mpr (List.mem_mergeSort.mp hb)) (rank_eq_of_isLE hab hba)

/-- **The order of candidates does not matter.** When the candidates come in another order, the
cover has the same ranks in the same order, and if no two candidates have the same rank it is the
same cover. The rank of a candidate that repeats no attribute lists its attributes in ascending
order, and in the same order how well their values fit. -/
theorem rank_cover_perm (h : candidates.Perm other) :
    (cover candidates).map rank = (cover other).map rank ∧
    ((candidates.map rank).Nodup → cover candidates = cover other) ∧
    ∀ candidate ∈ candidates, candidate.attrs.Nodup →
      candidate.rank.attrs.Pairwise (fun a b => compare a b = .lt) ∧
      (candidate.rank.attrs.zip candidate.rank.fits).Perm
        (candidate.arguments.map fun (param, fit) => (param.attr, fit.rank)) := by
  refine ⟨map_rank_accept (map_rank_sorted (h.map rank)) fun _ => Iff.rfl, fun hranks => ?_,
    fun candidate _ hdistinct => ⟨pairwise_attrs_rank candidate, zip_rank_perm hdistinct⟩⟩
  rw [cover, cover, sorted_eq_of_perm h hranks]

/-- Two overloads of a method have one rank, though they take their parameters in different orders.
The cover has the one that comes first, and the ranks of the cover stay the same when it is the
other one. -/
theorem rank_cover_perm_overloads :
    let candidate (names : List String) (type : String) : GroupCandidate :=
      ⟨.named "View", names.map fun name => (⟨⟨name⟩, .named type⟩, .assignable 1),
        ⟨.named "Adapters", "set"⟩, 1⟩
    let texts := candidate ["a", "b"] "Text"
    let icons := candidate ["b", "a"] "Icon"
    let candidates := [texts, candidate ["b", "c"] "Text", icons]
    let other := [icons, candidate ["b", "c"] "Text", texts]
    candidates.Perm other ∧ (cover candidates).map rank = (cover other).map rank ∧
      texts.rank = icons.rank ∧ cover candidates = [texts] ∧ cover other = [icons] := by
  intro candidate texts icons candidates other
  have hperm : candidates.Perm other := (List.reverse_perm candidates).symm
  have htexts : best? (compareOn rank) candidates = some texts := by decide +kernel
  have hicons : best? (compareOn rank) other = some icons := by decide +kernel
  have hnone : remaining candidates texts = [] := by decide +kernel
  have hnone' : remaining other icons = [] := by decide +kernel
  refine ⟨hperm, (rank_cover_perm hperm).1, by decide +kernel, ?_, ?_⟩
  · rw [cover_of_best? htexts, hnone, cover_nil]
  · rw [cover_of_best? hicons, hnone', cover_nil]

end SetterResolution.GroupCandidate
