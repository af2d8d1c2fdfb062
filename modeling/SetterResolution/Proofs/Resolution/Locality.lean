import Mathlib.Data.List.Perm.Subperm
import SetterResolution.Proofs.Resolution.Order

/-!
# Groups of attributes that have nothing to do with each other

Let the attributes of a view be split into two parts, such that no group adapter that can be used
sets attributes of both. Then the calls for all of them are those for the one part together with
those for the other part.

What has to be shown is that the choice of a cover is local. A run for one part sees the candidates
of all attributes that are **within** the part and no others
(`SetterResolution.Context.groupCandidates_append`), in the same order: that some attributes are not
bound does not make a group adapter of the others usable or not. The sort that follows is stable,
and so it keeps the order of those that are within the part, equal ranks or not
(`SetterResolution.filter_mergeSort`). In the sorted list the candidates of the two parts alternate
as they like, but whether one of them is accepted depends on those of its own part alone, because
the others take nothing away from it (`SetterResolution.GroupCandidate.filter_accept`). So the cover
for a part is what the cover for all attributes has within the part, and the part's attributes are
left by the one if and only if they are left by the other.

The main statement is `SetterResolution.Context.resolveAll_split`. An adapter without attributes is
within both parts, and is called once for each; only where there is none do the numbers of calls add
up.
-/

namespace SetterResolution

open Std (OrientedCmp TransCmp TransOrd)

/-! ### Sorting a part of a list -/

section Sorting

variable {α : Type} {le : α → α → Bool}

/-- Where a list changes from what has a property to what does not have it is determined by the
list. -/
theorem append_inj_of_forall {p : α → Bool} {before after before' after' : List α}
    (h : before ++ after = before' ++ after') (hbefore : ∀ a ∈ before, ¬ p a)
    (hafter : ∀ a ∈ after, p a) (hbefore' : ∀ a ∈ before', ¬ p a) (hafter' : ∀ a ∈ after', p a) :
    before = before' ∧ after = after' := by
  have hfilter := congrArg (List.filter p) h
  rw [List.filter_append, List.filter_append, List.filter_eq_nil_iff.mpr hbefore,
    List.filter_eq_nil_iff.mpr hbefore', List.filter_eq_self.mpr hafter,
    List.filter_eq_self.mpr hafter', List.nil_append, List.nil_append] at hfilter
  subst hfilter
  exact ⟨List.append_cancel_right h, rfl⟩

/-- The head of a list is put before the first member of the sorted rest that it is not greater
than. -/
theorem exists_mergeSort_cons (htrans : ∀ a b c, le a b → le b c → le a c)
    (htotal : ∀ a b, le a b || le b a) (a : α) (l : List α) :
    ∃ before after, (a :: l).mergeSort le = before ++ a :: after ∧
      l.mergeSort le = before ++ after ∧ (∀ b ∈ before, ¬ le a b) ∧ ∀ b ∈ after, le a b := by
  obtain ⟨before, after, hcons, hrest, hbefore⟩ := List.mergeSort_cons htrans htotal a l
  have hsorted := List.pairwise_mergeSort htrans htotal (a :: l)
  rw [hcons] at hsorted
  have hafter := (List.pairwise_cons.mp (List.pairwise_append.mp hsorted).2.1).1
  exact ⟨before, after, hcons, hrest, fun b hb => by simpa using hbefore b hb, hafter⟩

/-- **Sorting keeps apart what a filter keeps apart**: a part of a list is sorted as it is within
the sorted list, members of equal rank included. -/
theorem filter_mergeSort (htrans : ∀ a b c, le a b → le b c → le a c)
    (htotal : ∀ a b, le a b || le b a) (p : α → Bool) (l : List α) :
    (l.mergeSort le).filter p = (l.filter p).mergeSort le := by
  induction l with
  | nil => simp
  | cons a rest ih =>
    obtain ⟨before, after, hcons, hrest, hbefore, hafter⟩ :=
      exists_mergeSort_cons htrans htotal a rest
    rw [hrest, List.filter_append] at ih
    rw [hcons, List.filter_append]
    by_cases ha : p a
    · obtain ⟨before', after', hcons', hrest', hbefore', hafter'⟩ :=
        exists_mergeSort_cons htrans htotal a (rest.filter p)
      -- the head is put in the same place among the rest of the part
      obtain ⟨rfl, rfl⟩ := append_inj_of_forall (ih.trans hrest')
        (fun b hb => hbefore b (List.mem_filter.mp hb).1)
        (fun b hb => hafter b (List.mem_filter.mp hb).1) hbefore' hafter'
      rw [List.filter_cons_of_pos ha, List.filter_cons_of_pos ha, hcons']
    · rw [List.filter_cons_of_neg ha, List.filter_cons_of_neg ha, ih]

theorem isLE_total {cmp : α → α → Ordering} [OrientedCmp cmp] (a b : α) :
    (cmp a b).isLE || (cmp b a).isLE := by
  rw [Bool.or_eq_true, or_iff_not_imp_left]
  intro hlt
  rw [OrientedCmp.lt_of_not_isLE hlt]
  rfl

end Sorting

/-! ### The choice of a cover is local -/

namespace GroupCandidate

instance : TransOrd Rank :=
  inferInstanceAs (TransCmp (compareLex (fun a b => compareOn Rank.size b a)
    (compareLex (fun a b => compareOn Rank.viewDepth b a)
      (compareLex (compareOn Rank.attrs) (compareLex (compareOn Rank.fits)
        (compareOn Rank.adapter))))))

/-- Whether all attributes that an adapter sets are in a part of the attributes. -/
def within (part : List Attribute) (candidate : GroupCandidate) : Bool :=
  candidate.attrs.all (· ∈ part)

variable {part : List Attribute} {candidates : List GroupCandidate}

theorem within_iff {candidate : GroupCandidate} :
    candidate.within part ↔ ∀ attr ∈ candidate.attrs, attr ∈ part := by
  rw [within, List.all_eq_true]
  simp only [decide_eq_true_iff]

/-- **What is accepted within a part** is what is accepted of the candidates within it, as long as
each of the others sets nothing of the part. -/
theorem filter_accept {taken taken' : List Attribute}
    (hapart : ∀ candidate ∈ candidates, candidate.within part ∨
      ∀ attr ∈ candidate.attrs, attr ∉ part)
    (htaken : ∀ attr ∈ part, attr ∈ taken ↔ attr ∈ taken') :
    (accept taken candidates).filter (within part) =
      accept taken' (candidates.filter (within part)) := by
  induction candidates generalizing taken taken' with
  | nil => rfl
  | cons first rest ih =>
    have hrest := fun candidate hmem => hapart candidate (List.mem_cons_of_mem _ hmem)
    rw [accept]
    by_cases hwithin : first.within part
    · have hany : first.attrs.any (· ∈ taken) = first.attrs.any (· ∈ taken') := by
        rw [Bool.eq_iff_iff, List.any_eq_true, List.any_eq_true]
        refine exists_congr fun attr => and_congr_right fun hattr => ?_
        rw [decide_eq_true_iff, decide_eq_true_iff, htaken attr (within_iff.mp hwithin attr hattr)]
      rw [List.filter_cons_of_pos hwithin, accept, hany]
      split
      · exact ih hrest htaken
      · rw [List.filter_cons_of_pos hwithin]
        refine congrArg _ (ih hrest fun attr hattr => ?_)
        rw [List.mem_append, List.mem_append, htaken attr hattr]
    · rw [List.filter_cons_of_neg hwithin]
      split
      · exact ih hrest htaken
      · -- what it sets is no attribute of the part
        rw [List.filter_cons_of_neg hwithin]
        refine ih hrest fun attr hattr => ?_
        have hfirst := (hapart first List.mem_cons_self).resolve_left hwithin
        rw [List.mem_append, htaken attr hattr,
          or_iff_left fun hmem => hfirst attr hmem hattr]

theorem sorted_eq (candidates : List GroupCandidate) :
    sorted candidates = candidates.mergeSort fun a b => (compareOn rank a b).isLE :=
  rfl

theorem filter_sorted (p : GroupCandidate → Bool) (candidates : List GroupCandidate) :
    (sorted candidates).filter p = sorted (candidates.filter p) := by
  rw [sorted_eq, sorted_eq]
  exact filter_mergeSort (fun _ _ _ => TransCmp.isLE_trans) isLE_total p candidates

/-- **The cover for a part** is what the cover has within the part. -/
theorem filter_cover
    (hapart : ∀ candidate ∈ candidates, candidate.within part ∨
      ∀ attr ∈ candidate.attrs, attr ∉ part) :
    (cover candidates).filter (within part) = cover (candidates.filter (within part)) := by
  have hsorted : ∀ candidate ∈ sorted candidates, candidate.within part ∨
      ∀ attr ∈ candidate.attrs, attr ∉ part := fun candidate hmem =>
    hapart candidate (List.mem_mergeSort.mp hmem)
  rw [cover, cover, filter_accept hsorted fun _ _ => Iff.rfl, filter_sorted]

end GroupCandidate

namespace Context

variable {ctx : Context} {key : GroupKey} {view : HostType} {adapter : Method}

/-! ### The candidates of a part -/

theorem fitBindings?_append (slots : List (Option Fit)) (first second : List Binding) :
    ctx.fitBindings? key slots (first ++ second) =
      (ctx.fitBindings? key slots first).bind (ctx.fitBindings? key · second) := by
  induction first generalizing slots with
  | nil => rfl
  | cons binding rest ih =>
    rw [List.cons_append, fitBindings?_cons, fitBindings?_cons slots binding rest,
      Option.bind_assoc]
    simp only [ih]

/-- Bindings of other attributes than those of the key are passed over. -/
theorem fitBindings?_of_not_mem {bindings : List Binding}
    (h : ∀ binding ∈ bindings, binding.1 ∉ key.attrs) (slots : List (Option Fit)) :
    ctx.fitBindings? key slots bindings = some slots := by
  induction bindings with
  | nil => rfl
  | cons binding rest ih =>
    have hplace : key.position? binding.1 = none :=
      GroupKey.lastPosition?_eq_none_iff.mpr (h binding List.mem_cons_self)
    obtain ⟨attr, value⟩ := binding
    rw [fitBindings?, hplace]
    exact ih fun binding hmem => h binding (List.mem_cons_of_mem _ hmem)

/-- Different attributes that are all bound are no more than there are bindings. -/
theorem size_le_length {bindings : List Binding} (hkey : key.attrs.Nodup)
    (hbound : ∀ attr ∈ key.attrs, attr ∈ bindings.map Prod.fst) :
    key.size ≤ bindings.length := by
  have hle := (List.subperm_of_subset hkey hbound).length_le
  rwa [GroupKey.length_attrs, List.length_map] at hle

/-- An adapter whose attributes are all bound by the first bindings does not see the others. -/
theorem groupCandidate?_append_of_within {first second : List Binding}
    (hdistinct : ((first ++ second).map Prod.fst).Nodup) (hkey : key.attrs.Nodup)
    (hwithin : ∀ attr ∈ key.attrs, attr ∈ first.map Prod.fst) :
    ctx.groupCandidate? first.length view first key adapter =
      ctx.groupCandidate? (first ++ second).length view (first ++ second) key adapter := by
  have hfit (slots : List (Option Fit)) :
      ctx.fitBindings? key slots (first ++ second) = ctx.fitBindings? key slots first := by
    rw [List.map_append] at hdistinct
    have hdisjoint := (List.nodup_append.mp hdistinct).2.2
    have hsecond : ∀ binding ∈ second, binding.1 ∉ key.attrs := fun binding hmem hattr =>
      hdisjoint _ (hwithin _ hattr) _ (List.mem_map_of_mem hmem) rfl
    rw [fitBindings?_append]
    simp only [fitBindings?_of_not_mem hsecond, Option.bind_fun_some]
  have hsize := size_le_length hkey hwithin
  have hsize' : key.size ≤ (first ++ second).length := by
    rw [List.length_append]
    omega
  simp only [groupCandidate?, hfit, hsize, hsize']

/-- **The candidate for a part** of the bindings is the one for all of them, if it is within the
part. -/
theorem groupCandidate?_append {first second : List Binding}
    (hdistinct : ((first ++ second).map Prod.fst).Nodup) :
    ctx.groupCandidate? first.length view first key adapter =
      (ctx.groupCandidate? (first ++ second).length view (first ++ second) key adapter).filter
        (GroupCandidate.within (first.map Prod.fst)) := by
  refine Option.ext fun candidate => ?_
  rw [Option.filter_eq_some_iff, GroupCandidate.within_iff]
  constructor
  · intro h
    have hwithin : ∀ attr ∈ candidate.attrs, attr ∈ first.map Prod.fst := fun attr hattr => by
      obtain ⟨binding, hbinding, rfl⟩ := exists_binding_of_groupCandidate? h hattr
      exact List.mem_map_of_mem hbinding
    have hnodup := attrs_nodup_of_groupCandidate? h
    obtain ⟨rfl, -⟩ := groupCandidate?_eq_some h
    rw [← groupCandidate?_append_of_within hdistinct hnodup hwithin]
    exact ⟨h, hwithin⟩
  · rintro ⟨h, hwithin⟩
    have hnodup := attrs_nodup_of_groupCandidate? h
    obtain ⟨rfl, -⟩ := groupCandidate?_eq_some h
    rwa [groupCandidate?_append_of_within hdistinct hnodup hwithin]

/-- **The candidates for a part** of the bindings are those of all of them that are within the part,
in the same order. -/
theorem groupCandidates_append {first second : List (String × HostType)}
    (hdistinct : (boundAttrs (first ++ second)).Nodup) :
    ctx.groupCandidates (boundAttrs first) view (first.map Prod.snd) =
      (ctx.groupCandidates (boundAttrs (first ++ second)) view
        ((first ++ second).map Prod.snd)).filter (GroupCandidate.within (boundAttrs first)) := by
  rw [boundAttrs_eq, List.map_append] at hdistinct
  rw [groupCandidates_eq, groupCandidates_eq, List.filter_filterMap]
  refine List.filterMap_congr fun entry _ => ?_
  rw [boundAttrs_eq, ← List.length_map bindingOf, ← List.length_map bindingOf, List.map_append]
  exact groupCandidate?_append hdistinct

/-! ### The calls for a part -/

/-- Bindings of different attributes in two parts, which no group adapter that can be used
connects. -/
structure Apart (ctx : Context) (view : HostType) (first second : List (String × HostType)) :
    Prop where
  /-- No attribute is bound twice. -/
  distinct : (boundAttrs (first ++ second)).Nodup
  /-- What a candidate sets is in one part. -/
  within : ∀ candidate ∈ ctx.groupCandidates (boundAttrs (first ++ second)) view
      ((first ++ second).map Prod.snd),
    candidate.within (boundAttrs first) ∨ candidate.within (boundAttrs second)

namespace Apart

variable {first second : List (String × HostType)}

/-- A split of bindings into two parts sets them apart if no candidate sets attributes of both. -/
theorem of_perm {bindings : List (String × HostType)} (hsplit : bindings.Perm (first ++ second))
    (hdistinct : (boundAttrs bindings).Nodup)
    (hapart : ∀ candidate ∈
      ctx.groupCandidates (boundAttrs bindings) view (bindings.map Prod.snd),
      ¬ ((∃ attr ∈ candidate.attrs, attr ∈ boundAttrs first) ∧
        ∃ attr ∈ candidate.attrs, attr ∈ boundAttrs second)) :
    ctx.Apart view first second := by
  refine ⟨(boundAttrs_perm hsplit).nodup hdistinct, fun candidate hmem => ?_⟩
  rw [← groupCandidates_perm hsplit hdistinct] at hmem
  have hbound (attr : Attribute) (hattr : attr ∈ candidate.attrs) :
      attr ∈ boundAttrs first ∨ attr ∈ boundAttrs second := by
    have hattr := mem_of_mem_groupCandidates hmem hattr
    rwa [(boundAttrs_perm hsplit).mem_iff, boundAttrs_append, List.mem_append] at hattr
  rw [GroupCandidate.within_iff, GroupCandidate.within_iff, or_iff_not_imp_left]
  intro hout attr hattr
  -- one attribute is not in the first part, so none is
  obtain ⟨other, hother, hnot⟩ : ∃ other ∈ candidate.attrs, other ∉ boundAttrs first := by
    simpa using hout
  refine (hbound attr hattr).resolve_left fun hfirst => hapart candidate hmem ?_
  exact ⟨⟨attr, hattr, hfirst⟩, other, hother, (hbound other hother).resolve_left hnot⟩

theorem symm (h : ctx.Apart view first second) : ctx.Apart view second first := by
  have hperm : (first ++ second).Perm (second ++ first) := List.perm_append_comm
  refine ⟨(boundAttrs_perm hperm).nodup h.distinct, fun candidate hmem => ?_⟩
  rw [← groupCandidates_perm hperm h.distinct] at hmem
  exact (h.within candidate hmem).symm

theorem not_mem (h : ctx.Apart view first second) {attr : Attribute}
    (hfirst : attr ∈ boundAttrs first) : attr ∉ boundAttrs second := by
  have hdistinct := h.distinct
  rw [boundAttrs_append] at hdistinct
  exact fun hsecond => (List.nodup_append.mp hdistinct).2.2 _ hfirst _ hsecond rfl

theorem not_within (h : ctx.Apart view first second) {candidate : GroupCandidate}
    (hattrs : candidate.attrs ≠ []) (hfirst : candidate.within (boundAttrs first)) :
    ¬ candidate.within (boundAttrs second) := by
  intro hsecond
  obtain ⟨attr, hattr⟩ := List.exists_mem_of_ne_nil _ hattrs
  exact h.not_mem (GroupCandidate.within_iff.mp hfirst attr hattr)
    (GroupCandidate.within_iff.mp hsecond attr hattr)

theorem accepted_comm (h : ctx.Apart view first second) :
    ctx.accepted ((second ++ first).map Prod.fst) view ((second ++ first).map Prod.snd) =
      ctx.accepted ((first ++ second).map Prod.fst) view ((first ++ second).map Prod.snd) := by
  rw [accepted_eq_cover, accepted_eq_cover,
    groupCandidates_perm List.perm_append_comm h.symm.distinct]

/-- **The adapters that are called for a part** are those of all that are called that are within
it. -/
theorem accepted_eq (h : ctx.Apart view first second) :
    ctx.accepted (first.map Prod.fst) view (first.map Prod.snd) =
      (ctx.accepted ((first ++ second).map Prod.fst) view ((first ++ second).map Prod.snd)).filter
        (GroupCandidate.within (boundAttrs first)) := by
  have hout : ∀ candidate ∈ ctx.groupCandidates (boundAttrs (first ++ second)) view
      ((first ++ second).map Prod.snd),
      candidate.within (boundAttrs first) ∨ ∀ attr ∈ candidate.attrs, attr ∉ boundAttrs first := by
    intro candidate hmem
    refine (h.within candidate hmem).imp_right fun hsecond attr hattr hfirst => ?_
    exact h.not_mem hfirst (GroupCandidate.within_iff.mp hsecond attr hattr)
  rw [accepted_eq_cover, accepted_eq_cover, GroupCandidate.filter_cover hout,
    ← groupCandidates_append h.distinct]

/-- An attribute of a part is set by an adapter in the run for the part if it is in the run for
all. -/
theorem mem_covered_iff (h : ctx.Apart view first second) {attr : Attribute}
    (hattr : attr ∈ boundAttrs first) :
    attr ∈ ctx.covered (first.map Prod.fst) view (first.map Prod.snd) ↔
      attr ∈ ctx.covered ((first ++ second).map Prod.fst) view
        ((first ++ second).map Prod.snd) := by
  rw [covered, covered, h.accepted_eq, List.mem_flatMap, List.mem_flatMap]
  refine exists_congr fun candidate => and_congr_left fun hsets => ?_
  rw [List.mem_filter, and_iff_left_iff_imp]
  intro haccepted
  have hwithin := h.within candidate (GroupCandidate.mem_of_mem_cover haccepted)
  exact hwithin.resolve_right fun hother =>
    h.not_mem hattr (GroupCandidate.within_iff.mp hother attr hsets)

/-- The bindings of a part that are left are those of all that are left. -/
theorem uncovered_eq (h : ctx.Apart view first second) :
    ctx.uncovered (first.map Prod.fst) view (first.map Prod.snd) =
      first.filter fun binding => .ofWritten binding.1 ∉
        ctx.covered ((first ++ second).map Prod.fst) view ((first ++ second).map Prod.snd) := by
  rw [uncovered_eq_filter]
  refine List.filter_congr fun binding hbinding => ?_
  have hattr : .ofWritten binding.1 ∈ boundAttrs first :=
    List.mem_map_of_mem (List.mem_map_of_mem hbinding)
  exact decide_eq_decide.mpr (not_congr (h.mem_covered_iff hattr))

/-- **What is left of all bindings** is what is left of the parts. -/
theorem uncovered_append (h : ctx.Apart view first second) :
    ctx.uncovered ((first ++ second).map Prod.fst) view ((first ++ second).map Prod.snd) =
      ctx.uncovered (first.map Prod.fst) view (first.map Prod.snd) ++
        ctx.uncovered (second.map Prod.fst) view (second.map Prod.snd) := by
  have hcovered : ctx.covered ((second ++ first).map Prod.fst) view
      ((second ++ first).map Prod.snd) =
      ctx.covered ((first ++ second).map Prod.fst) view ((first ++ second).map Prod.snd) := by
    rw [covered, covered, h.accepted_comm]
  rw [uncovered_eq_filter, List.filter_append, h.uncovered_eq, h.symm.uncovered_eq, hcovered]

/-- **What is called for all bindings** is what is called for one of the parts. -/
theorem mem_accepted_append (h : ctx.Apart view first second) {candidate : GroupCandidate} :
    candidate ∈ ctx.accepted ((first ++ second).map Prod.fst) view
        ((first ++ second).map Prod.snd) ↔
      candidate ∈ ctx.accepted (first.map Prod.fst) view (first.map Prod.snd) ∨
        candidate ∈ ctx.accepted (second.map Prod.fst) view (second.map Prod.snd) := by
  rw [h.accepted_eq, h.symm.accepted_eq, h.accepted_comm, List.mem_filter, List.mem_filter,
    ← and_or_left, iff_self_and]
  exact fun haccepted => h.within candidate (GroupCandidate.mem_of_mem_cover haccepted)

/-- Where every adapter sets something, each is called for one part only. -/
theorem accepted_append_perm (h : ctx.Apart view first second)
    (hkeys : ∀ key adapter, (key, adapter) ∈ ctx.tables.groups.toList → key.attrs ≠ []) :
    (ctx.accepted ((first ++ second).map Prod.fst) view ((first ++ second).map Prod.snd)).Perm
      (ctx.accepted (first.map Prod.fst) view (first.map Prod.snd) ++
        ctx.accepted (second.map Prod.fst) view (second.map Prod.snd)) := by
  have hsecond : ∀ candidate ∈ ctx.accepted ((first ++ second).map Prod.fst) view
      ((first ++ second).map Prod.snd),
      candidate.within (boundAttrs second) = !candidate.within (boundAttrs first) := by
    intro candidate haccepted
    have hmem := GroupCandidate.mem_of_mem_cover haccepted
    have hattrs : candidate.attrs ≠ [] := by
      obtain ⟨key, adapter, hentry, hcandidate⟩ := mem_groupCandidates_iff.mp hmem
      obtain ⟨rfl, -⟩ := groupCandidate?_eq_some hcandidate
      exact hkeys _ _ hentry
    rcases h.within candidate hmem with hfirst | hsecond
    · rw [hfirst, Bool.eq_false_iff.mpr (h.not_within hattrs hfirst)]
      rfl
    · rw [hsecond, Bool.eq_false_iff.mpr (h.symm.not_within hattrs hsecond)]
      rfl
  rw [h.accepted_eq, h.symm.accepted_eq, h.accepted_comm, List.filter_congr hsecond]
  exact (List.filter_append_perm _ _).symm

end Apart

/-- **Independent attributes are resolved independently.** Let bindings of different attributes be
split into two parts, such that no group adapter that accepts the bound values sets attributes of
both. Then the calls for all of them are those for the one part and those for the other, and so is
what is reported. If every group adapter sets an attribute, no call is made for both parts. -/
theorem resolveAll_split (ctx : Context) (view : HostType)
    {bindings first second : List (String × HostType)} (hsplit : bindings.Perm (first ++ second))
    (hdistinct : (boundAttrs bindings).Nodup)
    (hapart : ∀ candidate ∈
      ctx.groupCandidates (boundAttrs bindings) view (bindings.map Prod.snd),
      ¬ ((∃ attr ∈ candidate.attrs, attr ∈ boundAttrs first) ∧
        ∃ attr ∈ candidate.attrs, attr ∈ boundAttrs second)) :
    let resolveAll (bindings : List (String × HostType)) :=
      ctx.resolveAll (bindings.map Prod.fst) view (bindings.map Prod.snd)
    (∀ call, call ∈ (resolveAll bindings).1 ↔
      call ∈ (resolveAll first).1 ∨ call ∈ (resolveAll second).1) ∧
    ((∀ key adapter, (key, adapter) ∈ ctx.tables.groups.toList → key.attrs ≠ []) →
      (resolveAll bindings).1.Perm ((resolveAll first).1 ++ (resolveAll second).1)) ∧
    (resolveAll bindings).2.Perm ((resolveAll first).2 ++ (resolveAll second).2) := by
  intro resolveAll
  have happart := Apart.of_perm hsplit hdistinct hapart
  have haccepted : ctx.accepted (bindings.map Prod.fst) view (bindings.map Prod.snd) =
      ctx.accepted ((first ++ second).map Prod.fst) view ((first ++ second).map Prod.snd) := by
    rw [accepted_eq_cover, accepted_eq_cover, groupCandidates_perm hsplit hdistinct]
  have hleft : (ctx.uncovered (bindings.map Prod.fst) view (bindings.map Prod.snd)).Perm
      (ctx.uncovered (first.map Prod.fst) view (first.map Prod.snd) ++
        ctx.uncovered (second.map Prod.fst) view (second.map Prod.snd)) := by
    rw [← happart.uncovered_append, uncovered_eq_filter, uncovered_eq_filter, covered, covered,
      haccepted]
    exact hsplit.filter _
  have hresolved (l : List (String × HostType)) :=
    resolveAll_of_length_eq ctx (l.map Prod.fst) view (l.map Prod.snd) (by simp)
  simp only [resolveAll, hresolved, groupCalls, haccepted]
  refine ⟨fun call => ?_, fun hkeys => ?_, ?_⟩
  · simp only [List.mem_append, List.mem_map, happart.mem_accepted_append, hleft.mem_iff,
      or_and_right, exists_or]
    exact or_or_or_comm
  · refine (((happart.accepted_append_perm hkeys).map _).append (hleft.map _)).trans ?_
    simp only [List.map_append, List.append_assoc]
    exact (List.perm_append_comm_assoc ..).append_left _
  · rw [← List.flatMap_append]
    exact hleft.flatMap_right _

/-- Each part has a group adapter, and one of them has an attribute without a setter. The bindings
of the parts are written in turn. -/
theorem resolveAll_split_in_turn :
    let view : HostType := .named "View"
    let string : HostType := .named "String"
    let int : HostType := .prim .int
    let hierarchy := Hierarchy.standard.declareClass "View" (some "Object")
    let method (name : String) : Method := ⟨.named "Adapters", name⟩
    let groups : GroupTable := Std.ExtTreeMap.empty
      |>.insert ⟨view, [⟨⟨"src"⟩, string⟩, ⟨⟨"error"⟩, string⟩]⟩ (method "load")
      |>.insert ⟨view, [⟨⟨"x"⟩, int⟩, ⟨⟨"y"⟩, int⟩]⟩ (method "place")
    let ctx : Context := { tables := { groups }, hierarchy }
    let bindings := [("app:x", int), ("app:src", string), ("error", string), ("y", int),
      ("app:hint", string)]
    let first := [("app:src", string), ("error", string), ("app:hint", string)]
    let second := [("app:x", int), ("y", int)]
    let resolveAll (bindings : List (String × HostType)) :=
      ctx.resolveAll (bindings.map Prod.fst) view (bindings.map Prod.snd)
    bindings.Perm (first ++ second) ∧ (boundAttrs bindings).Nodup ∧
      (∀ candidate ∈ ctx.groupCandidates (boundAttrs bindings) view (bindings.map Prod.snd),
        ¬ ((∃ attr ∈ candidate.attrs, attr ∈ boundAttrs first) ∧
          ∃ attr ∈ candidate.attrs, attr ∈ boundAttrs second)) ∧
      (∀ key adapter, (key, adapter) ∈ groups.toList → key.attrs ≠ []) ∧
      (resolveAll bindings).1.Perm ((resolveAll first).1 ++ (resolveAll second).1) ∧
      (resolveAll second).1 =
        [.group [⟨"x"⟩, ⟨"y"⟩] (method "place") [.none, .none] lowestPlatform] ∧
      (resolveAll first).1 =
        [.group [⟨"src"⟩, ⟨"error"⟩] (method "load") [.none, .none] lowestPlatform,
          .fallback ⟨"hint"⟩ "setHint" lowestPlatform] := by
  intro view string int hierarchy method groups ctx bindings first second resolveAll
  have hsplit : bindings.Perm (first ++ second) := by decide +kernel
  have hdistinct : (boundAttrs bindings).Nodup := by decide +kernel
  have hapart : ∀ candidate ∈
      ctx.groupCandidates (boundAttrs bindings) view (bindings.map Prod.snd),
      ¬ ((∃ attr ∈ candidate.attrs, attr ∈ boundAttrs first) ∧
        ∃ attr ∈ candidate.attrs, attr ∈ boundAttrs second) := by
    decide +kernel
  have hkeys : ∀ key adapter, (key, adapter) ∈ groups.toList → key.attrs ≠ [] := by
    have hentries : ∀ entry ∈ groups.toList, entry.1.attrs ≠ [] := by decide +kernel
    exact fun key adapter hentry => hentries _ hentry
  exact ⟨hsplit, hdistinct, hapart, hkeys,
    (resolveAll_split ctx view hsplit hdistinct hapart).2.1 hkeys, by decide +kernel,
    by decide +kernel⟩

end Context

end SetterResolution
