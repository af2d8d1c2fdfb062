import SetterResolution.Proofs.Registry.Lookup
import SetterResolution.Proofs.Resolution.Best
import SetterResolution.Resolution.Setter

/-!
# Which setter is called

The candidates for an attribute are computed as a numbered list. This file says what is in the list
without computing it (`SetterResolution.Context.Offers`): a method of the view is offered under one
of three names, an adapter by an entry of the table, and both only when the value fits. The name
that an attribute is renamed to is the delicate one of the three, since several entries may apply to
a view: the deepest target is heard, and of equally deep ones the least
(`SetterResolution.Context.Renames`).

The main statement is `SetterResolution.Context.resolve_calls_preferred`: when nothing is offered
the conventional setter is called, with an error unless the view is a container; otherwise an
offered candidate is called to which no offered candidate is preferred, and nothing is said.
-/

namespace SetterResolution.Context

open Std (TransCmp)

variable (ctx : Context) {attr : Attribute} {view value : HostType} {candidate : Candidate}

/-! ### The names that are tried -/

/-- The entry for `target` decides what the setter of an attribute is called on a view: its target
accepts the view, and it is the deepest one that does, the least of those that are equally deep. -/
structure Renames (attr : Attribute) (view target : HostType) (method : Method) : Prop where
  /-- The entry is in the table. -/
  found : ctx.tables.renamed.find? attr target = some method
  /-- The entry applies to the view. -/
  accepts : ctx.hierarchy.accepts (ctx.qualify target) view
  /-- Every entry that applies has a target that is less deep, or is as deep but not less. -/
  first : ∀ other renamed, ctx.tables.renamed.find? attr other = some renamed →
    ctx.hierarchy.accepts (ctx.qualify other) view →
    ctx.hierarchy.depth (ctx.qualify other) < ctx.hierarchy.depth (ctx.qualify target) ∨
      ctx.hierarchy.depth (ctx.qualify other) = ctx.hierarchy.depth (ctx.qualify target) ∧
        (compare target other).isLE

/-- A method of this name may set the attribute of a view. -/
inductive Tries (attr : Attribute) (view : HostType) : String → Prop
  /-- The name that the setter is renamed to. -/
  | renamed {target : HostType} {method : Method} :
      ctx.Renames attr view target method → Tries attr view method.name
  /-- The conventional name. -/
  | conventional : Tries attr view attr.conventionalSetter
  /-- The local name of the attribute. -/
  | localName : Tries attr view attr.localName

variable {ctx}

/-- At most one entry decides. -/
theorem Renames.unique {target target' : HostType} {method method' : Method}
    (h : ctx.Renames attr view target method) (h' : ctx.Renames attr view target' method') :
    target = target' ∧ method = method' := by
  have hle := h.first target' method' h'.found h'.accepts
  have hge := h'.first target method h.found h.accepts
  have heq : target = target' := by
    -- neither of the two is deeper, so each comes before the other
    refine Std.LawfulEqOrd.eq_of_compare (Std.OrientedCmp.isLE_antisymm ?_ ?_)
    · rcases hle with hlt | ⟨-, hle⟩
      · omega
      · exact hle
    · rcases hge with hlt | ⟨-, hge⟩
      · omega
      · exact hge
  subst heq
  exact ⟨rfl, Option.some.inj (h.found.symm.trans h'.found)⟩

variable (ctx)

/-- The entries of an attribute that apply to a view, in table order. -/
def renamedRow (attr : Attribute) (view : HostType) : List (HostType × Method) :=
  (ctx.tables.renamed.getD attr ∅).toList.filter fun entry =>
    ctx.hierarchy.accepts (ctx.qualify entry.1) view

/-- Deeper targets come first. -/
def compareTargets : HostType × Method → HostType × Method → Ordering :=
  fun a b => compareOn (fun entry : HostType × Method => ctx.hierarchy.depth (ctx.qualify entry.1))
    b a

instance : TransCmp ctx.compareTargets :=
  inferInstanceAs (TransCmp fun a b =>
    compareOn (fun entry : HostType × Method => ctx.hierarchy.depth (ctx.qualify entry.1)) b a)

theorem renamedSetter?_eq : ctx.renamedSetter? attr view =
    (best? ctx.compareTargets (ctx.renamedRow attr view)).map fun entry => entry.2.name := by
  rw [renamedSetter?, renamedSetters, best?_map, Option.map_map]
  rfl

variable {ctx}

theorem mem_renamedRow {target : HostType} {method : Method} :
    (target, method) ∈ ctx.renamedRow attr view ↔
      ctx.tables.renamed.find? attr target = some method ∧
        ctx.hierarchy.accepts (ctx.qualify target) view := by
  rw [renamedRow, List.mem_filter, Nested.mem_toList_getD]

/-- The best entry decides: entries before it in the table are less deep, and those after it are
greater. -/
theorem renames_of_best? {target : HostType} {method : Method}
    (h : best? ctx.compareTargets (ctx.renamedRow attr view) = some (target, method)) :
    ctx.Renames attr view target method := by
  obtain ⟨before, after, hrow, hbefore, hafter⟩ := best?_eq_some h
  have hordered : (ctx.renamedRow attr view).Pairwise fun a b => compare a.1 b.1 = .lt :=
    Std.ExtTreeMap.ordered_keys_toList.filter _
  have hmem : (target, method) ∈ ctx.renamedRow attr view := by
    rw [hrow]
    exact List.mem_append_right _ List.mem_cons_self
  obtain ⟨hfound, haccepts⟩ := mem_renamedRow.mp hmem
  refine ⟨hfound, haccepts, fun other renamed hother hview => ?_⟩
  have hin : (other, renamed) ∈ before ++ (target, method) :: after :=
    hrow ▸ mem_renamedRow.mpr ⟨hother, hview⟩
  rcases List.mem_append.mp hin with hin | hin
  · exact Or.inl (Nat.compare_eq_lt.mp (hbefore _ hin))
  · rcases List.mem_cons.mp hin with heq | hin
    · obtain ⟨rfl, -⟩ := Prod.mk.inj heq
      exact Or.inr ⟨rfl, Std.ReflCmp.isLE_rfl⟩
    -- an entry that comes later may be as deep, and then its target is greater
    · have hdepth := Nat.isLE_compare.mp (hafter _ hin)
      have hlt : compare target other = .lt := by
        rw [hrow] at hordered
        exact (List.pairwise_cons.mp (List.pairwise_append.mp hordered).2.1).1 _ hin
      rcases Nat.lt_or_eq_of_le hdepth with hdepth | hdepth
      · exact Or.inl hdepth
      · exact Or.inr ⟨hdepth, by rw [hlt]; rfl⟩

/-- **The renamed setter** is the name of the entry that decides, if any entry applies. -/
theorem renamedSetter?_eq_some_iff {name : String} :
    ctx.renamedSetter? attr view = some name ↔
      ∃ target method, ctx.Renames attr view target method ∧ method.name = name := by
  rw [renamedSetter?_eq, Option.map_eq_some_iff]
  constructor
  · rintro ⟨⟨target, method⟩, hbest, hname⟩
    exact ⟨target, method, renames_of_best? hbest, hname⟩
  · rintro ⟨target, method, hrenames, hname⟩
    cases hbest : best? ctx.compareTargets (ctx.renamedRow attr view) with
    | none =>
      -- an entry applies, so that there is a best one
      have hmem := mem_renamedRow.mpr ⟨hrenames.found, hrenames.accepts⟩
      rw [best?_eq_none_iff.mp hbest] at hmem
      cases hmem
    | some entry =>
      obtain ⟨target', method'⟩ := entry
      obtain ⟨-, rfl⟩ := hrenames.unique (renames_of_best? hbest)
      exact ⟨_, rfl, hname⟩

/-- The list of names is made of the names that are tried. -/
theorem mem_setterNames_iff {name : String} :
    name ∈ ctx.setterNames attr view ↔ ctx.Tries attr view name := by
  rw [setterNames, List.mem_eraseDups, List.mem_append, Option.mem_toList,
    renamedSetter?_eq_some_iff]
  constructor
  · rintro (⟨target, method, hrenames, rfl⟩ | hname)
    · exact .renamed hrenames
    · rcases List.mem_cons.mp hname with rfl | hname
      · exact .conventional
      · rw [List.mem_singleton.mp hname]
        exact .localName
  · intro h
    cases h with
    | renamed hrenames => exact Or.inl ⟨_, _, hrenames, rfl⟩
    | conventional => exact Or.inr List.mem_cons_self
    | localName => exact Or.inr (List.mem_cons_of_mem _ List.mem_cons_self)

/-! ### The candidates -/

variable (ctx) in
/-- What may set an attribute of a view to a value. Where it was found is left open. -/
inductive Offers (attr : Attribute) (view value : HostType) : Candidate → Prop
  /-- A method of the view without result, whose one parameter the value fits. The type arguments of
  a generic view are dropped, and then those of the value are too. -/
  | direct {name : String} {signature : Signature} {param : HostType} {fit : Fit}
      {sequence : Nat} :
      ctx.Tries attr view.erasure name → signature ∈ ctx.hierarchy.methods view.erasure name 1 →
      signature.isVoid → signature.params = [param] →
      ctx.fit? (if view.erasure = view then value else value.erasure) param = some fit →
      Offers attr view value
        ⟨.direct signature, param, fit, ctx.hierarchy.depth signature.owner, sequence⟩
  /-- An adapter whose view type accepts the view and whose value type the value fits. -/
  | adapter {key : AdapterKey} {method : Method} {fit : Fit} {sequence : Nat} :
      ctx.tables.adapters.find? attr key = some method →
      ctx.hierarchy.accepts (ctx.qualify key.view) view →
      ctx.fit? value (ctx.qualify key.value) = some fit →
      Offers attr view value ⟨.adapter method, ctx.qualify key.value, fit,
        ctx.hierarchy.depth (ctx.qualify key.view), sequence⟩

/-- Where a candidate was found does not matter for whether it is offered. -/
theorem Offers.renumber (h : ctx.Offers attr view value candidate) (sequence : Nat) :
    ctx.Offers attr view value { candidate with sequence } := by
  cases h with
  | direct hname hmethod hvoid hparams hfit => exact .direct hname hmethod hvoid hparams hfit
  | adapter hentry hview hfit => exact .adapter hentry hview hfit

theorem directCandidate?_eq_some_iff {signature : Signature} :
    ctx.directCandidate? value signature = some candidate ↔
      signature.isVoid ∧ ∃ param fit, signature.params = [param] ∧
        ctx.fit? value param = some fit ∧
        candidate = ⟨.direct signature, param, fit, ctx.hierarchy.depth signature.owner, 0⟩ := by
  rw [directCandidate?]
  split
  next param hvoid hparams =>
    rw [Option.map_eq_some_iff, hparams]
    constructor
    · rintro ⟨fit, hfit, rfl⟩
      exact ⟨hvoid, param, fit, rfl, hfit, rfl⟩
    · rintro ⟨-, param, fit, hparam, hfit, rfl⟩
      cases hparam
      exact ⟨fit, hfit, rfl⟩
  next hother =>
    constructor
    · intro h
      cases h
    · rintro ⟨hvoid, param, -, hparams, -⟩
      exact absurd hparams (hother param hvoid)

theorem adapterCandidate?_eq_some_iff {key : AdapterKey} {method : Method} :
    ctx.adapterCandidate? view value key method = some candidate ↔
      ctx.hierarchy.accepts (ctx.qualify key.view) view ∧
        ∃ fit, ctx.fit? value (ctx.qualify key.value) = some fit ∧
          candidate = ⟨.adapter method, ctx.qualify key.value, fit,
            ctx.hierarchy.depth (ctx.qualify key.view), 0⟩ := by
  rw [adapterCandidate?]
  by_cases hview : ctx.hierarchy.accepts (ctx.qualify key.view) view
  · rw [if_pos hview, Option.map_eq_some_iff]
    constructor
    · rintro ⟨fit, hfit, rfl⟩
      exact ⟨hview, fit, hfit, rfl⟩
    · rintro ⟨-, fit, hfit, rfl⟩
      exact ⟨fit, hfit, rfl⟩
  · rw [if_neg hview]
    constructor
    · intro h
      cases h
    · rintro ⟨h, -⟩
      exact absurd h hview

/-- **The candidates that are numbered are those that are offered**, methods first. -/
theorem mem_append_candidates_iff :
    candidate ∈ ctx.directCandidates attr view value ++ ctx.adapterCandidates attr view value ↔
      candidate.sequence = 0 ∧ ctx.Offers attr view value candidate := by
  rw [List.mem_append, directCandidates, adapterCandidates]
  simp only [List.mem_filterMap, List.mem_flatMap, mem_setterNames_iff,
    directCandidate?_eq_some_iff, adapterCandidate?_eq_some_iff, Prod.exists,
    Nested.mem_toList_getD]
  constructor
  · rintro (⟨signature, ⟨name, hname, hmethod⟩, hvoid, param, fit, hparams, hfit, rfl⟩ |
      ⟨key, method, hentry, hview, fit, hfit, rfl⟩)
    · exact ⟨rfl, .direct hname hmethod hvoid hparams hfit⟩
    · exact ⟨rfl, .adapter hentry hview hfit⟩
  · rintro ⟨hsequence, hoffers⟩
    cases hoffers with
    | direct hname hmethod hvoid hparams hfit =>
      cases hsequence
      exact Or.inl ⟨_, ⟨_, hname, hmethod⟩, hvoid, _, _, hparams, hfit, rfl⟩
    | adapter hentry hview hfit =>
      cases hsequence
      exact Or.inr ⟨_, _, hentry, hview, _, hfit, rfl⟩

/-- A candidate is offered if it is found with one number or another. -/
theorem offers_iff_exists_mem_candidates : ctx.Offers attr view value candidate ↔
    ∃ i, { candidate with sequence := i } ∈ ctx.candidates attr view value := by
  simp only [candidates, List.mem_mapIdx]
  constructor
  · intro h
    obtain ⟨i, hi, hget⟩ := List.mem_iff_getElem.mp
      (mem_append_candidates_iff.mpr ⟨rfl, h.renumber 0⟩)
    exact ⟨i, i, hi, by rw [hget]⟩
  · rintro ⟨_, i, hi, heq⟩
    have hoffers := (mem_append_candidates_iff.mp (List.getElem_mem hi)).2
    have hcandidate := hoffers.renumber i
    rw [heq] at hcandidate
    exact hcandidate.renumber candidate.sequence

theorem offers_of_mem_candidates (h : candidate ∈ ctx.candidates attr view value) :
    ctx.Offers attr view value candidate :=
  offers_iff_exists_mem_candidates.mpr ⟨candidate.sequence, h⟩

variable (ctx attr view value) in
/-- Candidates are found in the order of their numbers. -/
theorem pairwise_sequence_candidates :
    (ctx.candidates attr view value).Pairwise fun a b => a.sequence < b.sequence := by
  rw [candidates, List.pairwise_iff_getElem]
  intro i j hi hj hij
  rw [List.getElem_mapIdx, List.getElem_mapIdx]
  exact hij

/-! ### The call -/

theorem exists_best?_candidates (h : ctx.Offers attr view value candidate) :
    ∃ best, Candidate.best? (ctx.candidates attr view value) = some best := by
  obtain ⟨i, hmem⟩ := offers_iff_exists_mem_candidates.mp h
  refine Option.ne_none_iff_exists'.mp fun hnone => ?_
  rw [best?_eq_none_iff.mp hnone] at hmem
  cases hmem

/-- **The best candidate** is preferred to every other one, or is as good and was found earlier. -/
theorem best?_candidates_eq_some {best : Candidate}
    (h : Candidate.best? (ctx.candidates attr view value) = some best) :
    best ∈ ctx.candidates attr view value ∧
      ∀ other ∈ ctx.candidates attr view value,
        other = best ∨ best.Preferred other ∨ best.Earlier other := by
  obtain ⟨before, after, hlist, hbefore, hafter⟩ := best?_eq_some h
  have hordered := pairwise_sequence_candidates ctx attr view value
  rw [hlist] at hordered ⊢
  refine ⟨List.mem_append_right _ List.mem_cons_self, fun other hother => ?_⟩
  rcases List.mem_append.mp hother with hother | hother
  · exact Or.inr (Candidate.compare_rank_eq_lt_iff.mp (hbefore _ hother))
  · rcases List.mem_cons.mp hother with rfl | hother
    · exact Or.inl rfl
    · -- what was found later has another number, so it is not even as good
      have hlater : best.sequence < other.sequence :=
        (List.pairwise_cons.mp (List.pairwise_append.mp hordered).2.1).1 _ hother
      have hle : (compare best.rank other.rank).isLE := hafter _ hother
      refine Or.inr (Candidate.compare_rank_eq_lt_iff.mp ?_)
      rcases Ordering.isLE_iff_eq_lt_or_eq_eq.mp hle with hlt | heq
      · exact hlt
      · have := Candidate.sequence_of_compare_rank_eq heq
        omega

/-- Nothing that is offered is preferred to the best candidate. -/
theorem not_preferred_best {best : Candidate}
    (h : Candidate.best? (ctx.candidates attr view value) = some best)
    (hoffers : ctx.Offers attr view value candidate) : ¬ candidate.Preferred best := by
  intro hpreferred
  -- the candidate with the number under which it was found is as good
  obtain ⟨i, hmem⟩ := offers_iff_exists_mem_candidates.mp hoffers
  have hbefore : compare ({ candidate with sequence := i } : Candidate).rank best.rank = .lt :=
    Candidate.compare_rank_eq_lt_iff.mpr (Or.inl hpreferred)
  rcases (best?_candidates_eq_some h).2 _ hmem with heq | hbest
  · rw [heq, Std.ReflOrd.compare_self] at hbefore
    cases hbefore
  · have hafter := Candidate.compare_rank_eq_lt_iff.mpr hbest
    rw [Std.OrientedOrd.eq_swap, hbefore] at hafter
    cases hafter

theorem resolve_of_best? {written : String} {best : Candidate}
    (h : Candidate.best? (ctx.candidates (.ofWritten written) view value) = some best) :
    ctx.resolve written view value = (best.call (.ofWritten written) ctx.minApi, []) := by
  rw [resolve, h]

/-- When nothing is offered, the conventional setter is called. -/
theorem resolve_of_not_offers {written : String}
    (h : ∀ candidate, ¬ ctx.Offers (.ofWritten written) view value candidate) :
    ctx.resolve written view value =
      (.fallback (.ofWritten written) (Attribute.ofWritten written).conventionalSetter ctx.minApi,
        if ctx.hierarchy.isContainer view then [] else [noSetter (.ofWritten written) view]) := by
  -- what is found is offered, so nothing is found
  have hbest : Candidate.best? (ctx.candidates (.ofWritten written) view value) = none :=
    best?_eq_none_iff.mpr (List.eq_nil_iff_forall_not_mem.mpr fun candidate hmem =>
      h candidate (offers_of_mem_candidates hmem))
  rw [resolve, hbest]

/-- **What is called for an attribute.** When nothing is offered it is the conventional setter with
the platform version of the context, and just one error is reported unless the view is a container.
Otherwise it is a candidate that is offered, to which nothing offered is preferred and of equally
good ones the first that is found; it is called as its fit demands, a method with its own platform
version and an adapter with that of the context, and nothing is reported. -/
theorem resolve_calls_preferred (ctx : Context) (written : String) (view value : HostType) :
    let attr := Attribute.ofWritten written
    let resolved := ctx.resolve written view value
    ((∀ candidate, ¬ ctx.Offers attr view value candidate) →
      resolved.1 = .fallback attr attr.conventionalSetter ctx.minApi ∧
      resolved.2 = (if ctx.hierarchy.isContainer view then [] else [noSetter attr view]) ∧
      (noSetter attr view).severity = .error) ∧
    ((∃ candidate, ctx.Offers attr view value candidate) →
      resolved.2 = [] ∧
      ∃ best ∈ ctx.candidates attr view value,
        ctx.Offers attr view value best ∧
        (∀ other, ctx.Offers attr view value other → ¬ other.Preferred best) ∧
        (∀ other ∈ ctx.candidates attr view value,
          other = best ∨ best.Preferred other ∨ best.Earlier other) ∧
        (∀ signature, best.target = .direct signature →
          resolved.1 = .direct attr signature.name best.wrapper signature.minApi) ∧
        (∀ method, best.target = .adapter method →
          resolved.1 = .adapter attr method best.wrapper ctx.minApi) ∧
        best.wrapper = match best.fit with
          | .converted method => .convert method
          | .cast => .cast best.param
          | _ => .none) := by
  intro attr resolved
  constructor
  · intro hnone
    have hresolved : resolved = (.fallback attr attr.conventionalSetter ctx.minApi,
        if ctx.hierarchy.isContainer view then [] else [noSetter attr view]) :=
      resolve_of_not_offers hnone
    rw [hresolved]
    exact ⟨rfl, rfl, rfl⟩
  · rintro ⟨candidate, hoffers⟩
    obtain ⟨best, hbest⟩ := exists_best?_candidates hoffers
    have hresolved : resolved = (best.call attr ctx.minApi, []) := resolve_of_best? hbest
    obtain ⟨hmem, hfirst⟩ := best?_candidates_eq_some hbest
    rw [hresolved]
    refine ⟨rfl, best, hmem, offers_of_mem_candidates hmem, fun other => not_preferred_best hbest,
      hfirst, fun signature htarget => ?_, fun method htarget => ?_, rfl⟩
    · rw [Candidate.call, htarget]
    · rw [Candidate.call, htarget]

/-- An adapter that takes just the type of the value is called, though another one is registered for
a deeper view. -/
example :
    let text : HostType := .named "CharSequence"
    let hierarchy := Hierarchy.standard.declareClass "View" (some "Object")
      |>.declareClass "TextView" (some "View")
    let adapters : Nested Attribute AdapterKey Method :=
      Nested.put (Nested.put ∅ ⟨"text"⟩ ⟨.named "View", text⟩ ⟨.named "Views", "setText"⟩)
        ⟨"text"⟩ ⟨.named "TextView", .named "Object"⟩ ⟨.named "TextViews", "setText"⟩
    let ctx : Context := { tables := { adapters }, hierarchy }
    ctx.resolve "app:text" (.named "TextView") text =
      (.adapter ⟨"text"⟩ ⟨.named "Views", "setText"⟩ .none lowestPlatform, []) := by
  decide +kernel

end SetterResolution.Context
