import Mathlib.Logic.Relation
import SetterResolution.Proofs.Resolution.Exact
import SetterResolution.Proofs.Resolution.Footprint

/-!
# More adapters and conversions never hurt

Adapters and conversions are added to a registry one by one, under new keys or under keys that it
has already, where they replace what was there. An attribute that could be set before can be set
afterwards, and the candidate that is called is at least as good as the one that was called before
(`SetterResolution.Candidate.AsGoodAs`).

What has to be arranged is that nothing which was offered is lost or gets worse, although everything
that a resolution goes through may change. All that matters is that there still is an entry under
every key (`SetterResolution.Tables.Extends`). A new conversion can change how a value fits a
parameter, but only where no conversion was used before it was added, which leaves a cast or no fit
at all, and a conversion is better than a cast (`SetterResolution.Context.fit?_of_extends`). An
adapter that is replaced is replaced by one for the same types. So in place of each candidate there
is one of the same tier, for a view that is as deep, with a fit that is at least as good
(`SetterResolution.Context.Offers.of_extends`).

New candidates change the numbers under which the others are found, and that decides between
candidates that are equally good. For exact methods of the view this makes no difference: among
themselves they stay in the order in which they are found, so that the very same method is called
(`SetterResolution.Context.exact_extends`).

The main statement is `SetterResolution.Context.resolve_of_adds`.
-/

namespace SetterResolution

open Std (TransCmp OrientedCmp)

/-! ### Candidates that are at least as good -/

namespace Candidate

variable {a b c : Candidate}

/-- One candidate is at least as good as another one: it has the better tier, or the same one and
the deeper view type, or that too is the same and its fit is not worse. -/
def AsGoodAs (a b : Candidate) : Prop :=
  a.tier < b.tier ∨ a.tier = b.tier ∧
    (b.viewDepth < a.viewDepth ∨ a.viewDepth = b.viewDepth ∧ (compare a.fit.rank b.fit.rank).isLE)

/-- A candidate is at least as good as every one that is not preferred to it. -/
theorem asGoodAs_iff : a.AsGoodAs b ↔ ¬ b.Preferred a := by
  rw [AsGoodAs, Preferred, ← OrientedCmp.isGE_iff_isLE,
    Ordering.isGE_iff_ne_lt]
  constructor
  · rintro (htier | ⟨htier, hview | ⟨hview, hfit⟩⟩)
    · omega
    · omega
    · rintro (h | ⟨-, h | ⟨-, h⟩⟩)
      · omega
      · omega
      · exact hfit h
  · intro h
    rcases Nat.lt_trichotomy a.tier b.tier with htier | htier | htier
    · exact Or.inl htier
    · refine Or.inr ⟨htier, ?_⟩
      rcases Nat.lt_trichotomy a.viewDepth b.viewDepth with hview | hview | hview
      · exact absurd (Or.inr ⟨htier.symm, Or.inl hview⟩) h
      · exact Or.inr ⟨hview, fun hfit => h (Or.inr ⟨htier.symm, Or.inr ⟨hview.symm, hfit⟩⟩)⟩
      · exact Or.inl hview
    · exact absurd (Or.inl htier) h

theorem AsGoodAs.tier_le (h : a.AsGoodAs b) : a.tier ≤ b.tier := by
  rcases h with h | ⟨h, -⟩
  · exact h.le
  · exact h.le

/-- The candidate without the place in which it was found. -/
def unnumbered (candidate : Candidate) : Candidate :=
  { candidate with sequence := 0 }

/-- Without their places, candidates are compared for their merits alone. -/
theorem compare_unnumbered_eq_lt_iff :
    compare a.unnumbered.rank b.unnumbered.rank = .lt ↔ a.Preferred b := by
  rw [compare_rank_eq_lt_iff]
  refine or_iff_left ?_
  rintro ⟨-, -, -, h⟩
  exact absurd h (Nat.lt_irrefl 0)

theorem isLE_compare_unnumbered_iff :
    (compare a.unnumbered.rank b.unnumbered.rank).isLE ↔ a.AsGoodAs b := by
  rw [asGoodAs_iff, ← compare_unnumbered_eq_lt_iff, ← OrientedCmp.isGE_iff_isLE,
    Ordering.isGE_iff_ne_lt]

theorem AsGoodAs.trans (hab : a.AsGoodAs b) (hbc : b.AsGoodAs c) : a.AsGoodAs c :=
  isLE_compare_unnumbered_iff.mp (TransCmp.isLE_trans (isLE_compare_unnumbered_iff.mpr hab)
    (isLE_compare_unnumbered_iff.mpr hbc))

/-- The tier of the candidates that call a method of this kind for an exact fit. -/
def exactTier : Target → Nat
  | .direct _ => 0
  | .adapter _ => 1

theorem tier_eq (candidate : Candidate) :
    candidate.tier = if candidate.fit = .exact then exactTier candidate.target else 2 := by
  obtain ⟨target, param, fit, viewDepth, sequence⟩ := candidate
  cases target <;> cases fit <;> rfl

/-- Nothing fits better than exactly. -/
theorem fit_eq_exact_of_isLE {fit other : Fit} (h : (compare other.rank fit.rank).isLE)
    (hexact : fit = .exact) : other = .exact := by
  subst hexact
  cases other with
  | exact => rfl
  | boxing | widening | assignable | converted | cast => cases h

/-- A candidate that calls a method of the same kind for a fit that is not worse is at least as
good. -/
theorem asGoodAs_of_fit (htarget : exactTier a.target = exactTier b.target)
    (hview : a.viewDepth = b.viewDepth) (hfit : (compare a.fit.rank b.fit.rank).isLE) :
    a.AsGoodAs b := by
  have htier : a.tier ≤ b.tier := by
    have hle : exactTier a.target ≤ 2 := by cases a.target <;> simp [exactTier]
    rw [tier_eq, tier_eq, ← htarget]
    split
    · split
      · exact Nat.le_refl _
      · exact hle
    next hinexact => rw [if_neg fun hexact => hinexact (fit_eq_exact_of_isLE hfit hexact)]
  exact (Nat.lt_or_eq_of_le htier).imp_right fun heq => ⟨heq, Or.inr ⟨hview, hfit⟩⟩

/-- The place in which a candidate was found does not show in its call. -/
theorem call_unnumbered (candidate : Candidate) (attr : Attribute) (minApi : UInt32) :
    candidate.unnumbered.call attr minApi = candidate.call attr minApi :=
  rfl

/-- The call of a candidate is no fallback. -/
theorem isFallback_call (candidate : Candidate) (attr : Attribute) (minApi : UInt32) :
    (candidate.call attr minApi).isFallback = false := by
  rw [call]
  cases candidate.target <;> rfl

end Candidate

/-! ### Tables in which nothing is lost -/

/-- Tables that have an adapter and a conversion under every key under which others have one,
perhaps not the same, and that have the same renamed setters. -/
structure Tables.Extends (extended tables : Tables) : Prop where
  /-- Every key of an adapter for one attribute still has one. -/
  adapters : ∀ attr key, (tables.adapters.find? attr key).isSome →
    (extended.adapters.find? attr key).isSome
  /-- There still is a conversion between any two types that had one. -/
  conversions : ∀ source target, (tables.conversions.find? source target).isSome →
    (extended.conversions.find? source target).isSome
  /-- The renamed setters are the same. -/
  renamed : extended.renamed = tables.renamed

/-- Where an entry is set, every key that had one has one. -/
theorem Nested.isSome_find?_put {α β γ : Type} [Ord α] [Ord β] [Std.TransOrd α] [Std.TransOrd β]
    [Std.LawfulEqOrd α] [Std.LawfulEqOrd β] [DecidableEq α] [DecidableEq β] {table : Nested α β γ}
    {outer outer' : α} {inner inner' : β} (entry : γ) (h : (table.find? outer' inner').isSome) :
    ((table.put outer inner entry).find? outer' inner').isSome := by
  by_cases hkey : (outer', inner') = (outer, inner)
  · cases hkey
    rw [find?_put_self]
    rfl
  · rwa [find?_put_of_ne table entry hkey]

namespace Registry

/-- What becomes of a registry when an adapter for one attribute is added and not refused, or when a
conversion is added. -/
inductive Adds : Registry → Registry → Prop
  /-- An adapter is added. -/
  | adapter {registry next : Registry} {written : String} {key : AdapterKey} {method : Method} :
      registry.addAdapter written key method = (next, .ok ()) → Adds registry next
  /-- A conversion is added. -/
  | conversion {registry : Registry} (source target : HostType) (method : Method) :
      Adds registry (registry.addConversion source target method)

theorem Adds.extends {registry next : Registry} (h : Adds registry next) :
    next.tables.Extends registry.tables := by
  cases h with
  | @adapter _ written key method hadd =>
    rw [addAdapter_eq] at hadd
    split at hadd
    · cases hadd
    · cases hadd
      exact ⟨fun _ _ => Nested.isSome_find?_put method, fun _ _ h => h, rfl⟩
  | conversion source target method =>
    exact ⟨fun _ _ h => h, fun _ _ => Nested.isSome_find?_put method, rfl⟩

/-- **Nothing is lost** when adapters and conversions are added. -/
theorem extends_of_adds {registry next : Registry} (h : Relation.ReflTransGen Adds registry next) :
    next.tables.Extends registry.tables := by
  induction h with
  | refl => exact ⟨fun _ _ h => h, fun _ _ h => h, rfl⟩
  | tail _ hstep ih =>
    have hnext := hstep.extends
    exact ⟨fun attr key h => hnext.adapters attr key (ih.adapters attr key h),
      fun source target h => hnext.conversions source target (ih.conversions source target h),
      hnext.renamed.trans ih.renamed⟩

end Registry

namespace Context

variable {ctx : Context} {tables extended : Tables} {attr : Attribute} {view value param : HostType}

/-! ### What is offered in place of a candidate -/

theorem isSome_conversion?_of_extends (h : extended.Extends tables) {source target : HostType}
    (hfound : ((ctx.withTables tables).conversion? source target).isSome) :
    ((ctx.withTables extended).conversion? source target).isSome := by
  rw [isSome_conversion?_iff] at hfound ⊢
  rcases hfound with hfound | ⟨param, result, method, hfound, happlies⟩
  · exact Or.inl (h.conversions source target hfound)
  · obtain ⟨other, hother⟩ := Option.isSome_iff_exists.mp
      (h.conversions param result (Option.isSome_of_eq_some hfound))
    exact Or.inr ⟨param, result, other, hother, happlies⟩

/-- **A value that fits a parameter still fits it**, and not in a worse way. -/
theorem fit?_of_extends (h : extended.Extends tables) {fit : Fit}
    (hfit : (ctx.withTables tables).fit? value param = some fit) :
    ∃ other, (ctx.withTables extended).fit? value param = some other ∧
      (compare other.rank fit.rank).isLE := by
  have hplain : (ctx.withTables tables).plainFit? value param =
      (ctx.withTables extended).plainFit? value param := rfl
  rw [fit?_eq, hplain] at hfit
  rw [fit?_eq]
  cases hdecided : (ctx.withTables extended).plainFit? value param with
  | some plain =>
    rw [hdecided] at hfit
    exact ⟨fit, hfit, Std.ReflCmp.isLE_rfl⟩
  | none =>
    rw [hdecided, Option.none_or] at hfit
    rw [Option.none_or]
    cases hafter : (ctx.withTables extended).conversion? value param with
    | some other =>
      refine ⟨.converted other, rfl, ?_⟩
      -- before, there was a conversion as well, or else a cast
      rcases Option.or_eq_some_iff.mp hfit with hconverted | ⟨-, hcast⟩
      · obtain ⟨method, -, rfl⟩ := Option.map_eq_some_iff.mp hconverted
        exact Std.ReflCmp.isLE_rfl
      · split at hcast
        · cases hcast
          rfl
        · cases hcast
    | none =>
      have hbefore : (ctx.withTables tables).conversion? value param = none := by
        refine Option.not_isSome_iff_eq_none.mp fun hbefore => ?_
        have hafter' := isSome_conversion?_of_extends h hbefore
        rw [hafter] at hafter'
        cases hafter'
      rw [hbefore] at hfit
      exact ⟨fit, hfit, Std.ReflCmp.isLE_rfl⟩

/-- The same methods are tried. -/
theorem setterNames_of_extends (h : extended.Extends tables) (view : HostType) :
    (ctx.withTables extended).setterNames attr view =
      (ctx.withTables tables).setterNames attr view :=
  setterNames_congr ctx (by rw [h.renamed]) view

/-- **In place of what is offered, something at least as good is offered.** -/
theorem Offers.of_extends (h : extended.Extends tables) {candidate : Candidate}
    (hoffers : (ctx.withTables tables).Offers attr view value candidate) :
    ∃ other, (ctx.withTables extended).Offers attr view value other ∧
      other.AsGoodAs candidate := by
  cases hoffers with
  | @direct name signature param fit sequence hname hmethod hvoid hparams hfit =>
    obtain ⟨other, hother, hle⟩ := fit?_of_extends h hfit
    have hname : (ctx.withTables extended).Tries attr view.erasure name := by
      rw [← mem_setterNames_iff] at hname ⊢
      rwa [setterNames_of_extends h]
    exact ⟨⟨_, _, _, _, sequence⟩, .direct hname hmethod hvoid hparams hother,
      Candidate.asGoodAs_of_fit rfl rfl hle⟩
  | @adapter key method fit sequence hentry hview hfit =>
    obtain ⟨other, hother, hle⟩ := fit?_of_extends h hfit
    obtain ⟨method', hentry'⟩ := Option.isSome_iff_exists.mp
      (h.adapters attr key (Option.isSome_of_eq_some hentry))
    exact ⟨⟨_, _, _, _, sequence⟩, .adapter hentry' hview hother,
      Candidate.asGoodAs_of_fit rfl rfl hle⟩

/-! ### What is called -/

/-- **The best candidate is the best one without numbers** of those that it was picked from. -/
theorem best?_unnumbered {best : Candidate}
    (h : Candidate.best? (ctx.candidates attr view value) = some best) :
    Candidate.best? (ctx.directCandidates attr view value ++
      ctx.adapterCandidates attr view value) = some best.unnumbered := by
  have hunnumbered : (ctx.candidates attr view value).map Candidate.unnumbered =
      ctx.directCandidates attr view value ++ ctx.adapterCandidates attr view value := by
    refine List.ext_getElem (by simp [candidates]) fun i hi hi' => ?_
    have hzero := (mem_append_candidates_iff.mp (List.getElem_mem hi')).1
    simp [candidates, Candidate.unnumbered, ← hzero]
  obtain ⟨before, after, hlist, hbefore, hafter⟩ := best?_eq_some h
  have hordered := pairwise_sequence_candidates ctx attr view value
  rw [hlist] at hunnumbered hordered
  rw [← hunnumbered, List.map_append, List.map_cons]
  obtain ⟨-, hlater, hearlier⟩ := List.pairwise_append.mp hordered
  refine best?_append_cons ?_ ?_
  · rintro _ hmem
    obtain ⟨other, hother, rfl⟩ := List.mem_map.mp hmem
    refine Candidate.compare_unnumbered_eq_lt_iff.mpr ?_
    -- a candidate that is found later is not picked for having been found earlier
    refine (Candidate.compare_rank_eq_lt_iff.mp (hbefore other hother)).resolve_right ?_
    intro hfound
    exact absurd hfound.2.2.2 (hearlier other hother best List.mem_cons_self).asymm
  · rintro _ hmem
    obtain ⟨other, hother, rfl⟩ := List.mem_map.mp hmem
    refine Candidate.isLE_compare_unnumbered_iff.mpr ?_
    refine Candidate.asGoodAs_iff.mpr fun hpreferred => ?_
    have hle : (compare best.rank other.rank).isLE := hafter other hother
    rw [OrientedCmp.gt_of_lt (Candidate.compare_rank_eq_lt_iff.mpr (Or.inl hpreferred))] at hle
    cases hle

theorem tier_ne_zero_of_mem_adapterCandidates {candidate : Candidate}
    (h : candidate ∈ ctx.adapterCandidates attr view value) : candidate.tier ≠ 0 := by
  obtain ⟨⟨key, method⟩, -, hcandidate⟩ := List.mem_filterMap.mp h
  obtain ⟨-, fit, -, rfl⟩ := adapterCandidate?_eq_some_iff.mp hcandidate
  cases fit <;> exact nofun

/-- **The exact methods of a view** stay the same, in the order in which they are found. -/
theorem exact_extends (h : extended.Extends tables) :
    ((ctx.withTables extended).directCandidates attr view value ++
        (ctx.withTables extended).adapterCandidates attr view value).filter (·.tier = 0) =
      ((ctx.withTables tables).directCandidates attr view value ++
        (ctx.withTables tables).adapterCandidates attr view value).filter (·.tier = 0) := by
  have hadapter (ctx : Context) :
      (ctx.adapterCandidates attr view value).filter (·.tier = 0) = [] :=
    List.filter_eq_nil_iff.mpr fun candidate hmem => by
      simpa using tier_ne_zero_of_mem_adapterCandidates hmem
  have hexact {tables other : Tables} {value : HostType} {signature : Signature}
      {candidate : Candidate} (htier : candidate.tier = 0)
      (hcandidate : (ctx.withTables tables).directCandidate? value signature = some candidate) :
      (ctx.withTables other).directCandidate? value signature = some candidate := by
    obtain ⟨hvoid, param, fit, hparams, hfit, rfl⟩ := directCandidate?_eq_some_iff.mp hcandidate
    cases fit with
    | exact =>
      exact directCandidate?_eq_some_iff.mpr ⟨hvoid, param, .exact, hparams,
        fit?_eq_exact_iff.mpr (fit?_eq_exact_iff.mp hfit), rfl⟩
    | boxing | widening | assignable | converted | cast => cases htier
  rw [List.filter_append, List.filter_append, hadapter, hadapter, directCandidates,
    directCandidates, setterNames_of_extends h, List.filter_filterMap, List.filter_filterMap]
  refine congrArg (· ++ []) (List.filterMap_congr fun signature _ => Option.ext fun candidate => ?_)
  rw [Option.filter_eq_some_iff, Option.filter_eq_some_iff]
  refine and_congr_left fun htier => ?_
  exact ⟨hexact (of_decide_eq_true htier), hexact (of_decide_eq_true htier)⟩

/-- Where an exact method is called before and after, it is the same one: both times it is the best
of the same list. -/
theorem unnumbered_eq_of_tier_eq_zero (h : extended.Extends tables) {best better : Candidate}
    (hbest : Candidate.best? ((ctx.withTables tables).candidates attr view value) = some best)
    (hbetter : Candidate.best? ((ctx.withTables extended).candidates attr view value) =
      some better) (hzero : best.tier = 0) (hzero' : better.tier = 0) :
    best.unnumbered = better.unnumbered := by
  have hpicked := best?_filter (p := (·.tier = 0)) (best?_unnumbered hbest)
    (decide_eq_true hzero)
  have hpicked' := best?_filter (p := (·.tier = 0)) (best?_unnumbered hbetter)
    (decide_eq_true hzero')
  rw [exact_extends h] at hpicked'
  exact Option.some.inj (hpicked.symm.trans hpicked')

/-- **More adapters and conversions never hurt.** Let adapters for one attribute and conversions be
added to a registry, under new keys or in place of what it has. If an attribute did not get a
fallback before, it does not get one afterwards, and the candidate that is called then is at least
as good as the one that was called before. If that was a method of the view for just the type of the
value, the very same call is made. -/
theorem resolve_of_adds (ctx : Context) {registry next : Registry}
    (h : Relation.ReflTransGen Registry.Adds registry next) (written : String)
    (view value : HostType) :
    let attr := Attribute.ofWritten written
    let before := ctx.withTables registry.tables
    let after := ctx.withTables next.tables
    ¬ (before.resolve written view value).1.isFallback →
      ¬ (after.resolve written view value).1.isFallback ∧
      ∃ best better, Candidate.best? (before.candidates attr view value) = some best ∧
        Candidate.best? (after.candidates attr view value) = some better ∧
        before.resolve written view value = (best.call attr ctx.minApi, []) ∧
        after.resolve written view value = (better.call attr ctx.minApi, []) ∧
        better.AsGoodAs best ∧
        ∀ signature, best.target = .direct signature → best.fit = .exact →
          better.target = .direct signature ∧ better.fit = .exact ∧
            after.resolve written view value = before.resolve written view value := by
  intro attr before after hfound
  have hextends := Registry.extends_of_adds h
  cases hbest : Candidate.best? (before.candidates attr view value) with
  | none =>
    refine absurd ?_ hfound
    rw [resolve, hbest]
    rfl
  | some best =>
    obtain ⟨other, hoffers, hother⟩ := Offers.of_extends hextends
      (offers_of_mem_candidates (best?_candidates_eq_some hbest).1)
    obtain ⟨better, hbetter⟩ := exists_best?_candidates hoffers
    have hgood : better.AsGoodAs best :=
      (Candidate.asGoodAs_iff.mpr (not_preferred_best hbetter hoffers)).trans hother
    have hbefore := resolve_of_best? hbest
    have hafter := resolve_of_best? hbetter
    refine ⟨?_, best, better, rfl, hbetter, hbefore, hafter, hgood, ?_⟩
    · rw [hafter, Candidate.isFallback_call]
      exact Bool.false_ne_true
    · intro signature htarget hfit
      have hzero : best.tier = 0 := by rw [Candidate.tier, htarget, hfit]
      have hzero' : better.tier = 0 := Nat.le_zero.mp (hzero ▸ hgood.tier_le)
      have hsame := unnumbered_eq_of_tier_eq_zero hextends hbest hbetter hzero hzero'
      refine ⟨(congrArg Candidate.target hsame).symm.trans htarget,
        (congrArg Candidate.fit hsame).symm.trans hfit, ?_⟩
      rw [hbefore, ← Candidate.call_unnumbered, hsame, Candidate.call_unnumbered]
      exact hafter

/-- A color is cast for one attribute, until there is a conversion, and a string is passed to a
method of the view for another attribute, whatever adapter is added for it. -/
theorem resolve_of_adds_label :
    let label : HostType := .named "Label"
    let string : HostType := .named "String"
    let color : HostType := .named "Color"
    let hierarchy := Hierarchy.standard.declareClass "Color" (some "Object")
      |>.declareClass "Label" (some "Object") |>.declareSetter "Label" "setText" string
    let method (name : String) : Method := ⟨.named "Adapters", name⟩
    let tint : Nested Attribute AdapterKey Method :=
      Nested.put ∅ ⟨"tint"⟩ ⟨label, string⟩ (method "tint")
    let registry : Registry := .ofTables { adapters := tint }
    let next : Registry :=
      { tables :=
          { adapters := tint.put (.ofWritten "app:text") ⟨label, string⟩ (method "text")
            conversions := Nested.put ∅ color string (method "nameOf") }
        declared := { adapters := [(.ofWritten "app:text", ⟨label, string⟩)] } }
    let ctx : Context := { tables := {}, hierarchy }
    let before := ctx.withTables registry.tables
    let after := ctx.withTables next.tables
    Relation.ReflTransGen Registry.Adds registry next ∧
      ¬ (before.resolve "app:tint" label color).1.isFallback ∧
      (∃ best better : Candidate,
        before.resolve "app:tint" label color = (best.call ⟨"tint"⟩ lowestPlatform, []) ∧
        after.resolve "app:tint" label color = (better.call ⟨"tint"⟩ lowestPlatform, []) ∧
        best.fit = .cast ∧ better.fit = .converted (method "nameOf") ∧ better.AsGoodAs best) ∧
      ¬ (before.resolve "app:text" label string).1.isFallback ∧
      after.resolve "app:text" label string =
        (.direct ⟨"text"⟩ "setText" .none lowestPlatform, []) := by
  intro label string color hierarchy method tint registry next ctx before after
  have hadds : Relation.ReflTransGen Registry.Adds registry next :=
    .tail (.tail .refl (.conversion color string (method "nameOf"))) (.adapter rfl)
  have htint : ¬ (before.resolve "app:tint" label color).1.isFallback := by decide +kernel
  have htext : ¬ (before.resolve "app:text" label string).1.isFallback := by decide +kernel
  refine ⟨hadds, htint, ?_, htext, ?_⟩
  · obtain ⟨-, best, better, hbest, hbetter, hbefore, hafter, hgood, -⟩ :=
      resolve_of_adds ctx hadds "app:tint" label color htint
    have hcast : (Candidate.best? (before.candidates (.ofWritten "app:tint") label color)).map
        Candidate.fit = some .cast := by decide +kernel
    have hconverted : (Candidate.best? (after.candidates (.ofWritten "app:tint") label color)).map
        Candidate.fit = some (.converted (method "nameOf")) := by decide +kernel
    rw [hbest] at hcast
    rw [hbetter] at hconverted
    have hattr : Attribute.ofWritten "app:tint" = ⟨"tint"⟩ := by decide +kernel
    rw [hattr] at hbefore hafter
    exact ⟨best, better, hbefore, hafter, Option.some.inj hcast, Option.some.inj hconverted, hgood⟩
  · obtain ⟨-, best, better, hbest, -, -, -, -, hexact⟩ :=
      resolve_of_adds ctx hadds "app:text" label string htext
    have hbest' : Candidate.best? (before.candidates (.ofWritten "app:text") label string) =
        some ⟨.direct (.setter label "setText" string), string, .exact, 1, 0⟩ := by decide +kernel
    obtain rfl := Option.some.inj (hbest.symm.trans hbest')
    obtain ⟨-, -, hsame⟩ := hexact _ rfl rfl
    exact hsame.trans (by decide +kernel)

end Context

end SetterResolution
