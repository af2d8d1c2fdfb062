import SetterResolution.Resolution.Context

/-!
# How a value fits a parameter

A value of one type may be passed to a parameter of another in several ways. They are tried in a
fixed order, from the same type to an unchecked cast, and the first one that applies is the `Fit`.
Its rank says how good it is, smaller being better.
-/

namespace SetterResolution

/-- How a value reaches a parameter. -/
inductive Fit where
  /-- The types are the same. -/
  | exact
  /-- The types differ only by boxing. -/
  | boxing
  /-- A primitive is widened by so many rungs. -/
  | widening (distance : Nat)
  /-- The parameter accepts the value as it is; `depth` is how deep the parameter type stands. -/
  | assignable (depth : Nat)
  /-- A conversion gives what the parameter takes. -/
  | converted (method : Method)
  /-- The value is cast to the parameter type. -/
  | cast
  deriving DecidableEq, Repr

namespace Fit

/-- How good a fit is: first by its kind, then within the kind. -/
structure Rank where
  /-- The place of the kind of fit in the order in which fits are tried. -/
  kind : Nat
  /-- The place within the kind. -/
  within : Int
  deriving DecidableEq, Repr

instance : Ord Rank := ⟨compareLex (compareOn Rank.kind) (compareOn Rank.within)⟩

instance : Std.TransOrd Rank :=
  inferInstanceAs (Std.TransCmp (compareLex (compareOn Rank.kind) (compareOn Rank.within)))

instance : Std.LawfulEqOrd Rank where
  eq_of_compare {a b} h := by
    obtain ⟨hk, hw⟩ := compareLex_eq_eq.mp h
    have hk : a.kind = b.kind := Std.LawfulEqOrd.eq_of_compare hk
    have hw : a.within = b.within := Std.LawfulEqOrd.eq_of_compare hw
    cases a; cases b; simp_all

/-- The rank of a fit. A shorter widening is better, and so is a deeper parameter type. -/
def rank : Fit → Rank
  | exact => ⟨0, 0⟩
  | boxing => ⟨1, 0⟩
  | widening distance => ⟨2, distance⟩
  | assignable depth => ⟨3, -depth⟩
  | converted _ => ⟨4, 0⟩
  | cast => ⟨5, 0⟩

end Fit

namespace Hierarchy

/-- The primitive that a type is or is the box of. Nothing is the box of `void`. -/
def unboxed? (h : Hierarchy) (type : HostType) : Option Primitive :=
  match type with
  | .prim kind => some kind
  | type => Primitive.all.find? fun kind => kind ≠ .void && h.boxed (.prim kind) == type

/-- How many rungs a value is widened to reach a parameter, where at most one of the two types is a
box. -/
def wideningTo? (h : Hierarchy) (value param : HostType) : Option Nat := do
  guard (value.isPrimitive || param.isPrimitive)
  let source ← h.unboxed? value
  let target ← h.unboxed? param
  source.wideningTo? target

/-- Whether a value of one type can stand for another without a conversion. -/
def standsFor (h : Hierarchy) (source target : HostType) : Bool :=
  source == target || h.differByBoxing source target || h.accepts target source

end Hierarchy

namespace Context

variable (ctx : Context)

/-- The conversion from one type to another. One that is declared for just these types comes first;
otherwise it is the first in the table that takes the source and whose result can stand for the
target. -/
def conversion? (source target : HostType) : Option Method :=
  match ctx.tables.conversions.find? source target with
  | some method => some method
  | none =>
    let accepting := ctx.tables.conversions.toList.filter fun (param, _) =>
      ctx.hierarchy.standsFor source (ctx.qualify param)
    let results := accepting.flatMap fun (_, results) => results.toList
    (results.find? fun (result, _) => ctx.hierarchy.standsFor (ctx.qualify result) target).map
      Prod.snd

/-- How a value reaches a parameter, if it does. -/
def fit? (value param : HostType) : Option Fit :=
  if value = param then some .exact
  else if ctx.hierarchy.differByBoxing param value then some .boxing
  else match ctx.hierarchy.wideningTo? value param with
    | some distance => some (.widening distance)
    | none =>
      if ctx.hierarchy.accepts param value then some (.assignable (ctx.hierarchy.depth param))
      else match ctx.conversion? value param with
        | some method => some (.converted method)
        | none => if value.isObject && param.isObject then some .cast else none

end Context

end SetterResolution
