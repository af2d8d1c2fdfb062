import SetterResolution.Resolution.Setter

/-!
# Resolving several attributes of a view

Group adapters set several attributes by one call. Those whose attributes are all declared, and
whose parameters all take the declared values, are the candidates; a cover is chosen among them
greedily, so that no attribute is set twice. What the cover leaves is resolved one by one.

The cover is found in one pass over the sorted candidates: a candidate is accepted unless it shares
an attribute with one that was accepted before it. It is not always the cover that sets the most
attributes.
-/

namespace SetterResolution

/-- A group adapter that accepts the declared values. -/
structure GroupCandidate where
  /-- The view type that the adapter is declared for. -/
  view : HostType
  /-- The parameters of the adapter, each with the way in which its value fits. -/
  arguments : List (Parameter × Fit)
  /-- The adapter. -/
  adapter : Method
  /-- How deep the view type stands. -/
  viewDepth : Nat
  deriving DecidableEq, Repr

namespace GroupCandidate

/-- The key of the adapter. -/
def key (candidate : GroupCandidate) : GroupKey where
  view := candidate.view
  params := candidate.arguments.map Prod.fst

/-- The attributes that the adapter sets. -/
def attrs (candidate : GroupCandidate) : List Attribute :=
  candidate.key.attrs

/-- The fits in the order of the parameters. -/
def fits (candidate : GroupCandidate) : List Fit :=
  candidate.arguments.map Prod.snd

/-- The fit for each attribute, in ascending order of the attributes. -/
def sortedFits (candidate : GroupCandidate) : List (Attribute × Fit) :=
  (Std.ExtTreeMap.ofList
    (candidate.arguments.map fun (param, fit) => (param.attr, fit))).toList

/-- The place of a candidate in the order of candidates; smaller is better. -/
structure Rank where
  /-- How many attributes the adapter sets. -/
  size : Nat
  /-- The depth of the view type. -/
  viewDepth : Nat
  /-- The attributes in ascending order. -/
  attrs : List Attribute
  /-- The ranks of the fits in the order of `attrs`. -/
  fits : List Fit.Rank
  /-- The adapter. -/
  adapter : Method
  deriving DecidableEq, Repr

/-- More attributes come first, then deeper views, then smaller attributes, fits and adapters. -/
def Rank.compare : Rank → Rank → Ordering :=
  compareLex (fun a b => compareOn size b a)
    (compareLex (fun a b => compareOn viewDepth b a)
      (compareLex (compareOn attrs) (compareLex (compareOn fits) (compareOn adapter))))

instance : Ord Rank := ⟨Rank.compare⟩

/-- The rank of a candidate. -/
def rank (candidate : GroupCandidate) : Rank where
  size := candidate.arguments.length
  viewDepth := candidate.viewDepth
  attrs := candidate.sortedFits.map Prod.fst
  fits := candidate.sortedFits.map fun (_, fit) => fit.rank
  adapter := candidate.adapter

/-- The candidates in ascending order; candidates of equal rank keep their order. -/
def sorted (candidates : List GroupCandidate) : List GroupCandidate :=
  candidates.mergeSort fun a b => (compare a.rank b.rank).isLE

/-- Accepts in turn each candidate that sets none of the attributes set so far. -/
def accept (taken : List Attribute) : List GroupCandidate → List GroupCandidate
  | [] => []
  | candidate :: rest =>
    if candidate.attrs.any (· ∈ taken) then accept taken rest
    else candidate :: accept (taken ++ candidate.attrs) rest

/-- Candidates that share no attribute, chosen greedily from the best on. -/
def cover (candidates : List GroupCandidate) : List GroupCandidate :=
  accept [] (sorted candidates)

/-- What is done to the value of an argument. A cast is to the type as it was declared. -/
def wrapper : Parameter × Fit → Wrapper
  | (_, .converted method) => .convert method
  | (param, .cast) => .cast param.type
  | _ => .none

/-- The call of a candidate. -/
def call (candidate : GroupCandidate) (minApi : UInt32) : Call :=
  .group candidate.attrs candidate.adapter (candidate.arguments.map wrapper) minApi

end GroupCandidate

/-- An attribute that is bound on a view, with the type of its value. -/
abbrev Binding := Attribute × HostType

namespace Context

variable (ctx : Context)

/-- Fits the bound values to the parameters of a key, one binding after another. The last binding of
an attribute decides on its fit, but each of them has to fit. -/
def fitBindings? (key : GroupKey) (slots : List (Option Fit)) :
    List Binding → Option (List (Option Fit))
  | [] => some slots
  | (attr, value) :: rest =>
    match key.position? attr, key.typeFor? attr with
    | some i, some type =>
      match ctx.fit? value (ctx.qualify type) with
      | some fit => fitBindings? key (slots.set i (some fit)) rest
      | none => none
    | _, _ => fitBindings? key slots rest

/-- The candidate for a group adapter, if it accepts the view and the bindings give each of its
parameters a value that fits. `declared` is how many attributes are bound. -/
def groupCandidate? (declared : Nat) (view : HostType) (bindings : List Binding) (key : GroupKey)
    (adapter : Method) : Option GroupCandidate := do
  guard (key.size ≤ declared)
  guard (ctx.hierarchy.accepts (ctx.qualify key.view) view)
  let slots ← ctx.fitBindings? key (List.replicate key.size none) bindings
  let fits ← slots.mapM id
  return {
    view := key.view
    arguments := key.params.zip fits
    adapter := adapter
    viewDepth := ctx.hierarchy.depth (ctx.qualify key.view) }

/-- The group adapters that can be used, in table order. Values beyond the attributes, and
attributes beyond the values, are not bound. -/
def groupCandidates (attrs : List Attribute) (view : HostType) (values : List HostType) :
    List GroupCandidate :=
  ctx.tables.groups.toList.filterMap fun (key, adapter) =>
    ctx.groupCandidate? attrs.length view (attrs.zip values) key adapter

/-- The error for lists of attributes and values of different lengths. -/
def unequalLists (view : HostType) (attrs values : Nat) : Diagnostic where
  severity := .error
  message := "Cannot resolve bindings on " ++ view.text ++ ": " ++ toString attrs ++
    " attribute(s) but " ++ toString values ++ " value type(s)."
  position := none

/-- The calls for the attributes of a view as written, and what is said about them: the calls of the
cover, then one for each attribute that the cover leaves, in the order of declaration. -/
def resolveAll (written : List String) (view : HostType) (values : List HostType) :
    List Call × Report :=
  if written.length ≠ values.length then
    ([], [unequalLists view written.length values.length])
  else
    let attrs := written.map Attribute.ofWritten
    let accepted := GroupCandidate.cover (ctx.groupCandidates attrs view values)
    let covered := accepted.flatMap GroupCandidate.attrs
    let left := (written.zip values).filter fun (written, _) =>
      Attribute.ofWritten written ∉ covered
    let single := left.map fun (written, value) => ctx.resolve written view value
    (accepted.map (·.call ctx.minApi) ++ single.map Prod.fst, single.flatMap Prod.snd)

end Context

end SetterResolution
