import SetterResolution.Best
import SetterResolution.Resolution.Call
import SetterResolution.Resolution.Fit

/-!
# Candidates

A candidate is a method that could set an attribute, a method of the view or an adapter, with the
way in which the value fits it. Candidates are totally ordered by their rank, so the best one does
not depend on the order in which they are compared:

1. an exact method of the view, then an exact adapter, then everything else;
2. the candidate for the deeper view type;
3. the better fit;
4. the candidate that was found first.
-/

namespace SetterResolution

/-- What a candidate calls. -/
inductive Target where
  /-- A method of the view. -/
  | direct (signature : Signature)
  /-- A static adapter. -/
  | adapter (method : Method)
  deriving DecidableEq, Repr

/-- A method that accepts the value of an attribute. -/
structure Candidate where
  /-- What is called. -/
  target : Target
  /-- The type of the parameter for the value. -/
  param : HostType
  /-- How the value reaches the parameter. -/
  fit : Fit
  /-- How deep the view type stands that the candidate is declared for. -/
  viewDepth : Nat
  /-- The place in which the candidate was found. -/
  sequence : Nat
  deriving DecidableEq, Repr

namespace Candidate

/-- The place of a candidate in the order of candidates; smaller is better. -/
structure Rank where
  /-- Zero for an exact method of the view, one for an exact adapter, two for everything else. -/
  tier : Nat
  /-- The depth of the view type. -/
  viewDepth : Nat
  /-- The rank of the fit. -/
  fit : Fit.Rank
  /-- The place in which the candidate was found. -/
  sequence : Nat
  deriving DecidableEq, Repr

/-- Ranks are compared tier by tier; a greater depth comes first. -/
def Rank.compare : Rank → Rank → Ordering :=
  compareLex (compareOn tier)
    (compareLex (fun a b => compareOn viewDepth b a)
      (compareLex (compareOn fit) (compareOn sequence)))

instance : Ord Rank := ⟨Rank.compare⟩

/-- The tier of a candidate. -/
def tier (candidate : Candidate) : Nat :=
  match candidate.target, candidate.fit with
  | .direct _, .exact => 0
  | .adapter _, .exact => 1
  | _, _ => 2

/-- The rank of a candidate. -/
def rank (candidate : Candidate) : Rank where
  tier := candidate.tier
  viewDepth := candidate.viewDepth
  fit := candidate.fit.rank
  sequence := candidate.sequence

/-- The best of several candidates. -/
def best? (candidates : List Candidate) : Option Candidate :=
  SetterResolution.best? (compareOn rank) candidates

/-- What has to be done to the value before it is passed to `param`. -/
def wrapper (candidate : Candidate) : Wrapper :=
  match candidate.fit with
  | .converted method => .convert method
  | .cast => .cast candidate.param
  | _ => .none

/-- The call of a candidate. Only a method of the view brings its platform version along. -/
def call (candidate : Candidate) (attr : Attribute) (minApi : UInt32) : Call :=
  match candidate.target with
  | .direct signature => .direct attr signature.name candidate.wrapper signature.minApi
  | .adapter method => .adapter attr method candidate.wrapper minApi

end Candidate

end SetterResolution
