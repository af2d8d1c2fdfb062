import SetterResolution.Diagnostic
import SetterResolution.Resolution.Candidate

/-!
# Resolving one attribute

Finds the call that sets one attribute of a view to a value. Candidates are the methods of the view
that are named for the attribute, and the adapters that are registered for it. Without a candidate
the conventional setter is called, and unless the view is a binding container that is an error.
-/

namespace SetterResolution.Context

variable (ctx : Context)

/-- The renamed setters of an attribute that apply to a view, each with the depth of its target. -/
def renamedSetters (attr : Attribute) (view : HostType) : List (Nat × String) :=
  ((ctx.tables.renamed.getD attr ∅).toList.filter fun (target, _) =>
      ctx.hierarchy.accepts (ctx.qualify target) view).map fun (target, method) =>
    (ctx.hierarchy.depth (ctx.qualify target), method.name)

/-- The renamed setter of an attribute for a view: the one for the deepest target. -/
def renamedSetter? (attr : Attribute) (view : HostType) : Option String :=
  (best? (fun a b => compare b.1 a.1) (ctx.renamedSetters attr view)).map Prod.snd

/-- The method names that are tried on a view, in order and each once: the renamed setter, the
conventional one, and the local name of the attribute. -/
def setterNames (attr : Attribute) (view : HostType) : List String :=
  ((ctx.renamedSetter? attr view).toList ++ [attr.conventionalSetter, attr.localName]).eraseDups

/-- The candidate for calling a method of the view, numbered zero. -/
def directCandidate? (value : HostType) (signature : Signature) : Option Candidate :=
  match signature.isVoid, signature.params with
  | true, [param] =>
    (ctx.fit? value param).map fun fit =>
      ⟨.direct signature, param, fit, ctx.hierarchy.depth signature.owner, 0⟩
  | _, _ => none

/-- The candidates among the methods of the view. The type arguments of a generic view are dropped,
and with them those of the value. -/
def directCandidates (attr : Attribute) (view value : HostType) : List Candidate :=
  let erased := view.erasure
  let value := if erased = view then value else value.erasure
  let methods := (ctx.setterNames attr erased).flatMap fun name =>
    ctx.hierarchy.methods erased name 1
  methods.filterMap (ctx.directCandidate? value)

/-- The candidate for calling an adapter, numbered zero. -/
def adapterCandidate? (view value : HostType) (key : AdapterKey) (method : Method) :
    Option Candidate :=
  let target := ctx.qualify key.view
  let param := ctx.qualify key.value
  if ctx.hierarchy.accepts target view then
    (ctx.fit? value param).map fun fit =>
      ⟨.adapter method, param, fit, ctx.hierarchy.depth target, 0⟩
  else none

/-- The candidates among the adapters of an attribute. -/
def adapterCandidates (attr : Attribute) (view value : HostType) : List Candidate :=
  (ctx.tables.adapters.getD attr ∅).toList.filterMap fun (key, method) =>
    ctx.adapterCandidate? view value key method

/-- All candidates for an attribute, numbered in the order in which they are found. -/
def candidates (attr : Attribute) (view value : HostType) : List Candidate :=
  (ctx.directCandidates attr view value ++ ctx.adapterCandidates attr view value).mapIdx
    fun i candidate => { candidate with sequence := i }

/-- The error for an attribute without a setter. -/
def noSetter (attr : Attribute) (view : HostType) : Diagnostic where
  severity := .error
  message := "Cannot find the setter for attribute '" ++ attr.name ++ "' on " ++ view.text ++ "."
  position := none

/-- The call for an attribute as written, and what is said about it. -/
def resolve (written : String) (view value : HostType) : Call × Report :=
  let attr := Attribute.ofWritten written
  match Candidate.best? (ctx.candidates attr view value) with
  | some best => (best.call attr ctx.minApi, [])
  | none =>
    (.fallback attr attr.conventionalSetter ctx.minApi,
      if ctx.hierarchy.isContainer view then [] else [noSetter attr view])

end SetterResolution.Context
