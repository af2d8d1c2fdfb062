import SetterResolution.Registry.Basic

/-!
# Processing a round

A round first clears the entries of every owner that declares something in it, and then registers
the declarations: adapters, renamed setters, conversions, untaggable views. A rejected declaration
becomes an error diagnostic and has no other effect.
-/

namespace SetterResolution.Registry

/-- Takes a list of declarations one after another, and collects what is said about them. -/
def inTurn {α : Type} (step : Registry → α → Registry × Report) :
    Registry → List α → Registry × Report
  | registry, [] => (registry, [])
  | registry, decl :: rest =>
    let (registry, report) := step registry decl
    let (registry, reports) := inTurn step registry rest
    (registry, report ++ reports)

/-- The warning about an attribute as written whose namespace is ignored. -/
def namespaceWarning (position : Position) (written : String) : Report :=
  if Attribute.ignoresNamespace written then
    [⟨.warning, "Application namespace for attribute " ++ written ++ " will be ignored.",
      some position⟩]
  else []

/-- Processes an adapter. -/
def processAdapter (registry : Registry) (decl : AdapterDecl) : Registry × Report :=
  let position := decl.method.position
  let warnings := decl.attrs.flatMap (namespaceWarning position)
  match registry.registerAdapter decl with
  | (registry, .ok ()) => (registry, warnings)
  | (registry, .error error) => (registry, warnings ++ [error.diagnostic position])

/-- Processes a renamed setter. -/
def processRenamed (registry : Registry) (decl : RenamedDecl) : Registry × Report :=
  (registry.registerRenamed decl, namespaceWarning decl.position decl.attr)

/-- Processes a conversion. -/
def processConversion (registry : Registry) (decl : ConversionDecl) : Registry × Report :=
  let position := decl.method.position
  match registry.registerConversion decl with
  | (registry, .ok ()) =>
    (registry,
      [⟨.info, "added conversion: " ++ decl.method.signature.name, some position⟩])
  | (registry, .error error) => (registry, [error.diagnostic position])

/-- Processes untaggable views. -/
def processUntaggable (registry : Registry) (decl : UntaggableDecl) : Registry × Report :=
  (registry.registerUntaggable decl, [])

/-- Processes a round. -/
def process (registry : Registry) (round : Round) : Registry × Report :=
  let (registry, _) := registry.beginRound.clear round.owners
  let (registry, adapters) := inTurn processAdapter registry round.adapters
  let (registry, renamed) := inTurn processRenamed registry round.renamed
  let (registry, conversions) := inTurn processConversion registry round.conversions
  let (registry, untaggable) := inTurn processUntaggable registry round.untaggable
  (registry, adapters ++ renamed ++ conversions ++ untaggable)

end SetterResolution.Registry
