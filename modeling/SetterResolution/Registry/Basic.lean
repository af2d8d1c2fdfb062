import SetterResolution.Registry.Declaration
import SetterResolution.Registry.Tables
import SetterResolution.Text.Quoted

/-!
# Registries

A registry is its tables together with the keys that were declared since the round began. A key that
came with a merged registry may be declared anew, and the new declaration replaces the old one; but
declaring one key twice in a round is an error, and the second declaration has no effect.

Clearing an owner gives back the keys whose entries it removes.
-/

namespace SetterResolution

open Std (ExtTreeMap ExtTreeSet)

/-- Why a declaration was rejected. -/
inductive RegistrationError where
  /-- The round already has an adapter for the attribute and the key. -/
  | duplicateAdapter (attr : Attribute) (key : AdapterKey) (method : Method)
  /-- The round already has a group adapter whose key agrees. -/
  | duplicateGroup (key : GroupKey) (method : Method)
  /-- The declaration at a position has a flaw. -/
  | malformed (position : Position) (flaw : Flaw)
  deriving DecidableEq, Repr

namespace RegistrationError

/-- What is said about a rejected declaration. -/
def message : RegistrationError → String
  | duplicateAdapter attr key method =>
    "duplicate binding adapter for '" ++ attr.name ++ "' on (" ++ key.view.text ++ ", " ++
      key.value.text ++ "): " ++ method.text
  | duplicateGroup key method =>
    "duplicate multi-attribute binding adapter for " ++
      Text.quotedList (key.attrs.map Attribute.name) ++ " on " ++ key.view.text ++ ": " ++
      method.text
  | malformed position flaw => position.text ++ ": " ++ flaw.message

/-- Where the rejected declaration is, if the error knows. -/
def position? : RegistrationError → Option Position
  | malformed position _ => some position
  | _ => none

/-- The diagnostic for a declaration at `position` that was rejected. The text of a flaw is not
preceded by the position, as a diagnostic shows the position itself. -/
def diagnostic (error : RegistrationError) (position : Position) : Diagnostic where
  severity := .error
  message := match error with
    | malformed _ flaw => flaw.message
    | error => error.message
  position := some position

end RegistrationError

/-- The adapter keys that were declared since the round began. -/
structure DeclaredKeys where
  /-- The keys of adapters for one attribute. -/
  adapters : List (Attribute × AdapterKey) := []
  /-- The keys of group adapters. -/
  groups : List GroupKey := []
  deriving DecidableEq, Repr

/-- The declarations of a compilation. -/
structure Registry where
  /-- The entries. -/
  tables : Tables := {}
  /-- The keys that were declared in this round. -/
  declared : DeclaredKeys := {}

namespace Registry

/-- The registry without entries. -/
def empty : Registry := {}

/-- A registry with the given entries, in a fresh round. -/
def ofTables (tables : Tables) : Registry where
  tables := tables

/-- Begins a round: nothing counts as declared. -/
def beginRound (registry : Registry) : Registry :=
  { registry with declared := {} }

/-- Drops the entries of the owners, and says how many entries were dropped. A key counts as
declared only as long as it has an entry. -/
def clear (registry : Registry) (owners : ExtTreeSet HostType) : Registry × Nat :=
  let (tables, dropped) := registry.tables.clear owners
  ({ tables
     declared :=
      { adapters := registry.declared.adapters.filter fun (attr, key) =>
          (tables.adapters.find? attr key).isSome
        groups := registry.declared.groups.filter fun key => tables.groups.contains key } },
    dropped)

/-- Adds the entries of other tables. Where both have an entry, the registry's stays. -/
def merge (registry : Registry) (tables : Tables) : Registry :=
  { registry with tables := registry.tables.merge tables }

/-! ### Adding entries

What may be rejected gives the registry after it together with the outcome. -/

/-- Adds an adapter for an attribute as written. -/
def addAdapter (registry : Registry) (written : String) (key : AdapterKey) (method : Method) :
    Registry × Except RegistrationError Unit :=
  let attr := Attribute.ofWritten written
  if (attr, key) ∈ registry.declared.adapters then
    (registry, .error (.duplicateAdapter attr key method))
  else
    ({ tables :=
        { registry.tables with adapters := registry.tables.adapters.put attr key method }
       declared :=
        { registry.declared with adapters := (attr, key) :: registry.declared.adapters } },
      .ok ())

/-- Adds a group adapter. The new key replaces one of the same identity, with its order. -/
def addGroup (registry : Registry) (key : GroupKey) (method : Method) :
    Registry × Except RegistrationError Unit :=
  if registry.declared.groups.any (·.agrees key) then
    (registry, .error (.duplicateGroup key method))
  else
    ({ tables := { registry.tables with groups := registry.tables.groups.insert key method }
       declared := { registry.declared with groups := key :: registry.declared.groups } },
      .ok ())

/-- Sets the renamed setter of an attribute as written on a view type. -/
def addRenamed (registry : Registry) (written : String) (target : HostType) (method : Method) :
    Registry :=
  { registry with
    tables := { registry.tables with
      renamed := registry.tables.renamed.put (.ofWritten written) target method } }

/-- Sets the conversion from one type to another. -/
def addConversion (registry : Registry) (source target : HostType) (method : Method) :
    Registry :=
  { registry with
    tables := { registry.tables with
      conversions := registry.tables.conversions.put source target method } }

/-- Makes view types untaggable. -/
def addUntaggable (registry : Registry) (views : List HostType) (owner : HostType) : Registry :=
  { registry with
    tables := { registry.tables with
      untaggable := views.foldl (fun table view => table.insert view owner)
        registry.tables.untaggable } }

/-! ### Registering declarations -/

/-- Registers an adapter, in the table for one attribute or in the one for groups. -/
def registerAdapter (registry : Registry) (decl : AdapterDecl) :
    Registry × Except RegistrationError Unit :=
  match decl.validate with
  | .error flaw => (registry, .error (.malformed decl.method.position flaw))
  | .ok ⟨view, [(written, value)]⟩ =>
    registry.addAdapter written ⟨view, value⟩ decl.method.signature.method
  | .ok ⟨view, params⟩ => registry.addGroup (.ofWritten view params) decl.method.signature.method

/-- Registers a conversion. -/
def registerConversion (registry : Registry) (decl : ConversionDecl) :
    Registry × Except RegistrationError Unit :=
  match decl.validate with
  | .error flaw => (registry, .error (.malformed decl.method.position flaw))
  | .ok (source, target) =>
    (registry.addConversion source target decl.method.signature.method, .ok ())

/-- Registers a renamed setter. -/
def registerRenamed (registry : Registry) (decl : RenamedDecl) : Registry :=
  registry.addRenamed decl.attr decl.target ⟨decl.owner, decl.setter⟩

/-- Registers untaggable views. -/
def registerUntaggable (registry : Registry) (decl : UntaggableDecl) : Registry :=
  registry.addUntaggable decl.views decl.owner

/-! ### Looking up -/

/-- Whether a view type is not tagged. -/
def isUntaggable (registry : Registry) (view : HostType) : Bool :=
  registry.tables.untaggable.contains view

end Registry

end SetterResolution
