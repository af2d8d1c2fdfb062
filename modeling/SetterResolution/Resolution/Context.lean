import SetterResolution.Hierarchy.Assignable
import SetterResolution.Registry.Tables

/-!
# Contexts

What a resolution looks at: the entries of a registry, the hierarchy of types, the imports in force
and the platform version of calls that do not take one from a method.

Registry entries may use short names. A type of an entry is qualified, that is its short name is
replaced through the imports, before it is compared with a type of the program.
-/

namespace SetterResolution

/-- What a resolution looks at. -/
structure Context where
  /-- The entries of the registry. -/
  tables : Tables
  /-- The types of the program. -/
  hierarchy : Hierarchy
  /-- The imports in force. -/
  imports : Imports := ∅
  /-- The platform version of calls that do not take one from a method. -/
  minApi : UInt32 := lowestPlatform

/-- A type of a registry entry, with short names replaced. -/
def Context.qualify (ctx : Context) (type : HostType) : HostType :=
  type.withImports ctx.imports

end SetterResolution
