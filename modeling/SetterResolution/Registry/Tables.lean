import SetterResolution.Method
import SetterResolution.Registry.Key
import SetterResolution.Registry.Nested
import Std.Data.ExtTreeSet

/-!
# The tables of a registry

Five ordered tables hold what is declared. Every entry has an owner, the type whose declaration it
comes from: the declaring type of its method, or the owner stored with an untaggable view. When an
owner is processed again, its entries are cleared first.
-/

namespace SetterResolution

open Std (ExtTreeMap ExtTreeSet)

/-- Group adapters, ordered by the identity of their keys; the stored key keeps the order in which
its attributes were declared. -/
abbrev GroupTable := ExtTreeMap GroupKey Method

/-- The tables of a registry. -/
structure Tables where
  /-- The adapters for each attribute. -/
  adapters : Nested Attribute AdapterKey Method := ∅
  /-- The setters that an attribute has by declaration, by view type. -/
  renamed : Nested Attribute HostType Method := ∅
  /-- The conversion methods from one type to another. -/
  conversions : Nested HostType HostType Method := ∅
  /-- The adapters for groups of attributes. -/
  groups : GroupTable := ∅
  /-- The view types that are not tagged, each with the owner that declared so. -/
  untaggable : ExtTreeMap HostType HostType := ∅

namespace Tables

/-- Tables without entries. -/
def empty : Tables := {}

/-- Whether no table has a key. -/
def isEmpty (tables : Tables) : Bool :=
  tables.adapters.isEmpty && tables.renamed.isEmpty && tables.conversions.isEmpty &&
    tables.groups.isEmpty && tables.untaggable.isEmpty

/-- How many entries there are in all tables. -/
def entryCount (tables : Tables) : Nat :=
  tables.adapters.entryCount + tables.renamed.entryCount + tables.conversions.entryCount +
    tables.groups.size + tables.untaggable.size

/-- The entries of both. Where both have one, the entry of the first stays. -/
def merge (first second : Tables) : Tables where
  adapters := first.adapters.merge second.adapters
  renamed := first.renamed.merge second.renamed
  conversions := first.conversions.merge second.conversions
  groups := second.groups ∪ first.groups
  untaggable := second.untaggable ∪ first.untaggable

/-- Drops every entry whose owner is one of `owners`, and says how many entries were dropped. -/
def clear (tables : Tables) (owners : ExtTreeSet HostType) : Tables × Nat :=
  let adapters := tables.adapters.discard fun method => method.owner ∈ owners
  let renamed := tables.renamed.discard fun method => method.owner ∈ owners
  let conversions := tables.conversions.discard fun method => method.owner ∈ owners
  let groups := tables.groups.filter fun _ method => method.owner ∉ owners
  let untaggable := tables.untaggable.filter fun _ owner => owner ∉ owners
  ({ adapters := adapters.1
     renamed := renamed.1
     conversions := conversions.1
     groups
     untaggable },
    adapters.2 + renamed.2 + conversions.2 + (tables.groups.size - groups.size) +
      (tables.untaggable.size - untaggable.size))

/-- Whether two tables have the same entries, where group keys need only agree. -/
def agrees (a b : Tables) : Bool :=
  a.adapters == b.adapters && a.renamed == b.renamed && a.conversions == b.conversions &&
    a.groups.toList.isEqv b.groups.toList (fun x y => x.1.agrees y.1 && x.2 == y.2) &&
    a.untaggable == b.untaggable

end Tables

end SetterResolution
