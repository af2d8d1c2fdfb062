import SetterResolution.Snapshot.Codec

/-!
# Snapshots

A snapshot keeps the tables of a registry: four magic bytes, the tag of a schema, and the tables of
the schema. The first schema has no group adapters. Both schemas are read, and what was read is
upgraded to the tables of today; the second schema is what is written. Bytes behind the tables are
ignored.
-/

namespace SetterResolution

/-- The tables of the first schema. -/
structure UngroupedTables where
  /-- The adapters for each attribute. -/
  adapters : Nested Attribute AdapterKey Method := ∅
  /-- The renamed setters. -/
  renamed : Nested Attribute HostType Method := ∅
  /-- The conversions. -/
  conversions : Nested HostType HostType Method := ∅
  /-- The untaggable views. -/
  untaggable : Std.ExtTreeMap HostType HostType := ∅

/-- The tables of a registry in one of the schemas. -/
inductive Snapshot where
  /-- The first schema. -/
  | ungrouped (tables : UngroupedTables)
  /-- The second schema. -/
  | full (tables : Tables)

namespace Snapshot

/-- Why a snapshot could not be decoded. -/
inductive Error where
  /-- The magic bytes are missing. -/
  | badMagic
  /-- The bytes behind the magic are no snapshot. -/
  | malformed (error : DecodeError)
  deriving DecidableEq, Repr

/-- What is said about bytes that are no snapshot. -/
def Error.message : Error → String
  | badMagic => "not a setter store snapshot"
  | malformed error => "cannot decode snapshot: " ++ error.message

/-- The number of the schema. -/
def version : Snapshot → Nat
  | ungrouped _ => 1
  | full _ => 2

/-- The tables of a snapshot; the first schema has no group adapters. -/
def upgrade : Snapshot → Tables
  | ungrouped tables =>
    { adapters := tables.adapters
      renamed := tables.renamed
      conversions := tables.conversions
      untaggable := tables.untaggable }
  | full tables => tables

/-- The bytes `ABST`, with which every snapshot begins. -/
def magic : List UInt8 :=
  [0x41, 0x42, 0x53, 0x54]

/-- The bytes behind the magic. -/
def payload : Snapshot → List UInt8
  | ungrouped tables =>
    writeTag 0 ++ writeAdapters tables.adapters ++ writeRenamed tables.renamed ++
      writeConversions tables.conversions ++ writeUntaggable tables.untaggable
  | full tables =>
    writeTag 1 ++ writeAdapters tables.adapters ++ writeRenamed tables.renamed ++
      writeConversions tables.conversions ++ writeGroups tables.groups ++
      writeUntaggable tables.untaggable

/-- Reads the bytes behind the magic. -/
def readPayload : Reader Snapshot := do
  let tag ← readTag
  match tag with
  | 0 =>
    let adapters ← readAdapters
    let renamed ← readRenamed
    let conversions ← readConversions
    let untaggable ← readUntaggable
    return .ungrouped { adapters, renamed, conversions, untaggable }
  | 1 =>
    let adapters ← readAdapters
    let renamed ← readRenamed
    let conversions ← readConversions
    let groups ← readGroups
    let untaggable ← readUntaggable
    return .full { adapters, renamed, conversions, groups, untaggable }
  | tag => throw (.badTag tag 2)

/-- The bytes of a snapshot. -/
def bytes (snapshot : Snapshot) : List UInt8 :=
  magic ++ snapshot.payload

/-- The snapshot that bytes begin with. -/
def ofBytes (bytes : List UInt8) : Except Error Snapshot :=
  if magic.isPrefixOf bytes then
    match readPayload (bytes.drop magic.length) with
    | .ok (snapshot, _) => .ok snapshot
    | .error error => .error (.malformed error)
  else .error .badMagic

/-- The bytes that keep tables, in the second schema. -/
def encode (tables : Tables) : List UInt8 :=
  (full tables).bytes

/-- The tables that bytes of either schema keep. -/
def decode (bytes : List UInt8) : Except Error Tables :=
  (ofBytes bytes).map upgrade

end Snapshot

end SetterResolution
