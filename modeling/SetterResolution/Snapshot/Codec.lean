import SetterResolution.Registry.Tables
import SetterResolution.Snapshot.Reader

/-!
# The fields of a registry in a snapshot

Types, attributes, methods, keys and tables as bytes. Tables are lists of entries in ascending
order; when a table is read, the entries may come in any order and keys may be repeated. Of repeated
keys the last entry counts, under the key that came first.

A group key whose attributes do not go with its types, or that repeats an attribute, is not read.
-/

namespace SetterResolution.Snapshot

open Std (ExtTreeMap TransOrd)

/-! ### Types -/

/-- A type: its shape as a tag, and what belongs to the shape. -/
def writeType : HostType → List UInt8
  | .prim kind => writeTag 0 ++ writeTag kind.index
  | .array element => writeTag 1 ++ writeType element
  | .named name => writeTag 2 ++ writeText name

/-- Reads a primitive kind. -/
def readKind : Reader Primitive := do
  let tag ← readTag
  match Primitive.ofIndex? tag with
  | some kind => return kind
  | none => throw (.badTag tag Primitive.all.length)

/-- Reads a type that is not an array. -/
def readLeaf : Reader HostType := do
  let tag ← readTag
  match tag with
  | 0 => return .prim (← readKind)
  | 2 => return .named (← readText)
  | tag => throw (.badTag tag 3)

/-- Reads a type. The four bytes `1, 0, 0, 0` are the tag of an array. -/
def readType : Reader HostType := fun bytes =>
  match bytes with
  | 1 :: 0 :: 0 :: 0 :: bytes =>
    match readType bytes with
    | .ok (element, rest) => .ok (.array element, rest)
    | .error error => .error error
  | bytes => readLeaf bytes

/-! ### Names and keys -/

/-- An attribute, by its stored name. -/
def writeAttribute (attr : Attribute) : List UInt8 :=
  writeText attr.name

/-- Reads an attribute. The name is taken as it is stored. -/
def readAttribute : Reader Attribute := do
  return ⟨← readText⟩

/-- A method. -/
def writeMethod (method : Method) : List UInt8 :=
  writeType method.owner ++ writeText method.name

/-- Reads a method. -/
def readMethod : Reader Method := do
  return ⟨← readType, ← readText⟩

/-- The key of an adapter for one attribute. -/
def writeAdapterKey (key : AdapterKey) : List UInt8 :=
  writeType key.view ++ writeType key.value

/-- Reads the key of an adapter for one attribute. -/
def readAdapterKey : Reader AdapterKey := do
  return ⟨← readType, ← readType⟩

/-- The key of a group adapter: the view type, all attributes, and all types. -/
def writeGroupKey (key : GroupKey) : List UInt8 :=
  writeType key.view ++ writeList writeAttribute key.attrs ++
    writeList writeType (key.params.map Parameter.type)

/-- The group key of attributes and types, if they go together. -/
def groupKey (view : HostType) (attrs : List Attribute) (types : List HostType) :
    Except DecodeError GroupKey :=
  if attrs.length ≠ types.length then .error (.unevenKey view attrs.length types.length)
  else match Attribute.firstRepeated? id [] attrs with
    | some attr => .error (.repeatedAttribute view attr)
    | none => .ok ⟨view, List.zipWith Parameter.mk attrs types⟩

/-- Reads the key of a group adapter. -/
def readGroupKey : Reader GroupKey := do
  let view ← readType
  let attrs ← readList readAttribute
  let types ← readList readType
  liftM (groupKey view attrs types)

/-! ### Tables -/

/-- A table, as the list of its entries in ascending order. -/
def writeTable {α β : Type} [Ord α] [TransOrd α] (key : α → List UInt8) (value : β → List UInt8)
    (table : ExtTreeMap α β) : List UInt8 :=
  writeList (writePair key value) table.toList

/-- Sets an entry under the key that the table has for it, or else under the given key. -/
def keepKey {α β : Type} [Ord α] [TransOrd α] (table : ExtTreeMap α β) (entry : α × β) :
    ExtTreeMap α β :=
  table.insert (table.getKeyD entry.1 entry.1) entry.2

/-- The table of a list of entries. -/
def tableOf {α β : Type} [Ord α] [TransOrd α] (entries : List (α × β)) : ExtTreeMap α β :=
  entries.foldl keepKey ∅

/-- Reads a table. -/
def readTable {α β : Type} [Ord α] [TransOrd α] (key : Reader α) (value : Reader β) :
    Reader (ExtTreeMap α β) := do
  return tableOf (← readList (readPair key value))

/-- A table of methods in two levels. -/
def writeNested {α β : Type} [Ord α] [TransOrd α] [Ord β] [TransOrd β] (outer : α → List UInt8)
    (inner : β → List UInt8) (table : Nested α β Method) : List UInt8 :=
  writeTable outer (writeTable inner writeMethod) table

/-- Reads a table of methods in two levels. -/
def readNested {α β : Type} [Ord α] [TransOrd α] [Ord β] [TransOrd β] (outer : Reader α)
    (inner : Reader β) : Reader (Nested α β Method) :=
  readTable outer (readTable inner readMethod)

/-! ### The table of each kind -/

/-- The adapters for one attribute. -/
def writeAdapters : Nested Attribute AdapterKey Method → List UInt8 :=
  writeNested writeAttribute writeAdapterKey

/-- The renamed setters. -/
def writeRenamed : Nested Attribute HostType Method → List UInt8 :=
  writeNested writeAttribute writeType

/-- The conversions. -/
def writeConversions : Nested HostType HostType Method → List UInt8 :=
  writeNested writeType writeType

/-- The group adapters. -/
def writeGroups : GroupTable → List UInt8 :=
  writeTable writeGroupKey writeMethod

/-- The untaggable views. -/
def writeUntaggable : ExtTreeMap HostType HostType → List UInt8 :=
  writeTable writeType writeType

/-- Reads the adapters for one attribute. -/
def readAdapters : Reader (Nested Attribute AdapterKey Method) :=
  readNested readAttribute readAdapterKey

/-- Reads the renamed setters. -/
def readRenamed : Reader (Nested Attribute HostType Method) :=
  readNested readAttribute readType

/-- Reads the conversions. -/
def readConversions : Reader (Nested HostType HostType Method) :=
  readNested readType readType

/-- Reads the group adapters. -/
def readGroups : Reader GroupTable :=
  readTable readGroupKey readMethod

/-- Reads the untaggable views. -/
def readUntaggable : Reader (ExtTreeMap HostType HostType) :=
  readTable readType readType

end SetterResolution.Snapshot
