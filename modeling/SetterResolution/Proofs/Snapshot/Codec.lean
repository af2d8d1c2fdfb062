import SetterResolution.Proofs.Registry.KeyLists
import SetterResolution.Proofs.Registry.Lookup
import SetterResolution.Proofs.Snapshot.Reader
import SetterResolution.Snapshot.Basic

/-!
# What a snapshot keeps

Types, names and methods survive being written to a snapshot, and so do tables of them. There is one
exception: a group key that repeats an attribute is written, but it is refused when it is read, and
nothing of the snapshot is read then. Tables without such keys
(`SetterResolution.GroupTable.Regular`) survive as they are, and only such tables are ever read.

* `SetterResolution.Snapshot.decode_encode`: regular tables survive.
* `SetterResolution.Snapshot.regular_of_decode`: what is read is regular.
-/

namespace SetterResolution

open Std (ExtTreeMap TransOrd TransCmp)

/-- Whether no key of a table of group adapters repeats an attribute. -/
def GroupTable.Regular (table : GroupTable) : Prop :=
  ∀ entry ∈ table.toList, entry.1.attrs.Nodup

namespace Snapshot

/-! ### Types, names and methods -/

theorem reads_prim (kind : Primitive) : Reads readType (writeType (.prim kind)) (.prim kind) :=
  fun rest => by cases kind <;> rfl

/-- The four bytes of the tag of an array are read as that tag. -/
theorem reads_array {element : HostType} (h : Reads readType (writeType element) element) :
    Reads readType (writeType (.array element)) (.array element) := by
  have hwrite : writeType (.array element) = 1 :: 0 :: 0 :: 0 :: writeType element := rfl
  intro rest
  rw [hwrite, List.cons_append, List.cons_append, List.cons_append, List.cons_append, readType,
    h rest]

/-- The four bytes of the tag of a named type are not those of the tag of an array. -/
theorem reads_named {name : String} (h : Reads readText (writeText name) name) :
    Reads readType (writeType (.named name)) (.named name) := by
  have htag : writeTag 2 = [2, 0, 0, 0] := rfl
  have hleaf : Reads readLeaf (writeTag 2 ++ writeText name) (.named name) :=
    (reads_writeTag (show 2 < 256 by decide)).bind (h.map HostType.named)
  rw [htag] at hleaf
  exact hleaf

theorem survives_type (type : HostType) : Survives writeType readType type where
  ne_nil := by cases type <;> exact List.cons_ne_nil _ _
  reads hlength := by
    induction type with
    | prim kind => exact reads_prim kind
    | array element ih =>
      rw [writeType, List.length_append] at hlength
      exact reads_array (ih (by omega))
    | named name =>
      rw [writeType, List.length_append] at hlength
      exact reads_named ((survives_text name).reads (by omega))

theorem survives_attribute (attr : Attribute) : Survives writeAttribute readAttribute attr :=
  (survives_text attr.name).map Attribute.mk rfl

theorem survives_method (method : Method) : Survives writeMethod readMethod method :=
  .map₂ Method.mk rfl (survives_type method.owner) (survives_text method.name)

theorem survives_adapterKey (key : AdapterKey) : Survives writeAdapterKey readAdapterKey key :=
  .map₂ AdapterKey.mk rfl (survives_type key.view) (survives_type key.value)

/-! ### Group keys -/

theorem groupKey_eq_ok (view : HostType) {attrs : List Attribute} {types : List HostType}
    (hlength : attrs.length = types.length) (hnodup : attrs.Nodup) :
    groupKey view attrs types = .ok ⟨view, List.zipWith Parameter.mk attrs types⟩ := by
  rw [groupKey, if_neg (fun hne => hne hlength), Attribute.firstRepeated?_eq_none_iff.mpr
    ⟨(List.map_id attrs).symm ▸ hnodup, fun _ _ => List.not_mem_nil⟩]

/-- **Attributes and types go together** if there are as many of them and no attribute is repeated,
and the key has them in their order. -/
theorem groupKey_eq_ok_iff {view : HostType} {attrs : List Attribute} {types : List HostType}
    {key : GroupKey} :
    groupKey view attrs types = .ok key ↔
      (attrs.length = types.length ∧ attrs.Nodup) ∧
        key.view = view ∧ key.attrs = attrs ∧ key.params.map Parameter.type = types := by
  constructor
  · intro h
    rw [groupKey] at h
    split at h
    · cases h
    next hlength =>
      have hlength : attrs.length = types.length := Decidable.not_not.mp hlength
      split at h
      · cases h
      next hnone =>
        have hnodup := (Attribute.firstRepeated?_eq_none_iff.mp hnone).1
        rw [List.map_id] at hnodup
        exact ⟨⟨hlength, hnodup⟩, (GroupKey.mk_zipWith_eq_iff hlength).mp (Except.ok.inj h)⟩
  · rintro ⟨⟨hlength, hnodup⟩, hkey⟩
    rw [groupKey_eq_ok view hlength hnodup, (GroupKey.mk_zipWith_eq_iff hlength).mpr hkey]

theorem reads_groupKey {key : GroupKey} (h : key.attrs.Nodup)
    (hview : Reads readType (writeType key.view) key.view)
    (hattrs : Reads (readList readAttribute) (writeList writeAttribute key.attrs) key.attrs)
    (htypes : Reads (readList readType) (writeList writeType (key.params.map Parameter.type))
      (key.params.map Parameter.type)) :
    Reads readGroupKey (writeGroupKey key) key := by
  rw [writeGroupKey, List.append_assoc]
  refine hview.bind (hattrs.bind ?_)
  rw [← List.append_nil (writeList writeType _)]
  refine htypes.bind fun rest => ?_
  rw [groupKey_eq_ok_iff.mpr ⟨⟨by simp [GroupKey.attrs], h⟩, rfl, rfl, rfl⟩]
  rfl

theorem survives_groupKey {key : GroupKey} (h : key.attrs.Nodup) :
    Survives writeGroupKey readGroupKey key where
  ne_nil := List.append_ne_nil_of_left_ne_nil
    (List.append_ne_nil_of_left_ne_nil (survives_type key.view).ne_nil _) _
  reads hlength := by
    rw [writeGroupKey, List.length_append, List.length_append] at hlength
    have hattrs := survives_list fun attr (_ : attr ∈ key.attrs) => survives_attribute attr
    have htypes := survives_list fun type (_ : type ∈ key.params.map Parameter.type) =>
      survives_type type
    exact reads_groupKey h ((survives_type key.view).reads (by omega)) (hattrs.reads (by omega))
      (htypes.reads (by omega))

/-- What is read ends with the check that attributes and types go together. -/
theorem ensures_liftM_groupKey (view : HostType) (attrs : List Attribute) (types : List HostType) :
    Ensures (liftM (groupKey view attrs types)) fun key =>
      attrs.Nodup ∧ key.view = view ∧ key.attrs = attrs ∧
        key.params.map Parameter.type = types := by
  intro bytes key rest hok
  cases hkey : groupKey view attrs types with
  | error error =>
    rw [hkey] at hok
    cases hok
  | ok found =>
    rw [hkey] at hok
    cases hok
    obtain ⟨⟨-, hnodup⟩, hparts⟩ := groupKey_eq_ok_iff.mp hkey
    exact ⟨hnodup, hparts⟩

/-- **A group key that is read does not repeat an attribute.** -/
theorem ensures_groupKey : Ensures readGroupKey fun key => key.attrs.Nodup := by
  refine (ensures_true _).bind fun view _ => (ensures_true _).bind fun attrs _ =>
    (ensures_true _).bind fun types _ => ?_
  refine (ensures_liftM_groupKey view attrs types).imp fun key hkey => ?_
  rw [hkey.2.2.1]
  exact hkey.1

/-! ### Tables -/

section Table

variable {α β : Type} [Ord α] [TransOrd α]

/-- A new key is set as it is given. -/
theorem mem_toList_keepKey {table : ExtTreeMap α β} {entry other : α × β}
    (h : entry.1 ∉ table) :
    other ∈ (keepKey table entry).toList ↔ other = entry ∨ other ∈ table.toList := by
  obtain ⟨key, value⟩ := other
  rw [keepKey, ExtTreeMap.getKeyD_eq_fallback h,
    ExtTreeMap.mem_toList_iff_getKey?_eq_some_and_getElem?_eq_some, ExtTreeMap.getKey?_insert,
    ExtTreeMap.getElem?_insert, ExtTreeMap.mem_toList_iff_getKey?_eq_some_and_getElem?_eq_some]
  by_cases hc : compare entry.1 key = .eq
  · -- the table has no entry under a key that agrees with the new one
    have hnone : table.getKey? key = none := by
      rw [← ExtTreeMap.getKey?_congr hc, ExtTreeMap.getKey?_eq_none h]
    rw [if_pos hc, if_pos hc, hnone]
    simp [Prod.ext_iff, eq_comm]
  · have hne : (key, value) ≠ entry := by
      rintro rfl
      exact hc Std.ReflCmp.compare_self
    rw [if_neg hc, if_neg hc]
    simp [hne]

/-- The table of entries with different keys has just these entries. -/
theorem mem_toList_foldl_keepKey {table : ExtTreeMap α β} {entries : List (α × β)} {other : α × β}
    (hdistinct : entries.Pairwise fun a b => ¬ compare a.1 b.1 = .eq)
    (hnew : ∀ entry ∈ entries, entry.1 ∉ table) :
    other ∈ (entries.foldl keepKey table).toList ↔ other ∈ entries ∨ other ∈ table.toList := by
  induction entries generalizing table with
  | nil => simp
  | cons entry rest ih =>
    rw [List.pairwise_cons] at hdistinct
    have hentry := hnew entry List.mem_cons_self
    rw [List.foldl_cons, ih hdistinct.2, mem_toList_keepKey hentry, List.mem_cons]
    · grind
    · intro later hlater
      rw [keepKey, ExtTreeMap.getKeyD_eq_fallback hentry, ExtTreeMap.mem_insert]
      rintro (hc | hmem)
      · exact hdistinct.1 later hlater hc
      · exact hnew later (List.mem_cons_of_mem _ hlater) hmem

/-- **A table is made again from its entries**, every key as it is stored. -/
theorem tableOf_toList (table : ExtTreeMap α β) : tableOf table.toList = table := by
  refine ExtTreeMap.ext_toList ((List.perm_ext_iff_of_nodup (nodup_toList _) (nodup_toList _)).mpr
    fun entry => ?_)
  rw [tableOf, mem_toList_foldl_keepKey ExtTreeMap.distinct_keys_toList fun _ _ =>
    ExtTreeMap.not_mem_empty, ExtTreeMap.toList_eq_nil_iff.mpr rfl]
  simp

/-- A property of all keys is kept where an entry is set whose key has it too. -/
theorem forall_getKey?_keepKey {p : α → Prop} {table : ExtTreeMap α β} {entry : α × β}
    (htable : ∀ key stored, table.getKey? key = some stored → p stored) (hentry : p entry.1) :
    ∀ key stored, (keepKey table entry).getKey? key = some stored → p stored := by
  intro key stored hstored
  rw [keepKey, ExtTreeMap.getKey?_insert, ExtTreeMap.getKeyD_eq_getD_getKey?] at hstored
  split at hstored
  · cases hold : table.getKey? entry.1 with
    | none =>
      rw [hold] at hstored
      cases hstored
      exact hentry
    | some old =>
      rw [hold] at hstored
      cases hstored
      exact htable _ _ hold
  · exact htable key stored hstored

/-- A property of all values is kept where an entry is set whose value has it too. -/
theorem forall_getElem?_keepKey {q : β → Prop} {table : ExtTreeMap α β} {entry : α × β}
    (htable : ∀ (key : α) (value : β), table[key]? = some value → q value) (hentry : q entry.2) :
    ∀ (key : α) (value : β), (keepKey table entry)[key]? = some value → q value := by
  intro key value hvalue
  rw [keepKey, ExtTreeMap.getElem?_insert] at hvalue
  split at hvalue
  · cases hvalue
    exact hentry
  · exact htable key value hvalue

/-- The keys and the values of a table have every property that all those of its list have. -/
theorem forall_mem_toList_tableOf {p : α → Prop} {q : β → Prop} {entries : List (α × β)}
    (h : ∀ entry ∈ entries, p entry.1 ∧ q entry.2) :
    ∀ entry ∈ (tableOf entries).toList, p entry.1 ∧ q entry.2 := by
  have hfold (table : ExtTreeMap α β)
      (hkeys : ∀ key stored, table.getKey? key = some stored → p stored)
      (hvalues : ∀ (key : α) (value : β), table[key]? = some value → q value) :
      (∀ key stored, (entries.foldl keepKey table).getKey? key = some stored → p stored) ∧
        ∀ (key : α) (value : β), (entries.foldl keepKey table)[key]? = some value → q value := by
    induction entries generalizing table with
    | nil => exact ⟨hkeys, hvalues⟩
    | cons entry rest ih =>
      rw [List.forall_mem_cons] at h
      exact ih h.2 _ (forall_getKey?_keepKey hkeys h.1.1) (forall_getElem?_keepKey hvalues h.1.2)
  obtain ⟨hkeys, hvalues⟩ := hfold ∅ (by simp) (by simp)
  rintro ⟨key, value⟩ hentry
  rw [ExtTreeMap.mem_toList_iff_getKey?_eq_some_and_getElem?_eq_some] at hentry
  exact ⟨hkeys key key hentry.1, hvalues key value hentry.2⟩

variable {key : α → List UInt8} {value : β → List UInt8} {readKey : Reader α} {readValue : Reader β}

/-- **A table survives with its keys and entries.** -/
theorem survives_table {table : ExtTreeMap α β}
    (h : ∀ entry ∈ table.toList,
      Survives key readKey entry.1 ∧ Survives value readValue entry.2) :
    Survives (writeTable key value) (readTable readKey readValue) table := by
  have hlist : Survives (writeList (writePair key value))
      (readList (readPair readKey readValue)) table.toList :=
    survives_list fun entry hentry => (h entry hentry).1.pair (h entry hentry).2
  have hwrite : writeTable key value (tableOf table.toList) =
      writeList (writePair key value) table.toList := by rw [tableOf_toList, writeTable]
  have htable := hlist.map tableOf hwrite
  rwa [tableOf_toList] at htable

end Table

theorem survives_nested {α β : Type} [Ord α] [TransOrd α] [Ord β] [TransOrd β]
    {outer : α → List UInt8} {inner : β → List UInt8} {readOuter : Reader α}
    {readInner : Reader β} (houter : ∀ a, Survives outer readOuter a)
    (hinner : ∀ b, Survives inner readInner b) (table : Nested α β Method) :
    Survives (writeNested outer inner) (readNested readOuter readInner) table :=
  survives_table fun row _ =>
    ⟨houter row.1, survives_table fun entry _ => ⟨hinner entry.1, survives_method entry.2⟩⟩

theorem survives_adapters (table : Nested Attribute AdapterKey Method) :
    Survives writeAdapters readAdapters table :=
  survives_nested survives_attribute survives_adapterKey table

theorem survives_renamed (table : Nested Attribute HostType Method) :
    Survives writeRenamed readRenamed table :=
  survives_nested survives_attribute survives_type table

theorem survives_conversions (table : Nested HostType HostType Method) :
    Survives writeConversions readConversions table :=
  survives_nested survives_type survives_type table

theorem survives_untaggable (table : ExtTreeMap HostType HostType) :
    Survives writeUntaggable readUntaggable table :=
  survives_table fun entry _ => ⟨survives_type entry.1, survives_type entry.2⟩

theorem survives_groups {table : GroupTable} (h : table.Regular) :
    Survives writeGroups readGroups table :=
  survives_table fun entry hentry => ⟨survives_groupKey (h entry hentry), survives_method entry.2⟩

theorem ensures_groups : Ensures readGroups GroupTable.Regular := by
  have hentry : Ensures (readPair readGroupKey readMethod) fun entry =>
      entry.1.attrs.Nodup ∧ True :=
    ensures_groupKey.bind fun key hkey => (ensures_true _).bind fun method _ =>
      .pure ⟨hkey, trivial⟩
  refine (ensures_list hentry).bind fun entries hentries => .pure fun entry hmem => ?_
  exact (forall_mem_toList_tableOf (p := fun key : GroupKey => key.attrs.Nodup)
    (q := fun _ : Method => True) hentries.2 entry hmem).1

/-! ### Snapshots -/

/-- Tables are read back if each of them is. -/
theorem reads_payload {tables : Tables}
    (hadapters : Reads readAdapters (writeAdapters tables.adapters) tables.adapters)
    (hrenamed : Reads readRenamed (writeRenamed tables.renamed) tables.renamed)
    (hconversions : Reads readConversions (writeConversions tables.conversions) tables.conversions)
    (hgroups : Reads readGroups (writeGroups tables.groups) tables.groups)
    (huntaggable : Reads readUntaggable (writeUntaggable tables.untaggable) tables.untaggable) :
    Reads readPayload (full tables).payload (full tables) := by
  simp only [payload, List.append_assoc]
  refine (reads_writeTag (show 1 < 256 by decide)).bind (hadapters.bind ?_)
  exact hrenamed.bind (hconversions.bind (hgroups.bind (huntaggable.map _)))

/-- Behind the magic, the payload is read. -/
theorem ofBytes_magic_append (payload : List UInt8) :
    ofBytes (magic ++ payload) = match readPayload payload with
      | .ok (snapshot, _) => .ok snapshot
      | .error error => .error (.malformed error) := by
  have hprefix : magic.isPrefixOf (magic ++ payload) = true :=
    List.isPrefixOf_iff_prefix.mpr (List.prefix_append _ _)
  cases hread : readPayload payload with
  | ok parsed => rw [ofBytes, if_pos hprefix, List.drop_left, hread]
  | error error => rw [ofBytes, if_pos hprefix, List.drop_left, hread]

/-- Behind the magic, bytes are decoded as the payload is read. -/
theorem decode_magic_append (payload : List UInt8) :
    decode (magic ++ payload) = match readPayload payload with
      | .ok (snapshot, _) => .ok snapshot.upgrade
      | .error error => .error (.malformed error) := by
  rw [decode, ofBytes_magic_append]
  cases readPayload payload <;> rfl

/-- Bytes are refused for their magic just if they do not begin with it. -/
theorem decode_eq_badMagic_iff {bytes : List UInt8} :
    decode bytes = .error .badMagic ↔ ¬ magic <+: bytes := by
  by_cases h : magic <+: bytes
  · obtain ⟨payload, rfl⟩ := h
    rw [decode_magic_append]
    cases readPayload payload <;> simp
  · have hprefix : ¬ magic.isPrefixOf bytes = true := mt List.isPrefixOf_iff_prefix.mp h
    rw [decode, ofBytes, if_neg hprefix]
    simp [Except.map, h]

/-- A snapshot is what is read from its bytes. -/
theorem ofBytes_bytes_of_reads {snapshot : Snapshot}
    (h : Reads readPayload snapshot.payload snapshot) :
    ofBytes snapshot.bytes = .ok snapshot := by
  have hread := h []
  rw [List.append_nil] at hread
  rw [bytes, ofBytes_magic_append, hread]

/-- What a snapshot is decoded to. -/
theorem decode_of_ofBytes {bytes : List UInt8} {snapshot : Snapshot}
    (h : ofBytes bytes = .ok snapshot) : decode bytes = .ok snapshot.upgrade := by
  rw [decode, h]
  rfl

theorem decode_encode_of_reads {tables : Tables}
    (h : Reads readPayload (full tables).payload (full tables)) :
    decode (encode tables) = .ok tables :=
  decode_of_ofBytes (ofBytes_bytes_of_reads h)

/-- **Regular tables survive**, if there are not more bytes than lengths can tell. -/
theorem decode_encode {tables : Tables} (hregular : tables.groups.Regular)
    (hlength : (encode tables).length < 2 ^ 64) : decode (encode tables) = .ok tables := by
  simp only [encode, bytes, payload, List.length_append] at hlength
  exact decode_encode_of_reads (reads_payload ((survives_adapters _).reads (by omega))
    ((survives_renamed _).reads (by omega)) ((survives_conversions _).reads (by omega))
    ((survives_groups hregular).reads (by omega)) ((survives_untaggable _).reads (by omega)))

theorem ensures_payload : Ensures readPayload fun snapshot => snapshot.upgrade.groups.Regular := by
  refine (ensures_true _).bind fun tag _ => ?_
  split
  · -- the first schema has no group adapters
    refine (ensures_true _).bind fun adapters _ => (ensures_true _).bind fun renamed _ =>
      (ensures_true _).bind fun conversions _ => (ensures_true _).bind fun untaggable _ => .pure ?_
    intro entry hentry
    cases hentry
  · exact (ensures_true _).bind fun adapters _ => (ensures_true _).bind fun renamed _ =>
      (ensures_true _).bind fun conversions _ => ensures_groups.bind fun groups hgroups =>
        (ensures_true _).bind fun untaggable _ => .pure hgroups
  · intro bytes snapshot rest hok
    cases hok

/-- What the reader of payloads ensures is true of all tables that are decoded. -/
theorem of_decode {p : Tables → Prop} {bytes : List UInt8} {tables : Tables}
    (hp : Ensures readPayload fun snapshot => p snapshot.upgrade) (h : decode bytes = .ok tables) :
    p tables := by
  by_cases hmagic : magic <+: bytes
  · obtain ⟨payload, rfl⟩ := hmagic
    rw [decode_magic_append] at h
    split at h
    next snapshot rest hread =>
      cases h
      exact hp _ _ _ hread
    · cases h
  · rw [decode_eq_badMagic_iff.mpr hmagic] at h
    cases h

/-- **What is read is regular**, since other group keys are refused. -/
theorem regular_of_decode {bytes : List UInt8} {tables : Tables} (h : decode bytes = .ok tables) :
    tables.groups.Regular :=
  of_decode (p := fun tables => tables.groups.Regular) ensures_payload h

end Snapshot

end SetterResolution
