import SetterResolution.Proofs.Registry.Position
import SetterResolution.Proofs.Snapshot.Codec

/-!
# What is decoded at all

The bytes of a snapshot file may come from anywhere. The entries of a table may stand in any order
in them, keys may be repeated, and anything may follow. What is decoded from such bytes is a store
like any other: encoded anew, it is decoded again, and no bound on lengths is asked for, since all
its lengths were read from eight bytes, and a table has at most as many entries as were read for it.

No part of the encoding of a store is decoded to a smaller store. The length of a list stands before
its members and every text behind its own, so that a reader of a part runs out of bytes. It is not
said here how many bytes each of them takes: readers are prompt
(`SetterResolution.Snapshot.Prompt`), and what was read from a part would be read from all of it.

* `SetterResolution.Snapshot.recovers_payload`: whatever is read is read again.
* `SetterResolution.Snapshot.prompt_payload`: nothing is read from a part.
* `SetterResolution.Snapshot.decode_canonical` has all of it.
-/

namespace SetterResolution

open Std (ExtTreeMap TransOrd)

namespace Snapshot

/-! ### Types, names and methods -/

theorem ensures_leaf : Ensures readLeaf fun type => Reads readType (writeType type) type := by
  refine (ensures_true _).bind fun tag _ => ?_
  split
  · exact (ensures_true _).bind fun kind _ => .pure (reads_prim kind)
  · exact recovers_text.bind fun name hname => .pure (reads_named hname)
  · intro bytes type rest hok
    cases hok

theorem recovers_type : Recovers writeType readType := by
  intro bytes type rest hok
  fun_induction readType bytes generalizing type rest with
  | case1 bytes element rest' hread ih =>
    cases hok
    exact reads_array (ih _ _ hread)
  | case2 bytes error hread ih => cases hok
  | case3 bytes hleaf => exact ensures_leaf _ _ _ hok

theorem prompt_leaf : Prompt readLeaf := by
  refine (prompt_readNat 4).bind fun tag => ?_
  split
  · refine Prompt.map _ ((prompt_readNat 4).bind fun tag => ?_)
    split
    · exact prompt_pure _
    · exact prompt_throw _
  · exact prompt_text.map _
  · exact prompt_throw _

/-- Whether a type is an array is told by four bytes, and they are all there where it is read. -/
theorem prompt_type : Prompt readType := by
  intro bytes type rest more hok
  fun_induction readType bytes generalizing type rest with
  | case1 bytes element rest' hread ih =>
    cases hok
    rw [List.cons_append, List.cons_append, List.cons_append, List.cons_append, readType,
      ih _ _ hread]
  | case2 bytes error hread ih => cases hok
  | case3 bytes hleaf =>
    obtain ⟨tag, between, htag, -⟩ := bind_eq_ok.mp hok
    obtain ⟨front, hfront, rfl⟩ := exists_of_readNat htag
    rw [readType.eq_2]
    · exact prompt_leaf _ _ _ more hok
    · intro tail heq
      rw [List.append_assoc] at heq
      obtain ⟨rfl, -⟩ := List.append_inj (show front ++ _ = [1, 0, 0, 0] ++ tail from heq) hfront
      exact hleaf between rfl

theorem faithful_type : Faithful writeType readType :=
  ⟨recovers_type, prompt_type⟩

theorem faithful_attribute : Faithful writeAttribute readAttribute :=
  faithful_text.map Attribute.mk fun _ => rfl

theorem faithful_method : Faithful writeMethod readMethod :=
  faithful_type.map₂ Method.mk (fun _ _ => rfl) faithful_text

theorem faithful_adapterKey : Faithful writeAdapterKey readAdapterKey :=
  faithful_type.map₂ AdapterKey.mk (fun _ _ => rfl) faithful_type

/-! ### Group keys -/

theorem exists_groupKey_iff (view : HostType) (attrs : List Attribute) (types : List HostType) :
    (∃ key, groupKey view attrs types = .ok key) ↔ attrs.length = types.length ∧ attrs.Nodup := by
  constructor
  · rintro ⟨key, hkey⟩
    exact (groupKey_eq_ok_iff.mp hkey).1
  · rintro ⟨hlength, hnodup⟩
    exact ⟨_, groupKey_eq_ok view hlength hnodup⟩

/-- A group key is put together again from its attributes and its types. -/
theorem faithful_groupKey : Faithful writeGroupKey readGroupKey where
  recovers := by
    refine recovers_type.bind fun view hview => ?_
    refine (ensures_list faithful_attribute.recovers).bind fun attrs hattrs => ?_
    refine (ensures_list recovers_type).bind fun types htypes => ?_
    refine (ensures_liftM_groupKey view attrs types).imp fun key hkey => ?_
    obtain ⟨hnodup, rfl, rfl, rfl⟩ := hkey
    exact reads_groupKey hnodup hview (reads_list hattrs.2 hattrs.1) (reads_list htypes.2 htypes.1)
  prompt :=
    prompt_type.bind fun view => (prompt_list faithful_attribute.prompt).bind fun attrs =>
      (prompt_list prompt_type).bind fun types => prompt_liftM (groupKey view attrs types)

/-! ### Tables -/

section Table

variable {α β : Type} [Ord α] [TransOrd α] {key : α → List UInt8} {value : β → List UInt8}
  {readKey : Reader α} {readValue : Reader β}

/-- A repeated key makes a table smaller than the list that it is made of. -/
theorem size_tableOf_le (entries : List (α × β)) : (tableOf entries).size ≤ entries.length := by
  have hfold (table : ExtTreeMap α β) :
      (entries.foldl keepKey table).size ≤ table.size + entries.length := by
    induction entries generalizing table with
    | nil => exact Nat.le_refl _
    | cons entry rest ih =>
      have hset : (keepKey table entry).size ≤ table.size + 1 := ExtTreeMap.size_insert_le
      have hrest := ih (keepKey table entry)
      rw [List.foldl_cons, List.length_cons]
      omega
  have hempty := hfold ∅
  rwa [ExtTreeMap.size_empty, Nat.zero_add] at hempty

theorem reads_table {table : ExtTreeMap α β} (hsize : table.size < 2 ^ 64)
    (h : ∀ entry ∈ table.toList,
      Reads readKey (key entry.1) entry.1 ∧ Reads readValue (value entry.2) entry.2) :
    Reads (readTable readKey readValue) (writeTable key value table) table := by
  have hlist : Reads (readList (readPair readKey readValue))
      (writeList (writePair key value) table.toList) table.toList := by
    refine reads_list (fun entry hentry => ?_) (by rwa [ExtTreeMap.length_toList])
    exact (h entry hentry).1.bind ((h entry hentry).2.map (Prod.mk entry.1))
  have htable := hlist.map tableOf
  rwa [tableOf_toList] at htable

/-- **A table is recovered with its keys and values**, whatever the list that it was read from. -/
theorem faithful_table (hkey : Faithful key readKey) (hvalue : Faithful value readValue) :
    Faithful (writeTable key value) (readTable readKey readValue) where
  recovers := by
    have hentry : Ensures (readPair readKey readValue) fun entry =>
        Reads readKey (key entry.1) entry.1 ∧ Reads readValue (value entry.2) entry.2 :=
      hkey.recovers.bind fun a ha => hvalue.recovers.bind fun b hb => .pure ⟨ha, hb⟩
    refine (ensures_list hentry).bind fun entries hentries => .pure ?_
    refine reads_table (Nat.lt_of_le_of_lt (size_tableOf_le entries) hentries.1) ?_
    exact forall_mem_toList_tableOf (p := fun a => Reads readKey (key a) a)
      (q := fun b => Reads readValue (value b) b) hentries.2
  prompt := (prompt_list (hkey.prompt.bind fun a => hvalue.prompt.map (Prod.mk a))).map tableOf

end Table

theorem faithful_nested {α β : Type} [Ord α] [TransOrd α] [Ord β] [TransOrd β]
    {outer : α → List UInt8} {inner : β → List UInt8} {readOuter : Reader α}
    {readInner : Reader β} (houter : Faithful outer readOuter) (hinner : Faithful inner readInner) :
    Faithful (writeNested outer inner) (readNested readOuter readInner) :=
  faithful_table houter (faithful_table hinner faithful_method)

theorem faithful_adapters : Faithful writeAdapters readAdapters :=
  faithful_nested faithful_attribute faithful_adapterKey

theorem faithful_renamed : Faithful writeRenamed readRenamed :=
  faithful_nested faithful_attribute faithful_type

theorem faithful_conversions : Faithful writeConversions readConversions :=
  faithful_nested faithful_type faithful_type

theorem faithful_groups : Faithful writeGroups readGroups :=
  faithful_table faithful_groupKey faithful_method

theorem faithful_untaggable : Faithful writeUntaggable readUntaggable :=
  faithful_table faithful_type faithful_type

/-! ### Snapshots -/

/-- **Whatever is read is read again**, in the second schema. -/
theorem recovers_payload : Ensures readPayload fun snapshot =>
    Reads readPayload (full snapshot.upgrade).payload (full snapshot.upgrade) := by
  refine (ensures_true _).bind fun tag _ => ?_
  split
  · refine faithful_adapters.recovers.bind fun adapters hadapters => ?_
    refine faithful_renamed.recovers.bind fun renamed hrenamed => ?_
    refine faithful_conversions.recovers.bind fun conversions hconversions => ?_
    refine faithful_untaggable.recovers.bind fun untaggable huntaggable => .pure ?_
    have hgroups : Reads readGroups (writeGroups ∅) ∅ :=
      reads_table (by decide) fun entry hentry => by cases hentry
    exact reads_payload hadapters hrenamed hconversions hgroups huntaggable
  · refine faithful_adapters.recovers.bind fun adapters hadapters => ?_
    refine faithful_renamed.recovers.bind fun renamed hrenamed => ?_
    refine faithful_conversions.recovers.bind fun conversions hconversions => ?_
    refine faithful_groups.recovers.bind fun groups hgroups => ?_
    refine faithful_untaggable.recovers.bind fun untaggable huntaggable => .pure ?_
    exact reads_payload hadapters hrenamed hconversions hgroups huntaggable
  · intro bytes snapshot rest hok
    cases hok

theorem prompt_payload : Prompt readPayload := by
  refine (prompt_readNat 4).bind fun tag => ?_
  split
  · exact faithful_adapters.prompt.bind fun adapters => faithful_renamed.prompt.bind fun renamed =>
      faithful_conversions.prompt.bind fun conversions => faithful_untaggable.prompt.map _
  · exact faithful_adapters.prompt.bind fun adapters => faithful_renamed.prompt.bind fun renamed =>
      faithful_conversions.prompt.bind fun conversions => faithful_groups.prompt.bind fun groups =>
        faithful_untaggable.prompt.map _
  · exact prompt_throw _

/-- **No part of an encoding is decoded**, neither a part of the magic nor one that goes on behind
it. -/
theorem decode_part {tables : Tables}
    (hreads : Reads readPayload (full tables).payload (full tables)) {part : List UInt8}
    (hpart : part <+: encode tables) (hne : part ≠ encode tables) :
    (part.length < magic.length → decode part = .error .badMagic) ∧
      (magic.length ≤ part.length → ∃ error, decode part = .error (.malformed error)) := by
  constructor
  · intro hlength
    refine decode_eq_badMagic_iff.mpr fun hmagic => ?_
    exact absurd hmagic.length_le (Nat.not_le_of_lt hlength)
  · intro hlength
    obtain ⟨behind, rfl⟩ : magic <+: part :=
      List.prefix_of_prefix_length_le (List.prefix_append _ _) hpart hlength
    obtain ⟨more, hmore⟩ := hpart
    rw [encode, bytes, List.append_assoc, List.append_cancel_left_eq] at hmore
    have hrest : more ≠ [] := by
      rintro rfl
      rw [List.append_nil] at hmore
      exact hne (by rw [encode, bytes, hmore])
    rw [← hmore] at hreads
    obtain ⟨error, herror⟩ := prompt_payload.error_of_part hreads hrest
    exact ⟨error, by rw [decode_magic_append, herror]⟩

/-- **What is decoded.** Bytes are refused for their magic just if they do not begin with it, and
lists of attributes and of types make a group key just if there are as many of both and no attribute
is repeated. If tables are decoded, then

* each group key has as many types as attributes, repeats none of these, and finds each in its
  place,
* the tables are decoded again from their encoding, and
* nothing is decoded from less than all of it. -/
theorem decode_canonical (bytes : List UInt8) :
    (decode bytes = .error .badMagic ↔ ¬ magic <+: bytes) ∧
    (∀ view attrs types, (∃ key, groupKey view attrs types = .ok key) ↔
      attrs.length = types.length ∧ attrs.Nodup) ∧
    ∀ tables, decode bytes = .ok tables →
      (∀ entry ∈ tables.groups.toList,
        (entry.1.params.map Parameter.type).length = entry.1.attrs.length ∧
        entry.1.attrs.Nodup ∧
        ∀ attr i, entry.1.position? attr = some i ↔ entry.1.attrs[i]? = some attr) ∧
      decode (encode tables) = .ok tables ∧
      ∀ part, part <+: encode tables → part ≠ encode tables →
        (part.length < 4 → decode part = .error .badMagic) ∧
        (4 ≤ part.length → ∃ error, decode part = .error (.malformed error)) := by
  refine ⟨decode_eq_badMagic_iff, exists_groupKey_iff, fun tables h => ?_⟩
  have hreads : Reads readPayload (full tables).payload (full tables) :=
    of_decode (p := fun tables => Reads readPayload (full tables).payload (full tables))
      recovers_payload h
  refine ⟨fun entry hentry => ?_, decode_encode_of_reads hreads, fun part => decode_part hreads⟩
  have hnodup : entry.1.attrs.Nodup := regular_of_decode h entry hentry
  exact ⟨by simp [GroupKey.attrs], hnodup, fun attr i =>
    GroupKey.position?_eq_some_iff_of_nodup hnodup⟩

/-- A group adapter is repeated in other bytes than it came in first, and a byte follows. The key is
kept as it came first, with the adapter that came last. -/
theorem decode_canonical_repeated :
    let key : GroupKey := ⟨.named "View", [⟨⟨"url"⟩, .named "String"⟩, ⟨⟨"error"⟩, .prim .int⟩]⟩
    let again : GroupKey := ⟨.named "View", [⟨⟨"error"⟩, .prim .int⟩, ⟨⟨"url"⟩, .named "String"⟩]⟩
    let bytes := magic ++ writeTag 1 ++ writeLength 0 ++ writeLength 0 ++ writeLength 0 ++
      writeList (writePair writeGroupKey writeMethod)
        [(key, ⟨.named "Images", "load"⟩), (again, ⟨.named "Größe", "set"⟩)] ++
      writeLength 0 ++ [7]
    ∃ tables, decode bytes = .ok tables ∧
      tables.groups.toList = [(key, ⟨.named "Größe", "set"⟩)] ∧
      (∀ attr i, key.position? attr = some i ↔ key.attrs[i]? = some attr) ∧
      decode (encode tables) = .ok tables ∧
      decode ((encode tables).take 3) = .error .badMagic ∧
      ∃ error, decode ((encode tables).take 100) = .error (.malformed error) := by
  intro key again bytes
  have hshape : (decode bytes).toOption.map (fun tables =>
      (tables.groups.toList, (encode tables).length)) =
        some ([(key, ⟨.named "Größe", "set"⟩)], 160) := by decide +kernel
  cases hdecode : decode bytes with
  | error error =>
    rw [hdecode] at hshape
    cases hshape
  | ok tables =>
    rw [hdecode] at hshape
    obtain ⟨hgroups, hlength⟩ := Prod.mk.inj (Option.some.inj hshape)
    obtain ⟨hkeys, hagain, hpart⟩ := (decode_canonical bytes).2.2 tables hdecode
    have htake {n : Nat} (hn : n < 160) : ((encode tables).take n).length = n := by
      rw [List.length_take, hlength]
      omega
    have hne {n : Nat} (hn : n < 160) : (encode tables).take n ≠ encode tables := by
      intro heq
      have hcount := htake hn
      rw [heq, hlength] at hcount
      omega
    have hbelow := hpart _ (List.take_prefix 3 _) (hne (by omega))
    have hbehind := hpart _ (List.take_prefix 100 _) (hne (by omega))
    have hkey := hkeys (key, ⟨.named "Größe", "set"⟩) (hgroups ▸ List.mem_singleton_self _)
    refine ⟨tables, rfl, hgroups, hkey.2.2, hagain, hbelow.1 ?_, hbehind.2 ?_⟩
    · rw [htake (by omega)]
      omega
    · rw [htake (by omega)]
      omega

end Snapshot

end SetterResolution
