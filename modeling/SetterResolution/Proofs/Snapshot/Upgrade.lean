import SetterResolution.Proofs.Snapshot.Canonical

/-!
# Snapshots of the first schema

The first schema has four of the five tables, and the group adapters of the second one stand in the
midst of them. What was kept in it is not lost: the four tables are read from it as they are, and
what they are upgraded to is what is decoded from the second schema with the same four tables and no
group adapters at all.

That the four tables come back is shown for the bytes they are written to, if there are not more of
these than lengths can tell. That nothing changes afterwards needs no bound and does not depend on
where the old snapshot came from: what was read once is read again
(`SetterResolution.Snapshot.decode_encode_of_decode`).

The main statement is `SetterResolution.Snapshot.decode_ungrouped`.
-/

namespace SetterResolution.Snapshot

/-- **The four tables of the first schema are read back**, one behind the other. -/
theorem reads_payload_ungrouped {tables : UngroupedTables}
    (hlength : (ungrouped tables).payload.length < 2 ^ 64) :
    Reads readPayload (ungrouped tables).payload (ungrouped tables) := by
  simp only [payload, List.length_append] at hlength
  have hadapters : Reads readAdapters (writeAdapters tables.adapters) tables.adapters :=
    (survives_adapters _).reads (by omega)
  have hrenamed : Reads readRenamed (writeRenamed tables.renamed) tables.renamed :=
    (survives_renamed _).reads (by omega)
  have hconversions :
      Reads readConversions (writeConversions tables.conversions) tables.conversions :=
    (survives_conversions _).reads (by omega)
  have huntaggable : Reads readUntaggable (writeUntaggable tables.untaggable) tables.untaggable :=
    (survives_untaggable _).reads (by omega)
  simp only [payload, List.append_assoc]
  refine (reads_writeTag (show 0 < 256 by decide)).bind (hadapters.bind ?_)
  exact hrenamed.bind (hconversions.bind (huntaggable.map _))

/-- **What was decoded once is decoded again** from its encoding, which is in the second schema. -/
theorem decode_encode_of_decode {bytes : List UInt8} {tables : Tables}
    (h : decode bytes = .ok tables) : decode (encode tables) = .ok tables :=
  decode_encode_of_reads <| of_decode
    (p := fun tables => Reads readPayload (full tables).payload (full tables)) recovers_payload h

/-- **Old snapshots are upgraded without loss.** The bytes to which the four tables of the first
schema are written are read as just these tables. They are decoded to the same tables as the second
schema is with these four and without group adapters. And from whatever bytes the four tables were
read, they are decoded to the same, and what they are decoded to is decoded again from its
encoding. -/
theorem decode_ungrouped {tables : UngroupedTables}
    (hlength : (ungrouped tables).bytes.length < 2 ^ 64) :
    let upgraded : Tables :=
      { adapters := tables.adapters
        renamed := tables.renamed
        conversions := tables.conversions
        groups := ∅
        untaggable := tables.untaggable }
    ofBytes (ungrouped tables).bytes = .ok (ungrouped tables) ∧
      decode (ungrouped tables).bytes = .ok upgraded ∧
      decode (ungrouped tables).bytes = decode (encode upgraded) ∧
      ∀ bytes, ofBytes bytes = .ok (ungrouped tables) →
        decode bytes = .ok upgraded ∧ decode (encode upgraded) = .ok upgraded := by
  intro upgraded
  have hread : ofBytes (ungrouped tables).bytes = .ok (ungrouped tables) := by
    rw [bytes, List.length_append] at hlength
    exact ofBytes_bytes_of_reads (reads_payload_ungrouped (by omega))
  have hany (bytes : List UInt8) (h : ofBytes bytes = .ok (ungrouped tables)) :
      decode bytes = .ok upgraded ∧ decode (encode upgraded) = .ok upgraded :=
    have hdecode : decode bytes = .ok upgraded := decode_of_ofBytes h
    ⟨hdecode, decode_encode_of_decode hdecode⟩
  obtain ⟨hdecode, hagain⟩ := hany _ hread
  exact ⟨hread, hdecode, hdecode.trans hagain.symm, hany⟩

/-- An adapter, a renamed setter, a conversion and an untaggable view in the first schema. The
snapshot is shorter than the one that it is upgraded to by the length of a table without entries. -/
theorem decode_ungrouped_one_each :
    let view : HostType := .named "View"
    let bind : Method := ⟨.named "Größe", "bind"⟩
    let tables : UngroupedTables :=
      { adapters := Nested.put ∅ ⟨"hint"⟩ ⟨view, .array (.prim .int)⟩ bind
        renamed := Nested.put ∅ ⟨"android:tint"⟩ view ⟨view, "setTint"⟩
        conversions := Nested.put ∅ (.prim .int) (.named "Drawable") bind
        untaggable := Std.ExtTreeMap.empty.insert (.named "Fragment") (.named "Größe") }
    let upgraded : Tables :=
      ⟨tables.adapters, tables.renamed, tables.conversions, ∅, tables.untaggable⟩
    (ungrouped tables).bytes.length < 2 ^ 64 ∧
      (encode upgraded).length = (ungrouped tables).bytes.length + 8 ∧
      decode (ungrouped tables).bytes = .ok upgraded ∧
      decode (encode upgraded) = .ok upgraded := by
  intro view bind tables upgraded
  have hlength : (ungrouped tables).bytes.length < 2 ^ 64 := by decide +kernel
  obtain ⟨hread, hdecode, -, hany⟩ := decode_ungrouped hlength
  exact ⟨hlength, by decide +kernel, hdecode, (hany _ hread).2⟩

end SetterResolution.Snapshot
