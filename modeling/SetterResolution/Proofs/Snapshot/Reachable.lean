import SetterResolution.Proofs.Registry.OneTable
import SetterResolution.Proofs.Snapshot.Codec

/-!
# Every registry can be kept

A snapshot with a group key that repeats an attribute is refused as a whole when it is read, so a
single such key would lose all entries of a module. No registry ever has one: a declaration with a
repeated attribute is malformed, clearing and merging bring in no keys of their own, and what is
merged was reached in the same way or was read from a snapshot. So whatever was done to a registry
(`SetterResolution.Registry.Reachable`), its tables come back from a snapshot as they are, with the
order in which the attributes of each group key were declared.

The one thing that is asked for is that there are less than `2 ^ 64` bytes, since lengths are kept
in eight bytes.

The main statement is `SetterResolution.Snapshot.decode_encode_of_reachable`.
-/

namespace SetterResolution

open Std (ExtTreeSet)

/-- The group adapters that are found have regular keys if, and only if, all of them do. -/
theorem GroupTable.regular_iff_holds {tables : Tables} :
    tables.groups.Regular ↔
      ∀ key method, tables.Holds (.group key method) → key.attrs.Nodup := by
  have hmem {key : GroupKey} {method : Method} :
      tables.Holds (.group key method) ↔ (key, method) ∈ tables.groups.toList := by
    rw [Tables.Holds, find?_eq_some_iff_mem]
    exact and_iff_right Std.ReflCmp.compare_self
  constructor
  · exact fun h key method hheld => h (key, method) (hmem.mp hheld)
  · exact fun h entry hentry => h entry.1 entry.2 (hmem.mpr hentry)

/-- Tables whose every entry is one of other tables are regular with them. -/
theorem GroupTable.Regular.of_holds {tables other : Tables} (h : other.groups.Regular)
    (hsub : ∀ entry, tables.Holds entry → other.Holds entry) : tables.groups.Regular :=
  regular_iff_holds.mpr fun key method hheld =>
    regular_iff_holds.mp h key method (hsub _ hheld)

namespace Registry

/-- The registries that there are: a registry without entries, and what operations make of one,
also when they fail. -/
inductive Reachable : Registry → Prop
  /-- There are no entries at first. -/
  | empty : Reachable empty
  /-- A round begins. -/
  | beginRound {registry : Registry} : Reachable registry → Reachable registry.beginRound
  /-- An adapter is registered. -/
  | registerAdapter {registry : Registry} (decl : AdapterDecl) :
      Reachable registry → Reachable (registry.registerAdapter decl).1
  /-- A conversion is registered. -/
  | registerConversion {registry : Registry} (decl : ConversionDecl) :
      Reachable registry → Reachable (registry.registerConversion decl).1
  /-- A renamed setter is registered. -/
  | registerRenamed {registry : Registry} (decl : RenamedDecl) :
      Reachable registry → Reachable (registry.registerRenamed decl)
  /-- Untaggable views are registered. -/
  | registerUntaggable {registry : Registry} (decl : UntaggableDecl) :
      Reachable registry → Reachable (registry.registerUntaggable decl)
  /-- A round is processed. -/
  | process {registry : Registry} (round : Round) :
      Reachable registry → Reachable (registry.process round).1
  /-- The entries of some owners are cleared. -/
  | clear {registry : Registry} (owners : ExtTreeSet HostType) :
      Reachable registry → Reachable (registry.clear owners).1
  /-- The tables of another registry are merged in. -/
  | merge {registry other : Registry} :
      Reachable registry → Reachable other → Reachable (registry.merge other.tables)
  /-- What was read from a snapshot is merged in. -/
  | load {registry : Registry} {bytes : List UInt8} {tables : Tables} :
      Reachable registry → Snapshot.decode bytes = .ok tables → Reachable (registry.merge tables)

/-! ### What each operation does to group keys -/

theorem regular_registerAdapter {registry : Registry} (decl : AdapterDecl)
    (h : registry.tables.groups.Regular) :
    (registry.registerAdapter decl).1.tables.groups.Regular := by
  rw [← processAdapter_fst]
  rcases processAdapter_cases registry decl with
    ⟨key, method, -, -, hcase⟩ | ⟨key, method, -, hentry, hcase⟩ | ⟨-, -, hcase⟩
  · rw [hcase]
    split <;> exact h
  · rw [hcase]
    split
    · exact h
    · -- the only new key is that of a valid declaration
      rw [GroupTable.regular_iff_holds]
      intro found other hheld
      rw [Tables.Holds, withGroup, GroupTable.find?_insert] at hheld
      split at hheld
      · cases hheld
        exact AdapterDecl.nodup_of_group? hentry
      · exact GroupTable.regular_iff_holds.mp h found other hheld
  · rw [hcase]
    exact h

theorem regular_registerConversion {registry : Registry} (decl : ConversionDecl)
    (h : registry.tables.groups.Regular) :
    (registry.registerConversion decl).1.tables.groups.Regular := by
  rw [registerConversion]
  split <;> exact h

theorem regular_process {registry : Registry} (round : Round)
    (h : registry.tables.groups.Regular) : (registry.process round).1.tables.groups.Regular := by
  refine GroupTable.regular_iff_holds.mpr fun key method hheld => ?_
  rcases registers_or_holds_of_process hheld with hregisters | ⟨hbefore, -⟩
  · cases hregisters.declares with
    | group _ _ hentry => exact AdapterDecl.nodup_of_group? hentry
  · exact GroupTable.regular_iff_holds.mp h key method hbefore

theorem regular_clear {registry : Registry} (owners : ExtTreeSet HostType)
    (h : registry.tables.groups.Regular) : (registry.clear owners).1.tables.groups.Regular := by
  refine h.of_holds fun entry hheld => ?_
  rw [Tables.holds_iff, tables_clear, Tables.lookup?_clear, Option.filter_eq_some_iff] at hheld
  exact Tables.holds_iff.mpr hheld.1

theorem regular_merge {registry : Registry} {tables : Tables}
    (h : registry.tables.groups.Regular) (htables : tables.groups.Regular) :
    (registry.merge tables).tables.groups.Regular := by
  refine GroupTable.regular_iff_holds.mpr fun key method hheld => ?_
  rcases Tables.holds_of_merge hheld with hheld | hheld
  · exact GroupTable.regular_iff_holds.mp h key method hheld
  · exact GroupTable.regular_iff_holds.mp htables key method hheld

/-- **No registry has a group key that repeats an attribute.** -/
theorem Reachable.regular {registry : Registry} (h : registry.Reachable) :
    registry.tables.groups.Regular := by
  induction h with
  | empty =>
    intro entry hentry
    cases hentry
  | beginRound _ ih => exact ih
  | registerAdapter decl _ ih => exact regular_registerAdapter decl ih
  | registerConversion decl _ ih => exact regular_registerConversion decl ih
  | registerRenamed decl _ ih => exact ih
  | registerUntaggable decl _ ih => exact ih
  | process round _ ih => exact regular_process round ih
  | clear owners _ ih => exact regular_clear owners ih
  | merge _ _ ih hother => exact regular_merge ih hother
  | load _ hdecode ih => exact regular_merge ih (Snapshot.regular_of_decode hdecode)

end Registry

namespace Snapshot

/-- **The tables of every registry come back from a snapshot**, all five of them as they are. -/
theorem decode_encode_of_reachable {registry : Registry} (h : registry.Reachable)
    (hlength : (encode registry.tables).length < 2 ^ 64) :
    decode (encode registry.tables) = .ok registry.tables :=
  decode_encode h.regular hlength

/-- A group adapter whose attributes are not in ascending order, and a renamed setter. -/
theorem decode_encode_of_reachable_round :
    let round : Round :=
      { adapters := [⟨["app:text", "hint"], ⟨⟨.named "Größe", "bind",
          [.named "View", .named "String", .array (.prim .int)], none, true, true,
            lowestPlatform⟩, .ofElement "Größe"⟩⟩] }
    let decl : RenamedDecl :=
      ⟨.named "Owner", "tint", .named "View", "setTint", .ofElement "Owner"⟩
    let registry := (Registry.empty.process round).1.registerRenamed decl
    registry.Reachable ∧ (encode registry.tables).length < 2 ^ 64 ∧
      decode (encode registry.tables) = .ok registry.tables := by
  intro round decl registry
  have hreachable : registry.Reachable :=
    (Registry.Reachable.empty.process round).registerRenamed decl
  have hlength : (encode registry.tables).length < 2 ^ 64 := by decide +kernel
  exact ⟨hreachable, hlength, decode_encode_of_reachable hreachable hlength⟩

end Snapshot

end SetterResolution
