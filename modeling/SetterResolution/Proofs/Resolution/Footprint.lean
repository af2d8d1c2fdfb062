import SetterResolution.Proofs.Resolution.Conversion
import SetterResolution.Resolution.Setter

/-!
# What a resolution looks at

Of all entries of a registry, those that can matter for one attribute are few: the adapters and the
renamed setters of the attribute, and the conversions, which are tried for every value. They are
said to **bear on** the attribute (`SetterResolution.EntryKey.BearsOn`), and a resolution looks at
nothing else. It does not even see whether a row without entries is there, so that tables which find
the same under the keys that bear on an attribute resolve it alike
(`SetterResolution.Context.resolve_congr`).

A round clears and registers entries all over the tables. But what it does under a key depends on
what it declares there and on who owns what was there before. So a round that declares nothing that
bears on an attribute, and whose types own nothing that does, cannot be seen from the attribute: the
main statement is `SetterResolution.Context.resolve_process_of_unrelated`.
-/

namespace SetterResolution

/-! ### What bears on an attribute -/

/-- Whether what is found under a key can matter when an attribute is resolved. -/
def EntryKey.BearsOn (attr : Attribute) : EntryKey → Prop
  | adapter other _ | renamed other _ => other = attr
  | conversion .. => True
  | group _ | untaggable _ => False

instance (attr : Attribute) (key : EntryKey) : Decidable (key.BearsOn attr) := by
  cases key <;> unfold EntryKey.BearsOn <;> infer_instance

/-- A key that agrees with one that bears on an attribute does so itself. -/
theorem EntryKey.BearsOn.of_agrees {attr : Attribute} {a b : EntryKey} (h : a.BearsOn attr)
    (hagrees : b.Agrees a) : b.BearsOn attr := by
  cases hagrees with
  | refl => exact h
  | group => exact absurd h not_false

namespace Context

/-- The context with the entries of other tables. -/
def withTables (ctx : Context) (tables : Tables) : Context :=
  { ctx with tables }

@[simp] theorem withTables_tables (ctx : Context) (tables : Tables) :
    (ctx.withTables tables).tables = tables := rfl

@[simp] theorem withTables_hierarchy (ctx : Context) (tables : Tables) :
    (ctx.withTables tables).hierarchy = ctx.hierarchy := rfl

@[simp] theorem withTables_qualify (ctx : Context) (tables : Tables) (type : HostType) :
    (ctx.withTables tables).qualify type = ctx.qualify type := rfl

/-- The names that are tried on a view depend on the renamed setters of the attribute. -/
theorem setterNames_congr (ctx : Context) {attr : Attribute} {tables other : Tables}
    (h : tables.renamed.getD attr ∅ = other.renamed.getD attr ∅) (view : HostType) :
    (ctx.withTables tables).setterNames attr view =
      (ctx.withTables other).setterNames attr view := by
  simp only [setterNames, renamedSetter?, renamedSetters, withTables_tables, withTables_hierarchy,
    withTables_qualify, h]

/-! ### Tables that cannot be told apart -/

section Alike

variable {attr : Attribute} {tables other : Tables}
  (h : ∀ key : EntryKey, key.BearsOn attr → tables.lookup? key = other.lookup? key)

include h

/-- The adapters of the attribute are the same. -/
theorem adapters_eq_of_alike : tables.adapters.getD attr ∅ = other.adapters.getD attr ∅ := by
  refine Std.ExtTreeMap.ext_getElem? fun key => ?_
  rw [Nested.getElem?_getD, Nested.getElem?_getD]
  exact Option.map_injective (fun _ _ heq => (Entry.adapter.inj heq).2.2)
    (h (.adapter attr key) rfl)

/-- The renamed setters of the attribute are the same. -/
theorem renamed_eq_of_alike : tables.renamed.getD attr ∅ = other.renamed.getD attr ∅ := by
  refine Std.ExtTreeMap.ext_getElem? fun target => ?_
  rw [Nested.getElem?_getD, Nested.getElem?_getD]
  exact Option.map_injective (fun _ _ heq => (Entry.renamed.inj heq).2.2)
    (h (.renamed attr target) rfl)

variable (ctx : Context)

/-- A value reaches a parameter in the same way. -/
theorem fit?_congr (value param : HostType) :
    (ctx.withTables tables).fit? value param = (ctx.withTables other).fit? value param := by
  have hfind (source target : HostType) : tables.conversions.find? source target =
      other.conversions.find? source target :=
    Option.map_injective (fun _ _ heq => (Entry.conversion.inj heq).2.2)
      (h (.conversion source target) trivial)
  have happlies : (ctx.withTables tables).applies value param =
      (ctx.withTables other).applies value param := rfl
  have hconversion : (ctx.withTables tables).conversion? value param =
      (ctx.withTables other).conversion? value param := by
    rw [conversion?_eq, conversion?_eq, happlies]
    simp only [withTables_tables, hfind, Nested.cells_eq_of_find? hfind]
  have hplain : (ctx.withTables tables).plainFit? value param =
      (ctx.withTables other).plainFit? value param := rfl
  rw [fit?_eq, fit?_eq, hconversion, hplain]

/-- **The candidates are the same**, numbers included. -/
theorem candidates_congr (view value : HostType) :
    (ctx.withTables tables).candidates attr view value =
      (ctx.withTables other).candidates attr view value := by
  have hdirect : (ctx.withTables tables).directCandidates attr view value =
      (ctx.withTables other).directCandidates attr view value := by
    simp only [directCandidates, setterNames_congr ctx (renamed_eq_of_alike h),
      withTables_hierarchy]
    refine List.filterMap_congr fun signature _ => ?_
    simp only [directCandidate?, fit?_congr h, withTables_hierarchy]
  have hadapter : (ctx.withTables tables).adapterCandidates attr view value =
      (ctx.withTables other).adapterCandidates attr view value := by
    simp only [adapterCandidates, adapterCandidate?, fit?_congr h, adapters_eq_of_alike h,
      withTables_tables, withTables_hierarchy, withTables_qualify]
    rfl
  rw [candidates, candidates, hdirect, hadapter]

end Alike

/-- **Tables that find the same under every key that bears on an attribute resolve it alike.** -/
theorem resolve_congr (ctx : Context) {tables other : Tables} {written : String}
    (h : ∀ key : EntryKey, key.BearsOn (.ofWritten written) →
      tables.lookup? key = other.lookup? key) (view value : HostType) :
    (ctx.withTables tables).resolve written view value =
      (ctx.withTables other).resolve written view value := by
  simp only [resolve, candidates_congr h ctx]
  rfl

/-! ### Rounds that cannot be seen -/

/-- **A round that is unrelated to an attribute does not change how it is resolved.** If no valid
declaration of the round is for a key that bears on the attribute, and no type of the round owns an
entry of the tables that does, then the same call is made for the attribute after the round as
before it, whatever the view and the value are, and the same is reported. -/
theorem resolve_process_of_unrelated (ctx : Context) (registry : Registry) {round : Round}
    {written : String}
    (hround : ∀ owner entry, round.Declares owner entry → ¬ entry.key.BearsOn (.ofWritten written))
    (htables : ∀ entry, registry.tables.Holds entry → entry.key.BearsOn (.ofWritten written) →
      entry.owner ∉ round.owners) (view value : HostType) :
    (ctx.withTables (registry.process round).1.tables).resolve written view value =
      (ctx.withTables registry.tables).resolve written view value := by
  refine resolve_congr ctx (fun key hkey => ?_) view value
  have hsilent : round.lookup? key = none :=
    Round.lookup?_eq_none_of_forall_not_declares fun owner entry hdeclares hagrees =>
      hround owner entry hdeclares (hkey.of_agrees hagrees)
  rw [Registry.lookup?_process, hsilent, Option.none_or]
  cases hfound : registry.tables.lookup? key with
  | none => rfl
  | some entry =>
    -- what is found bears on the attribute, so that its owner is none of the round's
    have hbears := hkey.of_agrees (Tables.agrees_of_lookup? hfound)
    exact Option.filter_some_pos
      (decide_eq_true (htables entry (Tables.holds_of_lookup? hfound) hbears))

/-- A group adapter for the attribute and another one is declared, and of the other one an adapter
is replaced and a renamed setter is declared. The adapter and the conversion that are used for the
attribute have other owners. -/
theorem resolve_process_of_unrelated_group :
    let view : HostType := .named "View"
    let string : HostType := .named "String"
    let color : HostType := .named "Color"
    let declared (owner : String) (attrs : List String) (values : List HostType) : AdapterDecl :=
      ⟨attrs, ⟨⟨.named owner, "bind", view :: values, none, true, true, lowestPlatform⟩,
        .ofElement owner⟩⟩
    let round : Round :=
      { adapters := [declared "Hints" ["app:hint"] [string],
          declared "Groups" ["app:text", "app:hint"] [string, string]]
        renamed := [⟨.named "Hints", "app:hint", view, "showHint", .ofElement "Hints"⟩] }
    let adapters : Nested Attribute AdapterKey Method :=
      Nested.put (Nested.put ∅ ⟨"text"⟩ ⟨view, string⟩ ⟨.named "Texts", "bind"⟩)
        ⟨"hint"⟩ ⟨view, color⟩ ⟨.named "Hints", "stale"⟩
    let conversions : Nested HostType HostType Method :=
      Nested.put ∅ color string ⟨.named "Colors", "name"⟩
    let registry : Registry := .ofTables { adapters, conversions }
    let ctx : Context :=
      { tables := {}, hierarchy := Hierarchy.standard.declareClass "View" (some "Object") }
    (∀ owner entry, round.Declares owner entry →
        ¬ entry.key.BearsOn (.ofWritten "app:text")) ∧
      (∀ entry, registry.tables.Holds entry → entry.key.BearsOn (.ofWritten "app:text") →
        entry.owner ∉ round.owners) ∧
      (ctx.withTables (registry.process round).1.tables).resolve "app:text" view color =
        (ctx.withTables registry.tables).resolve "app:text" view color ∧
      (ctx.withTables registry.tables).resolve "app:text" view color =
        (.adapter ⟨"text"⟩ ⟨.named "Texts", "bind"⟩ (.convert ⟨.named "Colors", "name"⟩)
          lowestPlatform, []) := by
  intro view string color declared round adapters conversions registry ctx
  have hne : Attribute.ofWritten "app:hint" ≠ .ofWritten "app:text" := by decide +kernel
  have hround : ∀ owner entry, round.Declares owner entry →
      ¬ entry.key.BearsOn (.ofWritten "app:text") := by
    intro owner entry hdeclares
    cases hdeclares with
    | adapter hdecl _ hentry =>
      rcases List.mem_pair.mp hdecl with rfl | rfl
      · cases hentry
        exact hne
      · cases hentry
    | group => exact not_false
    | renamed hdecl =>
      obtain rfl := List.mem_singleton.mp hdecl
      exact hne
    | conversion hdecl => cases hdecl
    | untaggable => exact not_false
  have htables : ∀ entry, registry.tables.Holds entry →
      entry.key.BearsOn (.ofWritten "app:text") → entry.owner ∉ round.owners := by
    have hentries : ∀ entry ∈ registry.tables.entries,
        entry.key.BearsOn (.ofWritten "app:text") → entry.owner ∉ round.owners := by
      decide +kernel
    exact fun entry hheld => hentries entry (Tables.mem_entries.mpr hheld)
  exact ⟨hround, htables, resolve_process_of_unrelated ctx registry hround htables view color,
    by decide +kernel⟩

end Context

end SetterResolution
