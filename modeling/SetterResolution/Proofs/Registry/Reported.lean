import SetterResolution.Proofs.Registry.OneTable

/-!
# What is said about a round

Nothing that is declared in a round is dropped in silence. A round reports an error for every
adapter that is malformed or declared for what an earlier valid one is declared for, and for every
malformed conversion; a note for every other conversion; and a warning for every attribute whose
stored name is not the one that was written. Each diagnostic has the position of its declaration,
and they come in the order in which the declarations are processed.

The registry does not look back at the declarations. It refuses an adapter by the keys that it
remembers, and a refused adapter leaves no key behind. What is compared with here are all **earlier
valid adapters of the round**, refused or not. The two come to the same since the equality of keys
is transitive: what has the key of a refused adapter has the key of the one that it was refused for.
This is the invariant `SetterResolution.Registry.Recalls`; a step keeps it
(`SetterResolution.Registry.Recalls.after_processAdapter`), and the report on a list of adapters
follows (`SetterResolution.Registry.Recalls.report_inTurn`).

For all of this it does not matter whether an adapter is for one attribute or for a group, so that
what it is declared for is one type, `SetterResolution.AdapterTarget`.

The main statement is `SetterResolution.Registry.report_process`.
-/

namespace SetterResolution

/-! ### Ignored namespaces -/

namespace Attribute

theorem length_afterColon_lt {text : List Char} (h : ':' ∈ text) :
    (afterColon text).length < text.length := by
  have hle := (List.dropWhile_suffix (· != ':') (l := text)).length_le
  have hpos := List.length_pos_of_mem h
  rw [afterColon, if_pos h, List.length_drop]
  omega

/-- **A namespace is ignored exactly if it is missing from the stored name.** The test looks for a
colon and the kept namespace on its own, without storing the name. -/
theorem ignoresNamespace_iff {written : String} :
    ignoresNamespace written ↔ (ofWritten written).name ≠ written := by
  rw [ignoresNamespace, ofWritten]
  by_cases hkept : keptNamespace.isPrefixOf written.toList
  · simp [hkept]
  · rw [if_neg hkept]
    by_cases hcolon : ':' ∈ written.toList
    · have hne : String.ofList (afterColon written.toList) ≠ written := by
        intro heq
        have hlt := length_afterColon_lt hcolon
        rw [← String.toList_ofList (l := afterColon written.toList), heq] at hlt
        exact Nat.lt_irrefl _ hlt
      simp [hkept, hcolon, hne]
    · simp [hcolon, afterColon]

end Attribute

namespace Registry

/-- The warning that the namespace of an attribute is ignored. -/
def namespaceIgnored (position : Position) (written : String) : Diagnostic :=
  ⟨.warning, "Application namespace for attribute " ++ written ++ " will be ignored.",
    some position⟩

/-- There is a warning for each attribute that is stored under another name. -/
theorem namespaceWarning_eq (position : Position) (written : String) :
    namespaceWarning position written =
      if (Attribute.ofWritten written).name ≠ written then [namespaceIgnored position written]
      else [] := by
  rw [namespaceWarning]
  simp only [Attribute.ignoresNamespace_iff]
  rfl

end Registry

/-! ### What adapters are declared for -/

namespace AdapterTarget

/-- Whether two adapters are declared for the same: for one attribute with the same types, or for
groups whose keys agree. -/
def same : AdapterTarget → AdapterTarget → Bool
  | single attr key, single attr' key' => attr = attr' ∧ key = key'
  | group key, group key' => key.agrees key'
  | _, _ => false

/-- The entry that is asked for. -/
def entry (method : Method) : AdapterTarget → Entry
  | single attr key => .adapter attr key method
  | group key => .group key method

theorem same_trans {a b c : AdapterTarget} (hab : a.same b) (hbc : b.same c) : a.same c := by
  cases a <;> cases b <;> cases c <;> simp_all [same, GroupKey.agrees]

end AdapterTarget

namespace AdapterDecl

/-- Whether an adapter is valid and declared for the same. -/
def isFor (target : AdapterTarget) (decl : AdapterDecl) : Bool :=
  decl.target?.any (·.same target)

/-- Why an adapter is rejected when the `earlier` ones come before it: it has a flaw, or a valid one
of them is declared for the same. -/
def rejection? (earlier : List AdapterDecl) (decl : AdapterDecl) : Option RegistrationError :=
  match decl.validate with
  | .error flaw => some (.malformed decl.method.position flaw)
  | .ok shape =>
    if earlier.any (isFor shape.target) then
      some (Registry.duplicate decl.method.signature.method shape.target)
    else none

theorem rejection?_eq_none_iff {earlier : List AdapterDecl} {decl : AdapterDecl} :
    decl.rejection? earlier = none ↔
      ∃ target, decl.target? = some target ∧ earlier.any (isFor target) = false := by
  rw [rejection?, target?]
  cases decl.validate <;> simp

theorem isFor_of_same {decl : AdapterDecl} {target other : AdapterTarget} (h : decl.isFor target)
    (hsame : target.same other) : decl.isFor other := by
  rw [isFor] at h ⊢
  cases htarget : decl.target? with
  | none => rw [htarget] at h; cases h
  | some found =>
    rw [htarget] at h
    exact AdapterTarget.same_trans h hsame

end AdapterDecl

/-- Why a conversion is rejected. -/
def ConversionDecl.rejection? (decl : ConversionDecl) : Option RegistrationError :=
  match decl.validate with
  | .error flaw => some (.malformed decl.method.position flaw)
  | .ok _ => none

namespace Registry

/-- The note that a conversion was added. -/
def conversionAdded (decl : ConversionDecl) : Diagnostic :=
  ⟨.info, "added conversion: " ++ decl.method.signature.name, some decl.method.position⟩

/-! ### Reports of declarations taken in turn -/

section InTurn

variable {α : Type} (step : Registry → α → Registry × Report)

theorem inTurn_cons_snd (registry : Registry) (decl : α) (rest : List α) :
    (inTurn step registry (decl :: rest)).2 =
      (step registry decl).2 ++ (inTurn step (step registry decl).1 rest).2 := rfl

/-- What is said about declarations one by one, if it does not depend on the registry. -/
theorem inTurn_snd (said : α → Report) (h : ∀ registry decl, (step registry decl).2 = said decl)
    (registry : Registry) (decls : List α) :
    (inTurn step registry decls).2 = decls.flatMap said := by
  induction decls generalizing registry with
  | nil => rfl
  | cons decl rest ih => rw [inTurn_cons_snd, h, ih, List.flatMap_cons]

end InTurn

/-! ### What is remembered of earlier adapters -/

theorem refuses_withTarget (registry : Registry) (method : Method) (target other : AdapterTarget) :
    (registry.withTarget method target).refuses other =
      (target.same other || registry.refuses other) := by
  cases target <;> cases other
  · simp [refuses, withTarget, mem_declared_withAdapter, AdapterTarget.same, eq_comm]
  · rfl
  · rfl
  · exact List.any_cons (f := fun stored : GroupKey => stored.agrees _)

/-- The registry refuses what the `earlier` adapters that are valid are declared for. -/
def Recalls (registry : Registry) (earlier : List AdapterDecl) : Prop :=
  ∀ target, registry.refuses target = earlier.any (AdapterDecl.isFor target)

/-- What is said about an adapter that comes after the `earlier` ones. -/
def adapterReport (earlier : List AdapterDecl) (decl : AdapterDecl) : Report :=
  decl.attrs.flatMap (namespaceWarning decl.method.position) ++
    ((decl.rejection? earlier).map (·.diagnostic decl.method.position)).toList

namespace Recalls

variable {registry : Registry} {earlier : List AdapterDecl}

/-- In a fresh round nothing is refused. -/
theorem fresh (tables : Tables) : (ofTables tables).Recalls [] := by
  rintro (⟨attr, key⟩ | key) <;> rfl

/-- **One adapter is reported by what came before it.** -/
theorem report_processAdapter (h : registry.Recalls earlier) (decl : AdapterDecl) :
    (processAdapter registry decl).2 = adapterReport earlier decl := by
  rw [processAdapter_snd, adapterReport, AdapterDecl.rejection?, registerAdapter_eq]
  cases decl.validate with
  | error flaw => rfl
  | ok shape =>
    dsimp only
    rw [h]
    cases earlier.any (AdapterDecl.isFor shape.target) <;> rfl

/-- **One adapter is recalled**, also when it is refused. -/
theorem after_processAdapter (h : registry.Recalls earlier) (decl : AdapterDecl) :
    (processAdapter registry decl).1.Recalls (earlier ++ [decl]) := by
  intro target
  rw [List.any_append, List.any_cons, List.any_nil, Bool.or_false, ← h, AdapterDecl.isFor,
    processAdapter_fst_of_target?]
  cases decl.target? with
  | none => exact (Bool.or_false _).symm
  | some found =>
    dsimp only [Option.any_some]
    by_cases hrefused : registry.refuses found
    · -- what has the key of a refused adapter has that of the one it was refused for
      rw [if_pos hrefused]
      refine (Bool.or_eq_left_iff_imp.mpr fun hsame => ?_).symm
      rw [h] at hrefused ⊢
      obtain ⟨other, hother, hfor⟩ := List.any_eq_true.mp hrefused
      exact List.any_eq_true.mpr ⟨other, hother, AdapterDecl.isFor_of_same hfor hsame⟩
    · rw [if_neg hrefused, Bool.or_comm]
      exact refuses_withTarget ..

/-- **Adapters are reported one after another**, each by all that came before it. -/
theorem report_inTurn (h : registry.Recalls earlier) (decls : List AdapterDecl) :
    (inTurn processAdapter registry decls).2 =
      decls.zipIdx.flatMap fun (decl, i) => adapterReport (earlier ++ decls.take i) decl := by
  induction decls generalizing registry earlier with
  | nil => rfl
  | cons decl rest ih =>
    -- what comes after the first adapter has it among the earlier ones
    rw [inTurn_cons_snd, h.report_processAdapter, ih (h.after_processAdapter decl),
      List.zipIdx_cons', List.flatMap_cons, List.flatMap_map]
    simp only [List.take_zero, List.append_nil, Prod.map, id, List.take_succ_cons,
      List.append_assoc, List.singleton_append]

end Recalls

/-! ### The whole report -/

/-- What is said about a renamed setter. -/
def renamedReport (decl : RenamedDecl) : Report :=
  namespaceWarning decl.position decl.attr

/-- What is said about a conversion. -/
def conversionReport (decl : ConversionDecl) : Report :=
  match decl.rejection? with
  | some error => [error.diagnostic decl.method.position]
  | none => [conversionAdded decl]

theorem processConversion_snd (registry : Registry) (decl : ConversionDecl) :
    (processConversion registry decl).2 = conversionReport decl := by
  rw [processConversion, registerConversion, conversionReport, ConversionDecl.rejection?]
  cases decl.validate <;> rfl

/-- **What is said about a round**: something about each adapter, renamed setter and conversion, in
this order. -/
theorem process_snd (registry : Registry) (round : Round) :
    (registry.process round).2 =
      (round.adapters.zipIdx.flatMap fun (decl, i) =>
        adapterReport (round.adapters.take i) decl) ++
      round.renamed.flatMap renamedReport ++ round.conversions.flatMap conversionReport := by
  have hadapters := (Recalls.fresh (registry.tables.clear round.owners).1).report_inTurn
    round.adapters
  have hrenamed := inTurn_snd processRenamed renamedReport fun _ _ => rfl
  have hconversions := inTurn_snd processConversion conversionReport processConversion_snd
  have huntaggable := inTurn_snd processUntaggable (fun _ => []) fun _ _ => rfl
  have hnil : round.untaggable.flatMap (fun _ => ([] : Report)) = [] := by simp
  calc (registry.process round).2
      = (inTurn processAdapter (ofTables (registry.tables.clear round.owners).1)
            round.adapters).2 ++
          (inTurn processRenamed _ round.renamed).2 ++
          (inTurn processConversion _ round.conversions).2 ++
          (inTurn processUntaggable _ round.untaggable).2 := rfl
    _ = _ := by
        rw [hadapters, hrenamed, hconversions, huntaggable, hnil, List.append_nil]
        rfl

/-! ### The report by severity -/

theorem flatMap_ite {α β : Type} (p : α → Prop) [DecidablePred p] (f : α → β) (l : List α) :
    (l.flatMap fun a => if p a then [f a] else []) = (l.filter p).map f := by
  induction l with
  | nil => rfl
  | cons a l ih =>
    rw [List.flatMap_cons, ih]
    by_cases h : p a <;> simp [h]

theorem filter_namespaceWarning (position : Position) (written : String) (severity : Severity) :
    (namespaceWarning position written).filter (·.severity = severity) =
      if severity = .warning then namespaceWarning position written else [] := by
  rw [namespaceWarning]
  cases severity <;> split <;> rfl

/-- Of what is said about an adapter, the errors are why it is rejected, and the warnings are about
its attributes. -/
theorem filter_adapterReport (earlier : List AdapterDecl) (decl : AdapterDecl)
    (severity : Severity) :
    (adapterReport earlier decl).filter (·.severity = severity) =
      match severity with
      | .error => ((decl.rejection? earlier).map (·.diagnostic decl.method.position)).toList
      | .warning => decl.attrs.flatMap (namespaceWarning decl.method.position)
      | .info => [] := by
  rw [adapterReport, List.filter_append, List.filter_flatMap]
  simp only [filter_namespaceWarning]
  cases severity <;> cases decl.rejection? earlier <;> simp [RegistrationError.diagnostic]

/-- A conversion is either rejected with an error or added with a note. -/
theorem filter_conversionReport (decl : ConversionDecl) (severity : Severity) :
    (conversionReport decl).filter (·.severity = severity) =
      match severity with
      | .error => (decl.rejection?.map (·.diagnostic decl.method.position)).toList
      | .warning => []
      | .info => if decl.rejection? = none then [conversionAdded decl] else [] := by
  rw [conversionReport]
  cases decl.rejection? <;> cases severity <;> rfl

variable (registry : Registry) (round : Round)

/-- The report of one severity, part by part. -/
theorem filter_process_snd (severity : Severity) :
    (registry.process round).2.filter (·.severity = severity) =
      (round.adapters.zipIdx.flatMap fun (decl, i) =>
        (adapterReport (round.adapters.take i) decl).filter (·.severity = severity)) ++
      (round.renamed.flatMap fun decl =>
        if severity = .warning then namespaceWarning decl.position decl.attr else []) ++
      round.conversions.flatMap fun decl =>
        (conversionReport decl).filter (·.severity = severity) := by
  rw [process_snd]
  simp only [List.filter_append, List.filter_flatMap, renamedReport, filter_namespaceWarning]

/-- **The errors of a round**: those about adapters and then those about conversions. -/
theorem errors_process :
    (registry.process round).2.filter (·.severity = .error) =
      (round.adapters.zipIdx.filterMap fun (decl, i) =>
        (decl.rejection? (round.adapters.take i)).map (·.diagnostic decl.method.position)) ++
      round.conversions.filterMap fun decl =>
        decl.rejection?.map (·.diagnostic decl.method.position) := by
  rw [filter_process_snd, List.filterMap_eq_flatMap_toList, List.filterMap_eq_flatMap_toList]
  simp only [filter_adapterReport, filter_conversionReport]
  rw [List.flatMap_eq_nil_iff.mpr fun _ _ => if_neg (by decide), List.append_nil]

/-- **The notes of a round** are about the conversions that are added. -/
theorem infos_process :
    (registry.process round).2.filter (·.severity = .info) =
      (round.conversions.filter (·.rejection? = none)).map conversionAdded := by
  rw [filter_process_snd, ← flatMap_ite]
  simp only [filter_adapterReport, filter_conversionReport]
  rw [List.flatMap_eq_nil_iff.mpr fun _ _ => rfl,
    List.flatMap_eq_nil_iff.mpr fun _ _ => if_neg (by decide), List.nil_append]
  rfl

/-- **The warnings of a round** are about the attributes that are stored under another name, those
of adapters and then those of renamed setters. -/
theorem warnings_process :
    (registry.process round).2.filter (·.severity = .warning) =
      (round.adapters.flatMap fun decl =>
        (decl.attrs.filter fun written => (Attribute.ofWritten written).name ≠ written).map
          (namespaceIgnored decl.method.position)) ++
      (round.renamed.filter fun decl => (Attribute.ofWritten decl.attr).name ≠ decl.attr).map
        fun decl => namespaceIgnored decl.position decl.attr := by
  have hadapters : (round.adapters.zipIdx.flatMap fun (decl, i) =>
        (adapterReport (round.adapters.take i) decl).filter (·.severity = .warning)) =
      round.adapters.flatMap fun decl =>
        decl.attrs.flatMap (namespaceWarning decl.method.position) := by
    simp only [filter_adapterReport]
    conv_rhs => rw [← List.zipIdx_map_fst 0 round.adapters, List.flatMap_map]
  rw [filter_process_snd, hadapters]
  simp only [filter_conversionReport, ← flatMap_ite, ← namespaceWarning_eq]
  rw [List.flatMap_eq_nil_iff.mpr fun _ _ => rfl, List.append_nil]
  rfl

/-! ### Rounds without errors -/

/-- **The first valid adapter for a target is registered** by the round. -/
theorem registers_of_first {round : Round} {before after : List AdapterDecl} {decl : AdapterDecl}
    {target : AdapterTarget} (hround : round.adapters = before ++ decl :: after)
    (htarget : decl.target? = some target)
    (hfirst : before.any (AdapterDecl.isFor target) = false) :
    round.Registers (target.entry decl.method.signature.method) := by
  have hnone : ∀ other ∈ before, ∀ found, other.target? = some found → ¬found.same target := by
    intro other hother found hfound hsame
    have hfor := List.any_eq_false.mp hfirst other hother
    rw [AdapterDecl.isFor, hfound] at hfor
    exact hfor hsame
  cases target with
  | single attr key =>
    have hentry := AdapterDecl.single?_eq_some_iff.mpr ⟨htarget, rfl⟩
    have hbefore : (before.filterMap AdapterDecl.single?).lookup (attr, key) = none := by
      rw [List.lookup_eq_none_iff]
      rintro ⟨⟨attr', key'⟩, method⟩ hmem
      obtain ⟨other, hother, hsingle⟩ := List.mem_filterMap.mp hmem
      have hne := hnone other hother _ (AdapterDecl.single?_eq_some_iff.mp hsingle).1
      rw [bne_iff_ne]
      rintro ⟨⟩
      exact hne (decide_eq_true ⟨rfl, rfl⟩)
    rw [AdapterTarget.entry, Round.Registers, Round.adapterEntries, hround, List.filterMap_append,
      List.filterMap_cons, hentry, List.lookup_append, hbefore, Option.none_or]
    exact List.lookup_cons_self
  | group key =>
    have hentry := AdapterDecl.group?_eq_some_iff_target?.mpr ⟨htarget, rfl⟩
    have hbefore : (before.filterMap AdapterDecl.group?).find? (compare ·.1 key == .eq) = none := by
      rw [List.find?_eq_none]
      rintro ⟨stored, method⟩ hmem
      obtain ⟨other, hother, hgroup⟩ := List.mem_filterMap.mp hmem
      have hne := hnone other hother _ (AdapterDecl.group?_eq_some_iff_target?.mp hgroup).1
      -- the table compares group keys, and a duplicate agrees
      rw [beq_iff_eq, ← GroupKey.agrees_iff_compare_eq (AdapterDecl.nodup_of_group? hgroup)
        (AdapterDecl.nodup_of_group? hentry)]
      exact hne
    rw [AdapterTarget.entry, Round.Registers, Round.groupEntries, hround, List.filterMap_append,
      List.filterMap_cons, hentry, List.find?_append, hbefore, Option.none_or]
    exact List.find?_cons_of_pos (beq_iff_eq.mpr Std.ReflCmp.compare_self)

/-- In a round without errors no adapter is rejected. -/
theorem rejection?_of_process_quiet {registry : Registry} {round : Round}
    {before after : List AdapterDecl} {decl : AdapterDecl}
    (hquiet : (registry.process round).2.hasErrors = false)
    (hround : round.adapters = before ++ decl :: after) : decl.rejection? before = none := by
  have herrors := errors_process registry round
  rw [List.filter_eq_nil_iff.mpr (List.any_eq_false.mp hquiet)] at herrors
  have hadapters := (List.append_eq_nil_iff.mp herrors.symm).1
  have hmem : (decl, before.length) ∈ round.adapters.zipIdx :=
    List.mk_mem_zipIdx_iff_getElem?.mpr (by simp [hround])
  have hnone := Option.map_eq_none_iff.mp (List.filterMap_eq_nil_iff.mp hadapters _ hmem)
  rwa [hround, List.take_left] at hnone

/-- **In a round without errors every adapter is registered** for what it is declared for. -/
theorem registers_of_process_quiet {registry : Registry} {round : Round} {decl : AdapterDecl}
    (hquiet : (registry.process round).2.hasErrors = false) (hdecl : decl ∈ round.adapters) :
    ∃ target, decl.target? = some target ∧
      round.Registers (target.entry decl.method.signature.method) := by
  obtain ⟨before, rest, hround⟩ := List.append_of_mem hdecl
  obtain ⟨target, htarget, hfirst⟩ :=
    AdapterDecl.rejection?_eq_none_iff.mp (rejection?_of_process_quiet hquiet hround)
  exact ⟨target, htarget, registers_of_first hround htarget hfirst⟩

/-- **Nothing is dropped in silence.** The errors are, in order, those about the adapters that are
malformed or declared for what an earlier valid adapter of the round is declared for, and those
about the malformed conversions. There is a note for each other conversion, and a warning for each
attribute of an adapter, valid or not, or of a renamed setter that is stored under another name than
the one that was written. So without an error every adapter is valid, and afterwards its own method
is found under its key. -/
theorem report_process (registry : Registry) (round : Round) :
    let report := (registry.process round).2
    let after := (registry.process round).1.tables
    report.filter (·.severity = .error) =
      (round.adapters.zipIdx.filterMap fun (decl, i) =>
        (decl.rejection? (round.adapters.take i)).map (·.diagnostic decl.method.position)) ++
      (round.conversions.filterMap fun decl =>
        decl.rejection?.map (·.diagnostic decl.method.position)) ∧
    report.filter (·.severity = .info) =
      (round.conversions.filter (·.rejection? = none)).map conversionAdded ∧
    report.filter (·.severity = .warning) =
      (round.adapters.flatMap fun decl =>
        (decl.attrs.filter fun written => (Attribute.ofWritten written).name ≠ written).map
          (namespaceIgnored decl.method.position)) ++
      ((round.renamed.filter fun decl => (Attribute.ofWritten decl.attr).name ≠ decl.attr).map
        fun decl => namespaceIgnored decl.position decl.attr) ∧
    (report.hasErrors = false → ∀ decl ∈ round.adapters, ∃ target, decl.target? = some target ∧
      after.Holds (target.entry decl.method.signature.method)) := by
  refine ⟨errors_process registry round, infos_process registry round,
    warnings_process registry round, fun hquiet decl hdecl => ?_⟩
  obtain ⟨target, htarget, hregisters⟩ := registers_of_process_quiet hquiet hdecl
  exact ⟨target, htarget, holds_of_registers registry hregisters⟩

/-- An adapter for one attribute, whose namespace is ignored, and one for a group are declared
without an error, and the group is found under its own key. -/
theorem report_process_two_adapters :
    let binds (name : String) (attrs : List String) (values : List HostType) : AdapterDecl :=
      ⟨attrs, ⟨⟨.named "Adapters", name, .named "View" :: values, none, true, true,
        lowestPlatform⟩, .ofElement name⟩⟩
    let single := binds "setSource" ["app:src"] [.named "Uri"]
    let group := binds "setSourceSized" ["src", "size"] [.named "Uri", .prim .int]
    let round : Round := { adapters := [single, group] }
    (empty.process round).2.hasErrors = false ∧
      (empty.process round).2.filter (·.severity = .warning) =
        [namespaceIgnored (.ofElement "setSource") "app:src"] ∧
      ∃ target, group.target? = some target ∧ (empty.process round).1.tables.Holds
        (target.entry ⟨.named "Adapters", "setSourceSized"⟩) := by
  intro binds single group round
  have hquiet : (empty.process round).2.hasErrors = false := by decide +kernel
  obtain ⟨-, -, hwarnings, hheard⟩ := report_process empty round
  exact ⟨hquiet, hwarnings.trans (by decide +kernel),
    hheard hquiet group (List.mem_cons_of_mem _ List.mem_cons_self)⟩

end Registry

end SetterResolution
