import SetterResolution.Proofs.Registry.OneTable
import SetterResolution.Snapshot.Basic

/-!
# Processing a round again

A build that processes the same declarations twice in a row has to end where it was after the first
time. This is not for the reason that the second time there is nothing to do: the entries of all
owners are cleared again, and every declaration is heard or refused again. And the first time the
registry may have had anything in it, stale entries of the owners, entries of others under the keys
that are declared, or a group adapter in another order of its attributes.

What a round does with the tables depends on what was there, so this is a matter of lookups: a round
keeps only what it would keep again. What it says and what it remembers do not depend on the tables
at all. Nothing counts as declared when it begins, and from there on each step is **blind** to the
tables (`SetterResolution.Registry.Blind`): whether an adapter is refused is asked of the remembered
keys alone. So the same is said about a round whatever the registry was
(`SetterResolution.Registry.process_blind`).

The main statement is `SetterResolution.Registry.process_process`.
-/

namespace SetterResolution.Registry

variable {α : Type} {step : Registry → α → Registry × Report}

/-! ### What is said about a round -/

/-- What is said about a declaration, and what is remembered after it, depend on what is remembered
before it. -/
def Blind (step : Registry → α → Registry × Report) : Prop :=
  ∀ {a b : Registry}, a.declared = b.declared → ∀ decl,
    (step a decl).1.declared = (step b decl).1.declared ∧ (step a decl).2 = (step b decl).2

/-- Steps that are blind to the tables are so when they are taken in turn. -/
theorem Blind.inTurn (h : Blind step) : Blind (inTurn step) := by
  intro a b hdeclared decls
  induction decls generalizing a b with
  | nil => exact ⟨hdeclared, rfl⟩
  | cons decl rest ih =>
    obtain ⟨hnext, hreport⟩ := h hdeclared decl
    obtain ⟨hrest, hreports⟩ := ih hnext
    refine ⟨hrest, ?_⟩
    simp only [Registry.inTurn, hreport, hreports]

theorem refuses_congr {a b : Registry} (h : a.declared = b.declared) (target : AdapterTarget) :
    a.refuses target = b.refuses target := by
  cases target <;> rw [refuses, refuses, h]

theorem declared_withTarget_congr {a b : Registry} (h : a.declared = b.declared) (method : Method)
    (target : AdapterTarget) :
    (a.withTarget method target).declared = (b.withTarget method target).declared := by
  cases target with
  | single attr key => rw [withTarget, withTarget, withAdapter, withAdapter, h]
  | group key => rw [withTarget, withTarget, withGroup, withGroup, h]

/-- Whether an adapter is refused, for what reason, and what is remembered of it otherwise, depend
on what was remembered before. -/
theorem registerAdapter_congr {a b : Registry} (h : a.declared = b.declared)
    (decl : AdapterDecl) :
    (a.registerAdapter decl).1.declared = (b.registerAdapter decl).1.declared ∧
      (a.registerAdapter decl).2 = (b.registerAdapter decl).2 := by
  rw [registerAdapter_eq, registerAdapter_eq]
  cases decl.validate with
  | error flaw => exact ⟨h, rfl⟩
  | ok shape =>
    dsimp only
    rw [refuses_congr h]
    split
    · exact ⟨h, rfl⟩
    · exact ⟨declared_withTarget_congr h _ _, rfl⟩

theorem blind_processAdapter : Blind processAdapter := by
  intro a b h decl
  obtain ⟨hdeclared, hresult⟩ := registerAdapter_congr h decl
  refine ⟨by rwa [processAdapter_fst, processAdapter_fst], ?_⟩
  rw [processAdapter_snd, processAdapter_snd, hresult]

theorem blind_processRenamed : Blind processRenamed :=
  fun hdeclared _ => ⟨hdeclared, rfl⟩

theorem blind_processConversion : Blind processConversion := by
  intro a b hdeclared decl
  rw [processConversion, processConversion, registerConversion, registerConversion]
  cases decl.validate with
  | error flaw => exact ⟨hdeclared, rfl⟩
  | ok types => exact ⟨hdeclared, rfl⟩

theorem blind_processUntaggable : Blind processUntaggable :=
  fun hdeclared _ => ⟨hdeclared, rfl⟩

/-- **What is said about a round**, and which keys are remembered after it, is the same whatever the
registry was before. -/
theorem process_blind (a b : Registry) (round : Round) :
    (a.process round).1.declared = (b.process round).1.declared ∧
      (a.process round).2 = (b.process round).2 := by
  have hbegin : (a.beginRound.clear round.owners).1.declared =
      (b.beginRound.clear round.owners).1.declared := rfl
  obtain ⟨hadapters, hadapters'⟩ := blind_processAdapter.inTurn hbegin round.adapters
  obtain ⟨hrenamed, hrenamed'⟩ := blind_processRenamed.inTurn hadapters round.renamed
  obtain ⟨hconversions, hconversions'⟩ := blind_processConversion.inTurn hrenamed round.conversions
  obtain ⟨huntaggable, huntaggable'⟩ := blind_processUntaggable.inTurn hconversions round.untaggable
  refine ⟨huntaggable, ?_⟩
  simp only [process, hadapters', hrenamed', hconversions', huntaggable']

/-! ### What is in the tables -/

/-- What a round finds after itself is what it would leave again. -/
theorem lookup?_process_process_self (registry : Registry) (round : Round) (key : EntryKey) :
    ((registry.process round).1.process round).1.tables.lookup? key =
      (registry.process round).1.tables.lookup? key := by
  rw [lookup?_process, lookup?_process]
  cases round.lookup? key with
  | some entry => rfl
  | none => simp only [Option.none_or, Option.filter_filter, Bool.and_self]

/-- **Processing a round again changes nothing.** When the same round is processed a second time, on
whatever the first time has left, the tables are the same, a group adapter being stored with the
same order of its attributes, and so are the bytes of their snapshot and the remembered keys; and
the same is said about the round, in the same order. -/
theorem process_process (registry : Registry) (round : Round) :
    let once := registry.process round
    let twice := once.1.process round
    twice.1.tables = once.1.tables ∧
      Snapshot.encode twice.1.tables = Snapshot.encode once.1.tables ∧
      twice.1.declared = once.1.declared ∧ twice.2 = once.2 := by
  intro once twice
  have htables : twice.1.tables = once.1.tables :=
    Tables.ext_lookup? (compact_process _ _) (compact_process _ _)
      (lookup?_process_process_self registry round)
  exact ⟨htables, congrArg Snapshot.encode htables, process_blind _ _ round⟩

end SetterResolution.Registry
