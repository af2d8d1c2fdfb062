import SetterResolution.Proofs.Registry.Reported

/-!
# What is left of a history of rounds

A registry that was empty at first is what its rounds have made of it. What is found under a key
then is exactly what some round declared there, if no later round declares the key anew and none
processes the owner again (`SetterResolution.Registry.lookup?_processAll_eq_some_iff`). A later
declaration of the key takes the place of an earlier one for good: when its own owner is processed
again without it, the earlier one does not come back, although its owner still declares it.

So it is the owner that declared the key *last* who decides. In a history without errors, an adapter
for one attribute that anyone currently declares is found if that owner still declares it, and it is
lost otherwise (`SetterResolution.Registry.find?_adapters_of_currentlyDeclares`). The loss is real:
three rounds of two types suffice
(`SetterResolution.Registry.currentlyDeclares_not_found_three_rounds`).
-/

namespace SetterResolution

/-! ### The last member of a list with a property -/

/-- If any member of a list has a property, one of them is the last. -/
theorem exists_last_of_exists {α : Type} {p : α → Prop} {l : List α} (h : ∃ a ∈ l, p a) :
    ∃ before a after, l = before ++ a :: after ∧ p a ∧ ∀ b ∈ after, ¬ p b := by
  induction l with
  | nil => obtain ⟨a, ha, -⟩ := h; cases ha
  | cons first rest ih =>
    by_cases hrest : ∃ a ∈ rest, p a
    · obtain ⟨before, a, after, rfl, ha, hafter⟩ := ih hrest
      exact ⟨first :: before, a, after, rfl, ha, hafter⟩
    · -- then it is the head that has the property
      obtain ⟨a, ha, hp⟩ := h
      rcases List.mem_cons.mp ha with rfl | ha
      · exact ⟨[], a, rest, rfl, hp, fun b hb hpb => hrest ⟨b, hb, hpb⟩⟩
      · exact absurd ⟨a, ha, hp⟩ hrest

/-- Where a list is split in two ways, one of the two members comes after the other or the splits
are one. -/
theorem append_cons_eq_append_cons {α : Type} {before after before' after' : List α} {a b : α}
    (h : before ++ a :: after = before' ++ b :: after') :
    b ∈ after ∨ a ∈ after' ∨ after = after' := by
  rcases List.append_eq_append_iff.mp h with ⟨between, -, heq⟩ | ⟨between, -, heq⟩
  · cases between with
    | nil => exact Or.inr (Or.inr (List.cons.inj heq).2)
    | cons c between =>
      rw [(List.cons.inj heq).2]
      exact Or.inl (by simp)
  · cases between with
    | nil => exact Or.inr (Or.inr (List.cons.inj heq).2.symm)
    | cons c between =>
      rw [(List.cons.inj heq).2]
      exact Or.inr (Or.inl (by simp))

namespace Registry

/-! ### What is found after a history -/

/-- Rounds that do not declare a key only take away what is found under it. -/
theorem lookup?_processAll_of_forall_eq_none {registry : Registry} {rounds : List Round}
    {key : EntryKey} {entry : Entry} (h : ∀ round ∈ rounds, round.lookup? key = none) :
    (registry.processAll rounds).tables.lookup? key = some entry ↔
      registry.tables.lookup? key = some entry ∧ ∀ round ∈ rounds, entry.owner ∉ round.owners := by
  induction rounds generalizing registry with
  | nil => simp [processAll]
  | cons round rest ih =>
    have hstep : (registry.processAll (round :: rest)) =
        (registry.process round).1.processAll rest := rfl
    rw [hstep, ih fun other hother => h other (List.mem_cons_of_mem _ hother), lookup?_process,
      h round List.mem_cons_self, Option.none_or, Option.filter_eq_some_iff, List.forall_mem_cons,
      decide_eq_true_iff, and_assoc]

/-- The last round that declares a key decides what is found under it, for as long as no later round
processes the owner. -/
theorem lookup?_processAll_of_last {registry : Registry} {earlier later : List Round}
    {round : Round} {key : EntryKey} {found entry : Entry} (hround : round.lookup? key = some found)
    (hlater : ∀ other ∈ later, other.lookup? key = none) :
    (registry.processAll (earlier ++ round :: later)).tables.lookup? key = some entry ↔
      found = entry ∧ ∀ other ∈ later, entry.owner ∉ other.owners := by
  have hstep : registry.processAll (earlier ++ round :: later) =
      ((registry.processAll earlier).process round).1.processAll later := processAll_append ..
  rw [hstep, lookup?_processAll_of_forall_eq_none hlater, lookup?_process, hround, Option.some_or,
    Option.some.injEq]

/-- **What is found after a history that began without entries** is what some round declared, if no
later round declares the key and none processes the owner. -/
theorem lookup?_processAll_eq_some_iff {rounds : List Round} {key : EntryKey} {entry : Entry} :
    (empty.processAll rounds).tables.lookup? key = some entry ↔
      ∃ earlier round later, rounds = earlier ++ round :: later ∧ round.lookup? key = some entry ∧
        ∀ other ∈ later, other.lookup? key = none ∧ entry.owner ∉ other.owners := by
  constructor
  · intro hfound
    by_cases hany : ∃ round ∈ rounds, round.lookup? key ≠ none
    · -- the last round that declares the key is the one that counts
      obtain ⟨earlier, round, later, rfl, hround, hlater⟩ := exists_last_of_exists hany
      obtain ⟨found, hround⟩ := Option.ne_none_iff_exists'.mp hround
      have hlater : ∀ other ∈ later, other.lookup? key = none := fun other hother =>
        Decidable.not_not.mp (hlater other hother)
      obtain ⟨rfl, howner⟩ := (lookup?_processAll_of_last hround hlater).mp hfound
      exact ⟨earlier, round, later, rfl, hround, fun other hother =>
        ⟨hlater other hother, howner other hother⟩⟩
    · have hnone : ∀ round ∈ rounds, round.lookup? key = none := fun round hround =>
        Decidable.not_not.mp fun hne => hany ⟨round, hround, hne⟩
      rw [lookup?_processAll_of_forall_eq_none hnone] at hfound
      have hempty : empty.tables.lookup? key = none := Tables.lookup?_empty key
      rw [hempty] at hfound
      cases hfound.1
  · rintro ⟨earlier, round, later, rfl, hround, hlater⟩
    exact (lookup?_processAll_of_last hround fun other hother => (hlater other hother).1).mpr
      ⟨rfl, fun other hother => (hlater other hother).2⟩

/-! ### Rounds without errors -/

/-- In a round without errors every adapter for one attribute is heard. -/
theorem lookup?_of_declares {registry : Registry} {round : Round} {owner : HostType}
    {attr : Attribute} {key : AdapterKey} {method : Method}
    (hquiet : (registry.process round).2.hasErrors = false)
    (h : round.Declares owner (.adapter attr key method)) :
    round.lookup? (.adapter attr key) = some (.adapter attr key method) := by
  cases h with
  | adapter hdecl _ hentry =>
    obtain ⟨target, htarget, hregisters⟩ := registers_of_process_quiet hquiet hdecl
    obtain ⟨hsingle, rfl⟩ := AdapterDecl.single?_eq_some_iff.mp hentry
    obtain rfl := Option.some.inj (hsingle.symm.trans htarget)
    exact Round.lookup?_of_registers hregisters

/-- Whether rounds that are processed one after another report no error. -/
def Quiet (registry : Registry) : List Round → Prop
  | [] => True
  | round :: rest =>
    (registry.process round).2.hasErrors = false ∧ Quiet (registry.process round).1 rest

theorem quiet_append_cons {registry : Registry} {earlier later : List Round} {round : Round}
    (h : registry.Quiet (earlier ++ round :: later)) :
    ((registry.processAll earlier).process round).2.hasErrors = false := by
  induction earlier generalizing registry with
  | nil => exact h.1
  | cons first rest ih => exact ih h.2

/-! ### Declarations that are in force -/

/-- The latest of the rounds that processes `owner` has a valid adapter of it for the attribute and
the key. -/
def CurrentlyDeclares (rounds : List Round) (owner : HostType) (attr : Attribute)
    (key : AdapterKey) : Prop :=
  ∃ earlier round later, rounds = earlier ++ round :: later ∧
    (∃ method, round.Declares owner (.adapter attr key method)) ∧
    ∀ other ∈ later, owner ∉ other.owners

/-- The latest of the rounds that has a valid adapter for the attribute and the key has one of
`owner`. -/
def LastDeclares (rounds : List Round) (owner : HostType) (attr : Attribute) (key : AdapterKey) :
    Prop :=
  ∃ earlier round later, rounds = earlier ++ round :: later ∧
    (∃ method, round.Declares owner (.adapter attr key method)) ∧
    ∀ other ∈ later, ∀ type method, ¬ other.Declares type (.adapter attr key method)

/-- In a round without errors, what a type declares under the key of an adapter for one attribute is
found until a later round processes the type, unless the key is declared anew. -/
theorem lookup?_processAll_of_lastDeclares {earlier later : List Round} {round : Round}
    {last : HostType} {attr : Attribute} {key : AdapterKey} {method : Method} (entry : Entry)
    (hquiet : ((empty.processAll earlier).process round).2.hasErrors = false)
    (hdeclares : round.Declares last (.adapter attr key method))
    (hlater : ∀ other ∈ later, ∀ type method, ¬ other.Declares type (.adapter attr key method)) :
    (empty.processAll (earlier ++ round :: later)).tables.lookup? (.adapter attr key) = some entry ↔
      .adapter attr key method = entry ∧ ∀ other ∈ later, last ∉ other.owners := by
  have hround := lookup?_of_declares hquiet hdeclares
  have hsilent : ∀ other ∈ later, other.lookup? (.adapter attr key) = none := by
    refine fun other hother => Round.lookup?_eq_none_of_forall_not_declares ?_
    intro type entry hentry hagrees
    have hkey := hagrees.of_adapter
    cases entry <;> cases hkey
    exact hlater other hother _ _ hentry
  rw [lookup?_processAll_of_last hround hsilent]
  refine and_congr_right ?_
  rintro rfl
  rw [hdeclares.owner_eq]

/-- **The owner that declared a key last decides.** In a history without errors, take an adapter for
one attribute that some type currently declares. There is an owner whose declaration for the same
attribute and key is the last of the history. If that owner still declares it, its method is found,
and otherwise nothing is. -/
theorem find?_adapters_of_currentlyDeclares {rounds : List Round} {owner : HostType}
    {attr : Attribute} {key : AdapterKey} (hquiet : empty.Quiet rounds)
    (h : CurrentlyDeclares rounds owner attr key) :
    ∃ last, LastDeclares rounds last attr key ∧
      (CurrentlyDeclares rounds last attr key → ∃ method, method.owner = last ∧
        (empty.processAll rounds).tables.adapters.find? attr key = some method) ∧
      (¬ CurrentlyDeclares rounds last attr key →
        (empty.processAll rounds).tables.adapters.find? attr key = none) := by
  have hany : ∃ round ∈ rounds, ∃ type method,
      round.Declares type (.adapter attr key method) := by
    obtain ⟨earlier, round, later, rfl, ⟨method, hdeclares⟩, -⟩ := h
    exact ⟨round, by simp, owner, method, hdeclares⟩
  obtain ⟨earlier, round, later, rfl, ⟨last, method, hdeclares⟩, hnone⟩ :=
    exists_last_of_exists hany
  have hlater : ∀ other ∈ later, ∀ type method,
      ¬ other.Declares type (.adapter attr key method) := fun other hother type method hdeclared =>
    hnone other hother ⟨type, method, hdeclared⟩
  have hfound (entry : Entry) :=
    lookup?_processAll_of_lastDeclares entry (quiet_append_cons hquiet) hdeclares hlater
  refine ⟨last, ⟨earlier, round, later, rfl, ⟨method, hdeclares⟩, hlater⟩, ?_, ?_⟩
  · rintro ⟨earlier', round', later', hrounds, ⟨method', hdeclares'⟩, hafter⟩
    -- the round that still declares the key is the last one that declares it
    have heq : later = later' := by
      rcases append_cons_eq_append_cons hrounds with hmem | hmem | heq
      · exact absurd hdeclares' (hlater round' hmem last method')
      · exact absurd hdeclares.mem_owners (hafter round hmem)
      · exact heq
    have hholds := Tables.holds_of_lookup? ((hfound _).mpr ⟨rfl, heq ▸ hafter⟩)
    exact ⟨method, hdeclares.owner_eq, hholds⟩
  · intro hdropped
    -- the last owner was processed again, or it would still declare the key
    cases hentry :
      (empty.processAll (earlier ++ round :: later)).tables.adapters.find? attr key with
    | none => rfl
    | some found =>
      have hkept := (hfound (.adapter attr key found)).mp
        (congrArg (Option.map (Entry.adapter attr key)) hentry)
      exact absurd ⟨earlier, round, later, rfl, ⟨method, hdeclares⟩, hkept.2⟩ hdropped

/-- Two types declare one key, each in a round of its own, and the first type is then processed
again: it declares the key last, and its method is found. -/
theorem find?_adapters_of_currentlyDeclares_in_turn :
    let key : AdapterKey := ⟨.named "View", .named "String"⟩
    let binds (owner written : String) : Round :=
      { adapters := [⟨[written], ⟨⟨.named owner, "bind", [key.view, key.value], none, true, true,
          lowestPlatform⟩, .ofElement owner⟩⟩] }
    let rounds := [binds "First" "app:hint", binds "Second" "app:hint", binds "First" "app:hint"]
    empty.Quiet rounds ∧ CurrentlyDeclares rounds (.named "Second") ⟨"hint"⟩ key ∧
      ∃ last, LastDeclares rounds last ⟨"hint"⟩ key ∧
        (CurrentlyDeclares rounds last ⟨"hint"⟩ key → ∃ method, method.owner = last ∧
          (empty.processAll rounds).tables.adapters.find? ⟨"hint"⟩ key = some method) ∧
        (¬ CurrentlyDeclares rounds last ⟨"hint"⟩ key →
          (empty.processAll rounds).tables.adapters.find? ⟨"hint"⟩ key = none) := by
  intro key binds rounds
  have hquiet : empty.Quiet rounds :=
    ⟨by decide +kernel, by decide +kernel, by decide +kernel, trivial⟩
  have hdeclares : (binds "Second" "app:hint").Declares (.named "Second")
      (.adapter ⟨"hint"⟩ key ⟨.named "Second", "bind"⟩) :=
    .adapter List.mem_cons_self rfl (by decide +kernel)
  have hcurrently : CurrentlyDeclares rounds (.named "Second") ⟨"hint"⟩ key :=
    ⟨[_], _, [_], rfl, ⟨_, hdeclares⟩, by decide +kernel⟩
  exact ⟨hquiet, hcurrently, find?_adapters_of_currentlyDeclares hquiet hcurrently⟩

/-- A declaration that is in force is lost: the second type takes the key over and drops it in its
next round. The first type still declares it, and nothing is found. -/
theorem currentlyDeclares_not_found_three_rounds :
    let key : AdapterKey := ⟨.named "View", .named "String"⟩
    let binds (owner written : String) : Round :=
      { adapters := [⟨[written], ⟨⟨.named owner, "bind", [key.view, key.value], none, true, true,
          lowestPlatform⟩, .ofElement owner⟩⟩] }
    let rounds := [binds "First" "app:hint", binds "Second" "app:hint", binds "Second" "app:text"]
    empty.Quiet rounds ∧ CurrentlyDeclares rounds (.named "First") ⟨"hint"⟩ key ∧
      ¬ ∃ method, (empty.processAll rounds).tables.adapters.find? ⟨"hint"⟩ key = some method ∧
        CurrentlyDeclares rounds method.owner ⟨"hint"⟩ key := by
  intro key binds rounds
  have hquiet : empty.Quiet rounds :=
    ⟨by decide +kernel, by decide +kernel, by decide +kernel, trivial⟩
  have hdeclares : (binds "First" "app:hint").Declares (.named "First")
      (.adapter ⟨"hint"⟩ key ⟨.named "First", "bind"⟩) :=
    .adapter List.mem_cons_self rfl (by decide +kernel)
  have hnone : (empty.processAll rounds).tables.adapters.find? ⟨"hint"⟩ key = none := by
    decide +kernel
  refine ⟨hquiet, ⟨[], _, [_, _], rfl, ⟨_, hdeclares⟩, by decide +kernel⟩, ?_⟩
  rintro ⟨method, hfound, -⟩
  rw [hnone] at hfound
  cases hfound

end Registry

end SetterResolution
