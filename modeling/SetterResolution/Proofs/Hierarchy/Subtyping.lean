import Mathlib.Data.List.TakeWhile
import SetterResolution.Hierarchy.Assignable
import SetterResolution.Proofs.Hierarchy.Ancestors

/-!
# Assignability is an order

A type without type arguments **conforms** to another one for one of four reasons
(`SetterResolution.Hierarchy.Conforms`): both are the same primitive, both are arrays and the one
element type conforms to the other, the one is an array and the other is the root, or both are
declared and the one inherits from the other. This is what a hierarchy answers when it is asked
whether a value may be assigned (`SetterResolution.Hierarchy.accepts_iff`), for all hierarchies, so
that what follows is shown by the reasons for which types conform.

Whether conforming is an order is a matter of the declared types. The supertypes that are declared
lead on from one to the next, and above the root there is nothing as long as it has no supertypes
itself; then what a type inherits from passes its own supertypes on. Where supertypes run in a
circle, all types of the circle conform to each other; where they do not, no two types do.

The main statement is `SetterResolution.Hierarchy.accepts_ordered`.
-/

namespace SetterResolution

/-! ### Types without type arguments -/

namespace HostType

theorem erasure_erasure (type : HostType) : type.erasure.erasure = type.erasure := by
  induction type with
  | prim kind => rfl
  | array element ih => rw [erasure, erasure, ih]
  | named name =>
    rw [erasure, erasure, String.toList_ofList, List.takeWhile_idem]

theorem isPrimitive_erasure (type : HostType) : type.erasure.isPrimitive = type.isPrimitive := by
  cases type <;> rfl

theorem isSome_element?_erasure (type : HostType) :
    type.erasure.element?.isSome = type.element?.isSome := by
  cases type <;> rfl

end HostType

namespace Hierarchy

variable (h : Hierarchy)

/-! ### What a type inherits from passes its supertypes on -/

/-- The root, if there is one, has no supertypes. -/
def RootOnTop : Prop :=
  ∀ root, h.root = some root → h.supertypes root = []

instance : Decidable h.RootOnTop :=
  inferInstanceAs (Decidable (∀ root ∈ h.root, h.supertypes root = []))

variable {h} {sub mid sup root : String}

theorem Inherits.refl (name : String) : h.Inherits name name :=
  Or.inl ⟨0, .here⟩

/-- From a root without supertypes nothing else is inherited. -/
theorem Inherits.eq_root (hroot : h.RootOnTop) (hr : h.root = some root)
    (hsup : h.Inherits root sup) : sup = root := by
  rcases hsup with ⟨n, hleads⟩ | hsup
  · exact hleads.eq_of_next_eq_nil (hroot root hr)
  · exact Option.some.inj (hsup.symm.trans hr)

theorem Inherits.trans (hroot : h.RootOnTop) (hmid : h.Inherits sub mid)
    (hsup : h.Inherits mid sup) : h.Inherits sub sup := by
  rcases hmid with ⟨m, hmid⟩ | hmid
  · rcases hsup with ⟨n, hsup⟩ | hsup
    · exact Or.inl ⟨m + n, hmid.trans hsup⟩
    · exact Or.inr hsup
  · rw [Inherits.eq_root hroot hmid hsup]
    exact Or.inr hmid

/-- Without circles no two types inherit from each other. -/
theorem Inherits.antisymm (hroot : h.RootOnTop) (hacyclic : h.Acyclic) (hsup : h.Inherits sub sup)
    (hsub : h.Inherits sup sub) : sub = sup := by
  rcases hsup with ⟨m, hup⟩ | hsup
  · rcases hsub with ⟨n, hdown⟩ | hsub
    · cases m with
      | zero => exact (Graph.Digraph.leads_zero_iff.mp hup).symm
      | succ m =>
        have hcircle := hup.trans hdown
        rw [Nat.add_right_comm] at hcircle
        exact absurd hcircle (hacyclic sub _)
    · exact (Inherits.eq_root hroot hsub (Or.inl ⟨m, hup⟩)).symm
  · exact Inherits.eq_root hroot hsup hsub

/-! ### Conforming -/

variable (h) in
/-- Values of the one type, which has no type arguments, may be used as values of the other one. -/
inductive Conforms : (source target : HostType) → Prop
  /-- A primitive conforms to itself. -/
  | prim (kind : Primitive) : Conforms (.prim kind) (.prim kind)
  /-- Arrays conform as their elements do. -/
  | array {source target : HostType} :
      Conforms source target → Conforms (.array source) (.array target)
  /-- All arrays conform to the root. -/
  | root {element : HostType} {root : String} :
      h.root = some root → Conforms (.array element) (.named root)
  /-- A declared type conforms to what it inherits from. -/
  | named {sub sup : String} : h.Inherits sub sup → Conforms (.named sub) (.named sup)

theorem acceptsErased_named_iff :
    h.acceptsErased (.named sup) (.named sub) ↔ h.Inherits sub sup := by
  rw [acceptsErased, ← mem_cons_ancestors_iff, List.mem_cons]
  simp only [Bool.or_eq_true, beq_iff_eq, List.contains_iff_mem]
  constructor
  · rintro ((rfl | hroot) | hmem)
    · exact Or.inl rfl
    · exact List.mem_cons.mp (mem_cons_ancestors_iff.mpr (Or.inr hroot))
    · exact Or.inr hmem
  · rintro (rfl | hmem)
    · exact Or.inl (Or.inl rfl)
    · exact Or.inr hmem

theorem acceptsErased_iff {target source : HostType} :
    h.acceptsErased target source ↔ h.Conforms source target := by
  constructor
  · intro haccepts
    induction target generalizing source with
    | prim kind =>
      cases source with
      | prim other =>
        obtain rfl : kind = other := by simpa [acceptsErased] using haccepts
        exact .prim kind
      | array | named => cases haccepts
    | array target ih =>
      cases source with
      | array source => exact .array (ih haccepts)
      | prim | named => cases haccepts
    | named sup =>
      cases source with
      | prim => cases haccepts
      | array element => exact .root (by simpa [acceptsErased] using haccepts)
      | named sub => exact .named (acceptsErased_named_iff.mp haccepts)
  · intro hconforms
    induction hconforms with
    | prim kind => simp [acceptsErased]
    | array _ ih => exact ih
    | root hroot => simp [acceptsErased, hroot]
    | named hsup => exact acceptsErased_named_iff.mpr hsup

/-- **A type accepts** another one if, without type arguments, the other one conforms to it. -/
theorem accepts_iff {target source : HostType} :
    h.accepts target source ↔ h.Conforms source.erasure target.erasure :=
  acceptsErased_iff

variable {a b c : HostType}

variable (h) in
theorem Conforms.refl (type : HostType) : h.Conforms type type := by
  induction type with
  | prim kind => exact .prim kind
  | array element ih => exact .array ih
  | named name => exact .named (.refl name)

theorem Conforms.trans (hroot : h.RootOnTop) (hab : h.Conforms a b) (hbc : h.Conforms b c) :
    h.Conforms a c := by
  induction hab generalizing c with
  | prim kind => exact hbc
  | array _ ih =>
    cases hbc with
    | array hbc => exact .array (ih hbc)
    | root hr => exact .root hr
  | root hr =>
    -- nothing but the root itself is above the root
    cases hbc with
    | named hsup => exact Inherits.eq_root hroot hr hsup ▸ .root hr
  | named hmid =>
    cases hbc with
    | named hsup => exact .named (hmid.trans hroot hsup)

theorem Conforms.antisymm (hroot : h.RootOnTop) (hacyclic : h.Acyclic) (hab : h.Conforms a b)
    (hba : h.Conforms b a) : a = b := by
  induction hab with
  | prim kind => rfl
  | array _ ih =>
    cases hba with
    | array hba => rw [ih hba]
  | root hr => cases hba
  | named hsup =>
    cases hba with
    | named hsub => rw [hsup.antisymm hroot hacyclic hsub]

/-- Only arrays conform to an array type. -/
theorem Conforms.isSome_element? (hab : h.Conforms a b) (hb : b.element?.isSome) :
    a.element?.isSome := by
  cases hab with
  | array => rfl
  | prim | root | named => cases hb

/-- A type accepts what is left of it without type arguments. -/
theorem accepts_erasure (h : Hierarchy) (type : HostType) : h.accepts type type.erasure := by
  rw [accepts_iff, HostType.erasure_erasure]
  exact .refl h _

/-- **Assignability is an order.** Every type accepts itself, and if the root has no supertypes, a
type accepts what is accepted by a type that it accepts, circles or not. Without circles of
supertypes, two types accept each other just if they differ in their type arguments at most. -/
theorem accepts_ordered (h : Hierarchy) (hroot : h.RootOnTop) :
    (∀ type, h.accepts type type) ∧
    (∀ wide middle narrow, h.accepts wide middle → h.accepts middle narrow →
      h.accepts wide narrow) ∧
    (h.Acyclic → ∀ a b, (h.accepts a b ∧ h.accepts b a) ↔ a.erasure = b.erasure) := by
  simp only [accepts_iff]
  refine ⟨fun type => .refl h _, fun wide middle narrow hmid hnarrow => hnarrow.trans hroot hmid,
    fun hacyclic a b => ⟨fun hboth => ?_, fun heq => ?_⟩⟩
  · exact hboth.2.antisymm hroot hacyclic hboth.1
  · rw [heq]
    exact ⟨.refl h _, .refl h _⟩

/-- Two classes that extend each other, one of which implements an interface; and the standard
hierarchy, which has no circles. -/
theorem accepts_ordered_circle :
    let h := Hierarchy.standard.declareClass "Node" (some "Cell")
      |>.declareClass "Cell" (some "Node") |>.declareImplements "Cell" "Linked"
    let nodes : HostType := .array (.named "Node<T>")
    let cells : HostType := .array (.named "Cell")
    let linked : HostType := .array (.named "Linked")
    h.RootOnTop ∧ h.accepts linked cells ∧ h.accepts cells nodes ∧ h.accepts linked nodes ∧
      h.accepts nodes cells ∧ nodes.erasure ≠ cells.erasure ∧
      standard.RootOnTop ∧ standard.Acyclic ∧
      ∀ a b, (standard.accepts a b ∧ standard.accepts b a) ↔ a.erasure = b.erasure := by
  intro h nodes cells linked
  have hroot : h.RootOnTop := by decide +kernel
  have hstandard : standard.RootOnTop := by decide +kernel
  have hrank : ∀ sub ∈ standard.types.keys, ∀ sup ∈ standard.supertypes sub,
      standard.chainLength [] sup < standard.chainLength [] sub := by decide +kernel
  have hlinked : h.accepts linked cells := by decide +kernel
  have hcells : h.accepts cells nodes := by decide +kernel
  have hacyclic := acyclic_of_rank _ hrank
  exact ⟨hroot, hlinked, hcells, (accepts_ordered h hroot).2.1 _ _ _ hlinked hcells,
    by decide +kernel, by decide +kernel, hstandard, hacyclic,
    (accepts_ordered standard hstandard).2.2 hacyclic⟩

/-- A root with a supertype accepts arrays that its supertype does not accept. -/
example :
    let h := Hierarchy.standard.declareClass "Object" (some "Any")
    let numbers : HostType := .array (.prim .int)
    h.accepts (.named "Any") (.named "Object") ∧ h.accepts (.named "Object") numbers ∧
      ¬ h.accepts (.named "Any") numbers := by
  decide +kernel

end Hierarchy

end SetterResolution
