import SetterResolution.Proofs.Graph.Discovery
import SetterResolution.Proofs.Hierarchy.Depth
import SetterResolution.Proofs.Resolution.Setter

/-!
# The names that are tried on a view

An attribute may be renamed on several types, and more than one of them may accept a view. The
entries that apply (`SetterResolution.Context.Applies`) compete, and only one of them is heard: that
of the deepest target, whatever the targets have to do with each other. Depth is a number, and it
compares classes with interfaces and types that are not related at all. What makes it the right
measure is that it grows from a type to each of its proper subtypes
(`SetterResolution.Hierarchy.ProperSupertype.depth_lt`), so that an entry which is heard has no
other one below its target. This holds for targets that are not arrays, and none that accepts a
declared view is one.

The name that is heard comes first, and the two names that every attribute has follow unless they
are the same.

The main statement is `SetterResolution.Context.setterNames_most_specific`.
-/

namespace SetterResolution

/-! ### Proper supertypes -/

namespace Hierarchy

variable {h : Hierarchy} {wide narrow target : HostType}

/-- One type is a proper supertype of another one: it accepts the other one, and the two differ in
more than type arguments. -/
def ProperSupertype (h : Hierarchy) (wide narrow : HostType) : Prop :=
  h.accepts wide narrow ∧ narrow.erasure ≠ wide.erasure

/-- **A proper supertype stands less deep**, unless it is an array type. -/
theorem ProperSupertype.depth_lt (hroot : h.RootOnTop) (hacyclic : h.Acyclic)
    (habove : h.ProperSupertype wide narrow) (hwide : ¬ wide.element?.isSome) :
    h.depth wide < h.depth narrow := by
  have hdepth := depth_of_conforms hroot hacyclic (accepts_iff.mp habove.1) habove.2
  rwa [if_neg hwide] at hdepth

/-- An array type does not accept a declared type. -/
theorem not_isSome_element?_of_accepts {name : String}
    (haccepts : h.accepts target (HostType.named name).erasure) : ¬ target.element?.isSome := by
  intro harray
  rw [← HostType.isSome_element?_erasure] at harray
  exact Bool.false_ne_true ((accepts_iff.mp haccepts).isSome_element? harray)

end Hierarchy

namespace Context

variable {ctx : Context} {attr : Attribute} {view target : HostType} {method : Method}

/-! ### Entries that apply -/

/-- The attribute is renamed on `target`, which accepts the view. -/
structure Applies (ctx : Context) (attr : Attribute) (view target : HostType) (method : Method) :
    Prop where
  /-- The entry is in the table. -/
  found : ctx.tables.renamed.find? attr target = some method
  /-- Its target accepts the view. -/
  accepts : ctx.hierarchy.accepts (ctx.qualify target) view

theorem Renames.applies (h : ctx.Renames attr view target method) :
    ctx.Applies attr view target method :=
  ⟨h.found, h.accepts⟩

/-- If any entry applies, one of them is heard. -/
theorem Applies.exists_renames (h : ctx.Applies attr view target method) :
    ∃ target method, ctx.Renames attr view target method := by
  have hmem := mem_renamedRow.mpr ⟨h.found, h.accepts⟩
  cases hbest : best? ctx.compareTargets (ctx.renamedRow attr view) with
  | none =>
    rw [best?_eq_none_iff.mp hbest] at hmem
    cases hmem
  | some entry => exact ⟨entry.1, entry.2, renames_of_best? hbest⟩

/-- **What is heard is most specific**: no other entry that applies has a target below it. -/
theorem Renames.not_properSupertype (hroot : ctx.hierarchy.RootOnTop)
    (hacyclic : ctx.hierarchy.Acyclic) {name : String}
    (h : ctx.Renames attr (HostType.named name).erasure target method) {other : HostType}
    {renamed : Method} (hother : ctx.Applies attr (HostType.named name).erasure other renamed) :
    ¬ ctx.hierarchy.ProperSupertype (ctx.qualify target) (ctx.qualify other) := by
  intro habove
  have hlt := habove.depth_lt hroot hacyclic (Hierarchy.not_isSome_element?_of_accepts h.accepts)
  rcases h.first other renamed hother.found hother.accepts with hdepth | ⟨hdepth, -⟩ <;> omega

/-! ### The list of names -/

/-- The name that is heard is tried first. -/
theorem Renames.head?_setterNames (h : ctx.Renames attr view target method) :
    (ctx.setterNames attr view).head? = some method.name := by
  rw [setterNames, renamedSetter?_eq_some_iff.mpr ⟨target, method, h, rfl⟩, Option.toList_some,
    List.singleton_append, List.eraseDups_cons, List.head?_cons]

/-- Without an entry that applies, there are no names but those that every attribute has. -/
theorem setterNames_of_not_applies (h : ∀ target method, ¬ ctx.Applies attr view target method) :
    ctx.setterNames attr view = [attr.conventionalSetter, attr.localName].eraseDups := by
  have hnone : ctx.renamedSetter? attr view = none := by
    refine Option.eq_none_iff_forall_ne_some.mpr fun name hname => ?_
    obtain ⟨target, method, hrenames, -⟩ := renamedSetter?_eq_some_iff.mp hname
    exact h target method hrenames.applies
  rw [setterNames, hnone, Option.toList_none, List.nil_append]

/-- **The most specific renamed setter is tried first.** Let supertypes run in no circle and the
root have none. If an attribute is renamed on types that accept a declared view, the first name that
is tried on the view is one of these, and its target is no proper supertype of the target of another
one. If it is not, only the conventional name and the local one are tried. No name is tried twice,
and those two always are. -/
theorem setterNames_most_specific (ctx : Context) (hroot : ctx.hierarchy.RootOnTop)
    (hacyclic : ctx.hierarchy.Acyclic) (attr : Attribute) (name : String) :
    let view := (HostType.named name).erasure
    let names := ctx.setterNames attr view
    ((∃ target method, ctx.Applies attr view target method) →
      ∃ target method, ctx.Applies attr view target method ∧ names.head? = some method.name ∧
        ∀ other renamed, ctx.Applies attr view other renamed →
          ¬ ctx.hierarchy.ProperSupertype (ctx.qualify target) (ctx.qualify other)) ∧
    ((∀ target method, ¬ ctx.Applies attr view target method) →
      names = [attr.conventionalSetter, attr.localName].eraseDups) ∧
    names.Nodup ∧ attr.conventionalSetter ∈ names ∧ attr.localName ∈ names := by
  intro view names
  refine ⟨?_, setterNames_of_not_applies, Graph.nodup_eraseDups _,
    mem_setterNames_iff.mpr .conventional, mem_setterNames_iff.mpr .localName⟩
  rintro ⟨_, _, happlies⟩
  obtain ⟨target, method, hrenames⟩ := happlies.exists_renames
  exact ⟨target, method, hrenames.applies, hrenames.head?_setterNames,
    fun other renamed hother => hrenames.not_properSupertype hroot hacyclic hother⟩

/-- On a switch the name is tried that an interface has for the attribute, and not the one of the
interface above it, which comes first in the table. The entry for the root does not get its turn
either. -/
theorem setterNames_most_specific_switch :
    let hierarchy := Hierarchy.standard.declareImplements "Toggle" "Checkable"
      |>.declareClass "Switch" (some "View") |>.declareImplements "Switch" "Toggle"
    let checked : Attribute := ⟨"android:checked"⟩
    let renames (owner name : String) : Method := ⟨.named owner, name⟩
    let renamed : Nested Attribute HostType Method :=
      Nested.put (Nested.put (Nested.put ∅ checked (.named "Object") (renames "Any" "setAny"))
        checked (.named "Checkable") (renames "Checkable" "setCheckedGeneric"))
        checked (.named "Tgl") (renames "Toggle" "setToggled")
    let ctx : Context :=
      { tables := { renamed }, hierarchy, imports := .ofList [("Tgl", "Toggle")] }
    let view := (HostType.named "Switch<T>").erasure
    hierarchy.RootOnTop ∧ hierarchy.Acyclic ∧
      (∃ target method, ctx.Applies checked view target method ∧
        (ctx.setterNames checked view).head? = some method.name ∧
        ∀ other renamed, ctx.Applies checked view other renamed →
          ¬ ctx.hierarchy.ProperSupertype (ctx.qualify target) (ctx.qualify other)) ∧
      ctx.setterNames checked view = ["setToggled", "setChecked", "checked"] ∧
      (∀ target method, ¬ ctx.Applies ⟨"text"⟩ view target method) ∧
      ctx.setterNames ⟨"text"⟩ view =
        [Attribute.conventionalSetter ⟨"text"⟩, "text"].eraseDups := by
  intro hierarchy checked renames renamed ctx view
  have hroot : hierarchy.RootOnTop := by decide +kernel
  have hacyclic : hierarchy.Acyclic := by decide +kernel
  have happlies : ctx.Applies checked view (.named "Checkable")
      (renames "Checkable" "setCheckedGeneric") := ⟨by decide +kernel, by decide +kernel⟩
  have hrow : ctx.tables.renamed[Attribute.mk "text"]? = none := by decide +kernel
  have hnone : ∀ target method, ¬ ctx.Applies ⟨"text"⟩ view target method := by
    intro target method h
    have hfound := h.found
    rw [Nested.find?_eq_bind, hrow] at hfound
    cases hfound
  exact ⟨hroot, hacyclic,
    (setterNames_most_specific ctx hroot hacyclic checked "Switch<T>").1 ⟨_, _, happlies⟩,
    by decide +kernel, hnone,
    (setterNames_most_specific ctx hroot hacyclic ⟨"text"⟩ "Switch<T>").2.1 hnone⟩

end Context

end SetterResolution
