import SetterResolution.Hierarchy.Assignable
import SetterResolution.Proofs.Hierarchy.Ancestors

/-!
# Which declaration of a method is found

A method can be declared by several of the types that a type inherits from, and then the one that is
declared first among them is found and the others are not. Methods are told apart by their
parameters; so what is found for given parameters does not depend on what is declared for other ones
(`SetterResolution.Hierarchy.filter_methods`).

First among the types means nearest. That is as it should be where a type that overrides a method is
nearer than the type whose method it overrides, and this is what happens along a chain of classes.
But a class can implement an interface that one of its superclasses implements already. Then the
interface is next to the class, and its declaration is found although the superclass overrides it
(`SetterResolution.Hierarchy.methods_finds_overridden`).

The main statement is `SetterResolution.Hierarchy.methods_finds_nearest`.
-/

namespace SetterResolution

/-- Of the members with the same value, the first one is kept. -/
theorem filter_eraseDupsBy {α β : Type} [BEq β] [LawfulBEq β] [DecidableEq β] (f : α → β) (b : β)
    (l : List α) :
    (l.eraseDupsBy fun x y => f x == f y).filter (f · = b) = (l.find? (f · = b)).toList := by
  induction hlength : l.length using Nat.strongRecOn generalizing l with
  | ind n ih =>
    cases l with
    | nil => rfl
    | cons a rest =>
      have hshort : (rest.filter fun x => (f x == f a) = false).length < n := by
        rw [← hlength, List.length_cons]
        exact Nat.lt_succ_of_le (List.length_filter_le _ _)
      rw [List.eraseDupsBy_cons]
      by_cases ha : f a = b
      · subst ha
        -- what has the same value is dropped from the rest
        have hnone : (rest.filter fun x => (f x == f a) = false).find? (f · = f a) = none := by
          simp
        rw [List.filter_cons_of_pos (by simp), ih _ hshort _ rfl, hnone,
          List.find?_cons_of_pos (by simp)]
        rfl
      · have hfind : (rest.filter fun x => (f x == f a) = false).find? (f · = b) =
            rest.find? (f · = b) := by
          rw [List.find?_filter]
          congr 1
          funext x
          by_cases hx : f x = b
          · subst hx
            simp [Ne.symm ha]
          · simp [hx]
        rw [List.filter_cons_of_neg (by simpa using ha), ih _ hshort _ rfl, hfind,
          List.find?_cons_of_neg (by simpa using ha)]

namespace Hierarchy

variable {h : Hierarchy} {name base : String} {params : List HostType}

/-- A type declares a method of this name with just these parameters. -/
def Declares (h : Hierarchy) (name : String) (params : List HostType) (type : String) : Prop :=
  ∃ method ∈ (h.entry type).methods, method.name = name ∧ method.params = params

/-- The first declaration of a method by a type. -/
def firstDeclared? (h : Hierarchy) (name : String) (params : List HostType) (type : String) :
    Option Signature :=
  (h.ownMethods type name params.length).find? (·.params = params)

theorem firstDeclared?_eq_some {type : String} {method : Signature}
    (hfirst : h.firstDeclared? name params type = some method) :
    method ∈ (h.entry type).methods ∧ method.name = name ∧ method.params = params := by
  have hparams := List.find?_some hfirst
  have hmem := List.mem_filter.mp (List.mem_of_find?_eq_some hfirst)
  simp only [Bool.and_eq_true, beq_iff_eq, decide_eq_true_iff] at hparams hmem
  exact ⟨hmem.1, hmem.2.1, hparams⟩

theorem isSome_firstDeclared?_iff {type : String} :
    (h.firstDeclared? name params type).isSome ↔ h.Declares name params type := by
  constructor
  · intro hfirst
    obtain ⟨method, hmethod⟩ := Option.isSome_iff_exists.mp hfirst
    exact ⟨method, firstDeclared?_eq_some hmethod⟩
  · rintro ⟨method, hmem, rfl, rfl⟩
    rw [firstDeclared?, List.find?_isSome]
    exact ⟨method, List.mem_filter.mpr ⟨hmem, by simp⟩, by simp⟩

/-- **What is found for given parameters** is what the first type declares that declares such a
method, of the type itself and its ancestors. -/
theorem filter_methods {owner : HostType} (howner : owner.erasure = .named base) (name : String)
    (params : List HostType) :
    (h.methods owner name params.length).filter (·.params = params) =
      ((base :: h.ancestors base).findSome? (h.firstDeclared? name params)).toList := by
  rw [methods, howner]
  dsimp only
  rw [filter_eraseDupsBy Signature.params, List.find?_flatMap]
  rfl

/-- The type whose declaration is found stands before all others that declare the method, so that
none of these is nearer. -/
theorem noFarther_of_findSome? {method : Signature}
    (hfound : (base :: h.ancestors base).findSome? (h.firstDeclared? name params) =
      some method) :
    ∃ type, h.Inherits base type ∧ h.firstDeclared? name params type = some method ∧
      ∀ other, h.Inherits base other → h.Declares name params other →
        other = type ∨ h.NoFarther base type other := by
  obtain ⟨before, type, after, hlist, hfirst, hbefore⟩ := List.findSome?_eq_some_iff.mp hfound
  have hordered := h.pairwise_cons_ancestors base
  rw [hlist] at hordered
  have hnext := (List.pairwise_cons.mp (List.pairwise_append.mp hordered).2.1).1
  refine ⟨type, ?_, hfirst, fun other hother hdeclares => ?_⟩
  · rw [← mem_cons_ancestors_iff, hlist]
    exact List.mem_append_right _ List.mem_cons_self
  · rw [← mem_cons_ancestors_iff, hlist] at hother
    rcases List.mem_append.mp hother with hmem | hmem
    -- what stands before it does not declare the method
    · rw [← isSome_firstDeclared?_iff, hbefore other hmem] at hdeclares
      cases hdeclares
    · exact (List.mem_cons.mp hmem).imp_right (hnext other)

/-- Wherever a type that declares the method overrides another one, it is nearer, as seen from
`base`. -/
def OverridesNearby (h : Hierarchy) (base name : String) (params : List HostType) : Prop :=
  ∀ sub sup, h.Inherits base sub → h.Inherits base sup → h.Declares name params sub →
    h.Declares name params sup → h.Below sub sup → h.Nearer base sub sup

/-- **The nearest declaration of a method is found.** If no type that the owner inherits from
declares a method with these parameters, none is found. Otherwise just one is found, which is
declared by such a type, and no other one that declares it is nearer. It is not overridden by any of
them if those that override the method are nearer than those whose method they override. -/
theorem methods_finds_nearest (h : Hierarchy) {owner : HostType} {base : String}
    (howner : owner.erasure = .named base) (name : String) (params : List HostType) :
    let found := (h.methods owner name params.length).filter (·.params = params)
    ((∀ type, h.Inherits base type → ¬ h.Declares name params type) → found = []) ∧
    ((∃ type, h.Inherits base type ∧ h.Declares name params type) →
      ∃ method type, found = [method] ∧ h.Inherits base type ∧
        method ∈ (h.entry type).methods ∧ method.name = name ∧ method.params = params ∧
        (∀ other, h.Inherits base other → h.Declares name params other →
          other = type ∨ h.NoFarther base type other) ∧
        (h.OverridesNearby base name params →
          ∀ other, h.Inherits base other → h.Declares name params other →
            ¬ h.Below other type)) := by
  intro found
  have hfound : found = ((base :: h.ancestors base).findSome?
      (h.firstDeclared? name params)).toList := filter_methods howner name params
  cases hfirst : (base :: h.ancestors base).findSome? (h.firstDeclared? name params) with
  | none =>
    rw [hfirst] at hfound
    refine ⟨fun _ => hfound, ?_⟩
    rintro ⟨type, hinherits, hdeclares⟩
    have hnone := List.findSome?_eq_none_iff.mp hfirst type (mem_cons_ancestors_iff.mpr hinherits)
    rw [← isSome_firstDeclared?_iff, hnone] at hdeclares
    cases hdeclares
  | some method =>
    rw [hfirst] at hfound
    obtain ⟨type, hinherits, hmethod, hnearest⟩ := noFarther_of_findSome? hfirst
    have hdeclares := isSome_firstDeclared?_iff.mp (Option.isSome_of_eq_some hmethod)
    refine ⟨fun hnone => absurd hdeclares (hnone type hinherits), fun _ => ?_⟩
    obtain ⟨hmem, hname, hparams⟩ := firstDeclared?_eq_some hmethod
    refine ⟨method, type, hfound, hinherits, hmem, hname, hparams, hnearest, ?_⟩
    intro hnearby other hother hdeclares' hbelow
    rcases hnearest other hother hdeclares' with rfl | hnofarther
    · exact hbelow.2 rfl
    · exact hnofarther.not_nearer (hnearby other type hother hinherits hdeclares' hdeclares hbelow)

/-- A generic label inherits a method from a class that overrides the one of an interface. -/
theorem methods_finds_nearest_label :
    let string : HostType := .named "String"
    let h := Hierarchy.standard.declareInterface "Textual"
      |>.declareClass "View" (some "Object") |>.declareImplements "View" "Textual"
      |>.declareClass "Label" (some "View")
      |>.declareSetter "Textual" "setText" string |>.declareSetter "View" "setText" string
    (HostType.named "Label<T>").erasure = .named "Label" ∧
      h.OverridesNearby "Label" "setText" [string] ∧
      ∃ method type, (h.methods (.named "Label<T>") "setText" 1).filter (·.params = [string]) =
          [method] ∧
        h.Inherits "Label" type ∧ method ∈ (h.entry type).methods ∧
        ∀ other, h.Inherits "Label" other → h.Declares "setText" [string] other →
          ¬ h.Below other type := by
  intro string h
  have howner : (HostType.named "Label<T>").erasure = .named "Label" := by decide +kernel
  have hview : h.Inherits "Label" "View" := mem_cons_ancestors_iff.mp (by decide +kernel)
  have hdeclares : h.Declares "setText" [string] "View" :=
    isSome_firstDeclared?_iff.mp (by decide +kernel)
  have hnearby : h.OverridesNearby "Label" "setText" [string] := by
    intro sub sup hsub hsup hsub' hsup' hbelow
    -- no other two types that declare the method are below one another
    have hpair : ∀ sub ∈ "Label" :: h.ancestors "Label", ∀ sup ∈ "Label" :: h.ancestors "Label",
        (h.firstDeclared? "setText" [string] sub).isSome →
        (h.firstDeclared? "setText" [string] sup).isSome →
        sup ∈ sub :: h.ancestors sub → sub ≠ sup → sub = "View" ∧ sup = "Textual" := by
      decide +kernel
    obtain ⟨rfl, rfl⟩ := hpair sub (mem_cons_ancestors_iff.mpr hsub) sup
      (mem_cons_ancestors_iff.mpr hsup) (isSome_firstDeclared?_iff.mpr hsub')
      (isSome_firstDeclared?_iff.mpr hsup') (mem_cons_ancestors_iff.mpr hbelow.1) hbelow.2
    have hfirst : "View" ∈ Graph.level h.supertypeGraph "Label" 1 := by decide +kernel
    have hsecond : "Textual" ∈ Graph.level h.supertypeGraph "Label" 2 := by decide +kernel
    exact nearer_of_mem_level hfirst hsecond (by decide)
  obtain ⟨method, type, hfound, hinherits, hmem, -, -, -, hmost⟩ :=
    (methods_finds_nearest h howner "setText" [string]).2 ⟨"View", hview, hdeclares⟩
  exact ⟨howner, hnearby, method, type, hfound, hinherits, hmem, hmost hnearby⟩

/-- The method of an interface is found, though a superclass of the owner overrides it: the owner
implements the interface itself, and is nearer to it than to that superclass. -/
theorem methods_finds_overridden :
    let string : HostType := .named "String"
    let h := Hierarchy.standard.declareInterface "Textual"
      |>.declareClass "View" (some "Object") |>.declareImplements "View" "Textual"
      |>.declareClass "Label" (some "View")
      |>.declareClass "Link" (some "Label") |>.declareImplements "Link" "Textual"
      |>.declareSetter "Textual" "setText" string |>.declareSetter "View" "setText" string
    h.Acyclic ∧ h.supertypes "Object" = [] ∧
      h.methods (.named "Link") "setText" 1 = [.setter (.named "Textual") "setText" string] ∧
      .setter (.named "Textual") "setText" string ∈ (h.entry "Textual").methods ∧
      h.Inherits "Link" "View" ∧ h.Declares "setText" [string] "View" ∧
      h.Below "View" "Textual" := by
  intro string h
  have hrank : ∀ sub ∈ h.types.keys, ∀ sup ∈ h.supertypes sub,
      h.chainLength [] sup < h.chainLength [] sub := by decide +kernel
  have hbelow : "Textual" ∈ "View" :: h.ancestors "View" := by decide +kernel
  exact ⟨acyclic_of_rank _ hrank, by decide +kernel, by decide +kernel, by decide +kernel,
    mem_cons_ancestors_iff.mp (by decide +kernel), isSome_firstDeclared?_iff.mp (by decide +kernel),
    mem_cons_ancestors_iff.mp hbelow, by decide⟩

end Hierarchy

end SetterResolution
