import SetterResolution.Proofs.Hierarchy.Subtyping

/-!
# Narrower types stand deeper

How deep a declared type stands is the length of the longest chain of supertype steps that starts at
it. A chain must not come twice to one type, so that the search for it carries along the types that
it came through. Without circles of supertypes this makes no difference: what a chain came through
cannot be reached again (`SetterResolution.Hierarchy.chainLength_congr`). So the length of the
longest chain grows by at least one with each step down
(`SetterResolution.Hierarchy.chainLength_add_le`), shared supertypes or not, and as a type without
supertypes is one step below the root, a proper subtype stands deeper than what it is below
(`SetterResolution.Hierarchy.chainLength_lt_of_below`). The measure tells, too, whether there are
circles at all (`SetterResolution.Hierarchy.acyclic_iff`).

Arrays are not measured like that. They all stand one step below the root, whatever their elements
are, so that depth tells an array from the root but not from another array
(`SetterResolution.Hierarchy.depth_of_conforms`).
-/

namespace SetterResolution.Hierarchy

variable {h : Hierarchy} {path path' : List String} {name parent sub sup root : String}

/-! ### The longest chain -/

theorem chainLength_of_mem (hname : name ∈ path) : h.chainLength path name = 0 := by
  rw [chainLength, dif_pos hname]

theorem chainLength_of_not_mem (hname : name ∉ path) :
    h.chainLength path name = ((h.supertypes name).map fun parent =>
      h.chainLength (name :: path) parent + 1).max?.getD (h.rootStep name) := by
  rw [chainLength, dif_neg hname]
  simp only [List.map_subtype, List.unattach_attach]

/-- **The search from a new type** goes on to one of its supertypes, or it has none and is left with
the step to the root. -/
theorem chainLength_cases (hname : name ∉ path) :
    h.supertypes name = [] ∧ h.chainLength path name = h.rootStep name ∨
    ∃ parent ∈ h.supertypes name,
      h.chainLength path name = h.chainLength (name :: path) parent + 1 := by
  rw [chainLength_of_not_mem hname]
  cases hmax : ((h.supertypes name).map fun parent =>
    h.chainLength (name :: path) parent + 1).max? with
  | none => exact Or.inl ⟨List.map_eq_nil_iff.mp (List.max?_eq_none_iff.mp hmax), rfl⟩
  | some longest =>
    obtain ⟨parent, hparent, rfl⟩ := List.mem_map.mp (List.max?_eq_some_iff.mp hmax).1
    exact Or.inr ⟨parent, hparent, rfl⟩

/-- From no supertype of a new type the search finds as long a chain as from the type. -/
theorem chainLength_lt_of_not_mem (hname : name ∉ path) (hparent : parent ∈ h.supertypes name) :
    h.chainLength (name :: path) parent < h.chainLength path name := by
  have hmem : h.chainLength (name :: path) parent + 1 ∈
      (h.supertypes name).map fun parent => h.chainLength (name :: path) parent + 1 :=
    List.mem_map_of_mem hparent
  rw [chainLength_of_not_mem hname]
  cases hmax : ((h.supertypes name).map fun parent =>
    h.chainLength (name :: path) parent + 1).max? with
  | none =>
    rw [List.max?_eq_none_iff.mp hmax] at hmem
    cases hmem
  | some longest => exact (List.max?_eq_some_iff.mp hmax).2 _ hmem

/-- A type that steps lead to from a supertype is one step farther from the type itself. -/
theorem leads_of_mem_supertypes {n : Nat} (hparent : parent ∈ h.supertypes name)
    (hleads : h.supertypeGraph.Leads parent n sup) : h.supertypeGraph.Leads name (n + 1) sup := by
  have hstep : h.supertypeGraph.Leads name 1 parent := .arrow .here hparent
  rw [Nat.add_comm]
  exact hstep.trans hleads

/-- **What a chain came through** does not matter if it cannot be reached again. -/
theorem chainLength_congr (hacyclic : h.Acyclic)
    (hpath : ∀ a ∈ path, ∀ n, ¬ h.supertypeGraph.Leads name n a)
    (hpath' : ∀ a ∈ path', ∀ n, ¬ h.supertypeGraph.Leads name n a) :
    h.chainLength path name = h.chainLength path' name := by
  induction path, name using chainLength.induct h generalizing path' with
  | case1 path name hname => exact absurd .here (hpath name hname 0)
  | case2 path name hname ih =>
    have hname' : name ∉ path' := fun hmem => hpath' name hmem 0 .here
    rw [chainLength_of_not_mem hname, chainLength_of_not_mem hname']
    congr 2
    refine List.map_congr_left fun parent hparent => ?_
    -- what is reached from a supertype is neither the type itself nor what came before it
    have havoid {path : List String}
        (hpath : ∀ a ∈ path, ∀ n, ¬ h.supertypeGraph.Leads name n a) :
        ∀ a ∈ name :: path, ∀ n, ¬ h.supertypeGraph.Leads parent n a := by
      intro a ha n hleads
      have hleads := leads_of_mem_supertypes hparent hleads
      rcases List.mem_cons.mp ha with rfl | ha
      · exact hacyclic a n hleads
      · exact hpath a ha (n + 1) hleads
    rw [ih parent hparent (havoid hpath) (havoid hpath')]

/-- Without circles, the search from a supertype does not come to the type again. -/
theorem chainLength_singleton (hacyclic : h.Acyclic) (hparent : parent ∈ h.supertypes name) :
    h.chainLength [name] parent = h.chainLength [] parent := by
  refine chainLength_congr hacyclic (fun a ha n hleads => ?_) (by simp)
  obtain rfl := List.mem_singleton.mp ha
  exact hacyclic a n (leads_of_mem_supertypes hparent hleads)

theorem chainLength_lt (hacyclic : h.Acyclic) (hparent : parent ∈ h.supertypes name) :
    h.chainLength [] parent < h.chainLength [] name := by
  rw [← chainLength_singleton hacyclic hparent]
  exact chainLength_lt_of_not_mem List.not_mem_nil hparent

/-- **Each step down** makes the longest chain longer. -/
theorem chainLength_add_le (hacyclic : h.Acyclic) {n : Nat}
    (hleads : h.supertypeGraph.Leads name n sup) :
    h.chainLength [] sup + n ≤ h.chainLength [] name := by
  induction hleads with
  | here => exact Nat.le_refl _
  | arrow _ hparent ih =>
    have hlt := chainLength_lt hacyclic hparent
    omega

/-- **Circles are found by measuring**: there are none if each declared type has a longer chain than
its supertypes. -/
theorem acyclic_iff :
    h.Acyclic ↔ ∀ sub ∈ h.types.keys, ∀ sup ∈ h.supertypes sub,
      h.chainLength [] sup < h.chainLength [] sub :=
  ⟨fun hacyclic _ _ _ hsup => chainLength_lt hacyclic hsup, acyclic_of_rank (h.chainLength [])⟩

instance : Decidable h.Acyclic :=
  decidable_of_iff _ acyclic_iff.symm

theorem chainLength_root (hroot : h.RootOnTop) (hr : h.root = some root) :
    h.chainLength [] root = 0 := by
  rw [chainLength_of_not_mem List.not_mem_nil, hroot root hr, rootStep, hr]
  simp

/-- Everything else stands below the root. -/
theorem chainLength_pos (hr : h.root = some root) (hname : name ≠ root) :
    0 < h.chainLength [] name := by
  rcases chainLength_cases List.not_mem_nil with ⟨-, hlength⟩ | ⟨parent, -, hlength⟩
  · rw [hlength, rootStep, hr, if_pos ⟨rfl, fun heq => hname (Option.some.inj heq).symm⟩]
    exact Nat.one_pos
  · rw [hlength]
    exact Nat.succ_pos _

/-- **A proper subtype** has a longer chain than what it is below. -/
theorem chainLength_lt_of_below (hroot : h.RootOnTop) (hacyclic : h.Acyclic)
    (hbelow : h.Below sub sup) : h.chainLength [] sup < h.chainLength [] sub := by
  obtain ⟨⟨n, hleads⟩ | hr, hne⟩ := hbelow
  · cases n with
    | zero => exact absurd (Graph.Digraph.leads_zero_iff.mp hleads).symm hne
    | succ n =>
      have hle := chainLength_add_le hacyclic hleads
      omega
  · rw [chainLength_root hroot hr]
    exact chainLength_pos hr hne

/-! ### Depth -/

variable {source target : HostType}

theorem depth_of_erasure_named (hsource : source.erasure = .named name) :
    h.depth source = h.chainLength [] name := by
  rw [depth, hsource]

theorem depth_of_erasure_array {element : HostType} (hsource : source.erasure = .array element) :
    h.depth source = if h.root.isSome then 1 else 0 := by
  rw [depth, hsource]

/-- **A type that conforms to another one stands deeper**, unless both are arrays: these stand
equally deep. -/
theorem depth_of_conforms (hroot : h.RootOnTop) (hacyclic : h.Acyclic)
    (hconforms : h.Conforms source.erasure target.erasure)
    (hne : source.erasure ≠ target.erasure) :
    if target.element?.isSome then h.depth source = h.depth target
    else h.depth target < h.depth source := by
  rw [← HostType.isSome_element?_erasure]
  generalize hsource : source.erasure = below at hconforms hne
  generalize htarget : target.erasure = above at hconforms hne
  cases hconforms with
  | prim kind => exact absurd rfl hne
  | array _ => exact (depth_of_erasure_array hsource).trans (depth_of_erasure_array htarget).symm
  | @root _ root hr =>
    show h.depth target < h.depth source
    rw [depth_of_erasure_named htarget, depth_of_erasure_array hsource, chainLength_root hroot hr,
      hr]
    exact Nat.one_pos
  | named hsup =>
    show h.depth target < h.depth source
    rw [depth_of_erasure_named htarget, depth_of_erasure_named hsource]
    exact chainLength_lt_of_below hroot hacyclic ⟨hsup, fun heq => hne (congrArg _ heq)⟩

end SetterResolution.Hierarchy
