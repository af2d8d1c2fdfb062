import Mathlib.Data.Finset.Card
import Mathlib.Data.Finset.Dedup
import SetterResolution.Proofs.Hierarchy.Depth

/-!
# The search for the longest chain comes to an end

The length of the longest chain was computed with a list of the types that a chain came through, so
that each supertype is searched with a list of its own. The search can do with one set of types that
is changed on the way: a type is put into it when the search comes there and is taken out when all
of its supertypes have been searched (`SetterResolution.Hierarchy.search`). What is found for one
supertype is then no longer a matter of this supertype alone, as the set may come back changed from
the supertypes before it. And it is not plain that there is an end, as types that were taken out may
be come to again.

One statement settles both, by induction along the chains: a search gives back the set that it was
given (`SetterResolution.Hierarchy.run_search`). So all supertypes of a type are searched with the
same set, in which there is one declared type more than before, and no more searches are nested than
there are declared types, and one for a name that is not declared. Nothing has to be assumed about
the hierarchy. By the same induction no chain is longer than that
(`SetterResolution.Hierarchy.chainLength_le`).

The main statement is `SetterResolution.Hierarchy.search_restores`.
-/

namespace SetterResolution

open Std (ExtTreeSet)

/-- If no member of a list changes the state, all members see the same one. -/
theorem run_mapM_of_unchanged {σ α β : Type} {act : α → StateT σ Option β} {f : α → β} {s : σ}
    {l : List α} (h : ∀ a ∈ l, (act a).run s = some (f a, s)) :
    (l.mapM act).run s = some (l.map f, s) := by
  induction l with
  | nil => rfl
  | cons a rest ih =>
    obtain ⟨hhead, htail⟩ := List.forall_mem_cons.mp h
    rw [List.mapM_cons, StateT.run_bind, hhead]
    simp [ih htail]

theorem erase_insert_of_not_mem {set : ExtTreeSet String} {name : String} (hname : name ∉ set) :
    (set.insert name).erase name = set := by
  refine ExtTreeSet.ext_mem fun other => ?_
  rw [ExtTreeSet.mem_erase, ExtTreeSet.mem_insert, Ne, Std.LawfulEqCmp.compare_eq_iff_eq]
  constructor
  · rintro ⟨hne, heq | hmem⟩
    · exact absurd heq hne
    · exact hmem
  · intro hmem
    exact ⟨fun heq => hname (heq ▸ hmem), Or.inr hmem⟩

namespace Hierarchy

variable {h : Hierarchy} {path : List String} {name : String} {calls : Nat}
  {visiting : ExtTreeSet String}

/-! ### One set for the whole search -/

/-- The search for the longest chain of supertype steps with one set, the types that it has come
through. A type is put in when the search comes to it, which ends there if the type is in the set
already, and it is taken out when its supertypes have been searched one after another. At most
`calls` searches are nested in each other, and there is no result if this is not enough. -/
def search (h : Hierarchy) : (calls : Nat) → (name : String) → StateT (ExtTreeSet String) Option Nat
  | 0, _ => failure
  | calls + 1, name => do
    let visiting ← get
    if name ∈ visiting then
      return 0
    set (visiting.insert name)
    let lengths ← (h.supertypes name).mapM fun parent => (· + 1) <$> h.search calls parent
    set ((← get).erase name)
    return lengths.max?.getD (h.rootStep name)

/-- A search that comes to a type again ends there. -/
theorem run_search_of_mem (hmem : name ∈ visiting) :
    (h.search (calls + 1) name).run visiting = some (0, visiting) := by
  simp [search, hmem]

/-- A search that comes to a new type takes the longest of the chains that its supertypes start, and
goes back. -/
theorem run_search_of_not_mem (hmem : name ∉ visiting) {length : String → Nat}
    (hparents : ∀ parent ∈ h.supertypes name, (h.search calls parent).run (visiting.insert name) =
      some (length parent, visiting.insert name)) :
    (h.search (calls + 1) name).run visiting =
      some (((h.supertypes name).map fun parent => length parent + 1).max?.getD (h.rootStep name),
        visiting) := by
  have hlengths : ((h.supertypes name).mapM fun parent => (· + 1) <$> h.search calls parent).run
      (visiting.insert name) =
        some ((h.supertypes name).map fun parent => length parent + 1, visiting.insert name) :=
    run_mapM_of_unchanged fun parent hparent => by simp [hparents parent hparent]
  simp [search, hmem, hlengths, erase_insert_of_not_mem hmem]

/-- **A search ends with the set that it began with**, and finds the length of the longest chain, if
so many searches may be nested as there are declared types outside the set, and one more. -/
theorem run_search (hpath : ∀ a, a ∈ path ↔ a ∈ visiting)
    (hcalls : Graph.unseen h.types.keys path < calls) :
    (h.search calls name).run visiting = some (h.chainLength path name, visiting) := by
  induction path, name using chainLength.induct h generalizing calls visiting with
  | case1 path name hname =>
    obtain ⟨calls, rfl⟩ := Nat.exists_eq_add_one_of_ne_zero (Nat.ne_zero_of_lt hcalls)
    rw [run_search_of_mem ((hpath name).mp hname), chainLength_of_mem hname]
  | case2 path name hname ih =>
    obtain ⟨calls, rfl⟩ := Nat.exists_eq_add_one_of_ne_zero (Nat.ne_zero_of_lt hcalls)
    have hmem : name ∉ visiting := fun hmem => hname ((hpath name).mpr hmem)
    rw [chainLength_of_not_mem hname]
    refine run_search_of_not_mem hmem fun parent hparent => ih parent hparent (fun a => ?_) ?_
    · rw [List.mem_cons, ExtTreeSet.mem_insert, Std.LawfulEqCmp.compare_eq_iff_eq, hpath, eq_comm]
    · -- a type with supertypes is declared, and was not yet in the set
      have hlt := Graph.unseen_cons_lt (mem_keys_of_mem_supertypes hparent) hname
      omega

/-! ### How long a chain can be -/

/-- **No chain is longer** than the number of declared types that it may come through, but for one
step to the root. -/
theorem chainLength_le (h : Hierarchy) (path : List String) (name : String) :
    h.chainLength path name ≤ Graph.unseen h.types.keys path + 1 := by
  induction path, name using chainLength.induct h with
  | case1 path name hname =>
    rw [chainLength_of_mem hname]
    exact Nat.zero_le _
  | case2 path name hname ih =>
    rcases chainLength_cases hname with ⟨-, hlength⟩ | ⟨parent, hparent, hlength⟩
    · rw [hlength, rootStep]
      split <;> omega
    · have hle := ih parent hparent
      have hlt := Graph.unseen_cons_lt (mem_keys_of_mem_supertypes hparent) hname
      omega

theorem unseen_keys_le (h : Hierarchy) (path : List String) :
    Graph.unseen h.types.keys path ≤ h.types.size := by
  rw [← Std.ExtTreeMap.length_keys]
  exact List.countP_le_length

/-- The names that occur in a hierarchy: those of declared types and of their supertypes, and the
root. -/
def typeNames (h : Hierarchy) : Finset String :=
  (h.types.keys ++ h.supertypeNames ++ h.root.toList).toFinset

theorem size_types_le_card_typeNames (h : Hierarchy) : h.types.size ≤ h.typeNames.card := by
  have hcard := List.toFinset_card_of_nodup (l := h.types.keys) Std.ExtTreeMap.nodup_keys
  rw [← Std.ExtTreeMap.length_keys, ← hcard]
  refine Finset.card_le_card fun name hname => ?_
  rw [List.mem_toFinset] at hname
  simp [typeNames, hname]

/-- **The search ends and leaves the set as it was**, whatever a hierarchy declares, supertypes in
circles and supertypes that are not declared among it. No more searches are nested than there are
declared types, and one. From any set the search finds the length of the longest chain that avoids
it. From the empty set this is the depth of the types of this name, and it is at most one more than
the number of declared types, and so of the names in the hierarchy. -/
theorem search_restores (h : Hierarchy) {calls : Nat} (hcalls : h.types.size < calls)
    (name : String) :
    (∀ visiting, (h.search calls name).run visiting =
      some (h.chainLength visiting.toList name, visiting)) ∧
    ∃ depth, (h.search calls name).run ∅ = some (depth, ∅) ∧
      depth ≤ h.types.size + 1 ∧ depth ≤ h.typeNames.card + 1 ∧
      ∀ type, type.erasure = .named name → h.depth type = depth := by
  have hrun : ∀ visiting, (h.search calls name).run visiting =
      some (h.chainLength visiting.toList name, visiting) := fun visiting =>
    run_search (fun a => ExtTreeSet.mem_toList)
      (Nat.lt_of_le_of_lt (h.unseen_keys_le visiting.toList) hcalls)
  have hnil : (∅ : ExtTreeSet String).toList = [] := ExtTreeSet.toList_eq_nil_iff.mpr rfl
  have hempty := hrun ∅
  rw [hnil] at hempty
  have hlength := Nat.le_trans (h.chainLength_le [] name)
    (Nat.succ_le_succ (h.unseen_keys_le []))
  have hnames := h.size_types_le_card_typeNames
  exact ⟨hrun, h.chainLength [] name, hempty, hlength, by omega,
    fun type htype => depth_of_erasure_named htype⟩

/-- Two classes that extend each other, an interface that extends itself, and a superclass that is
not declared, searched from the empty set and from a set with one of the two classes. -/
theorem search_restores_circle :
    let h := Hierarchy.standard.declareClass "Node" (some "Cell")
      |>.declareClass "Cell" (some "Node") |>.declareImplements "Cell" "Linked"
      |>.declareImplements "Linked" "Linked" |>.declareClass "Leaf" (some "Plant")
      |>.declareImplements "Leaf" "Node"
    let leaf : HostType := .named "Leaf<T>"
    let cell : ExtTreeSet String := .ofList ["Cell"]
    h.types.size < 17 ∧ leaf.erasure = .named "Leaf" ∧ h.depth leaf = 4 ∧
      (h.search 17 "Leaf").run ∅ = some (4, ∅) ∧ (h.search 17 "Leaf").run cell = some (2, cell) ∧
      h.depth leaf ≤ h.types.size + 1 ∧ h.depth leaf ≤ h.typeNames.card + 1 := by
  intro h leaf cell
  have hcalls : h.types.size < 17 := by decide +kernel
  have hleaf : leaf.erasure = .named "Leaf" := by decide +kernel
  have hfour : h.depth leaf = 4 := by decide +kernel
  have htwo : h.chainLength cell.toList "Leaf" = 2 := by decide +kernel
  obtain ⟨hrun, depth, hempty, hsize, hnames, hdepth⟩ := search_restores h hcalls "Leaf"
  obtain rfl : h.depth leaf = depth := hdepth leaf hleaf
  rw [hfour] at hempty
  exact ⟨hcalls, hleaf, hfour, hempty, htwo ▸ hrun cell, hsize, hnames⟩

/-- Where all declared types lie on one chain, which ends with a name that is not declared, there is
one step more than there are declared types. -/
example :
    let h := ({ root := some "Object" } : Hierarchy).declareClass "Link" (some "Chain")
    h.depth (.named "Link") = h.types.size + 1 := by
  decide +kernel

end Hierarchy

end SetterResolution
