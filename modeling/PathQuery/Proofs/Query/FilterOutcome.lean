import PathQuery.Proofs.Query.FilterPruning

/-!
# What filter pruning makes of a tree

Which steps filter pruning keeps is told by the tree as it was. This module says what becomes of
the rest. A step that is left has the filters that need data, or none when it is a root that can
match nothing: its filters are *resolved*. Resolved filters are all kept when they are looked at
again, so that deciding filters a second time changes nothing at all.

The leaves are kept in order, without those that have been removed. As a leaf stands on its own, it
is removed only for the sake of a step at or above it, and the paths that are left are those on
which every step can match something.
-/

namespace PathQuery

namespace Tree

variable {t u : Tree}

/-! ## Resolved filters -/

/-- What deciding its filters makes of a step that stays. -/
def resolvedNode (catalog : Option Topology) (n : Node) : Node :=
  { n with filters := if isMatchable catalog n then keptFilters catalog n else [] }

theorem resolvedNode_of_isMatchable {catalog : Option Topology} {n : Node}
    (hn : isMatchable catalog n) :
    resolvedNode catalog n = { n with filters := keptFilters catalog n } := by
  rw [resolvedNode, if_pos hn]

theorem isMatchable_resolvedNode (catalog : Option Topology) (n : Node) :
    isMatchable catalog (resolvedNode catalog n) := by
  by_cases hn : isMatchable catalog n
  · rw [resolvedNode_of_isMatchable hn]
    exact isMatchable_keptFilters hn
  · rw [resolvedNode, if_neg hn]
    rfl

theorem keptFilters_resolvedNode (catalog : Option Topology) (n : Node) :
    keptFilters catalog (resolvedNode catalog n) = (resolvedNode catalog n).filters := by
  by_cases hn : isMatchable catalog n
  · rw [resolvedNode_of_isMatchable hn]
    exact List.filter_eq_self.mpr fun f hf ↦ (List.mem_filter.mp hf).2
  · rw [resolvedNode, if_neg hn]
    rfl

/-! ## The steps that are left are as they were -/

theorem node?_setFilters_self {id : NodeId} {n : Node} (hn : u.node? id = some n)
    (filters : List Filter) :
    (u.setFilters id filters).node? id = some { n with filters := filters } := by
  rw [node?, Option.filter_eq_some_iff] at hn ⊢
  rw [setFilters, Array.getElem?_modify, if_pos rfl, hn.1]
  exact ⟨rfl, hn.2⟩

theorem node?_setFilters_of_ne {id a : NodeId} (hne : a ≠ id) (filters : List Filter) :
    (u.setFilters id filters).node? a = u.node? a := by
  rw [node?, node?, setFilters, Array.getElem?_modify, if_neg (Ne.symm hne)]

theorem node?_of_markRemoved {b a : NodeId} {n : Node} (hn : (u.markRemoved b).node? a = some n) :
    u.node? a = some n := by
  rw [node?, Option.filter_eq_some_iff, markRemoved, Array.getElem?_mapIdx,
    Option.map_eq_some_iff] at hn
  obtain ⟨⟨m, hm, heq⟩, hlive⟩ := hn
  -- a step that is marked is not live
  split at heq
  · rw [← heq] at hlive
    cases hlive
  · rw [node?, Option.filter_eq_some_iff, hm, heq]
    exact ⟨rfl, hlive⟩

theorem node?_of_removeUp {fuel : ℕ} {b a : NodeId} {n : Node}
    (hn : (u.removeUp fuel b).node? a = some n) : u.node? a = some n := by
  have hkeeps := removeUp_induction (u := u)
    (motive := fun v ↦ ∀ n, v.node? a = some n → u.node? a = some n)
    (fun v b _ hv n hn ↦ hv n (node?_of_markRemoved hn)) fuel b fun _ hn ↦ hn
  exact hkeeps n hn

theorem node?_remove_self {id : NodeId} (hne : id ≠ rootId) : (u.remove id).node? id = none := by
  by_contra hsome
  obtain ⟨n, hn⟩ := Option.ne_none_iff_exists'.mp hsome
  have hlive : u.isLive id := isLive_iff.mpr ⟨n, node?_of_removeUp hn⟩
  have hgone : ¬ (u.markRemoved id).isLive id := by
    rw [isLive_markRemoved_iff_notMem]
    rintro ⟨-, hnot⟩
    obtain ⟨fuel, hfuel⟩ := Nat.exists_eq_add_one_of_ne_zero
      (Nat.ne_zero_of_lt (lt_size_of_isLive hlive))
    rw [hfuel, subtree] at hnot
    exact hnot (by simp)
  -- the climb starts by removing the step, and nothing comes back
  refine hgone (isLive_iff.mpr ⟨n, ?_⟩)
  rw [remove, removeUp, if_neg hne] at hn
  dsimp only at hn
  split at hn
  · exact hn
  · split at hn
    · exact hn
    · exact node?_of_removeUp hn

/-! ## Where deciding filters has come to -/

/-- Once some steps are done, the steps that are left of them are resolved and the others are as
they were. -/
structure Resolved (t : Tree) (done : List NodeId) (u : Tree) : Prop where
  /-- The topology is the same. -/
  catalog : u.catalog = t.catalog
  /-- A live step is resolved once it is done. -/
  node : ∀ {id n}, u.node? id = some n → ∃ m, t.node? id = some m ∧
    n = if id ∈ done then resolvedNode t.catalog m else m

namespace Resolved

variable {done : List NodeId} {id : NodeId} (hresolved : t.Resolved done u)
include hresolved

/-- A step takes its place among those that are done, in a tree where no other step has changed. -/
theorem push {v : Tree} (hcatalog : v.catalog = t.catalog)
    (hself : ∀ {n}, v.node? id = some n →
      ∃ m, t.node? id = some m ∧ n = resolvedNode t.catalog m)
    (hother : ∀ {a n}, a ≠ id → v.node? a = some n → u.node? a = some n) :
    t.Resolved (done ++ [id]) v where
  catalog := hcatalog
  node := by
    intro a n hn
    by_cases heq : a = id
    · subst heq
      obtain ⟨m, hm, rfl⟩ := hself hn
      exact ⟨m, hm, by rw [if_pos (by simp)]⟩
    · obtain ⟨m, hm, rfl⟩ := hresolved.node (hother heq hn)
      refine ⟨m, hm, ?_⟩
      simp only [List.mem_append, List.mem_singleton, heq, or_false]

theorem setFilters {n : Node} (hn : u.node? id = some n) {filters : List Filter}
    (hfilters : ∀ {m}, t.node? id = some m → n = resolvedNode t.catalog m ∨ n = m →
      { n with filters := filters } = resolvedNode t.catalog m) :
    t.Resolved (done ++ [id]) (u.setFilters id filters) := by
  refine hresolved.push hresolved.catalog ?_ ?_
  · intro n' hn'
    rw [node?_setFilters_self hn, Option.some.injEq] at hn'
    obtain ⟨m, hm, heq⟩ := hresolved.node hn
    refine ⟨m, hm, hn' ▸ hfilters hm ?_⟩
    split at heq
    · exact .inl heq
    · exact .inr heq
  · intro a n' hne hn'
    rwa [node?_setFilters_of_ne hne] at hn'

theorem resolveStep (id : NodeId) : t.Resolved (done ++ [id]) (u.resolveStep id) := by
  rw [Tree.resolveStep]
  split
  · next hnone =>
    refine hresolved.push hresolved.catalog ?_ fun _ hn ↦ hn
    intro n hn
    rw [hnone] at hn
    cases hn
  · next n hn =>
    dsimp only
    rw [hresolved.catalog]
    split
    · next hmatch =>
      refine hresolved.setFilters hn ?_
      rintro m hm (rfl | rfl)
      · rw [keptFilters_resolvedNode]
      · exact (resolvedNode_of_isMatchable hmatch).symm
    · next hbad =>
      split
      · next heq =>
        -- a root that matches nothing has not been done before
        have hset : t.Resolved (done ++ [id]) (u.setFilters id []) := by
          refine hresolved.setFilters hn ?_
          rintro m hm (rfl | rfl)
          · exact absurd (isMatchable_resolvedNode _ _) hbad
          · rw [resolvedNode, if_neg hbad]
        exact ⟨hset.catalog, hset.node⟩
      · next hne =>
        refine hresolved.push ?_ ?_ ?_
        · rw [remove, catalog_removeUp]
          exact hresolved.catalog
        · intro n' hn'
          rw [node?_remove_self hne] at hn'
          cases hn'
        · intro a n' hne' hn'
          have hold := node?_of_removeUp hn'
          rwa [node?_setFilters_of_ne hne'] at hold

theorem foldl (ids : List NodeId) : t.Resolved (done ++ ids) (ids.foldl Tree.resolveStep u) := by
  induction ids generalizing done u with
  | nil => simpa using hresolved
  | cons id ids ih => simpa using ih (hresolved.resolveStep id)

end Resolved

theorem resolved_nil (t : Tree) : t.Resolved [] t := ⟨rfl, fun {_ n} hn ↦ ⟨n, hn, by simp⟩⟩

theorem catalog_pruneByFilters (t : Tree) : t.pruneByFilters.catalog = t.catalog :=
  (t.resolved_nil.foldl t.walk).catalog

/-- The steps that filter pruning leaves are resolved. -/
theorem Grown.node?_pruneByFilters (h : t.Grown) {id : NodeId} {n : Node}
    (hn : t.pruneByFilters.node? id = some n) :
    ∃ m, t.node? id = some m ∧ n = resolvedNode t.catalog m := by
  obtain ⟨m, hm, rfl⟩ := (t.resolved_nil.foldl t.walk).node hn
  have hmem : id ∈ t.walk := (mem_walk_iff h.built h.upward).mpr (Tree.isLive_iff.mpr ⟨m, hm⟩)
  exact ⟨m, hm, by rw [List.nil_append, if_pos hmem]⟩

/-! ## Deciding again -/

theorem setFilters_filters {id : NodeId} {n : Node} (hn : u.nodes[id]? = some n) :
    u.setFilters id n.filters = u := by
  have hnodes : u.nodes.modify id (fun m ↦ { m with filters := n.filters }) = u.nodes := by
    refine Array.ext_getElem? fun i ↦ ?_
    rw [Array.getElem?_modify]
    split
    · next heq =>
      subst heq
      rw [hn]
      rfl
    · rfl
  rw [setFilters, hnodes]

theorem resolveStep_eq_self {id : NodeId}
    (hid : ∀ n, u.node? id = some n → ∃ m, n = resolvedNode u.catalog m) :
    u.resolveStep id = u := by
  rw [resolveStep]
  split
  · rfl
  · next n hn =>
    obtain ⟨m, rfl⟩ := hid n hn
    dsimp only
    rw [if_pos (isMatchable_resolvedNode _ _), keptFilters_resolvedNode]
    exact setFilters_filters (getElem?_of_node? hn)

/-- Deciding filters again changes nothing. -/
theorem Grown.pruneByFilters_pruneByFilters (h : t.Grown) :
    t.pruneByFilters.pruneByFilters = t.pruneByFilters := by
  have hstep : ∀ id, t.pruneByFilters.resolveStep id = t.pruneByFilters := by
    intro id
    refine resolveStep_eq_self fun n hn ↦ ?_
    obtain ⟨m, -, rfl⟩ := h.node?_pruneByFilters hn
    exact ⟨m, by rw [catalog_pruneByFilters]⟩
  rw [pruneByFilters]
  exact List.foldl_fixed' hstep _

/-! ## The leaves that are left -/

/-- The leaves are those of the tree before that are live. -/
def SiftsLeaves (t u : Tree) : Prop := u.leaves = t.leaves.filter u.isLive

theorem SiftsLeaves.markRemoved (h : t.SiftsLeaves u) (b : NodeId) :
    t.SiftsLeaves (u.markRemoved b) := by
  have hleaves : (u.markRemoved b).leaves =
      u.leaves.filter fun l ↦ !(u.subtree u.nodes.size [b]).contains l := rfl
  rw [SiftsLeaves, hleaves, h, List.filter_filter]
  refine List.filter_congr fun l _ ↦ ?_
  rw [Bool.eq_iff_iff, isLive_markRemoved_iff_notMem]
  simp [and_comm]

theorem SiftsLeaves.setFilters (h : t.SiftsLeaves u) (id : NodeId) (filters : List Filter) :
    t.SiftsLeaves (u.setFilters id filters) := by
  have hlive : (u.setFilters id filters).isLive = u.isLive :=
    funext fun a ↦ isLive_setFilters u id filters a
  rw [SiftsLeaves, hlive]
  exact h

theorem SiftsLeaves.pruneByFilters (h : t.SiftsLeaves t) : t.SiftsLeaves t.pruneByFilters :=
  pruneByFilters_induction (motive := t.SiftsLeaves) (fun _ b filters hv ↦ hv.setFilters b filters)
    (fun _ hv ↦ hv) (fun _ b _ hv ↦ hv.markRemoved b) h

/-- The leaves of a tree that has grown are its steps with nothing below. -/
theorem Grown.mem_leaves_iff (h : t.Grown) {id : NodeId} :
    id ∈ t.leaves ↔ id < t.nodes.size ∧ t.listedBelow id = [] := by
  induction h generalizing id with
  | root catalog spec =>
    simp only [ofRoot, List.mem_singleton]
    constructor
    · rintro rfl
      exact ⟨Nat.zero_lt_one, rfl⟩
    · rintro ⟨hid, -⟩
      exact Nat.lt_one_iff.mp hid
  | @child t t' parent spec grown added ih =>
    obtain ⟨above, habove, hsize, -⟩ := exists_nodes_addChild? added
    have hparent : parent < t.nodes.size := (Array.getElem?_eq_some_iff.mp habove).1
    have hleaves : t'.leaves = t.leaves.filter (· ≠ parent) ++ [t.nodes.size] := by
      obtain ⟨_, -, rfl⟩ := Option.map_eq_some_iff.mp added
      rfl
    have hbelow : t'.listedBelow id = [] ↔ t.listedBelow id = [] ∧ id ≠ parent := by
      simp only [List.eq_nil_iff_forall_not_mem, mem_listedBelow_addChild? added, not_or]
      constructor
      · intro hnone
        exact ⟨fun c ↦ (hnone c).1, fun heq ↦ (hnone t.nodes.size).2 ⟨heq, rfl⟩⟩
      · rintro ⟨hnone, hne⟩ c
        exact ⟨hnone c, fun hc ↦ hne hc.1⟩
    rw [hleaves, hbelow, hsize, List.mem_append, List.mem_filter, decide_eq_true_eq,
      List.mem_singleton, ih]
    constructor
    · rintro (⟨⟨hid, hnone⟩, hne⟩ | rfl)
      · exact ⟨hid.trans (Nat.lt_succ_self _), hnone, hne⟩
      · refine ⟨Nat.lt_succ_self _, ?_, hparent.ne'⟩
        rw [listedBelow, Array.getElem?_eq_none le_rfl]
        rfl
    · rintro ⟨hid, hnone, hne⟩
      rcases Nat.lt_succ_iff_lt_or_eq.mp hid with hid | hid
      · exact .inl ⟨⟨hid, hnone⟩, hne⟩
      · exact .inr hid

theorem Grown.leaves_pruneByFilters (h : t.Grown) :
    t.pruneByFilters.leaves = t.leaves.filter t.pruneByFilters.isLive := by
  have hstart : t.SiftsLeaves t :=
    (List.filter_eq_self.mpr fun l hl ↦ h.isLive_iff.mpr (h.mem_leaves_iff.mp hl).1).symm
  exact hstart.pruneByFilters

/-! ## The paths that are left -/

theorem SameFrame.pathTo (h : t.SameFrame u) (id : NodeId) : u.pathTo id = t.pathTo id := by
  rw [Tree.pathTo, Tree.pathTo, h.ancestors]

theorem Grown.mem_children_iff (h : t.Grown) {above id : NodeId} :
    id ∈ t.children above ↔ t.IsParent above id := by
  rw [Tree.mem_children_iff h.built h.decided.trims, and_iff_left_iff_imp]
  exact fun hparent ↦ h.isLive_iff.mpr hparent.lt_size

/-- A step below the root is left exactly when nothing at or above it rules it out and it emits, had
no children, or has a child that is left. -/
theorem Grown.isLive_pruneByFilters_iff (h : t.Grown) {id : NodeId} (hid : id < t.nodes.size)
    (hne : id ≠ rootId) : t.pruneByFilters.isLive id ↔
      (∀ a ∈ t.ancestors id, a ≠ rootId → t.matchableAt a) ∧
        (t.emitsAt id ∨ t.children id = [] ∨ ∃ c ∈ t.children id, t.pruneByFilters.isLive c) := by
  have hchildless : t.children id = [] ↔ t.listedBelow id = [] := by
    simp only [List.eq_nil_iff_forall_not_mem, h.mem_children_iff, h.built.mem_listedBelow_iff]
  rw [h.isLive_pruneByFilters]
  constructor
  · intro hkept
    refine ⟨fun a ha hne' ↦ ?_, ?_⟩
    · exact Bool.not_eq_false _ ▸ hkept.not_bad h.built.rooted ha hne'
    · rcases hkept.stands_or_child h.built.rooted hne with ⟨-, hemits | hnil⟩ | ⟨c, hparent, hc⟩
      · exact .inl hemits
      · exact .inr (.inl (hchildless.mpr hnil))
      · exact .inr (.inr ⟨c, h.mem_children_iff.mpr hparent, h.isLive_pruneByFilters.mpr hc⟩)
  · rintro ⟨hgood, hstays⟩
    have hself : t.Stands id → t.Kept (fun a ↦ t.matchableAt a = false) id := fun hstands ↦
      .inr ⟨id, hstands, t.mem_ancestors_self id, fun a ha hne' hbad ↦
        Bool.eq_false_iff.mp hbad (hgood a ha hne')⟩
    rcases hstays with hemits | hnil | ⟨c, hc, hlive⟩
    · exact hself ⟨hid, .inl hemits⟩
    · exact hself ⟨hid, .inr (hchildless.mp hnil)⟩
    · have hparent := h.mem_children_iff.mp hc
      exact (h.isLive_pruneByFilters.mp hlive).above h.built.rooted
        (hparent.mem_ancestors h.built.rooted)

/-- A leaf is left exactly when every step on the path to it can match something. -/
theorem Grown.isLive_leaf_pruneByFilters (h : t.Grown) (hroot : t.matchableAt rootId) {id : NodeId}
    (hleaf : id ∈ t.leaves) :
    t.pruneByFilters.isLive id = (t.pathTo id).all.all t.matchableAt := by
  obtain ⟨hid, hnil⟩ := h.mem_leaves_iff.mp hleaf
  rw [Bool.eq_iff_iff, List.all_eq_true]
  simp only [mem_all_pathTo_iff h.built.rooted hid]
  by_cases hne : id = rootId
  · subst hne
    rw [ancestors_rootId h.built.rooted]
    simpa [hroot] using h.isLive_pruneByFilters.mpr (.inl rfl)
  · have hchildless : t.children id = [] := by
      simp only [List.eq_nil_iff_forall_not_mem, h.mem_children_iff,
        ← h.built.mem_listedBelow_iff, hnil]
      simp
    rw [h.isLive_pruneByFilters_iff hid hne, and_iff_left (.inr (.inl hchildless))]
    constructor
    · intro hgood a ha
      by_cases heq : a = rootId
      · exact heq ▸ hroot
      · exact hgood a ha heq
    · exact fun hgood a ha _ ↦ hgood a ha

theorem Grown.regularPaths_pruneByFilters (h : t.Grown) (hroot : t.matchableAt rootId) :
    t.pruneByFilters.regularPaths =
      t.regularPaths.filter fun p ↦ p.all.all t.matchableAt := by
  have hframe : t.SameFrame t.pruneByFilters := lasting_frameOf.across_pruneByFilters t
  have hpathTo : t.pruneByFilters.pathTo = t.pathTo := funext hframe.pathTo
  rw [regularPaths, regularPaths, h.rootInvalid_pruneByFilters, hroot, h.rootInvalid]
  simp only [Bool.not_true, Bool.false_eq_true, if_false]
  rw [hpathTo, h.leaves_pruneByFilters, List.filter_map]
  refine congrArg (List.map t.pathTo) (List.filter_congr fun l hl ↦ ?_)
  exact h.isLive_leaf_pruneByFilters hroot hl

/-- **Filter pruning keeps the branches that can match something.** A step below the root is left
exactly when it and the steps above it can match something and it emits, had no children or has a
child that is left. The root is marked exactly when it can match nothing, and the tree has no paths
then; else the regular paths are those before on which every step can match something, in the same
order. Deciding filters again changes nothing. -/
theorem pruneByFilters_keeps_matchable (h : t.Grown) :
    (∀ id < t.nodes.size, id ≠ rootId → (t.pruneByFilters.isLive id ↔
      (∀ a ∈ t.ancestors id, a ≠ rootId → t.matchableAt a) ∧
        (t.emitsAt id ∨ t.children id = [] ∨ ∃ c ∈ t.children id, t.pruneByFilters.isLive c))) ∧
    (t.pruneByFilters.rootInvalid ↔ ¬ t.matchableAt rootId) ∧
    (¬ t.matchableAt rootId → t.pruneByFilters.regularPaths = [] ∧
      t.pruneByFilters.optionalPaths = [] ∧ t.pruneByFilters.emitPaths = []) ∧
    (t.matchableAt rootId → t.pruneByFilters.regularPaths =
      t.regularPaths.filter fun p ↦ p.all.all t.matchableAt) ∧
    t.pruneByFilters.pruneByFilters = t.pruneByFilters := by
  have hmarked : t.pruneByFilters.rootInvalid ↔ ¬ t.matchableAt rootId := by
    rw [h.rootInvalid_pruneByFilters, Bool.not_eq_true', Bool.not_eq_true]
  refine ⟨fun id hid hne ↦ h.isLive_pruneByFilters_iff hid hne, hmarked, fun hbad ↦ ?_,
    h.regularPaths_pruneByFilters, h.pruneByFilters_pruneByFilters⟩
  have hinvalid := hmarked.mpr hbad
  rw [regularPaths, optionalPaths, emitPaths, if_pos hinvalid, if_pos hinvalid, if_pos hinvalid]
  exact ⟨rfl, rfl, rfl⟩

/-- A vertex with two edges. The first emits and leads to a vertex with a label that its table does
not have, the second to a vertex with the label of its table. -/
def forkedTree : Tree :=
  let labeled (label : String) : StepSpec := {
    table := .vertex "s" "a"
    filters := [{ key := labelKey, predicate := .eq, value := .str label }] }
  let edge : StepSpec := { table := .edge "s" "e", element := .edge }
  let root := ofRoot none { table := .vertex "s" "a" }
  let first := (root.addChild? 0 { edge with emits := true }).getD root
  let firstEnd := (first.addChild? 1 (labeled "b")).getD first
  let second := (firstEnd.addChild? 0 edge).getD firstEnd
  (second.addChild? 3 (labeled "a")).getD second

theorem grown_forkedTree : forkedTree.Grown := by
  unfold forkedTree
  exact ((((Grown.root _ _).addChild _ _).addChild _ _).addChild _ _).addChild _ _

/-- The first edge stays without its end, since it emits, and the path left is the second. -/
theorem pruneByFilters_forkedTree : forkedTree.Grown ∧ forkedTree.pruneByFilters.isLive 1 ∧
    ¬ forkedTree.pruneByFilters.isLive 2 ∧
      forkedTree.regularPaths = [⟨[1, 2]⟩, ⟨[3, 4]⟩] ∧
        forkedTree.pruneByFilters.regularPaths = [⟨[3, 4]⟩] := by
  obtain ⟨hlive, -, -, hpaths, -⟩ := pruneByFilters_keeps_matchable grown_forkedTree
  refine ⟨grown_forkedTree, ?_, fun hend ↦ ?_, by decide +kernel, ?_⟩
  · exact (hlive 1 (by decide) (by decide)).mpr ⟨by decide +kernel, .inl (by decide)⟩
  · have hgood := ((hlive 2 (by decide) (by decide)).mp hend).1 2 (by decide) (by decide)
    exact absurd hgood (by decide +kernel)
  · rw [hpaths (by decide +kernel)]
    decide +kernel

end Tree

end PathQuery
