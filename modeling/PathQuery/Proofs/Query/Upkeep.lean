import PathQuery.Proofs.Query.DepthPruning
import PathQuery.Proofs.Query.FilterOutcome

/-!
# Trees that are looked after

A tree keeps three records that are changed apart from each other: which steps have been removed,
which steps are listed below a step, and the leaves. They stay in order as long as steps are only
added below live ones. Adding below a removed step would leave a live step under a removed one,
which no walk meets.

The invariant is `Orderly`. It says nothing of a childless step being a leaf, because pruning to a
depth leaves childless steps that are optional or emit, and these are no leaves.
-/

namespace PathQuery

namespace Tree

variable {t u : Tree}

/-- The trees that pruning and adding below live steps lead to. -/
inductive Tended : Tree → Prop
  | root (catalog : Option Topology) (spec : RootSpec) : Tended (ofRoot catalog spec)
  | child {t t' : Tree} {parent : NodeId} {spec : StepSpec} (tended : Tended t)
      (live : t.isLive parent) (added : t.addChild? parent spec = some t') : Tended t'
  | prune {t : Tree} (tended : Tended t) (maxDepth : Int) : Tended (t.prune maxDepth)
  | pruneByFilters {t : Tree} (tended : Tended t) : Tended t.pruneByFilters

theorem Tended.built (h : t.Tended) : t.Built := by
  induction h with
  | root catalog spec => exact .root catalog spec
  | child _ _ added ih => exact .child ih added
  | prune _ maxDepth ih => exact .prune ih maxDepth
  | pruneByFilters _ ih => exact .pruneByFilters ih

theorem Tended.addChild (h : t.Tended) {parent : NodeId} (hlive : t.isLive parent)
    (spec : StepSpec) : ((t.addChild? parent spec).getD t).Tended := by
  cases hadd : t.addChild? parent spec with
  | none => exact h
  | some t' => exact h.child hlive hadd

/-! ## Each operation keeps the records in order -/

/-- What is removed and what is a leaf fit together. -/
structure Orderly (t : Tree) : Prop where
  /-- Nothing live is left below a removed step. -/
  upward : t.Upward
  /-- The root is never removed. -/
  root : t.isLive rootId
  /-- A leaf is listed once. -/
  nodup : t.leaves.Nodup
  /-- A leaf is live. -/
  live : ∀ {l}, l ∈ t.leaves → t.isLive l
  /-- Nothing live stands below a leaf. -/
  childless : ∀ {l c}, l ∈ t.leaves → t.IsParent l c → ¬ t.isLive c

theorem orderly_ofRoot (catalog : Option Topology) (spec : RootSpec) :
    (ofRoot catalog spec).Orderly := by
  have hgrown : (ofRoot catalog spec).Grown := .root catalog spec
  have hleaf : ∀ {l}, l ∈ (ofRoot catalog spec).leaves → l = rootId := List.mem_singleton.mp
  refine ⟨hgrown.upward, rfl, List.nodup_singleton 0, fun hl ↦ hleaf hl ▸ rfl, ?_⟩
  intro l c _ hparent _
  -- the root is the only step, and it stands below nothing
  obtain rfl : c = rootId := Nat.lt_one_iff.mp hparent.lt_size
  exact not_isParent_rootId hgrown.built.rooted hparent

section AddChild

variable {t' : Tree} {parent : NodeId} {spec : StepSpec} (hadd : t.addChild? parent spec = some t')
include hadd

theorem leaves_addChild? : t'.leaves = t.leaves.filter (· ≠ parent) ++ [t.nodes.size] := by
  obtain ⟨_, -, rfl⟩ := Option.map_eq_some_iff.mp hadd
  rfl

theorem listedBelow_addChild? (id : NodeId) : t'.listedBelow id =
    if id = parent then t.listedBelow id ++ [t.nodes.size] else t.listedBelow id := by
  obtain ⟨n, hn, -, hget⟩ := exists_nodes_addChild? hadd
  obtain ⟨hlt, -⟩ := Array.getElem?_eq_some_iff.mp hn
  rw [listedBelow, listedBelow, hget]
  by_cases hnew : id = t.nodes.size
  · subst hnew
    simp [childNode, hlt.ne']
  · by_cases heq : id = parent
    · subst heq
      simp [hnew, hn]
    · simp [hnew, heq]

/-- Below a live step, a step may be added: it becomes a leaf in place of the one above it. -/
theorem Orderly.addChild? (h : t.Built) (horderly : t.Orderly) (hlive : t.isLive parent) :
    t'.Orderly := by
  have hlt : parent < t.nodes.size := lt_size_of_isLive hlive
  have hlive' : ∀ {id}, t'.isLive id ↔ id = t.nodes.size ∨ t.isLive id :=
    fun {id} ↦ isLive_addChild? hadd id
  have hnew : ∀ {c}, ¬ t.IsParent t.nodes.size c := fun hparent ↦
    absurd ((hparent.lt h.rooted).trans hparent.lt_size) (lt_irrefl _)
  have hleaf : ∀ {l}, l ∈ t'.leaves ↔ l ∈ t.leaves ∧ l ≠ parent ∨ l = t.nodes.size := by
    intro l
    rw [leaves_addChild? hadd]
    simp
  refine ⟨fun {above id} hparent hid ↦ ?_, hlive'.mpr (.inr horderly.root), ?_, fun hl ↦ ?_,
    fun {l c} hl hparent hc ↦ ?_⟩
  · -- the new step stands below a live one, and nothing else has changed
    rw [hlive'] at hid ⊢
    rcases (isParent_addChild? hadd).mp hparent with hold | ⟨rfl, -⟩
    · exact .inr (horderly.upward hold (hid.resolve_left hold.lt_size.ne))
    · exact .inr hlive
  · rw [leaves_addChild? hadd]
    refine (horderly.nodup.filter _).append (List.nodup_singleton _) ?_
    rw [List.disjoint_singleton]
    intro hmem
    exact absurd (lt_size_of_isLive (horderly.live (List.mem_filter.mp hmem).1)) (lt_irrefl _)
  · rcases hleaf.mp hl with ⟨hl, -⟩ | rfl
    · exact hlive'.mpr (.inr (horderly.live hl))
    · exact hlive'.mpr (.inl rfl)
  · rcases (isParent_addChild? hadd).mp hparent with hold | ⟨rfl, -⟩
    · have hc : t.isLive c := (hlive'.mp hc).resolve_left hold.lt_size.ne
      rcases hleaf.mp hl with ⟨hl, -⟩ | rfl
      · exact horderly.childless hl hold hc
      · exact hnew hold
    · -- the parent is no leaf any more
      rcases hleaf.mp hl with ⟨-, hne⟩ | rfl
      · exact hne rfl
      · exact absurd hlt (lt_irrefl _)

end AddChild

/-! ### The walk repeats no step -/

theorem Built.nodup_listedBelow (h : t.Built) (id : NodeId) : (t.listedBelow id).Nodup := by
  induction h with
  | root catalog spec =>
    have hnil : (ofRoot catalog spec).listedBelow id = [] := by
      cases id <;> rfl
    rw [hnil]
    exact List.nodup_nil
  | @child t t' parent spec built added ih =>
    rw [listedBelow_addChild? added]
    split
    · refine ih.append (List.nodup_singleton _) ?_
      rw [List.disjoint_singleton]
      intro hmem
      exact absurd (built.mem_listedBelow_iff.mp hmem).lt_size (lt_irrefl _)
    · exact ih
  | @prune t _ maxDepth ih =>
    have hframe : t.SameFrame (t.prune maxDepth) := lasting_frameOf.across_prune t maxDepth
    rwa [hframe.listedBelow]
  | @pruneByFilters t _ ih =>
    have hframe : t.SameFrame t.pruneByFilters := lasting_frameOf.across_pruneByFilters t
    rwa [hframe.listedBelow]

theorem listedBelow_of_isLive {id : NodeId} (hlive : t.isLive id) :
    ((t.node? id).map (·.children)).getD [] = t.listedBelow id := by
  obtain ⟨n, hn⟩ := isLive_iff.mp hlive
  rw [listedBelow_of_node? hn, hn, Option.map_some, Option.getD_some]

/-- The steps below a generation are met once, as each of them stands below one step only. -/
theorem nodup_generations (h : t.Built) {fuel k : ℕ} {ids : List NodeId} (hnodup : ids.Nodup)
    (hids : ∀ id ∈ ids, t.depthAt id = k) : (t.generations fuel ids).Nodup := by
  induction fuel generalizing k ids with
  | zero => exact List.nodup_nil
  | succ fuel ih =>
    rw [generations]
    split
    · exact List.nodup_nil
    · have hmem : ∀ {id c}, id ∈ ids.filter t.isLive →
          (c ∈ ((t.node? id).map (·.children)).getD [] ↔ t.IsParent id c) := by
        intro id c hid
        rw [listedBelow_of_isLive (List.mem_filter.mp hid).2, h.mem_listedBelow_iff]
      have hdeeper : ∀ c ∈ (ids.filter t.isLive).flatMap fun id ↦
          ((t.node? id).map (·.children)).getD [], t.depthAt c = k + 1 := by
        intro c hc
        obtain ⟨id, hid, hc⟩ := List.mem_flatMap.mp hc
        rw [h.graded.child ((hmem hid).mp hc), hids id (List.mem_filter.mp hid).1]
      refine (hnodup.filter _).append (ih (List.nodup_flatMap.mpr ⟨fun id hid ↦ ?_, ?_⟩) hdeeper) ?_
      · rw [listedBelow_of_isLive (List.mem_filter.mp hid).2]
        exact h.nodup_listedBelow id
      · refine (hnodup.filter _).imp_of_mem fun {a b} ha hb hne c hca hcb ↦ hne ?_
        exact Option.some.inj (((hmem ha).mp hca).symm.trans ((hmem hb).mp hcb))
      · -- what is met later lies deeper
        intro id hid hlater
        have hdepth := (pairwise_depthAt_generations h hdeeper).1 id hlater
        rw [hids id (List.mem_filter.mp hid).1] at hdepth
        exact absurd hdepth (Nat.not_succ_le_self k)

theorem nodup_walk (h : t.Built) : t.walk.Nodup :=
  nodup_generations h (List.nodup_singleton _)
    fun _ hid ↦ (congrArg t.depthAt (List.mem_singleton.mp hid)).trans h.graded.root

/-- Pruning to a depth makes leaves anew, off the walk. -/
theorem Orderly.prune (h : t.Built) (horderly : t.Orderly) (maxDepth : Int) :
    (t.prune maxDepth).Orderly := by
  have hup : t.Upward := horderly.upward
  have hroot := horderly.root
  have htrims : t.Trims (t.prune maxDepth) :=
    ⟨lasting_frameOf.across_prune t maxDepth, upward_prune h hup hroot maxDepth⟩
  have hleaf : ∀ {l}, l ∈ (t.prune maxDepth).leaves ↔ (t.prune maxDepth).isLive l ∧
      (t.depthAt l : Int) = maxDepth ∧ (t.prune maxDepth).children l = [] :=
    mem_leaves_prune_iff h hup hroot maxDepth
  refine ⟨htrims.upward, ?_, (nodup_walk h).filter _, fun hl ↦ (hleaf.mp hl).1,
    fun {l c} hl hparent hc ↦ ?_⟩
  · exact (isLive_prune_iff h hup hroot maxDepth).mpr ⟨hroot, .inl rfl⟩
  · have hmem : c ∈ (t.prune maxDepth).children l :=
      (mem_children_iff h htrims).mpr ⟨htrims.frame.isParent.mp hparent, hc⟩
    rw [(hleaf.mp hl).2.2] at hmem
    cases hmem

/-! ### Removing steps and deciding filters -/

/-- One tree is another with some steps below the root removed, from the leaves too, and some
filters decided. -/
structure Pared (t u : Tree) : Prop where
  /-- The tree has been pruned, and nothing else. -/
  trims : t.Trims u
  /-- The root is left. -/
  root : u.isLive rootId
  /-- No step comes back. -/
  live : ∀ {id}, u.isLive id → t.isLive id
  /-- The leaves are those that are left. -/
  leaves : t.SiftsLeaves u

theorem Orderly.pared (h : t.Orderly) : t.Pared t where
  trims := ⟨rfl, h.upward⟩
  root := h.root
  live := id
  leaves := (List.filter_eq_self.mpr fun _ hl ↦ h.live hl).symm

theorem Pared.setFilters (h : t.Pared u) (id : NodeId) (filters : List Filter) :
    t.Pared (u.setFilters id filters) where
  trims := h.trims.setFilters id filters
  root := (isLive_setFilters u id filters rootId).trans h.root
  live := by
    intro a hlive
    rw [isLive_setFilters] at hlive
    exact h.live hlive
  leaves := h.leaves.setFilters id filters

theorem Pared.markRemoved (hbuilt : t.Built) (h : t.Pared u) {id : NodeId} (hne : id ≠ rootId) :
    t.Pared (u.markRemoved id) where
  trims := h.trims.markRemoved hbuilt id
  root := by
    rw [isLive_markRemoved hbuilt h.trims, ancestors_rootId hbuilt.rooted, List.mem_singleton]
    exact ⟨h.root, hne⟩
  live := fun hlive ↦ h.live ((isLive_markRemoved hbuilt h.trims).mp hlive).1
  leaves := h.leaves.markRemoved id

theorem Orderly.of_pared (horderly : t.Orderly) (h : t.Pared u) : u.Orderly where
  upward := h.trims.upward
  root := h.root
  nodup := h.leaves ▸ horderly.nodup.filter _
  live := by
    intro l hl
    rw [h.leaves] at hl
    exact (List.mem_filter.mp hl).2
  childless := by
    intro l c hl hparent hc
    rw [h.leaves] at hl
    exact horderly.childless (List.mem_filter.mp hl).1 (h.trims.frame.isParent.mp hparent)
      (h.live hc)

theorem Orderly.pruneByFilters (h : t.Built) (horderly : t.Orderly) : t.pruneByFilters.Orderly :=
  horderly.of_pared <| pruneByFilters_induction (motive := t.Pared)
    (fun _ id filters hv ↦ hv.setFilters id filters)
    (fun _ hv ↦ ⟨⟨hv.trims.frame, hv.trims.upward⟩, hv.root, hv.live, hv.leaves⟩)
    (fun _ _ hne hv ↦ hv.markRemoved h hne) horderly.pared

/-- A tree that is looked after stays in order. -/
theorem Tended.orderly (h : t.Tended) : t.Orderly := by
  induction h with
  | root catalog spec => exact orderly_ofRoot catalog spec
  | child tended live added ih => exact ih.addChild? added tended.built live
  | prune tended maxDepth ih => exact ih.prune tended.built maxDepth
  | pruneByFilters tended ih => exact ih.pruneByFilters tended.built

end Tree

end PathQuery
