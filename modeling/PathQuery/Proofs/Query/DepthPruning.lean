import PathQuery.Proofs.Query.Removal

/-!
# What pruning to a depth keeps

Pruning to a depth looks at the steps from the bottom up and removes a childless one unless it is
optional, emits or lies deep enough. The walk goes from one generation to the next, so that a step
is looked at after its children: when its turn comes, a child is left only if it leads on to a step
that is kept for its own sake. What is left are the steps at or above such a step.

A tree that is pruned to its own depth loses none of its deepest steps, and these become its leaves.
-/

namespace PathQuery

namespace Tree

variable {t u : Tree}

/-! ## The walk -/

theorem depthAt_of_mem_children (h : t.Built) {id c : NodeId} (hlive : t.isLive id)
    (hc : c ∈ ((t.node? id).map (·.children)).getD []) : t.depthAt c = t.depthAt id + 1 := by
  obtain ⟨n, hn⟩ := isLive_iff.mp hlive
  rw [hn, Option.map_some, Option.getD_some, ← listedBelow_of_node? hn] at hc
  exact h.graded.child (h.mem_listedBelow_iff.mp hc)

/-- A generation comes before the next, which lies one deeper. -/
theorem pairwise_depthAt_generations (h : t.Built) {fuel k : ℕ} {ids : List NodeId}
    (hids : ∀ id ∈ ids, t.depthAt id = k) :
    (∀ id ∈ t.generations fuel ids, k ≤ t.depthAt id) ∧
      (t.generations fuel ids).Pairwise fun a b ↦ t.depthAt a ≤ t.depthAt b := by
  induction fuel generalizing k ids with
  | zero => exact ⟨by simp [generations], .nil⟩
  | succ fuel ih =>
    have hnext : ∀ c ∈ (ids.filter t.isLive).flatMap fun id ↦
        ((t.node? id).map (·.children)).getD [], t.depthAt c = k + 1 := by
      intro c hc
      obtain ⟨id, hid, hc⟩ := List.mem_flatMap.mp hc
      obtain ⟨hid, hlive⟩ := List.mem_filter.mp hid
      rw [depthAt_of_mem_children h hlive hc, hids id hid]
    obtain ⟨hdeeper, hordered⟩ := ih hnext
    rw [generations]
    split
    · exact ⟨by simp, .nil⟩
    · have hhere : ∀ id ∈ ids.filter t.isLive, t.depthAt id = k :=
        fun id hid ↦ hids id (List.mem_filter.mp hid).1
      refine ⟨fun id hid ↦ ?_, List.pairwise_append.mpr ⟨?_, hordered, fun a ha b hb ↦ ?_⟩⟩
      · rcases List.mem_append.mp hid with hid | hid
        · exact (hhere id hid).ge
        · exact (Nat.le_succ k).trans (hdeeper id hid)
      · exact List.pairwise_of_forall_mem_list fun a ha b hb ↦
          (hhere a ha).trans_le (hhere b hb).ge
      · exact (hhere a ha).trans_le ((Nat.le_succ k).trans (hdeeper b hb))

/-- The walk starts at the root, which it does not meet again, and goes down. -/
theorem exists_walk_eq (h : t.Built) (hroot : t.isLive rootId) :
    ∃ rest, t.walk = rootId :: rest ∧ rootId ∉ rest ∧
      rest.Pairwise fun a b ↦ t.depthAt a ≤ t.depthAt b := by
  obtain ⟨fuel, hfuel⟩ := Nat.exists_eq_add_one_of_ne_zero
    (Nat.ne_zero_of_lt (lt_size_of_isLive hroot))
  have hwalk : t.walk =
      rootId :: t.generations fuel (((t.node? rootId).map (·.children)).getD []) := by
    rw [walk, hfuel, generations]
    simp [rootId, show t.isLive 0 from hroot]
  have hbelow : ∀ c ∈ ((t.node? rootId).map (·.children)).getD [], t.depthAt c = 1 := by
    intro c hc
    rw [depthAt_of_mem_children h hroot hc, h.graded.root]
  obtain ⟨hdeeper, hordered⟩ := pairwise_depthAt_generations h hbelow
  refine ⟨_, hwalk, fun hmem ↦ ?_, hordered⟩
  exact absurd (hdeeper rootId hmem) (by rw [h.graded.root]; decide)

/-! ## The depth of a tree -/

theorem mem_walkNodes_iff {id : NodeId} {n : Node} :
    (id, n) ∈ t.walkNodes ↔ id ∈ t.walk ∧ t.node? id = some n := by
  rw [walkNodes, List.mem_filterMap]
  constructor
  · rintro ⟨id', hid, hsome⟩
    obtain ⟨n', hn, heq⟩ := Option.map_eq_some_iff.mp hsome
    obtain ⟨rfl, rfl⟩ := Prod.mk.inj heq
    exact ⟨hid, hn⟩
  · rintro ⟨hid, hn⟩
    exact ⟨id, hid, by rw [hn, Option.map_some]⟩

theorem mem_depths_iff {k : ℕ} :
    k ∈ t.walkNodes.map (·.2.depth) ↔ ∃ id ∈ t.walk, t.isLive id ∧ t.depthAt id = k := by
  constructor
  · intro hk
    obtain ⟨⟨id, n⟩, hmem, rfl⟩ := List.mem_map.mp hk
    obtain ⟨hid, hn⟩ := mem_walkNodes_iff.mp hmem
    exact ⟨id, hid, isLive_iff.mpr ⟨n, hn⟩, depthAt_of_node? hn⟩
  · rintro ⟨id, hid, hlive, rfl⟩
    obtain ⟨n, hn⟩ := isLive_iff.mp hlive
    exact List.mem_map.mpr ⟨(id, n), mem_walkNodes_iff.mpr ⟨hid, hn⟩, (depthAt_of_node? hn).symm⟩

theorem depth_mem (t : Tree) :
    t.depth ∈ 0 :: t.walkNodes.map (·.2.depth) ∧
      ∀ k ∈ t.walkNodes.map (·.2.depth), k ≤ t.depth := by
  have hmax : (0 :: t.walkNodes.map (·.2.depth)).max? = some t.depth := List.max?_cons'
  obtain ⟨hmem, hle⟩ := List.max?_eq_some_iff.mp hmax
  exact ⟨hmem, fun k hk ↦ hle k (List.mem_cons_of_mem _ hk)⟩

theorem depthAt_le_depth (h : t.Built) (hup : t.Upward) {id : NodeId} (hlive : t.isLive id) :
    t.depthAt id ≤ t.depth :=
  t.depth_mem.2 _ (mem_depths_iff.mpr ⟨id, (mem_walk_iff h hup).mpr hlive, hlive, rfl⟩)

theorem exists_depthAt_eq_depth (h : t.Built) (hroot : t.isLive rootId) :
    ∃ id, t.isLive id ∧ t.depthAt id = t.depth := by
  rcases List.mem_cons.mp t.depth_mem.1 with hzero | hmem
  · exact ⟨rootId, hroot, by rw [h.graded.root, hzero]⟩
  · obtain ⟨id, -, hlive, heq⟩ := mem_depths_iff.mp hmem
    exact ⟨id, hlive, heq⟩

/-! ## The steps that stay -/

/-- Whether a step of the arena is optional. -/
def optionalAt (t : Tree) (id : NodeId) : Bool := (t.nodes[id]?.map (·.isOptional)).getD false

theorem SameFrame.optionalAt (h : t.SameFrame u) (id : NodeId) :
    u.optionalAt id = t.optionalAt id := by
  rw [Tree.optionalAt, Tree.optionalAt, h.read ⟨fun _ ↦ rfl, fun _ _ ↦ rfl⟩]

/-- A step that is kept for its own sake by pruning to a depth. -/
def Anchors (t : Tree) (maxDepth : Int) (id : NodeId) : Prop :=
  t.optionalAt id ∨ t.emitsAt id ∨ maxDepth ≤ t.depthAt id

/-- A step at or above one that is kept for its own sake, or the root. -/
def Reaches (t : Tree) (maxDepth : Int) (id : NodeId) : Prop :=
  id = rootId ∨ ∃ q, t.isLive q ∧ id ∈ t.ancestors q ∧ t.Anchors maxDepth q

theorem Reaches.above (h : Rooted t.skeleton) {maxDepth : Int} {id : NodeId}
    (hreaches : t.Reaches maxDepth id) {a : NodeId} (ha : a ∈ t.ancestors id) :
    t.Reaches maxDepth a := by
  rcases hreaches with rfl | ⟨q, hq, hid, hanchors⟩
  · rw [ancestors_rootId h, List.mem_singleton] at ha
    exact .inl ha
  · exact .inr ⟨q, hq, mem_ancestors_trans h ha hid, hanchors⟩

/-- A look at a step either finds a reason to keep it, or removes a childless one. -/
theorem pruneStep_cases (maxDepth : Int) (v : Tree) (id : NodeId) :
    (pruneStep maxDepth v id = v ∧
        (¬ v.isLive id ∨ v.Anchors maxDepth id ∨ v.children id ≠ [])) ∨
      (pruneStep maxDepth v id = v.markRemoved id ∧
        ¬ v.Anchors maxDepth id ∧ v.children id = []) := by
  rw [pruneStep]
  split
  · next hnone => exact .inl ⟨rfl, .inl (by simp [isLive, hnone])⟩
  · next n hn =>
    have hanchors : v.Anchors maxDepth id ↔
        n.isOptional ∨ n.emits ∨ maxDepth ≤ n.depth := by
      rw [Anchors, optionalAt, getElem?_of_node? hn, emitsAt_of_node? hn, depthAt_of_node? hn]
      rfl
    rw [hanchors]
    split
    · next hspared =>
      rw [Bool.or_eq_true] at hspared
      exact .inl ⟨rfl, .inr (.inl (hspared.imp_right .inl))⟩
    · next hplain =>
      rw [Bool.or_eq_true, not_or] at hplain
      split
      · next hgone =>
        rw [Bool.and_eq_true, decide_eq_true_eq, List.isEmpty_iff] at hgone
        refine .inr ⟨rfl, ?_, hgone.2⟩
        rintro (hoptional | hemits | hdeep)
        · exact hplain.1 hoptional
        · exact hplain.2 hemits
        · exact absurd hgone.1 (Int.not_lt.mpr hdeep)
      · next hstays =>
        rw [Bool.and_eq_true, decide_eq_true_eq, List.isEmpty_iff, not_and_or, Int.not_lt] at hstays
        exact .inl ⟨rfl, .inr (hstays.imp_left (.inr ∘ .inr))⟩

theorem SameFrame.anchors (hframe : t.SameFrame u) {maxDepth : Int} {id : NodeId} :
    u.Anchors maxDepth id ↔ t.Anchors maxDepth id := by
  rw [Anchors, Anchors, hframe.optionalAt, hframe.emitsAt, hframe.depthAt]

/-- Where pruning to a depth stands, once some steps have been looked at. -/
structure Looked (t : Tree) (maxDepth : Int) (done : List NodeId) (u : Tree) : Prop where
  /-- The tree has been pruned, and nothing else. -/
  trims : t.Trims u
  /-- No step comes back. -/
  live : ∀ {id}, u.isLive id → t.isLive id
  /-- Nothing is lost that leads to a step kept for its own sake. -/
  kept : ∀ {id}, t.isLive id → t.Reaches maxDepth id → u.isLive id
  /-- What is left of the steps looked at leads to one. -/
  done : ∀ id ∈ done, u.isLive id → t.Reaches maxDepth id

/-- A step is looked at after its children. -/
theorem Looked.pruneStep (h : t.Built) (hup : t.Upward) {maxDepth : Int} {done : List NodeId}
    (hlooked : t.Looked maxDepth done u) {id : NodeId} (hne : id ≠ rootId)
    (hchildren : ∀ c, t.IsParent id c → t.isLive c → c ∈ done) :
    t.Looked maxDepth (id :: done) (pruneStep maxDepth u id) := by
  have hframe := hlooked.trims.frame
  rcases pruneStep_cases maxDepth u id with ⟨heq, hstays⟩ | ⟨heq, hanchors, hchildless⟩
  · rw [heq]
    refine ⟨hlooked.trims, hlooked.live, hlooked.kept, fun x hx hlive ↦ ?_⟩
    rcases List.mem_cons.mp hx with rfl | hx
    · rcases hstays with hdead | hanchors | hchild
      · exact absurd hlive hdead
      · exact .inr ⟨x, hlooked.live hlive, t.mem_ancestors_self x, hframe.anchors.mp hanchors⟩
      · obtain ⟨c, hc⟩ := List.exists_mem_of_ne_nil _ hchild
        obtain ⟨hparent, hc⟩ := (mem_children_iff h hlooked.trims).mp hc
        have hreaches := hlooked.done c (hchildren c hparent (hlooked.live hc)) hc
        exact hreaches.above h.rooted (hparent.mem_ancestors h.rooted)
    · exact hlooked.done x hx hlive
  · rw [heq]
    have hlost : ¬ t.Reaches maxDepth id := by
      rintro (hroot | ⟨q, hq, hid, hq_anchors⟩)
      · exact hne hroot
      · by_cases hself : id = q
        · exact hanchors (hframe.anchors.mpr (hself ▸ hq_anchors))
        · -- the child that leads on to the step is live still
          obtain ⟨c, hparent, hc⟩ := exists_child_toward h.rooted hid hself
          have hlive := hlooked.kept (hup.isLive_of_mem_ancestors h.rooted hc hq)
            (.inr ⟨q, hq, hc, hq_anchors⟩)
          have hmem := (mem_children_iff h hlooked.trims).mpr ⟨hparent, hlive⟩
          rw [hchildless] at hmem
          cases hmem
    have hmark : ∀ y, (u.markRemoved id).isLive y ↔ u.isLive y ∧ id ∉ t.ancestors y :=
      fun _ ↦ isLive_markRemoved h hlooked.trims
    refine ⟨hlooked.trims.markRemoved h id, fun hlive ↦ hlooked.live ((hmark _).mp hlive).1,
      fun hlive hreaches ↦ ?_, fun x hx hlive ↦ ?_⟩
    · exact (hmark _).mpr ⟨hlooked.kept hlive hreaches, fun hmem ↦
        hlost (hreaches.above h.rooted hmem)⟩
    · obtain ⟨hlive, hnot⟩ := (hmark x).mp hlive
      rcases List.mem_cons.mp hx with rfl | hx
      · exact absurd (t.mem_ancestors_self x) hnot
      · exact hlooked.done x hx hlive

theorem Upward.looked (hup : t.Upward) (maxDepth : Int) : t.Looked maxDepth [] t where
  trims := ⟨rfl, hup⟩
  live := id
  kept := fun hlive _ ↦ hlive
  done := by simp

/-- In the walk the children of a step come after it. -/
theorem mem_of_isParent_of_suffix (h : t.Built) (hup : t.Upward) {rest l : List NodeId}
    {id c : NodeId} (hwalk : t.walk = rootId :: rest)
    (hordered : rest.Pairwise fun a b ↦ t.depthAt a ≤ t.depthAt b) (hsuffix : id :: l <:+ rest)
    (hparent : t.IsParent id c) (hlive : t.isLive c) : c ∈ l := by
  have hmem := (mem_walk_iff h hup).mpr hlive
  have hne : c ≠ rootId := by
    rintro rfl
    exact not_isParent_rootId h.rooted hparent
  rw [hwalk, List.mem_cons] at hmem
  obtain ⟨before, rfl⟩ := hsuffix
  have hdeeper : t.depthAt id < t.depthAt c := by
    rw [h.graded.child hparent]
    exact Nat.lt_succ_self _
  rcases List.mem_append.mp (hmem.resolve_left hne) with hc | hc
  · exact absurd ((List.pairwise_append.mp hordered).2.2 c hc id List.mem_cons_self)
      (Nat.not_le.mpr hdeeper)
  · rcases List.mem_cons.mp hc with rfl | hc
    · exact absurd hdeeper (lt_irrefl _)
    · exact hc

section Prune

variable (h : t.Built) (hup : t.Upward) (hroot : t.isLive rootId) (maxDepth : Int)
include h hup hroot

/-- Pruning to a depth is a look at every step. -/
theorem exists_looked_prune : ∃ v rest, t.walk = rootId :: rest ∧ t.Looked maxDepth rest v ∧
    t.prune maxDepth = { v with
      leaves := t.walk.filter fun id ↦
        match v.node? id with
        | some n => (n.depth : Int) = maxDepth && (v.children id).isEmpty
        | none => false } := by
  obtain ⟨rest, hwalk, hnotMem, hordered⟩ := exists_walk_eq h hroot
  -- the fold goes from the end of the walk to its start, so what has been looked at is a suffix
  have hfold : ∀ l, l <:+ rest →
      t.Looked maxDepth l (l.foldr (fun id v ↦ pruneStep maxDepth v id) t) := by
    intro l
    induction l with
    | nil => exact fun _ ↦ hup.looked maxDepth
    | cons id l ih =>
      intro hsuffix
      have hne : id ≠ rootId := by
        rintro rfl
        exact hnotMem (hsuffix.mem List.mem_cons_self)
      exact (ih ((List.suffix_cons id l).trans hsuffix)).pruneStep h hup hne fun c hparent hlive ↦
        mem_of_isParent_of_suffix h hup hwalk hordered hsuffix hparent hlive
  have horder : (t.walk.drop 1).reverse.foldl (pruneStep maxDepth) t =
      rest.foldr (fun id v ↦ pruneStep maxDepth v id) t := by
    rw [hwalk, List.drop_one, List.tail_cons, List.foldl_reverse]
  refine ⟨_, rest, hwalk, hfold rest List.suffix_rfl, ?_⟩
  rw [← horder]
  rfl

/-- **Pruning to a depth keeps the steps that lead on.** What is left are the live steps at or above
one that is optional, emits or lies deep enough, and the root. -/
theorem isLive_prune_iff {id : NodeId} :
    (t.prune maxDepth).isLive id ↔ t.isLive id ∧ t.Reaches maxDepth id := by
  obtain ⟨v, rest, hwalk, hlooked, heq⟩ := exists_looked_prune h hup hroot maxDepth
  have hlive : (t.prune maxDepth).isLive id = v.isLive id := by
    rw [heq]
    rfl
  rw [hlive]
  refine ⟨fun hlive ↦ ⟨hlooked.live hlive, ?_⟩, fun ⟨hlive, hreaches⟩ ↦ hlooked.kept hlive hreaches⟩
  have hmem := (mem_walk_iff h hup).mpr (hlooked.live hlive)
  rw [hwalk, List.mem_cons] at hmem
  rcases hmem with rfl | hmem
  · exact .inl rfl
  · exact hlooked.done id hmem hlive

theorem upward_prune : (t.prune maxDepth).Upward := by
  obtain ⟨v, rest, -, hlooked, heq⟩ := exists_looked_prune h hup hroot maxDepth
  rw [heq]
  exact hlooked.trims.upward

/-- The leaves become the childless steps at the depth. -/
theorem mem_leaves_prune_iff {id : NodeId} : id ∈ (t.prune maxDepth).leaves ↔
    (t.prune maxDepth).isLive id ∧ (t.depthAt id : Int) = maxDepth ∧
      (t.prune maxDepth).children id = [] := by
  obtain ⟨v, rest, -, hlooked, heq⟩ := exists_looked_prune h hup hroot maxDepth
  have hlive : (t.prune maxDepth).isLive id = v.isLive id := by rw [heq]; rfl
  have hchildren : (t.prune maxDepth).children id = v.children id := by rw [heq]; rfl
  have hleaves : id ∈ (t.prune maxDepth).leaves ↔ id ∈ t.walk ∧
      (match v.node? id with
        | some n => decide ((n.depth : Int) = maxDepth) && (v.children id).isEmpty
        | none => false) = true := by
    rw [heq]
    exact List.mem_filter
  rw [hleaves, hlive, hchildren, mem_walk_iff h hup]
  cases hn : v.node? id with
  | none => simp [isLive, hn]
  | some n =>
    have hlive : v.isLive id := isLive_iff.mpr ⟨n, hn⟩
    have hdepth : t.depthAt id = n.depth := by
      rw [← hlooked.trims.frame.depthAt, depthAt_of_node? hn]
    simp [hlive, hlooked.live hlive, hdepth]

end Prune

/-- Pruning to a depth removes steps and tells the leaves anew, and nothing else. -/
theorem prune_induction {motive : Tree → Prop}
    (hmark : ∀ v b, motive v → motive (v.markRemoved b))
    (hleaves : ∀ v ls, motive v → motive { v with leaves := ls }) (maxDepth : Int)
    (ht : motive t) : motive (t.prune maxDepth) := by
  refine hleaves _ _ (List.foldlRecOn _ (pruneStep maxDepth) ht fun v hv id _ ↦ ?_)
  rcases pruneStep_cases maxDepth v id with ⟨heq, -⟩ | ⟨heq, -⟩
  · rwa [heq]
  · rw [heq]
    exact hmark v id hv

theorem rootInvalid_prune (t : Tree) (maxDepth : Int) :
    (t.prune maxDepth).rootInvalid = t.rootInvalid :=
  prune_induction (motive := fun v ↦ v.rootInvalid = t.rootInvalid) (fun _ _ hv ↦ hv)
    (fun _ _ hv ↦ hv) maxDepth rfl

theorem start_prune (t : Tree) (maxDepth : Int) : (t.prune maxDepth).start = t.start :=
  prune_induction (motive := fun v ↦ v.start = t.start) (fun _ _ hv ↦ hv) (fun _ _ hv ↦ hv)
    maxDepth rfl

/-! ## Projected steps -/

/-- The steps that the regular and the emit statements of a tree project. -/
def Projects (t : Tree) (id : NodeId) : Prop := ∃ p ∈ t.regularPaths ++ t.emitPaths, p.leaf = id

/-- A tree whose root can match something projects its leaves and the steps that emit. -/
theorem projects_iff (h : t.Built) (hup : t.Upward) (hleaves : ∀ l ∈ t.leaves, t.isLive l)
    {id : NodeId} : t.Projects id ↔
      t.rootInvalid = false ∧ (id ∈ t.leaves ∨ t.isLive id ∧ t.emitsAt id) := by
  have hleaf : ∀ {a}, t.isLive a → (t.pathTo a).leaf = a := fun hlive ↦
    (isChain_pathTo h.rooted (Array.getElem?_eq_getElem (lt_size_of_isLive hlive))).2
  rw [Projects, regularPaths, emitPaths]
  cases t.rootInvalid with
  | true => simp
  | false =>
    simp only [Bool.false_eq_true, if_false, List.mem_append, List.mem_map, List.mem_filter,
      true_and]
    constructor
    · rintro ⟨p, ⟨l, hl, rfl⟩ | ⟨_, ⟨⟨a, n⟩, ⟨hmem, hemit⟩, rfl⟩, rfl⟩, rfl⟩
      · rw [hleaf (hleaves l hl)]
        exact .inl hl
      · obtain ⟨-, hn⟩ := mem_walkNodes_iff.mp hmem
        have hlive : t.isLive a := isLive_iff.mpr ⟨n, hn⟩
        rw [hleaf hlive, emitsAt_of_node? hn]
        exact .inr ⟨hlive, (Bool.and_eq_true_iff.mp hemit).1⟩
    · rintro (hl | ⟨hlive, hemit⟩)
      · exact ⟨t.pathTo id, .inl ⟨id, hl, rfl⟩, hleaf (hleaves id hl)⟩
      · refine ⟨t.pathTo id, ?_, hleaf hlive⟩
        by_cases hl : id ∈ t.leaves
        · exact .inl ⟨id, hl, rfl⟩
        · obtain ⟨n, hn⟩ := isLive_iff.mp hlive
          refine .inr ⟨id, ⟨(id, n), ⟨mem_walkNodes_iff.mpr ⟨(mem_walk_iff h hup).mpr hlive, hn⟩,
            ?_⟩, rfl⟩, rfl⟩
          rw [emitsAt_of_node? hn] at hemit
          simp [hemit, isLeaf, hl]

section OwnDepth

variable (h : t.Built) (hup : t.Upward) (hroot : t.isLive rootId)
include h hup hroot

/-- Pruned to its own depth, a tree has its deepest steps for leaves. -/
theorem mem_leaves_prune_depth_iff {id : NodeId} :
    id ∈ (t.prune t.depth).leaves ↔ t.isLive id ∧ t.depthAt id = t.depth := by
  rw [mem_leaves_prune_iff h hup hroot, isLive_prune_iff h hup hroot, Int.natCast_inj]
  constructor
  · rintro ⟨⟨hlive, -⟩, hdepth, -⟩
    exact ⟨hlive, hdepth⟩
  · rintro ⟨hlive, hdepth⟩
    refine ⟨⟨hlive, .inr ⟨id, hlive, t.mem_ancestors_self id, .inr (.inr (by simp [hdepth]))⟩⟩,
      hdepth, ?_⟩
    -- a child would lie deeper than the tree is deep
    rw [List.eq_nil_iff_forall_not_mem]
    intro c hc
    have htrims : t.Trims (t.prune t.depth) :=
      ⟨lasting_frameOf.across_prune t t.depth, upward_prune h hup hroot _⟩
    obtain ⟨hparent, hc⟩ := (mem_children_iff h htrims).mp hc
    have hle := depthAt_le_depth h hup ((isLive_prune_iff h hup hroot _).mp hc).1
    rw [h.graded.child hparent, hdepth] at hle
    exact absurd hle (Nat.not_succ_le_self _)

/-- Pruned to its own depth, a tree whose root can match something projects its deepest steps and
the steps that emit. -/
theorem projects_prune_depth_iff {id : NodeId} : (t.prune t.depth).Projects id ↔
    t.rootInvalid = false ∧ t.isLive id ∧ (t.depthAt id = t.depth ∨ t.emitsAt id) := by
  have hframe : t.SameFrame (t.prune t.depth) := lasting_frameOf.across_prune t t.depth
  have hlive : (t.prune t.depth).isLive id ∧ t.emitsAt id ↔ t.isLive id ∧ t.emitsAt id := by
    rw [isLive_prune_iff h hup hroot, and_assoc]
    refine and_congr_right fun hlive ↦ and_iff_right_of_imp fun hemits ↦ ?_
    exact .inr ⟨id, hlive, t.mem_ancestors_self id, .inr (.inl hemits)⟩
  rw [projects_iff (h.prune _) (upward_prune h hup hroot _)
    fun l hl ↦ ((mem_leaves_prune_iff h hup hroot _).mp hl).1, rootInvalid_prune,
    hframe.emitsAt, hlive, mem_leaves_prune_depth_iff h hup hroot, ← and_or_left]

theorem depth_prune_depth : (t.prune t.depth).depth = t.depth := by
  have hframe : t.SameFrame (t.prune t.depth) := lasting_frameOf.across_prune t t.depth
  have hlive : ∀ {id}, (t.prune t.depth).isLive id ↔ t.isLive id ∧ t.Reaches t.depth id :=
    isLive_prune_iff h hup hroot _
  apply le_antisymm
  · obtain ⟨id, hid, hdepth⟩ :=
      exists_depthAt_eq_depth (h.prune t.depth) (hlive.mpr ⟨hroot, .inl rfl⟩)
    rw [← hdepth, hframe.depthAt]
    exact depthAt_le_depth h hup (hlive.mp hid).1
  · obtain ⟨id, hid, hdepth⟩ := exists_depthAt_eq_depth h hroot
    have hleft := ((mem_leaves_prune_iff h hup hroot _).mp
      ((mem_leaves_prune_depth_iff h hup hroot).mpr ⟨hid, hdepth⟩)).1
    have hle := depthAt_le_depth (h.prune _) (upward_prune h hup hroot _) hleft
    rwa [hframe.depthAt, hdepth] at hle

end OwnDepth

end Tree

end PathQuery
