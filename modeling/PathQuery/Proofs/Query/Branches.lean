import PathQuery.Proofs.Query.Consistency

/-!
# Branches that reach a depth

A live step and the live steps below it are its *branch*. Pruning to a depth keeps exactly the steps
whose branch has a reason to stay in it: a step deep enough, an optional one or one that emits.

What is left is walked in the order in which it was walked before, since a generation of the pruned
tree is the same generation of the tree, without the steps that have been removed. So the leaves,
which are taken off the walk before pruning, are in the order of the walk after it as well. And a
second pruning finds nothing to do: a step that is left is no anchor only if another one is left
right below it.
-/

namespace PathQuery

namespace Tree

variable {t u : Tree}

/-! ## Branches -/

/-- A step stands in the live branch that begins with another. -/
def InBranch (t : Tree) : NodeId → NodeId → Prop :=
  Relation.ReflTransGen fun above id ↦ id ∈ t.children above

/-- The branch of a live step are the live steps that it is at or above. -/
theorem inBranch_iff (h : t.Built) (hup : t.Upward) {id below : NodeId} (hlive : t.isLive id) :
    t.InBranch id below ↔ t.isLive below ∧ id ∈ t.ancestors below := by
  have htrims : t.Trims t := ⟨rfl, hup⟩
  constructor
  · intro hbranch
    induction hbranch with
    | refl => exact ⟨hlive, t.mem_ancestors_self id⟩
    | tail _ hchild ih =>
      obtain ⟨hparent, hbelow⟩ := (mem_children_iff h htrims).mp hchild
      exact ⟨hbelow, mem_ancestors_trans h.rooted ih.2 (hparent.mem_ancestors h.rooted)⟩
  · rintro ⟨hbelow, hmem⟩
    induction below using Nat.strongRecOn with
    | ind below ih =>
      obtain rfl | ⟨above, hparent, habove⟩ := (mem_ancestors_iff h.rooted).mp hmem
      · exact .refl
      · have hchild : below ∈ t.children above :=
          (mem_children_iff h htrims).mpr ⟨hparent, hbelow⟩
        exact (ih above (hparent.lt h.rooted) (hup hparent hbelow) habove).tail hchild

/-! ## The walk of a pruned tree -/

@[simp]
theorem generations_nil (t : Tree) (fuel : ℕ) : t.generations fuel [] = [] := by
  cases fuel <;> rfl

theorem generations_succ (t : Tree) (fuel : ℕ) (ids : List NodeId) :
    t.generations (fuel + 1) ids =
      ids.filter t.isLive ++ t.generations fuel ((ids.filter t.isLive).flatMap t.listedBelow) := by
  have hbelow : ((ids.filter t.isLive).flatMap fun id ↦ ((t.node? id).map (·.children)).getD []) =
      (ids.filter t.isLive).flatMap t.listedBelow :=
    List.flatMap_congr fun id hid ↦ listedBelow_of_isLive (List.mem_filter.mp hid).2
  rw [generations, hbelow]
  split
  · next hempty => simp [List.isEmpty_iff.mp hempty]
  · rfl

section Walk

variable (h : t.Built) (htrims : t.Trims u) (hlive : ∀ {id}, u.isLive id → t.isLive id)
include h htrims hlive

/-- What is left of a generation is followed by what is left of the next. -/
theorem filter_flatMap_listedBelow (ids : List NodeId) :
    ((ids.filter t.isLive).flatMap t.listedBelow).filter u.isLive =
      ((ids.filter u.isLive).flatMap u.listedBelow).filter u.isLive := by
  induction ids with
  | nil => rfl
  | cons id ids ih =>
    by_cases hu : u.isLive id
    · rw [List.filter_cons_of_pos hu, List.filter_cons_of_pos (hlive hu), List.flatMap_cons,
        List.flatMap_cons, List.filter_append, List.filter_append, ih, htrims.frame.listedBelow]
    · rw [List.filter_cons_of_neg hu, ← ih]
      by_cases ht : t.isLive id
      · -- nothing is left below a step that has been removed
        have hnil : (t.listedBelow id).filter u.isLive = [] := by
          rw [List.filter_eq_nil_iff]
          intro c hc hleft
          exact hu (htrims.isLive_above (h.mem_listedBelow_iff.mp hc) hleft)
        rw [List.filter_cons_of_pos ht, List.flatMap_cons, List.filter_append, hnil, List.nil_append]
      · rw [List.filter_cons_of_neg ht]

theorem filter_generations (fuel : ℕ) {ids ids' : List NodeId}
    (hids : ids.filter u.isLive = ids'.filter u.isLive) :
    (t.generations fuel ids).filter u.isLive = u.generations fuel ids' := by
  induction fuel generalizing ids ids' with
  | zero => rfl
  | succ fuel ih =>
    have hhere : (ids.filter t.isLive).filter u.isLive = ids'.filter u.isLive := by
      rw [List.filter_filter, ← hids]
      refine List.filter_congr fun id _ ↦ ?_
      cases hu : u.isLive id with
      | false => rfl
      | true => rw [hlive hu, Bool.and_self]
    rw [generations_succ, generations_succ, List.filter_append, hhere, ← hids]
    exact congrArg _ (ih (filter_flatMap_listedBelow h htrims hlive ids))

/-- What is left of a tree is walked as it was before. -/
theorem walk_eq_filter : u.walk = t.walk.filter u.isLive := by
  rw [walk, walk, htrims.frame.size]
  exact (filter_generations h htrims hlive t.nodes.size rfl).symm

end Walk

/-! ## Pruning to a depth -/

/-- A step at a depth without live children. -/
def EndsAt (t : Tree) (maxDepth : Int) (id : NodeId) : Prop :=
  (t.depthAt id : Int) = maxDepth ∧ t.children id = []

instance (t : Tree) (maxDepth : Int) : DecidablePred (t.EndsAt maxDepth) :=
  fun _ ↦ inferInstanceAs (Decidable (_ ∧ _))

theorem prune_eq (t : Tree) (maxDepth : Int) :
    t.prune maxDepth =
      let v := (t.walk.drop 1).reverse.foldl (pruneStep maxDepth) t
      { v with leaves := t.walk.filter fun id ↦ v.isLive id && decide (v.EndsAt maxDepth id) } := by
  rw [prune]
  dsimp only
  generalize (t.walk.drop 1).reverse.foldl (pruneStep maxDepth) t = v
  refine congrArg (fun leaves ↦ { v with leaves }) (List.filter_congr fun id _ ↦ ?_)
  cases hn : v.node? id with
  | none => simp [isLive, hn]
  | some n =>
    rw [Bool.eq_iff_iff]
    simp [isLive, hn, EndsAt, depthAt_of_node? hn]

section Prune

variable (h : t.Built) (horderly : t.Orderly) (maxDepth : Int)
include h horderly

theorem trims_prune : t.Trims (t.prune maxDepth) :=
  ⟨lasting_frameOf.across_prune t maxDepth, upward_prune h horderly.upward horderly.root maxDepth⟩

theorem isLive_of_isLive_prune {id : NodeId} (hlive : (t.prune maxDepth).isLive id) :
    t.isLive id :=
  ((isLive_prune_iff h horderly.upward horderly.root maxDepth).mp hlive).1

/-- A step below the root is left if and only if an anchor stands in its branch. -/
theorem isLive_prune_iff_exists {id : NodeId} (hlive : t.isLive id) (hne : id ≠ rootId) :
    (t.prune maxDepth).isLive id ↔ ∃ below, t.InBranch id below ∧ t.Anchors maxDepth below := by
  rw [isLive_prune_iff h horderly.upward horderly.root maxDepth, and_iff_right hlive, Reaches,
    or_iff_right hne]
  simp only [inBranch_iff h horderly.upward hlive, and_assoc]

/-- The leaves are taken off the walk. -/
theorem leaves_prune_eq : (t.prune maxDepth).leaves =
    (t.prune maxDepth).walk.filter ((t.prune maxDepth).EndsAt maxDepth) := by
  have hleaves : (t.prune maxDepth).leaves = t.walk.filter fun id ↦
      (t.prune maxDepth).isLive id && decide ((t.prune maxDepth).EndsAt maxDepth id) := by
    rw [prune_eq]
    rfl
  rw [hleaves, walk_eq_filter h (trims_prune h horderly maxDepth)
    (isLive_of_isLive_prune h horderly maxDepth), List.filter_filter]
  exact List.filter_congr fun id _ ↦ Bool.and_comm _ _

/-- A step that is left is an anchor, or another is left right below it. -/
theorem pruneStep_prune {id : NodeId} (hne : id ≠ rootId) :
    pruneStep maxDepth (t.prune maxDepth) id = t.prune maxDepth := by
  have htrims := trims_prune h horderly maxDepth
  have hleft {id : NodeId} : (t.prune maxDepth).isLive id ↔ t.isLive id ∧ t.Reaches maxDepth id :=
    isLive_prune_iff h horderly.upward horderly.root maxDepth
  obtain ⟨heq, -⟩ | ⟨heq, hanchors, hchildless⟩ :=
    pruneStep_cases maxDepth (t.prune maxDepth) id
  · exact heq
  by_cases hlive : (t.prune maxDepth).isLive id
  · exfalso
    obtain ⟨q, hq, hid, hq_anchors⟩ := (hleft.mp hlive).2.resolve_left hne
    by_cases hself : id = q
    · exact hanchors (htrims.frame.anchors.mpr (hself ▸ hq_anchors))
    · obtain ⟨c, hparent, hc⟩ := exists_child_toward h.rooted hid hself
      have hc_live : (t.prune maxDepth).isLive c :=
        hleft.mpr ⟨Upward.isLive_of_mem_ancestors h.rooted horderly.upward hc hq,
          .inr ⟨q, hq, hc, hq_anchors⟩⟩
      have hmem := (mem_children_iff h htrims).mpr ⟨hparent, hc_live⟩
      rw [hchildless] at hmem
      cases hmem
  · -- a step that is not live is passed over
    rw [isLive, Bool.not_eq_true, Option.isSome_eq_false_iff, Option.isNone_iff_eq_none] at hlive
    rw [pruneStep, hlive]

/-- Pruning to the same depth again changes nothing. -/
theorem prune_prune : (t.prune maxDepth).prune maxDepth = t.prune maxDepth := by
  have hbuilt := h.prune maxDepth
  have horderly' := horderly.prune h maxDepth
  obtain ⟨rest, hwalk, hnotMem, -⟩ := exists_walk_eq hbuilt horderly'.root
  have hfold : ∀ ids : List NodeId, rootId ∉ ids →
      ids.foldl (pruneStep maxDepth) (t.prune maxDepth) = t.prune maxDepth := by
    intro ids hids
    induction ids with
    | nil => rfl
    | cons id ids ih =>
      rw [List.mem_cons, not_or] at hids
      rw [List.foldl_cons, pruneStep_prune h horderly maxDepth (Ne.symm hids.1)]
      exact ih hids.2
  have hsame : ((t.prune maxDepth).walk.drop 1).reverse.foldl (pruneStep maxDepth)
      (t.prune maxDepth) = t.prune maxDepth := by
    refine hfold _ ?_
    rwa [hwalk, List.drop_one, List.tail_cons, List.mem_reverse]
  have hleaves : ((t.prune maxDepth).walk.filter fun id ↦ (t.prune maxDepth).isLive id &&
      decide ((t.prune maxDepth).EndsAt maxDepth id)) = (t.prune maxDepth).leaves := by
    rw [leaves_prune_eq h horderly]
    refine List.filter_congr fun id hid ↦ ?_
    rw [(mem_walk_iff hbuilt horderly'.upward).mp hid, Bool.true_and]
  rw [prune_eq, hsame]
  dsimp only
  rw [hleaves]

end Prune

/-- **Pruning to a depth keeps exactly the branches that reach it.** In a tree that starts as its
root, grows below live steps and is pruned to any depth and by its filters, a step below the root is
left if and only if its branch had a step at least as deep, an optional one or one that emits. What
is left is walked breadth first, each step once, the leaves are the steps of the walk that stand at
the depth without live children, and pruning to the same depth again changes nothing. -/
theorem Tended.prune_keeps_branches (h : t.Tended) (maxDepth : Int) :
    (∀ id, (t.prune maxDepth).isLive id → t.isLive id) ∧
      (∀ id, t.isLive id → id ≠ rootId → ((t.prune maxDepth).isLive id ↔
        ∃ below, t.InBranch id below ∧ t.Anchors maxDepth below)) ∧
      ((t.prune maxDepth).Visits [rootId] (t.prune maxDepth).walk ∧
        (t.prune maxDepth).walk.Nodup ∧
        ∀ id, id ∈ (t.prune maxDepth).walk ↔ (t.prune maxDepth).isLive id) ∧
      (t.prune maxDepth).leaves =
        (t.prune maxDepth).walk.filter ((t.prune maxDepth).EndsAt maxDepth) ∧
      (t.prune maxDepth).prune maxDepth = t.prune maxDepth := by
  have hbuilt := h.built.prune maxDepth
  have horderly := h.orderly.prune h.built maxDepth
  refine ⟨fun _ ↦ isLive_of_isLive_prune h.built h.orderly maxDepth,
    fun _ ↦ isLive_prune_iff_exists h.built h.orderly maxDepth,
    ⟨(visits_iff hbuilt).mpr rfl, nodup_walk hbuilt, fun _ ↦ mem_walk_iff hbuilt horderly.upward⟩,
    leaves_prune_eq h.built h.orderly maxDepth, prune_prune h.built h.orderly maxDepth⟩

/-- A vertex with three edges. One emits and has lost its end to the filters, one leads on to
another edge, and one ends at a vertex. -/
def unevenTree : Tree :=
  let grow (parent : NodeId) (spec : StepSpec) (t : Tree) : Tree := (t.addChild? parent spec).getD t
  let edge : StepSpec := { table := .edge "s" "e", element := .edge }
  grow 6 { table := .vertex "s" "a" } (grow 0 edge (grow 4 edge forkedTree.pruneByFilters))

theorem tended_unevenTree : unevenTree.Tended := by
  unfold unevenTree
  refine ((tended_forkedTree.pruneByFilters.addChild ?_ _).addChild ?_ _).addChild ?_ _ <;>
    decide +kernel

/-- At depth three one branch has a leaf. The edge that emits is left without one, and the edge
whose branch ends above goes with its end. -/
theorem prune_unevenTree : unevenTree.Tended ∧ unevenTree.walk = [0, 1, 3, 6, 4, 7, 5] ∧
    (unevenTree.prune 3).walk = [0, 1, 3, 4, 5] ∧ (unevenTree.prune 3).leaves = [5] ∧
      (¬∃ below, unevenTree.InBranch 6 below ∧ unevenTree.Anchors 3 below) ∧
        (unevenTree.prune 3).prune 3 = unevenTree.prune 3 := by
  obtain ⟨-, hleft, -, -, hagain⟩ := tended_unevenTree.prune_keeps_branches 3
  refine ⟨tended_unevenTree, by decide +kernel, by decide +kernel, by decide +kernel, ?_, hagain⟩
  rw [← hleft 6 (by decide +kernel) (by decide)]
  decide +kernel

end Tree

end PathQuery
