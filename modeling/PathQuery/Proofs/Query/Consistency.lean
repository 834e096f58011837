import Mathlib.Logic.Relation
import PathQuery.Proofs.Query.Upkeep

/-!
# What holds of every tree that is looked after

The walk is defined generation by generation, with as many rounds as there are steps. What it stands
for is a queue: take the step in front, pass over it if it has been removed, and else visit it and
put the steps listed below it at the end. `Visits` is that loop without any bound on its rounds, so
that a derivation of it says that the loop ends. A step lies no deeper than its position in the
arena, hence the rounds of the walk are enough.

The rest of the module puts together, for the trees that pruning and adding below live steps lead
to, what the parts of such a tree have to do with each other.
-/

namespace PathQuery

namespace Tree

variable {t : Tree}

/-! ## The walk is what the queue visits -/

/-- What is visited from a queue of steps until it is empty. -/
inductive Visits (t : Tree) : List NodeId → List NodeId → Prop
  | done : Visits t [] []
  | skip {id : NodeId} {queue visited : List NodeId} (removed : t.node? id = none)
      (rest : Visits t queue visited) : Visits t (id :: queue) visited
  | visit {id : NodeId} {n : Node} {queue visited : List NodeId} (live : t.node? id = some n)
      (rest : Visits t (queue ++ n.children) visited) : Visits t (id :: queue) (id :: visited)

theorem Visits.unique {queue visited visited' : List NodeId} (h : t.Visits queue visited)
    (h' : t.Visits queue visited') : visited = visited' := by
  induction h generalizing visited' with
  | done =>
    cases h'
    rfl
  | skip removed rest ih =>
    cases h' with
    | skip _ rest' => exact ih rest'
    | visit live' _ =>
      rw [removed] at live'
      cases live'
  | visit live rest ih =>
    cases h' with
    | skip removed' _ =>
      rw [live] at removed'
      cases removed'
    | visit live' rest' =>
      obtain rfl := Option.some.inj (live.symm.trans live')
      rw [ih rest']

theorem visits_nil_of_forall_not_isLive {ids : List NodeId} (hdead : ∀ id ∈ ids, ¬ t.isLive id) :
    t.Visits ids [] := by
  induction ids with
  | nil => exact .done
  | cons id ids ih =>
    have hnone : t.node? id = none := by
      have hid := hdead id List.mem_cons_self
      rwa [isLive, Option.not_isSome_iff_eq_none] at hid
    exact .skip hnone (ih fun i hi ↦ hdead i (List.mem_cons_of_mem _ hi))

/-- While a generation is worked off, the one after it gathers behind `next`. -/
theorem visits_generation {ids next visited : List NodeId}
    (h : t.Visits (next ++ (ids.filter t.isLive).flatMap fun id ↦
      ((t.node? id).map (·.children)).getD []) visited) :
    t.Visits (ids ++ next) (ids.filter t.isLive ++ visited) := by
  induction ids generalizing next with
  | nil => simpa using h
  | cons id ids ih =>
    cases hid : t.node? id with
    | none =>
      have hdead : ¬ t.isLive id := by simp [isLive, hid]
      rw [List.filter_cons_of_neg hdead] at h ⊢
      exact .skip hid (ih h)
    | some n =>
      have hlive : t.isLive id := isLive_iff.mpr ⟨n, hid⟩
      rw [List.filter_cons_of_pos hlive] at h ⊢
      have hrest : t.Visits (ids ++ (next ++ n.children)) (ids.filter t.isLive ++ visited) :=
        ih (by simpa [hid] using h)
      rw [← List.append_assoc] at hrest
      exact .visit hid hrest

theorem depthAt_le (h : t.Built) {id : NodeId} (hid : id < t.nodes.size) : t.depthAt id ≤ id := by
  induction id using Nat.strongRecOn with
  | ind id ih =>
    by_cases hne : id = rootId
    · subst hne
      exact h.graded.root.le
    · obtain ⟨above, hlt, hparent⟩ := exists_isParent h.rooted (Array.getElem?_eq_getElem hid) hne
      have habove := ih above hlt (hlt.trans hid)
      rw [h.graded.child hparent]
      exact habove.trans_lt hlt

/-- A generation at depth `k` is worked off with the rounds that the steps deeper down need. -/
theorem visits_generations (h : t.Built) {fuel k : ℕ} {ids : List NodeId}
    (hids : ∀ id ∈ ids, t.depthAt id = k) (hfuel : t.nodes.size ≤ k + fuel) :
    t.Visits ids (t.generations fuel ids) := by
  induction fuel generalizing k ids with
  | zero =>
    -- a live step as deep as this would lie behind the end of the arena
    refine visits_nil_of_forall_not_isLive fun id hid hlive ↦ ?_
    have hlt := lt_size_of_isLive hlive
    have hle := depthAt_le h hlt
    rw [hids id hid] at hle
    exact absurd (hfuel.trans hle) (Nat.not_le.mpr hlt)
  | succ fuel ih =>
    rw [generations]
    split
    · next hempty =>
      refine visits_nil_of_forall_not_isLive fun id hid hlive ↦ ?_
      have hmem : id ∈ ids.filter t.isLive := List.mem_filter.mpr ⟨hid, hlive⟩
      rw [List.isEmpty_iff.mp hempty] at hmem
      cases hmem
    · have hnext : ∀ c ∈ (ids.filter t.isLive).flatMap fun id ↦
          ((t.node? id).map (·.children)).getD [], t.depthAt c = k + 1 := by
        intro c hc
        obtain ⟨id, hid, hc⟩ := List.mem_flatMap.mp hc
        obtain ⟨hid, hlive⟩ := List.mem_filter.mp hid
        rw [depthAt_of_mem_children h hlive hc, hids id hid]
      have hrest := @visits_generation t ids [] _ (ih hnext (by omega))
      rwa [List.append_nil] at hrest

theorem visits_iff (h : t.Built) {visited : List NodeId} :
    t.Visits [rootId] visited ↔ visited = t.walk := by
  have hwalk : t.Visits [rootId] t.walk := by
    refine visits_generations (k := 0) h (fun id hid ↦ ?_) (by omega)
    rw [List.mem_singleton.mp hid, h.graded.root]
  exact ⟨fun hvisits ↦ hvisits.unique hwalk, fun heq ↦ heq ▸ hwalk⟩

/-! ## Consistent trees -/

instance (t : Tree) (above id : NodeId) : Decidable (t.IsParent above id) :=
  inferInstanceAs (Decidable (_ = _))

/-- The steps on a path are live and lead down from the root, one step at a time. -/
structure LeadsDown (t : Tree) (p : Path) : Prop where
  /-- Each step stands right below the one before, the first one below the root. -/
  chain : p.all.IsChain t.IsParent
  /-- The steps are live. -/
  live : ∀ id ∈ p.all, t.isLive id

/-- The arena, the lists of children, the leaves, the walk and the paths agree. -/
structure Consistent (t : Tree) : Prop where
  /-- The walk names each step by its position in the arena. -/
  position : ∀ {id n}, (id, n) ∈ t.walkNodes → t.nodes[id]? = some n
  /-- A step can be added below every live one, and gets the next position of the arena. -/
  next : ∀ {parent}, t.isLive parent → ∀ spec, ∃ above t', t.node? parent = some above ∧
    t.addChild? parent spec = some t' ∧ t'.nodes.size = t.nodes.size + 1 ∧
      t'.node? t.nodes.size = some (childNode parent above spec)
  /-- The root is live, stands below nothing and lies at depth zero. -/
  root : t.isLive rootId ∧ (∀ above, ¬ t.IsParent above rootId) ∧ t.depthAt rootId = 0
  /-- Every other step stands below an earlier one that lies one higher. -/
  parent : ∀ id < t.nodes.size, id ≠ rootId →
    ∃ above < id, t.IsParent above id ∧ t.depthAt id = t.depthAt above + 1
  /-- A step is listed once by the step above it, and by no other. -/
  listed : ∀ above id, (t.listedBelow above).count id = if t.IsParent above id then 1 else 0
  /-- What is below a removed step has been removed. -/
  removed : ∀ {id below}, Relation.ReflTransGen (fun a b ↦ b ∈ t.listedBelow a) id below →
    ¬ t.isLive id → ¬ t.isLive below
  /-- The walk ends. -/
  walk : ∀ visited, t.Visits [rootId] visited ↔ visited = t.walk
  /-- The walk visits every live step once, and no removed one. -/
  once : ∀ id, t.walk.count id = if t.isLive id then 1 else 0
  /-- The walk goes down. -/
  down : t.walk.Pairwise fun a b ↦ t.depthAt a ≤ t.depthAt b
  /-- The leaves have no duplicates. -/
  leavesNodup : t.leaves.Nodup
  /-- A leaf is live and has no live children. -/
  leaf : ∀ l ∈ t.leaves, t.isLive l ∧ t.children l = []
  /-- The paths lead down over live steps. -/
  path : ∀ p ∈ t.regularPaths ++ t.optionalPaths.map (·.path) ++ t.emitPaths, t.LeadsDown p

theorem count_eq_ite_of_nodup {l : List NodeId} (h : l.Nodup) (id : NodeId) {p : Prop}
    [Decidable p] (hmem : id ∈ l ↔ p) : l.count id = if p then 1 else 0 := by
  rw [h.count]
  simp only [hmem]

theorem exists_addChild? {parent : NodeId} (hlive : t.isLive parent) (spec : StepSpec) :
    ∃ above t', t.node? parent = some above ∧ t.addChild? parent spec = some t' ∧
      t'.nodes.size = t.nodes.size + 1 ∧
        t'.node? t.nodes.size = some (childNode parent above spec) := by
  obtain ⟨above, habove⟩ := isLive_iff.mp hlive
  obtain ⟨t', hadd⟩ : ∃ t', t.addChild? parent spec = some t' := by
    rw [addChild?, getElem?_of_node? habove]
    exact ⟨_, rfl⟩
  obtain ⟨above', habove', hsize, hget⟩ := exists_nodes_addChild? hadd
  rw [getElem?_of_node? habove, Option.some.injEq] at habove'
  subst habove'
  refine ⟨above, t', habove, hadd, hsize, ?_⟩
  rw [node?, hget, if_pos rfl]
  rfl

section Orderly

variable (h : t.Built) (horderly : t.Orderly)
include h horderly

theorem leadsDown_pathTo {id : NodeId} (hlive : t.isLive id) : t.LeadsDown (t.pathTo id) where
  chain := (isChain_pathTo h.rooted (Array.getElem?_eq_getElem (lt_size_of_isLive hlive))).1
  live := by
    intro a ha
    rw [mem_all_pathTo_iff h.rooted (lt_size_of_isLive hlive)] at ha
    exact Upward.isLive_of_mem_ancestors h.rooted horderly.upward ha hlive

/-- Every path a tree has is the path to a live step. -/
theorem Orderly.leadsDown {p : Path}
    (hp : p ∈ t.regularPaths ++ t.optionalPaths.map (·.path) ++ t.emitPaths) :
    t.LeadsDown p := by
  suffices hend : ∃ id, t.isLive id ∧ t.pathTo id = p by
    obtain ⟨id, hlive, rfl⟩ := hend
    exact leadsDown_pathTo h horderly hlive
  have hwalk : ∀ {id}, id ∈ t.walk → t.isLive id := (mem_walk_iff h horderly.upward).mp
  rw [regularPaths, optionalPaths, emitPaths] at hp
  cases hvalid : t.rootInvalid with
  | true => simp [hvalid] at hp
  | false =>
    simp only [hvalid, Bool.false_eq_true, if_false, List.mem_append, List.mem_map] at hp
    rcases hp with (⟨l, hl, rfl⟩ | ⟨o, ho, rfl⟩) | ⟨id, hid, rfl⟩
    · exact ⟨l, horderly.live hl, rfl⟩
    · obtain ⟨id, hid, heq⟩ := List.mem_filterMap.mp ho
      split at heq
      · cases heq
      · cases heq
        exact ⟨id, hwalk hid, rfl⟩
    · obtain ⟨⟨a, n⟩, hmem, rfl⟩ := hid
      exact ⟨a, hwalk (mem_walkNodes_iff.mp (List.mem_filter.mp hmem).1).1, rfl⟩

theorem Orderly.not_isLive_below {id below : NodeId}
    (hbelow : Relation.ReflTransGen (fun a b ↦ b ∈ t.listedBelow a) id below)
    (hdead : ¬ t.isLive id) : ¬ t.isLive below := by
  induction hbelow with
  | refl => exact hdead
  | tail _ hchild ih =>
    have hparent := h.mem_listedBelow_iff.mp hchild
    exact fun hlive ↦ ih (horderly.upward hparent hlive)

theorem Orderly.children_leaf {l : NodeId} (hl : l ∈ t.leaves) : t.children l = [] := by
  rw [List.eq_nil_iff_forall_not_mem]
  intro c hc
  obtain ⟨hparent, hc⟩ := (mem_children_iff h ⟨rfl, horderly.upward⟩).mp hc
  exact horderly.childless hl hparent hc

end Orderly

/-- **The arena stays consistent.** In a tree that starts as its root, grows below live steps and is
pruned to any depth and by its filters, a step is named by its position, which comes after that of
the step above it; it is listed once, by that step, which lies one higher; what is below a removed
step has been removed; the walk ends, having visited every live step once on its way down; the
leaves are live, distinct and without live children; and the paths lead down from the root over live
steps. -/
theorem Tended.consistent (h : t.Tended) : t.Consistent := by
  have hbuilt := h.built
  have horderly := h.orderly
  have hrooted := hbuilt.rooted
  exact {
    position := fun hmem ↦ getElem?_of_node? (mem_walkNodes_iff.mp hmem).2
    next := fun hlive spec ↦ exists_addChild? hlive spec
    root := ⟨horderly.root, fun _ ↦ not_isParent_rootId hrooted, hbuilt.graded.root⟩
    parent := by
      intro id hid hne
      obtain ⟨above, hlt, hparent⟩ := exists_isParent hrooted (Array.getElem?_eq_getElem hid) hne
      exact ⟨above, hlt, hparent, hbuilt.graded.child hparent⟩
    listed := fun above id ↦
      count_eq_ite_of_nodup (hbuilt.nodup_listedBelow above) id hbuilt.mem_listedBelow_iff
    removed := fun hbelow hdead ↦ horderly.not_isLive_below hbuilt hbelow hdead
    walk := fun _ ↦ visits_iff hbuilt
    once := fun id ↦
      count_eq_ite_of_nodup (nodup_walk hbuilt) id (mem_walk_iff hbuilt horderly.upward)
    down := by
      obtain ⟨rest, hwalk, -, hordered⟩ := exists_walk_eq hbuilt horderly.root
      rw [hwalk, List.pairwise_cons, hbuilt.graded.root]
      exact ⟨fun _ _ ↦ Nat.zero_le _, hordered⟩
    leavesNodup := horderly.nodup
    leaf := fun l hl ↦ ⟨horderly.live hl, horderly.children_leaf hbuilt hl⟩
    path := fun p hp ↦ horderly.leadsDown hbuilt hp }

/-- A vertex with two edges, one of which has lost its end to the filters and has been given an
optional one since. -/
def regrownTree : Tree :=
  let pruned := forkedTree.pruneByFilters
  let regrown := (pruned.addChild? 1 { table := .vertex "s" "a", isOptional := true }).getD pruned
  regrown.prune 2

theorem tended_forkedTree : forkedTree.Tended := by
  unfold forkedTree
  refine ((((Tended.root _ _).addChild ?_ _).addChild ?_ _).addChild ?_ _).addChild ?_ _ <;> decide

theorem tended_regrownTree : regrownTree.Tended :=
  (tended_forkedTree.pruneByFilters.addChild (by decide +kernel) _).prune 2

/-- The end that was removed is not met again, and the new one is a leaf beside the other. -/
theorem consistent_regrownTree : regrownTree.Tended ∧ regrownTree.Consistent ∧
    regrownTree.walk = [0, 1, 3, 5, 4] ∧ regrownTree.leaves = [5, 4] ∧
      regrownTree.listedBelow 1 = [2, 5] :=
  ⟨tended_regrownTree, tended_regrownTree.consistent, by decide +kernel, by decide +kernel,
    by decide +kernel⟩

end Tree

end PathQuery
