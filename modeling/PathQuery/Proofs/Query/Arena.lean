import PathQuery.Proofs.Query.Walk

/-!
# The arena of a tree

Pruning removes steps and decides filters; which step stands above which, what a step emits and how
deep it lies never change. Two trees with the same *frame* therefore have the same paths, and what
pruning does is told by the live steps alone.

Being at or above a step is membership in its ancestors. It is an order in which the steps above
one step form a chain, and every step below another is reached over one of its children.
-/

namespace PathQuery

namespace Tree

variable {t u : Tree}

/-! ## Frames -/

/-- What pruning never changes of a step. -/
def frameOf (n : Node) : Node := { n with removed := false, filters := [] }

theorem lasting_frameOf : Lasting frameOf := ⟨fun _ ↦ rfl, fun _ _ ↦ rfl⟩

/-- Two trees differ at most in what has been removed and decided. -/
def SameFrame (t u : Tree) : Prop := u.across frameOf = t.across frameOf

theorem Lasting.apply_frameOf {α : Type} {f : Node → α} (hf : Lasting f) (n : Node) :
    f (frameOf n) = f n :=
  calc f (frameOf n) = f { frameOf n with removed := true } := (hf.removed _).symm
    _ = f { n with removed := true } := hf.filters { n with removed := true } []
    _ = f n := hf.removed n

namespace SameFrame

variable (h : t.SameFrame u)
include h

theorem read {α : Type} {f : Node → α} (hf : Lasting f) (id : NodeId) :
    u.nodes[id]?.map f = t.nodes[id]?.map f := by
  have heq : u.nodes[id]?.map frameOf = t.nodes[id]?.map frameOf := by
    rw [← across_getElem?, ← across_getElem?]
    exact congrArg (·[id]?) h
  have hmap : f ∘ frameOf = f := funext hf.apply_frameOf
  rw [← hmap, ← Option.map_map, heq, Option.map_map]

theorem size : u.nodes.size = t.nodes.size := by
  simpa [across] using congrArg List.length h

theorem parent (id : NodeId) :
    u.nodes[id]?.bind (·.parent) = t.nodes[id]?.bind (·.parent) := by
  have heq := congrArg (Option.bind · (fun above : Option NodeId ↦ above))
    (h.read (f := (·.parent)) ⟨fun _ ↦ rfl, fun _ _ ↦ rfl⟩ id)
  simp only [Option.bind_map] at heq
  exact heq

theorem isParent {above id : NodeId} : u.IsParent above id ↔ t.IsParent above id := by
  rw [IsParent, IsParent, h.parent]

theorem chain (fuel : ℕ) (id : NodeId) : u.chain fuel id = t.chain fuel id := by
  induction fuel generalizing id with
  | zero => rfl
  | succ fuel ih =>
    rw [Tree.chain, Tree.chain, h.parent]
    cases t.nodes[id]?.bind (·.parent) with
    | none => rfl
    | some above => exact congrArg (id :: ·) (ih above)

theorem ancestors (id : NodeId) : u.ancestors id = t.ancestors id := h.chain _ _

theorem listedBelow (id : NodeId) : u.listedBelow id = t.listedBelow id := by
  rw [Tree.listedBelow, Tree.listedBelow, h.read ⟨fun _ ↦ rfl, fun _ _ ↦ rfl⟩]

theorem tableOf (id : NodeId) : u.tableOf id = t.tableOf id := by
  rw [Tree.tableOf, Tree.tableOf, h.read ⟨fun _ ↦ rfl, fun _ _ ↦ rfl⟩]

theorem segments (p : Path) : u.segments p = t.segments p := by
  rw [Tree.segments, Tree.segments, funext h.tableOf]

theorem findLabeled (id : NodeId) (label : String) :
    u.findLabeled id label = t.findLabeled id label := by
  rw [Tree.findLabeled, Tree.findLabeled, h.ancestors]
  refine congrArg (List.find? · _) (funext fun a ↦ ?_)
  rw [h.read ⟨fun _ ↦ rfl, fun _ _ ↦ rfl⟩]

end SameFrame

/-- Whether a step of the arena emits. -/
def emitsAt (t : Tree) (id : NodeId) : Bool := (t.nodes[id]?.map (·.emits)).getD false

/-- How deep a step of the arena lies. -/
def depthAt (t : Tree) (id : NodeId) : ℕ := (t.nodes[id]?.map (·.depth)).getD 0

theorem SameFrame.emitsAt (h : t.SameFrame u) (id : NodeId) : u.emitsAt id = t.emitsAt id := by
  rw [Tree.emitsAt, Tree.emitsAt, h.read ⟨fun _ ↦ rfl, fun _ _ ↦ rfl⟩]

theorem SameFrame.depthAt (h : t.SameFrame u) (id : NodeId) : u.depthAt id = t.depthAt id := by
  rw [Tree.depthAt, Tree.depthAt, h.read ⟨fun _ ↦ rfl, fun _ _ ↦ rfl⟩]

section Live

variable {id : NodeId} {n : Node} (hn : t.node? id = some n)
include hn

theorem getElem?_of_node? : t.nodes[id]? = some n := (Option.filter_eq_some_iff.mp hn).1

theorem emitsAt_of_node? : t.emitsAt id = n.emits := by
  rw [emitsAt, getElem?_of_node? hn, Option.map_some, Option.getD_some]

theorem depthAt_of_node? : t.depthAt id = n.depth := by
  rw [depthAt, getElem?_of_node? hn, Option.map_some, Option.getD_some]

theorem listedBelow_of_node? : t.listedBelow id = n.children := by
  rw [listedBelow, getElem?_of_node? hn, Option.map_some, Option.getD_some]

end Live

/-! ## At or above -/

theorem mem_ancestors_iff (h : Rooted t.skeleton) {a id : NodeId} :
    a ∈ t.ancestors id ↔ a = id ∨ ∃ above, t.IsParent above id ∧ a ∈ t.ancestors above := by
  cases hparent : t.nodes[id]?.bind (·.parent) with
  | none =>
    have hancestors : t.ancestors id = [id] := by rw [ancestors, chain, hparent]
    simp [hancestors, IsParent, hparent]
  | some above =>
    rw [ancestors_of_isParent h hparent, List.mem_cons]
    simp [IsParent, hparent]

theorem mem_ancestors_self (t : Tree) (id : NodeId) : id ∈ t.ancestors id := by
  rw [ancestors, chain]
  exact List.mem_cons_self

section Order

variable (h : Rooted t.skeleton)
include h

theorem IsParent.mem_ancestors {above id : NodeId} (hparent : t.IsParent above id) :
    above ∈ t.ancestors id :=
  (mem_ancestors_iff h).mpr (.inr ⟨above, hparent, t.mem_ancestors_self above⟩)

theorem le_of_mem_ancestors {a id : NodeId} (ha : a ∈ t.ancestors id) : a ≤ id := by
  induction id using Nat.strongRecOn with
  | ind id ih =>
    rcases (mem_ancestors_iff h).mp ha with rfl | ⟨above, hparent, ha⟩
    · exact le_rfl
    · exact (ih above (hparent.lt h) ha).trans (hparent.lt h).le

theorem mem_ancestors_trans {a b id : NodeId} (ha : a ∈ t.ancestors b) (hb : b ∈ t.ancestors id) :
    a ∈ t.ancestors id := by
  induction id using Nat.strongRecOn with
  | ind id ih =>
    rcases (mem_ancestors_iff h).mp hb with rfl | ⟨above, hparent, hb⟩
    · exact ha
    · exact (mem_ancestors_iff h).mpr (.inr ⟨above, hparent, ih above (hparent.lt h) hb⟩)

theorem eq_of_mem_ancestors {a b : NodeId} (ha : a ∈ t.ancestors b) (hb : b ∈ t.ancestors a) :
    a = b :=
  le_antisymm (le_of_mem_ancestors h ha) (le_of_mem_ancestors h hb)

/-- The steps above one step form a chain. -/
theorem mem_ancestors_total {a b id : NodeId} (ha : a ∈ t.ancestors id)
    (hb : b ∈ t.ancestors id) : a ∈ t.ancestors b ∨ b ∈ t.ancestors a := by
  induction id using Nat.strongRecOn with
  | ind id ih =>
    rcases (mem_ancestors_iff h).mp ha with rfl | ⟨above, hparent, ha'⟩
    · exact .inr hb
    · rcases (mem_ancestors_iff h).mp hb with rfl | ⟨above', hparent', hb'⟩
      · exact .inl ha
      · obtain rfl : above = above' := Option.some.inj (hparent.symm.trans hparent')
        exact ih above (hparent.lt h) ha' hb'

/-- A step below another is reached over one of its children. -/
theorem exists_child_toward {a id : NodeId} (ha : a ∈ t.ancestors id) (hne : a ≠ id) :
    ∃ c, t.IsParent a c ∧ c ∈ t.ancestors id := by
  induction id using Nat.strongRecOn with
  | ind id ih =>
    rcases (mem_ancestors_iff h).mp ha with rfl | ⟨above, hparent, ha⟩
    · exact absurd rfl hne
    · by_cases heq : a = above
      · subst heq
        exact ⟨id, hparent, t.mem_ancestors_self id⟩
      · obtain ⟨c, hc, hmem⟩ := ih above (hparent.lt h) ha heq
        exact ⟨c, hc, mem_ancestors_trans h hmem (hparent.mem_ancestors h)⟩

theorem rootId_mem_ancestors {id : NodeId} (hid : id < t.nodes.size) :
    rootId ∈ t.ancestors id := by
  induction id using Nat.strongRecOn with
  | ind id ih =>
    by_cases hne : id = rootId
    · subst hne
      exact t.mem_ancestors_self rootId
    · obtain ⟨above, hlt, hparent⟩ := exists_isParent h (Array.getElem?_eq_getElem hid) hne
      exact (mem_ancestors_iff h).mpr (.inr ⟨above, hparent, ih above hlt (hlt.trans hid)⟩)

theorem not_isParent_rootId {above : NodeId} : ¬ t.IsParent above rootId := by
  intro hparent
  exact absurd (hparent.lt h) (Nat.not_lt_zero _)

theorem ancestors_rootId : t.ancestors rootId = [rootId] := by
  cases hparent : t.nodes[rootId]?.bind (·.parent) with
  | none => rw [ancestors, chain, hparent]
  | some above => exact absurd hparent (not_isParent_rootId h)

/-- The path to a step of the arena has the steps at or above it. -/
theorem mem_all_pathTo_iff {a id : NodeId} (hid : id < t.nodes.size) :
    a ∈ (t.pathTo id).all ↔ a ∈ t.ancestors id := by
  rw [Path.all, List.mem_cons, pathTo, List.mem_filter, List.mem_reverse, decide_eq_true_eq]
  constructor
  · rintro (rfl | ⟨hmem, -⟩)
    · exact rootId_mem_ancestors h hid
    · exact hmem
  · intro hmem
    by_cases heq : a = rootId
    · exact .inl heq
    · exact .inr ⟨hmem, heq⟩

end Order

theorem IsParent.lt_size {above id : NodeId} (hparent : t.IsParent above id) :
    id < t.nodes.size := by
  obtain ⟨n, hn, -⟩ := Option.bind_eq_some_iff.mp hparent
  exact (Array.getElem?_eq_some_iff.mp hn).1

theorem isParent_iff_map {above id : NodeId} :
    t.IsParent above id ↔ t.nodes[id]?.map (·.parent) = some (some above) := by
  rw [IsParent]
  cases t.nodes[id]? <;> simp

/-! ## What a step adds to the arena -/

section AddChild

variable {t' : Tree} {parent : NodeId} {spec : StepSpec} (hadd : t.addChild? parent spec = some t')
include hadd

/-- Adding a step puts it at the end of the arena and lists it below its parent. -/
theorem exists_nodes_addChild? : ∃ above, t.nodes[parent]? = some above ∧
    t'.nodes.size = t.nodes.size + 1 ∧ ∀ id, t'.nodes[id]? =
      if id = t.nodes.size then some (childNode parent above spec)
      else t.nodes[id]?.map fun n ↦
        if id = parent then { n with children := n.children ++ [t.nodes.size] } else n := by
  obtain ⟨above, habove, rfl⟩ := Option.map_eq_some_iff.mp hadd
  refine ⟨above, habove, by simp, fun id ↦ ?_⟩
  rw [Array.getElem?_push, Array.size_modify]
  split
  · rfl
  · rw [Array.getElem?_modify]
    by_cases heq : parent = id
    · simp [heq]
    · simp [heq, Ne.symm heq]

/-- What does not read the children of a step is read off the step added, and off the others as
before. -/
theorem read_addChild? {α : Type} {f : Node → α}
    (hf : ∀ (n : Node) children, f { n with children := children } = f n) :
    ∃ above, t.nodes[parent]? = some above ∧ ∀ id, t'.nodes[id]?.map f =
      if id = t.nodes.size then some (f (childNode parent above spec)) else t.nodes[id]?.map f := by
  obtain ⟨above, habove, -, hget⟩ := exists_nodes_addChild? hadd
  refine ⟨above, habove, fun id ↦ ?_⟩
  rw [hget]
  split
  · rfl
  · rw [Option.map_map]
    congr 1
    funext n
    rw [Function.comp_apply]
    split
    · exact hf n _
    · rfl

theorem isParent_addChild? {above id : NodeId} :
    t'.IsParent above id ↔ t.IsParent above id ∨ above = parent ∧ id = t.nodes.size := by
  obtain ⟨n, -, hread⟩ := read_addChild? hadd (f := (·.parent)) fun _ _ ↦ rfl
  rw [isParent_iff_map, isParent_iff_map, hread]
  split
  · next heq =>
    subst heq
    simp [childNode, @eq_comm _ parent]
  · next hne => simp [hne]

theorem mem_listedBelow_addChild? {above id : NodeId} :
    id ∈ t'.listedBelow above ↔
      id ∈ t.listedBelow above ∨ above = parent ∧ id = t.nodes.size := by
  obtain ⟨n, hn, -, hget⟩ := exists_nodes_addChild? hadd
  obtain ⟨hlt, -⟩ := Array.getElem?_eq_some_iff.mp hn
  rw [listedBelow, listedBelow, hget]
  split
  · next heq =>
    subst heq
    simp [childNode, hlt.ne']
  · by_cases heq : above = parent
    · subst heq
      simp [hn]
    · simp [heq]

theorem depthAt_addChild? (id : NodeId) :
    t'.depthAt id = if id = t.nodes.size then t.depthAt parent + 1 else t.depthAt id := by
  obtain ⟨n, hn, hread⟩ := read_addChild? hadd (f := (·.depth)) fun _ _ ↦ rfl
  rw [depthAt, hread]
  split
  · simp [childNode, depthAt, hn]
  · rfl

end AddChild

/-- A step is listed by the step above it and by no other. -/
theorem Built.mem_listedBelow_iff (h : t.Built) {above id : NodeId} :
    id ∈ t.listedBelow above ↔ t.IsParent above id := by
  refine ⟨fun hid ↦ ?_, h.listed⟩
  induction h with
  | root catalog spec =>
    by_cases habove : above = 0
    · subst habove
      simp [listedBelow, ofRoot] at hid
    · have hout : (ofRoot catalog spec).nodes.size ≤ above := Nat.pos_of_ne_zero habove
      rw [listedBelow, Array.getElem?_eq_none hout] at hid
      cases hid
  | child _ added ih =>
    rcases (mem_listedBelow_addChild? added).mp hid with hold | hnew
    · exact (isParent_addChild? added).mpr (.inl (ih hold))
    · exact (isParent_addChild? added).mpr (.inr hnew)
  | @prune t _ maxDepth ih =>
    have hframe : t.SameFrame (t.prune maxDepth) := lasting_frameOf.across_prune t maxDepth
    exact hframe.isParent.mpr (ih (hframe.listedBelow above ▸ hid))
  | @pruneByFilters t _ ih =>
    have hframe : t.SameFrame t.pruneByFilters := lasting_frameOf.across_pruneByFilters t
    exact hframe.isParent.mpr (ih (hframe.listedBelow above ▸ hid))

/-- The root lies at the top and a child one deeper than the step above it. -/
structure Graded (t : Tree) : Prop where
  /-- The root has depth zero. -/
  root : t.depthAt rootId = 0
  /-- A child lies one deeper. -/
  child : ∀ {above id}, t.IsParent above id → t.depthAt id = t.depthAt above + 1

theorem Graded.of_sameFrame (h : t.Graded) (hframe : t.SameFrame u) : u.Graded where
  root := by rw [hframe.depthAt, h.root]
  child := by
    intro above id hparent
    rw [hframe.depthAt, hframe.depthAt]
    exact h.child (hframe.isParent.mp hparent)

theorem Built.graded (h : t.Built) : t.Graded := by
  induction h with
  | root catalog spec =>
    refine ⟨rfl, fun {above id} hparent ↦ ?_⟩
    obtain rfl : id = rootId := Nat.lt_one_iff.mp hparent.lt_size
    exact absurd hparent (not_isParent_rootId (Built.root catalog spec).rooted)
  | @child t t' parent spec built added ih =>
    have hlt : parent < t.nodes.size := by
      obtain ⟨above, habove, -⟩ := Option.map_eq_some_iff.mp added
      exact (Array.getElem?_eq_some_iff.mp habove).1
    have hold : ∀ i < t.nodes.size, t'.depthAt i = t.depthAt i := by
      intro i hi
      rw [depthAt_addChild? added, if_neg hi.ne]
    refine ⟨by rw [hold rootId (Nat.zero_lt_of_lt hlt), ih.root], fun {above id} hparent ↦ ?_⟩
    rcases (isParent_addChild? added).mp hparent with hparent | ⟨rfl, rfl⟩
    · have hid := hparent.lt_size
      rw [hold id hid, hold above ((hparent.lt built.rooted).trans hid)]
      exact ih.child hparent
    · rw [hold above hlt, depthAt_addChild? added, if_pos rfl]
  | prune _ maxDepth ih => exact ih.of_sameFrame (lasting_frameOf.across_prune _ maxDepth)
  | pruneByFilters _ ih => exact ih.of_sameFrame (lasting_frameOf.across_pruneByFilters _)

end Tree

end PathQuery
