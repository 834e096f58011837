import Mathlib.Data.List.Chain
import Mathlib.Data.List.Nodup
import PathQuery.Query.Tree.Prune

/-!
# Paths of built trees

A tree starts as its root, grows by one step at a time and is pruned in two ways. None of this
ever changes the step above a step or its labels, so both are read off the *skeleton* of the
arena, which only grows. What holds of every built tree is that a step stands below an earlier one
and only the root below none; paths then lead from the root down, without repeating a step, and
cutting a path loses none of its steps.
-/

namespace PathQuery

namespace Tree

/-- The trees that building and pruning lead to. -/
inductive Built : Tree → Prop
  | root (catalog : Option Topology) (spec : RootSpec) : Built (ofRoot catalog spec)
  | child {t t' : Tree} {parent : NodeId} {spec : StepSpec} (built : Built t)
      (added : t.addChild? parent spec = some t') : Built t'
  | prune {t : Tree} (built : Built t) (maxDepth : Int) : Built (t.prune maxDepth)
  | pruneByFilters {t : Tree} (built : Built t) : Built t.pruneByFilters

/-- What a function reads off every step of the arena, removed ones included. -/
def across {α : Type} (t : Tree) (f : Node → α) : List α := t.nodes.toList.map f

theorem across_getElem? {α : Type} (t : Tree) (f : Node → α) (id : NodeId) :
    (t.across f)[id]? = t.nodes[id]?.map f := by
  simp [across]

/-- The step above each step of the arena, and its labels. -/
def skeleton (t : Tree) : List (Option NodeId × List String) :=
  t.across fun n ↦ (n.parent, n.labels)

theorem skeleton_getElem? (t : Tree) (id : NodeId) :
    t.skeleton[id]? = t.nodes[id]?.map fun n ↦ (n.parent, n.labels) :=
  t.across_getElem? _ id

/-! ## What pruning leaves alone -/

/-- A function reads what pruning leaves alone. -/
structure Lasting {α : Type} (f : Node → α) : Prop where
  /-- Removing a step does not change it. -/
  removed : ∀ n : Node, f { n with removed := true } = f n
  /-- Deciding filters does not change it. -/
  filters : ∀ (n : Node) filters, f { n with filters := filters } = f n

section Lasting

variable {α : Type} {f : Node → α}

theorem across_modify (t : Tree) (id : NodeId) (change : Node → Node)
    (hf : ∀ n, f (change n) = f n) :
    { t with nodes := t.nodes.modify id change }.across f = t.across f := by
  apply List.ext_getElem?
  intro i
  rw [across_getElem?, across_getElem?, Array.getElem?_modify]
  split
  · simp [Function.comp_def, hf]
  · rfl

theorem Lasting.across_markRemoved (hf : Lasting f) (t : Tree) (id : NodeId) :
    (t.markRemoved id).across f = t.across f := by
  apply List.ext_getElem?
  intro i
  rw [across_getElem?, across_getElem?, markRemoved, Array.getElem?_mapIdx, Option.map_map]
  congr 1
  funext n
  simp only [Function.comp_apply]
  split
  · exact hf.removed n
  · rfl

theorem Lasting.across_removeUp (hf : Lasting f) (fuel : ℕ) (t : Tree) (id : NodeId) :
    (t.removeUp fuel id).across f = t.across f := by
  induction fuel generalizing t id with
  | zero => rfl
  | succ fuel ih =>
    rw [removeUp]
    split
    · rfl
    · dsimp only
      split
      · exact hf.across_markRemoved t id
      · split
        · exact hf.across_markRemoved t id
        · rw [ih, hf.across_markRemoved]

theorem Lasting.across_pruneStep (hf : Lasting f) (maxDepth : Int) (t : Tree) (id : NodeId) :
    (pruneStep maxDepth t id).across f = t.across f := by
  rw [pruneStep]
  split
  · rfl
  · split
    · rfl
    · split
      · exact hf.across_markRemoved t id
      · rfl

theorem Lasting.across_resolveStep (hf : Lasting f) (t : Tree) (id : NodeId) :
    (t.resolveStep id).across f = t.across f := by
  have hset : ∀ filters, (t.setFilters id filters).across f = t.across f :=
    fun filters ↦ across_modify t id _ fun n ↦ hf.filters n filters
  rw [resolveStep]
  split
  · rfl
  · dsimp only
    split
    · exact hset _
    · split
      · exact hset []
      · rw [remove, hf.across_removeUp, hset]

theorem across_foldl {step : Tree → NodeId → Tree}
    (hstep : ∀ t id, (step t id).across f = t.across f) (ids : List NodeId) (t : Tree) :
    (ids.foldl step t).across f = t.across f := by
  induction ids generalizing t with
  | nil => rfl
  | cons id ids ih => rw [List.foldl_cons, ih, hstep]

theorem Lasting.across_prune (hf : Lasting f) (t : Tree) (maxDepth : Int) :
    (t.prune maxDepth).across f = t.across f :=
  across_foldl (hf.across_pruneStep maxDepth) _ t

theorem Lasting.across_pruneByFilters (hf : Lasting f) (t : Tree) :
    t.pruneByFilters.across f = t.across f :=
  across_foldl hf.across_resolveStep _ t

end Lasting

theorem lasting_skeleton : Lasting fun n ↦ (n.parent, n.labels) := ⟨fun _ ↦ rfl, fun _ _ ↦ rfl⟩

/-- Only adding a step changes the skeleton. -/
theorem skeleton_addChild? {t t' : Tree} {parent : NodeId} {spec : StepSpec}
    (h : t.addChild? parent spec = some t') :
    parent < t.skeleton.length ∧
      t'.skeleton = t.skeleton ++ [(some parent, sortLabels spec.labels)] := by
  obtain ⟨above, habove, rfl⟩ := Option.map_eq_some_iff.mp h
  obtain ⟨hlt, -⟩ := Array.getElem?_eq_some_iff.mp habove
  refine ⟨by simpa [skeleton, across] using hlt, ?_⟩
  have hmodify := across_modify (f := fun n ↦ (n.parent, n.labels)) t parent
    (fun n ↦ { n with children := n.children ++ [t.nodes.size] }) fun _ ↦ rfl
  rw [across] at hmodify
  rw [skeleton, across, Array.toList_push, List.map_append, hmodify]
  rfl

/-! ## Labels without repeats -/

theorem pairwise_lt_eraseRepsBy_loop {as acc : List String} {a : String}
    (has : (a :: as).Pairwise (· ≤ ·)) (hacc : acc.Pairwise (· > ·)) (hlt : ∀ b ∈ acc, b < a) :
    (List.eraseRepsBy.loop (· == ·) a as acc).Pairwise (· < ·) := by
  induction as generalizing a acc with
  | nil =>
    rw [List.eraseRepsBy.loop, List.pairwise_reverse]
    exact List.pairwise_cons.mpr ⟨hlt, hacc⟩
  | cons b bs ih =>
    obtain ⟨hab, hbs⟩ := List.pairwise_cons.mp has
    rw [List.eraseRepsBy.loop]
    split
    · next heq =>
      obtain rfl := beq_iff_eq.mp heq
      exact ih hbs hacc hlt
    · next hne =>
      have hlt' : a < b := String.not_le.mp fun hba ↦
        absurd (String.le_antisymm (hab b (by simp)) hba) (by simpa using hne)
      refine ih hbs (List.pairwise_cons.mpr ⟨hlt, hacc⟩) fun x hx ↦ ?_
      rcases List.mem_cons.mp hx with rfl | hx
      · exact hlt'
      · exact String.lt_trans (hlt x hx) hlt'

theorem pairwise_lt_sortLabels (labels : List String) : (sortLabels labels).Pairwise (· < ·) := by
  have hsorted : (labels.mergeSort fun a b ↦ decide (a ≤ b)).Pairwise (· ≤ ·) := by
    simpa using @List.pairwise_mergeSort String (fun a b ↦ decide (a ≤ b))
      (by simpa using fun _ _ _ ↦ String.le_trans)
      (by simpa using fun a b ↦ String.le_total a b) labels
  rw [sortLabels]
  cases hlabels : labels.mergeSort fun a b ↦ decide (a ≤ b) with
  | nil => exact .nil
  | cons a as =>
    rw [hlabels] at hsorted
    exact pairwise_lt_eraseRepsBy_loop hsorted .nil (by simp)

theorem nodup_sortLabels (labels : List String) : (sortLabels labels).Nodup :=
  (pairwise_lt_sortLabels labels).imp fun h heq ↦ absurd (heq ▸ h) (String.lt_irrefl _)

/-! ## The arena of a built tree -/

/-- Every step stands below an earlier one, the root excepted, and repeats no label. -/
structure Rooted (skeleton : List (Option NodeId × List String)) : Prop where
  /-- The root comes first and stands below nothing. -/
  root : ∃ labels, skeleton[rootId]? = some (none, labels)
  /-- The other steps stand below earlier ones. -/
  below : ∀ {id : NodeId} {above labels}, id ≠ rootId → skeleton[id]? = some (above, labels) →
    ∃ parent < id, above = some parent
  /-- No step repeats a label. -/
  labels : ∀ {id : NodeId} {above labels}, skeleton[id]? = some (above, labels) → List.Nodup labels

/-- A step of a larger skeleton is an old one or the one just added. -/
theorem getElem?_append_singleton_cases {α : Type} {xs : List α} {x y : α} {i : ℕ}
    (h : (xs ++ [x])[i]? = some y) : xs[i]? = some y ∨ i = xs.length ∧ y = x := by
  rw [List.getElem?_append] at h
  split at h
  · exact .inl h
  · rw [List.getElem?_singleton] at h
    split at h
    · exact .inr ⟨by omega, (Option.some.inj h).symm⟩
    · cases h

theorem rooted_append {skeleton : List (Option NodeId × List String)} (h : Rooted skeleton)
    {parent : NodeId} (hparent : parent < skeleton.length) (labels : List String) :
    Rooted (skeleton ++ [(some parent, sortLabels labels)]) where
  root := by
    obtain ⟨labels', hroot⟩ := h.root
    have hlt : rootId < skeleton.length := Nat.zero_lt_of_lt hparent
    exact ⟨labels', by rw [List.getElem?_append_left hlt, hroot]⟩
  below := by
    intro id above labels' hne heq
    rcases getElem?_append_singleton_cases heq with hold | ⟨rfl, hnew⟩
    · exact h.below hne hold
    · exact ⟨parent, hparent, (Prod.mk.inj hnew).1⟩
  labels := by
    intro id above labels' heq
    rcases getElem?_append_singleton_cases heq with hold | ⟨rfl, hnew⟩
    · exact h.labels hold
    · rw [(Prod.mk.inj hnew).2]
      exact nodup_sortLabels _

theorem Built.rooted {t : Tree} (h : t.Built) : Rooted t.skeleton := by
  induction h with
  | root catalog spec =>
    have hskeleton : (ofRoot catalog spec).skeleton = [] ++ [(none, sortLabels spec.labels)] := rfl
    rw [hskeleton]
    refine ⟨⟨_, rfl⟩, ?_, ?_⟩
    · intro id above labels hne heq
      rcases getElem?_append_singleton_cases heq with hold | ⟨rfl, -⟩
      · cases hold
      · exact absurd rfl hne
    · intro id above labels heq
      rcases getElem?_append_singleton_cases heq with hold | ⟨rfl, hnew⟩
      · cases hold
      · rw [(Prod.mk.inj hnew).2]
        exact nodup_sortLabels _
  | child _ added ih =>
    obtain ⟨hparent, hskeleton⟩ := skeleton_addChild? added
    rw [hskeleton]
    exact rooted_append ih hparent _
  | prune _ maxDepth ih => rwa [skeleton, lasting_skeleton.across_prune]
  | pruneByFilters _ ih => rwa [skeleton, lasting_skeleton.across_pruneByFilters]

/-- The labels of a step are in order. -/
theorem Built.sorted {t : Tree} (h : t.Built) {id : NodeId} {above : Option NodeId}
    {labels : List String} (heq : t.skeleton[id]? = some (above, labels)) :
    labels.Pairwise (· < ·) := by
  induction h generalizing id above labels with
  | root catalog spec =>
    have hskeleton : (ofRoot catalog spec).skeleton = [] ++ [(none, sortLabels spec.labels)] := rfl
    rw [hskeleton] at heq
    rcases getElem?_append_singleton_cases heq with hold | ⟨-, hnew⟩
    · cases hold
    · rw [(Prod.mk.inj hnew).2]
      exact pairwise_lt_sortLabels _
  | child _ added ih =>
    rw [(skeleton_addChild? added).2] at heq
    rcases getElem?_append_singleton_cases heq with hold | ⟨-, hnew⟩
    · exact ih hold
    · rw [(Prod.mk.inj hnew).2]
      exact pairwise_lt_sortLabels _
  | prune _ maxDepth ih =>
    rw [skeleton, lasting_skeleton.across_prune] at heq
    exact ih heq
  | pruneByFilters _ ih =>
    rw [skeleton, lasting_skeleton.across_pruneByFilters] at heq
    exact ih heq

/-! ## Paths lead down from the root -/

/-- One step of the arena stands right above another. -/
def IsParent (t : Tree) (above id : NodeId) : Prop := t.nodes[id]?.bind (·.parent) = some above

theorem isParent_of_some {t : Tree} {above id : NodeId} {n : Node} (h : t.node? id = some n) :
    t.IsParent above id ↔ n.parent = some above := by
  rw [node?, Option.filter_eq_some_iff] at h
  rw [IsParent, h.1, Option.bind_some]

variable {t : Tree}

theorem exists_isParent (h : Rooted t.skeleton) {id : NodeId} {n : Node}
    (hn : t.nodes[id]? = some n) (hne : id ≠ rootId) : ∃ above < id, t.IsParent above id := by
  obtain ⟨above, hlt, heq⟩ := h.below hne (by rw [skeleton_getElem?, hn, Option.map_some])
  exact ⟨above, hlt, by rw [IsParent, hn, Option.bind_some, heq]⟩

theorem IsParent.lt (h : Rooted t.skeleton) {above id : NodeId} (hparent : t.IsParent above id) :
    above < id := by
  obtain ⟨n, hn, habove⟩ := Option.bind_eq_some_iff.mp hparent
  have hne : id ≠ rootId := by
    rintro rfl
    obtain ⟨labels, hroot⟩ := h.root
    rw [skeleton_getElem?, hn, Option.map_some, habove] at hroot
    cases hroot
  obtain ⟨above', hlt, hparent'⟩ := exists_isParent h hn hne
  rw [IsParent, hparent, Option.some.injEq] at hparent'
  rwa [hparent']

/-- A chain does not depend on its fuel, once there is enough. -/
theorem chain_eq_ancestors (h : Rooted t.skeleton) {fuel : ℕ} {id : NodeId} (hfuel : id < fuel) :
    t.chain fuel id = t.ancestors id := by
  induction id using Nat.strongRecOn generalizing fuel with
  | ind id ih =>
    obtain ⟨fuel, rfl⟩ := Nat.exists_eq_add_one_of_ne_zero (Nat.ne_zero_of_lt hfuel)
    rw [ancestors, chain, chain]
    cases hparent : t.nodes[id]?.bind (·.parent) with
    | none => rfl
    | some above =>
      have hlt : above < id := IsParent.lt h hparent
      simp only
      rw [ih above hlt (Nat.lt_of_lt_of_le hlt (Nat.le_of_lt_succ hfuel)), ih above hlt hlt]

theorem ancestors_of_isParent (h : Rooted t.skeleton) {above id : NodeId}
    (hparent : t.IsParent above id) : t.ancestors id = id :: t.ancestors above := by
  rw [ancestors, chain, show t.nodes[id]?.bind (·.parent) = some above from hparent]
  simp only
  rw [chain_eq_ancestors h (hparent.lt h)]

theorem pathTo_rootId (h : Rooted t.skeleton) : t.pathTo rootId = ⟨[]⟩ := by
  obtain ⟨labels, hroot⟩ := h.root
  obtain ⟨n, hn, heq⟩ := Option.map_eq_some_iff.mp (skeleton_getElem? t rootId ▸ hroot)
  have hancestors : t.ancestors rootId = [rootId] := by
    rw [ancestors, chain, hn, Option.bind_some, (Prod.mk.inj heq).1]
  rw [pathTo, hancestors]
  rfl

theorem pathTo_of_isParent (h : Rooted t.skeleton) {above id : NodeId}
    (hparent : t.IsParent above id) : t.pathTo id = ⟨(t.pathTo above).nodes ++ [id]⟩ := by
  have hne : id ≠ rootId := Nat.ne_zero_of_lt (hparent.lt h)
  rw [pathTo, ancestors_of_isParent h hparent, List.reverse_cons, List.filter_append, pathTo]
  simp [hne]

theorem getLast?_all (p : Path) : p.all.getLast? = some p.leaf := by
  rw [Path.all, List.getLast?_cons, Path.leaf, List.getLastD_eq_getLast?]

/-- The path to a step of the arena leads down to it from the root, one step at a time. -/
theorem isChain_pathTo (h : Rooted t.skeleton) {id : NodeId} {n : Node}
    (hn : t.nodes[id]? = some n) :
    (t.pathTo id).all.IsChain t.IsParent ∧ (t.pathTo id).leaf = id := by
  induction id using Nat.strongRecOn generalizing n with
  | ind id ih =>
    by_cases hne : id = rootId
    · subst hne
      rw [pathTo_rootId h]
      exact ⟨.singleton _, rfl⟩
    · obtain ⟨above, hlt, hparent⟩ := exists_isParent h hn hne
      have habove : above < t.nodes.size := hlt.trans (Array.getElem?_eq_some_iff.mp hn).1
      obtain ⟨hchain, hleaf⟩ := ih above hlt (Array.getElem?_eq_getElem habove)
      have hall : (t.pathTo id).all = (t.pathTo above).all ++ [id] := by
        rw [pathTo_of_isParent h hparent]
        rfl
      refine ⟨?_, by rw [pathTo_of_isParent h hparent, Path.leaf, List.getLastD_concat]⟩
      rw [hall, List.isChain_append, getLast?_all, hleaf]
      refine ⟨hchain, .singleton _, ?_⟩
      simpa using hparent

/-- A path that leads down repeats no step. -/
theorem nodup_of_isChain (h : Rooted t.skeleton) {ids : List NodeId}
    (hchain : ids.IsChain t.IsParent) : ids.Nodup := by
  have hincreasing : ids.IsChain (· < ·) := hchain.imp fun _ _ hparent ↦ hparent.lt h
  exact hincreasing.pairwise.imp Nat.ne_of_lt

/-- The path to a step outside the arena has a step that is not live. -/
theorem exists_of_pathTo_live (h : Rooted t.skeleton) {id : NodeId}
    (hlive : ∀ i ∈ (t.pathTo id).all, ∃ n, t.node? i = some n) : ∃ n, t.nodes[id]? = some n := by
  by_contra hnone
  have hout : t.nodes[id]? = none := by
    rw [Option.eq_none_iff_forall_not_mem]
    exact fun n hn ↦ hnone ⟨n, hn⟩
  by_cases hroot : id = rootId
  · obtain ⟨labels, hsome⟩ := h.root
    rw [skeleton_getElem?, ← hroot, hout] at hsome
    cases hsome
  · have hmem : id ∈ (t.pathTo id).all := by
      refine List.mem_cons_of_mem _ (List.mem_filter.mpr ⟨?_, by simpa using hroot⟩)
      rw [ancestors, chain]
      simp
    obtain ⟨n, hn⟩ := hlive id hmem
    rw [node?, hout] at hn
    cases hn

/-! ## Cutting -/

theorem flatten_cutRuns (table : NodeId → Table) (done : List (List NodeId))
    (current rest : List NodeId) :
    (cutRuns table done current rest).flatten = done.reverse.flatten ++ current.reverse ++ rest := by
  induction rest generalizing done current with
  | nil => simp [cutRuns]
  | cons id rest ih =>
    rw [cutRuns]
    split
    · rw [ih]
      simp
    · rw [ih]
      simp

theorem ne_nil_of_mem_cutRuns {table : NodeId → Table} {done : List (List NodeId)}
    {current rest : List NodeId} (hdone : ∀ run ∈ done, run ≠ []) (hcurrent : current ≠ []) :
    ∀ run ∈ cutRuns table done current rest, run ≠ [] := by
  induction rest generalizing done current with
  | nil =>
    intro run hrun
    rw [cutRuns, List.mem_reverse, List.mem_cons] at hrun
    rcases hrun with rfl | hrun
    · simpa using hcurrent
    · exact hdone run hrun
  | cons id rest ih =>
    rw [cutRuns]
    split
    · exact ih (by simpa [hcurrent] using hdone) (by simp)
    · exact ih hdone (by simp)

theorem cutRuns_ne_nil (table : NodeId → Table) (done : List (List NodeId))
    (current rest : List NodeId) : cutRuns table done current rest ≠ [] := by
  induction rest generalizing done current with
  | nil => simp [cutRuns]
  | cons id rest ih =>
    rw [cutRuns]
    split <;> exact ih _ _

theorem segments_ne_nil (t : Tree) (p : Path) : t.segments p ≠ [] := cutRuns_ne_nil _ _ _ _

theorem flatten_segments (t : Tree) (p : Path) : (t.segments p).flatten = p.nodes := by
  rw [segments, flatten_cutRuns]
  simp

/-- A path that is cut is cut into runs that have steps. -/
theorem ne_nil_of_mem_segments {p : Path} (hcut : ∀ nodes, t.segments p ≠ [nodes]) :
    ∀ run ∈ t.segments p, run ≠ [] := by
  cases hnodes : p.nodes with
  | nil => exact absurd (by rw [segments, hnodes]; rfl) (hcut [])
  | cons id rest =>
    rw [segments, hnodes, cutRuns]
    exact ne_nil_of_mem_cutRuns (by simp) (by simp)

/-- The root stands in for the ends of a run that is empty. -/
theorem ends_of_forall {P : NodeId → Prop} (hroot : P rootId) {run : List NodeId}
    (hrun : ∀ id ∈ run, P id) : P (run.headD rootId) ∧ P (run.getLastD rootId) := by
  have hmem : ∀ id ∈ rootId :: run, P id := List.forall_mem_cons.mpr ⟨hroot, hrun⟩
  refine ⟨?_, hmem _ List.getLastD_mem_cons⟩
  cases run with
  | nil => exact hroot
  | cons id run => exact hrun id List.mem_cons_self

end Tree

end PathQuery
