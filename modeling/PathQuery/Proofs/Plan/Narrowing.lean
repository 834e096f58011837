import PathQuery.Plan.Basic
import PathQuery.Proofs.Query.DepthPruning
import PathQuery.Proofs.Query.FilterPruning
import PathQuery.Proofs.Relational.Statement

/-!
# Plans with one more filter

A filter added to a step leaves the arena of the tree as it is and rules out more of its steps, so
that filter pruning leaves fewer of them. A plan that names no depth is then pruned to the depth of
what is left. As long as the deepest branch is left, one more filter takes projected steps away and
adds none. When it goes, the tree becomes shallower and the steps that are deepest now are projected
in place of those that were.
-/

namespace PathQuery

namespace Tree

variable {t t' u u' : Tree}

/-! ## Trees pruned to the depth that their filters leave -/

namespace Grown

variable (h : t.Grown) {id : NodeId}
include h

theorem isLive_rootId_pruneByFilters : t.pruneByFilters.isLive rootId :=
  (h.decided_pruneByFilters.live rootId).mpr (.inl rfl)

theorem upward_pruneByFilters : t.pruneByFilters.Upward := h.decided_pruneByFilters.trims.upward

theorem sameFrame_pruneByFilters : t.SameFrame t.pruneByFilters :=
  h.decided_pruneByFilters.trims.frame

theorem sameFrame_pruned : t.SameFrame (t.pruneByFilters.prune t.pruneByFilters.depth) :=
  (lasting_frameOf.across_prune _ _).trans h.sameFrame_pruneByFilters

theorem projects_pruned_iff : (t.pruneByFilters.prune t.pruneByFilters.depth).Projects id ↔
    t.pruneByFilters.rootInvalid = false ∧ t.pruneByFilters.isLive id ∧
      (t.depthAt id = t.pruneByFilters.depth ∨ t.emitsAt id) := by
  rw [projects_prune_depth_iff h.built.pruneByFilters h.upward_pruneByFilters
    h.isLive_rootId_pruneByFilters, h.sameFrame_pruneByFilters.depthAt,
    h.sameFrame_pruneByFilters.emitsAt]

theorem mem_leaves_pruned_iff : id ∈ (t.pruneByFilters.prune t.pruneByFilters.depth).leaves ↔
    t.pruneByFilters.isLive id ∧ t.depthAt id = t.pruneByFilters.depth := by
  rw [mem_leaves_prune_depth_iff h.built.pruneByFilters h.upward_pruneByFilters
    h.isLive_rootId_pruneByFilters, h.sameFrame_pruneByFilters.depthAt]

theorem depth_pruned : (t.pruneByFilters.prune t.pruneByFilters.depth).depth =
    t.pruneByFilters.depth :=
  depth_prune_depth h.built.pruneByFilters h.upward_pruneByFilters h.isLive_rootId_pruneByFilters

end Grown

/-! ## Trees with more filters -/

/-- Two trees have grown side by side, step by step, and no step of the first has a filter that it
lacks in the second. -/
inductive Narrows : Tree → Tree → Prop
  | root (catalog : Option Topology) (spec : RootSpec) {filters : List Filter}
      (more : spec.filters ⊆ filters) :
      Narrows (ofRoot catalog spec) (ofRoot catalog { spec with filters := filters })
  | child {t t' u u' : Tree} {parent : NodeId} {spec : StepSpec} {filters : List Filter}
      (narrows : Narrows t t') (more : spec.filters ⊆ filters)
      (added : t.addChild? parent spec = some u)
      (added' : t'.addChild? parent { spec with filters := filters } = some u') : Narrows u u'

theorem SameFrame.addChild? (h : t.SameFrame t') {parent : NodeId} {spec : StepSpec}
    {filters : List Filter} (hadd : t.addChild? parent spec = some u)
    (hadd' : t'.addChild? parent { spec with filters := filters } = some u') : u.SameFrame u' := by
  obtain ⟨above, habove, -, hget⟩ := exists_nodes_addChild? hadd
  obtain ⟨above', habove', -, hget'⟩ := exists_nodes_addChild? hadd'
  have hdepth : above'.depth = above.depth := by
    have hread := h.read (f := (·.depth)) ⟨fun _ ↦ rfl, fun _ _ ↦ rfl⟩ parent
    rw [habove, habove'] at hread
    exact Option.some.inj hread
  apply List.ext_getElem?
  intro id
  rw [across_getElem?, across_getElem?, hget, hget', h.size]
  split
  · simp [childNode, frameOf, hdepth]
  · -- listing a step below its parent does not touch what pruning may change
    have hcommute : ∀ v : Tree, (v.nodes[id]?.map fun n ↦ if id = parent
        then { n with children := n.children ++ [t.nodes.size] } else n).map frameOf =
        (v.nodes[id]?.map frameOf).map fun n ↦ if id = parent
          then { n with children := n.children ++ [t.nodes.size] } else n := by
      intro v
      rw [Option.map_map, Option.map_map]
      congr 1
      funext n
      simp only [Function.comp_apply]
      split <;> rfl
    rw [hcommute, hcommute, h.read lasting_frameOf]

namespace Narrows

theorem grown (h : t.Narrows t') : t.Grown ∧ t'.Grown := by
  induction h with
  | root catalog spec => exact ⟨.root _ _, .root _ _⟩
  | child _ _ added added' ih => exact ⟨ih.1.child added, ih.2.child added'⟩

theorem sameFrame (h : t.Narrows t') : t.SameFrame t' := by
  induction h with
  | root catalog spec => rfl
  | child _ _ added added' ih => exact ih.addChild? added added'

theorem catalog (h : t.Narrows t') : t'.catalog = t.catalog := by
  induction h with
  | root catalog spec => rfl
  | child _ _ added added' ih =>
    obtain ⟨_, -, rfl⟩ := Option.map_eq_some_iff.mp added
    obtain ⟨_, -, rfl⟩ := Option.map_eq_some_iff.mp added'
    exact ih

theorem filters_subset (h : t.Narrows t') {id : NodeId} {n n' : Node}
    (hn : t.nodes[id]? = some n) (hn' : t'.nodes[id]? = some n') : n.filters ⊆ n'.filters := by
  induction h generalizing n n' with
  | root catalog spec more =>
    obtain ⟨hlt, -⟩ := Array.getElem?_eq_some_iff.mp hn
    obtain rfl : id = 0 := Nat.lt_one_iff.mp hlt
    obtain rfl := Option.some.inj hn
    obtain rfl := Option.some.inj hn'
    exact more
  | @child t t' u u' parent spec filters narrows more added added' ih =>
    obtain ⟨above, -, -, hget⟩ := exists_nodes_addChild? added
    obtain ⟨above', -, -, hget'⟩ := exists_nodes_addChild? added'
    rw [hget] at hn
    rw [hget', narrows.sameFrame.size] at hn'
    split at hn
    · next heq =>
      rw [if_pos heq] at hn'
      obtain rfl := Option.some.inj hn
      obtain rfl := Option.some.inj hn'
      rw [childNode, childNode]
      dsimp only
      split
      · exact more
      · exact List.Subset.refl _
    · next hne =>
      rw [if_neg hne] at hn'
      obtain ⟨m, hm, rfl⟩ := Option.map_eq_some_iff.mp hn
      obtain ⟨m', hm', rfl⟩ := Option.map_eq_some_iff.mp hn'
      have hsubset := ih hm hm'
      split <;> exact hsubset

/-- A step that can match something with more filters can with fewer. -/
theorem matchableAt (h : t.Narrows t') {id : NodeId} (hid : t'.matchableAt id) :
    t.matchableAt id := by
  rw [Tree.matchableAt, Option.any_eq_true] at hid
  obtain ⟨n', hn', hmatch⟩ := hid
  have hread := h.sameFrame.read (f := (·.table)) ⟨fun _ ↦ rfl, fun _ _ ↦ rfl⟩ id
  rw [hn', Option.map_some] at hread
  obtain ⟨n, hn, htable⟩ := Option.map_eq_some_iff.mp hread.symm
  rw [Tree.matchableAt, hn, Option.any_some]
  rw [isMatchable, List.all_eq_true, h.catalog, ← htable] at hmatch
  rw [isMatchable, List.all_eq_true]
  exact fun f hf ↦ hmatch f (h.filters_subset hn hn' hf)

theorem isLive_pruneByFilters (h : t.Narrows t') {id : NodeId}
    (hid : t'.pruneByFilters.isLive id) : t.pruneByFilters.isLive id := by
  rw [h.grown.2.isLive_pruneByFilters, h.sameFrame.kept] at hid
  rw [h.grown.1.isLive_pruneByFilters]
  refine hid.mono h.grown.1.built.rooted fun a _ _ hbad ↦ ?_
  rw [← Bool.not_eq_true] at hbad ⊢
  exact mt h.matchableAt hbad

theorem rootInvalid_pruneByFilters (h : t.Narrows t') (hinvalid : t.pruneByFilters.rootInvalid) :
    t'.pruneByFilters.rootInvalid := by
  rw [h.grown.1.rootInvalid_pruneByFilters, Bool.not_eq_true'] at hinvalid
  rw [h.grown.2.rootInvalid_pruneByFilters, Bool.not_eq_true', ← Bool.not_eq_true]
  exact mt h.matchableAt (by rw [hinvalid]; decide)

/-- Both trees add a step of the same place, or neither does. -/
theorem addChild (h : t.Narrows t') (parent : NodeId) {spec : StepSpec} {filters : List Filter}
    (more : spec.filters ⊆ filters) : ((t.addChild? parent spec).getD t).Narrows
      ((t'.addChild? parent { spec with filters := filters }).getD t') := by
  have hsize := h.sameFrame.size
  by_cases hlt : parent < t.nodes.size
  · have hadd : (t.addChild? parent spec).isSome := by simp [addChild?, hlt]
    have hadd' : (t'.addChild? parent { spec with filters := filters }).isSome := by
      simp [addChild?, hsize, hlt]
    obtain ⟨u, hu⟩ := Option.isSome_iff_exists.mp hadd
    obtain ⟨u', hu'⟩ := Option.isSome_iff_exists.mp hadd'
    rw [hu, hu']
    exact h.child more hu hu'
  · have hadd : t.addChild? parent spec = none := by simp [addChild?, hlt]
    have hadd' : t'.addChild? parent { spec with filters := filters } = none := by
      simp [addChild?, hsize, hlt]
    rw [hadd, hadd']
    exact h

/-- **When more filters add no results.** A tree with more filters, both pruned to the depths of
what their filters leave, projects no step that the other does not project exactly when its root
matches nothing, or it is as deep as the other, or all its leaves emit. -/
theorem projects_subset_iff (h : t.Narrows t') {v v' : Tree}
    (hv : v = t.pruneByFilters.prune t.pruneByFilters.depth)
    (hv' : v' = t'.pruneByFilters.prune t'.pruneByFilters.depth) :
    (∀ id, v'.Projects id → v.Projects id) ↔
      v'.rootInvalid ∨ v'.depth = v.depth ∨ ∀ id ∈ v'.leaves, v'.emitsAt id := by
  subst hv hv'
  rw [rootInvalid_prune, h.grown.1.depth_pruned, h.grown.2.depth_pruned]
  -- depths and emits are those of the arena, which both trees share
  simp only [h.grown.1.projects_pruned_iff, h.grown.2.projects_pruned_iff,
    h.grown.2.mem_leaves_pruned_iff, h.grown.2.sameFrame_pruned.emitsAt, h.sameFrame.depthAt,
    h.sameFrame.emitsAt]
  constructor
  · intro hsubset
    by_cases hinvalid : t'.pruneByFilters.rootInvalid = true
    · exact .inl hinvalid
    · by_cases hsame : t'.pruneByFilters.depth = t.pruneByFilters.depth
      · exact .inr (.inl hsame)
      · -- a deepest step of the shallower tree is projected by the other only if it emits
        refine .inr (.inr fun id ⟨hlive, hdeepest⟩ ↦ ?_)
        have hprojected := hsubset id ⟨Bool.eq_false_iff.mpr hinvalid, hlive, .inl hdeepest⟩
        exact hprojected.2.2.resolve_left fun hdeepest' ↦ hsame (hdeepest.symm.trans hdeepest')
  · rintro hcases id ⟨hvalid', hlive', hshown⟩
    have hvalid : t.pruneByFilters.rootInvalid = false := by
      rw [Bool.eq_false_iff] at hvalid' ⊢
      exact mt h.rootInvalid_pruneByFilters hvalid'
    refine ⟨hvalid, h.isLive_pruneByFilters hlive', ?_⟩
    rcases hshown with hdeepest | hemits
    · rcases hcases with hinvalid | hsame | hemits
      · rw [hvalid'] at hinvalid
        cases hinvalid
      · exact .inl (hdeepest.trans hsame)
      · exact .inr (hemits id ⟨hlive', hdeepest⟩)
    · exact .inr hemits

end Narrows

end Tree

/-! ## Steps with one more filter -/

namespace PlanStep

variable {g : Topology} {s s' : PlanStep} {t t' u u' : Tree} {parent : NodeId}

/-- A step with one more filter, on itself or on a step below it. -/
inductive AddsFilter : PlanStep → PlanStep → Prop
  | here (s : PlanStep) {before after : List PlanFilter} (f : PlanFilter)
      (filters : s.filters = before ++ after) :
      AddsFilter s { s with filters := before ++ f :: after }
  | nested (s : PlanStep) {before after : List PlanStep} {c c' : PlanStep}
      (steps : s.steps = before ++ c :: after) (adds : AddsFilter c c') :
      AddsFilter s { s with steps := before ++ c' :: after }

theorem exists_of_rootSpec {spec : RootSpec} (h : s.rootSpec g = .ok spec) :
    ∃ table direction filters orderings, g.resolve s.table = .ok table ∧
      s.readDirection = .ok direction ∧ s.filters.mapM PlanFilter.build = .ok filters ∧
      s.orders.mapM PlanOrder.build = .ok orderings ∧
      spec = {
        table, direction, filters, orderings
        step := if s.start.isNull then .graph else .vertex
        start := s.start.widen
        labels := s.labels } := by
  obtain ⟨table, htable, h⟩ := bind_eq_ok_iff.mp h
  obtain ⟨direction, hdirection, h⟩ := bind_eq_ok_iff.mp h
  obtain ⟨filters, hfilters, h⟩ := bind_eq_ok_iff.mp h
  obtain ⟨orderings, horderings, h⟩ := bind_eq_ok_iff.mp h
  exact ⟨table, direction, filters, orderings, mapError_eq_ok_iff.mp htable, hdirection, hfilters,
    horderings, (Except.ok.inj h).symm⟩

theorem exists_of_stepSpec {spec : StepSpec} (h : s.stepSpec g = .ok spec) :
    ∃ table direction element filters orderings, g.resolve s.table = .ok table ∧
      s.readDirection = .ok direction ∧ s.readElement table = .ok element ∧
      s.filters.mapM PlanFilter.build = .ok filters ∧
      s.orders.mapM PlanOrder.build = .ok orderings ∧
      spec = {
        table, direction, element, filters, orderings
        edgeVertex := s.edgeVertex
        labels := s.labels
        isOptional := s.isOptional
        emits := s.emits } := by
  rw [stepSpec] at h
  dsimp only at h
  split at h
  · obtain ⟨_, hstart, -⟩ := bind_eq_ok_iff.mp h
    cases hstart
  · obtain ⟨table, htable, h⟩ := bind_eq_ok_iff.mp h
    obtain ⟨direction, hdirection, h⟩ := bind_eq_ok_iff.mp h
    obtain ⟨element, helement, h⟩ := bind_eq_ok_iff.mp h
    obtain ⟨filters, hfilters, h⟩ := bind_eq_ok_iff.mp h
    obtain ⟨orderings, horderings, h⟩ := bind_eq_ok_iff.mp h
    exact ⟨table, direction, element, filters, orderings, mapError_eq_ok_iff.mp htable,
      mapError_eq_ok_iff.mp hdirection, mapError_eq_ok_iff.mp helement,
      mapError_eq_ok_iff.mp hfilters, mapError_eq_ok_iff.mp horderings, (Except.ok.inj h).symm⟩

section Filters

variable {fs fs' : List PlanFilter}

theorem filters_subset_of_mapM {filters filters' : List Filter} (hsubset : fs ⊆ fs')
    (h : fs.mapM PlanFilter.build = .ok filters) (h' : fs'.mapM PlanFilter.build = .ok filters') :
    filters ⊆ filters' := by
  intro filter hfilter
  obtain ⟨f, hf, hbuild⟩ := exists_of_mem_right_of_mapM_eq_ok h filter hfilter
  obtain ⟨filter', hfilter', hbuild'⟩ := exists_of_mem_of_mapM_eq_ok h' f (hsubset hf)
  rw [hbuild] at hbuild'
  exact Except.ok.inj hbuild' ▸ hfilter'

theorem readDirection_withFilters : readDirection { s with filters := fs } = s.readDirection := by
  simp only [readDirection]

theorem readElement_withFilters (table : Table) :
    readElement { s with filters := fs } table = s.readElement table := by
  simp only [readElement]

theorem rootSpec_of_subset {spec spec' : RootSpec} (hsubset : s.filters ⊆ fs)
    (h : s.rootSpec g = .ok spec) (h' : rootSpec g { s with filters := fs } = .ok spec') :
    ∃ filters, spec.filters ⊆ filters ∧ spec' = { spec with filters := filters } := by
  obtain ⟨table, direction, filters, orderings, htable, hdirection, hfilters, horderings, rfl⟩ :=
    exists_of_rootSpec h
  obtain ⟨table', direction', filters', orderings', htable', hdirection', hfilters', horderings',
    rfl⟩ := exists_of_rootSpec h'
  rw [readDirection_withFilters] at hdirection'
  obtain rfl : table = table' := Except.ok.inj (htable.symm.trans htable')
  obtain rfl : direction = direction' := Except.ok.inj (hdirection.symm.trans hdirection')
  obtain rfl : orderings = orderings' := Except.ok.inj (horderings.symm.trans horderings')
  exact ⟨filters', filters_subset_of_mapM hsubset hfilters hfilters', rfl⟩

theorem stepSpec_of_subset {spec spec' : StepSpec} (hsubset : s.filters ⊆ fs)
    (h : s.stepSpec g = .ok spec) (h' : stepSpec g { s with filters := fs } = .ok spec') :
    ∃ filters, spec.filters ⊆ filters ∧ spec' = { spec with filters := filters } := by
  obtain ⟨table, direction, element, filters, orderings, htable, hdirection, helement, hfilters,
    horderings, rfl⟩ := exists_of_stepSpec h
  obtain ⟨table', direction', element', filters', orderings', htable', hdirection', helement',
    hfilters', horderings', rfl⟩ := exists_of_stepSpec h'
  rw [readDirection_withFilters] at hdirection'
  rw [readElement_withFilters] at helement'
  obtain rfl : table = table' := Except.ok.inj (htable.symm.trans htable')
  obtain rfl : direction = direction' := Except.ok.inj (hdirection.symm.trans hdirection')
  obtain rfl : element = element' := Except.ok.inj (helement.symm.trans helement')
  obtain rfl : orderings = orderings' := Except.ok.inj (horderings.symm.trans horderings')
  exact ⟨filters', filters_subset_of_mapM hsubset hfilters hfilters', rfl⟩

end Filters

/-! ## Trees grown side by side -/

theorem stepSpec_withSteps (steps : List PlanStep) :
    stepSpec g { s with steps := steps } = s.stepSpec g := by
  simp only [stepSpec, readDirection, readElement]

/-- A step is added by its own description, and then the steps below it. -/
theorem addTo_eq_ok_iff : s.addTo g t parent = .ok u ↔ ∃ spec, s.stepSpec g = .ok spec ∧
    addAllTo g ((t.addChild? parent spec).getD t) t.nodes.size s.steps = .ok u := by
  rw [← bind_eq_ok_iff, ← stepSpec_withSteps []]
  obtain ⟨table, direction, element, start, labels, filters, orders, edgeVertex, isOptional, emits,
    steps⟩ := s
  rw [addTo.eq_1]

theorem addAllTo_append_eq_ok_iff {ss rest : List PlanStep} :
    addAllTo g t parent (ss ++ rest) = .ok u ↔
      ∃ v, addAllTo g t parent ss = .ok v ∧ addAllTo g v parent rest = .ok u := by
  induction ss generalizing t with
  | nil => simp [addAllTo]
  | cons s ss ih =>
    rw [List.cons_append, addAllTo, addAllTo, bind_eq_ok_iff]
    simp only [bind_eq_ok_iff, ih]
    constructor
    · rintro ⟨w, hw, v, hv, hu⟩
      exact ⟨v, ⟨w, hw, hv⟩, hu⟩
    · rintro ⟨v, ⟨w, hw, hv⟩, hu⟩
      exact ⟨w, hw, v, hv, hu⟩

mutual

theorem narrows_addTo : ∀ {s : PlanStep} {t t' u u' : Tree} {parent : NodeId}, t.Narrows t' →
    s.addTo g t parent = .ok u → s.addTo g t' parent = .ok u' → u.Narrows u'
  | ⟨table, direction, element, start, labels, filters, orders, edgeVertex, isOptional, emits,
      steps⟩, _, _, _, _, parent, h, hu, hu' => by
    obtain ⟨spec, hspec, hu⟩ := addTo_eq_ok_iff.mp hu
    obtain ⟨spec', hspec', hu'⟩ := addTo_eq_ok_iff.mp hu'
    obtain rfl : spec = spec' := Except.ok.inj (hspec.symm.trans hspec')
    rw [h.sameFrame.size] at hu'
    exact narrows_addAllTo (h.addChild parent (List.Subset.refl spec.filters)) hu hu'

theorem narrows_addAllTo : ∀ {ss : List PlanStep} {t t' u u' : Tree} {parent : NodeId},
    t.Narrows t' → addAllTo g t parent ss = .ok u → addAllTo g t' parent ss = .ok u' →
    u.Narrows u'
  | [], _, _, _, _, _, h, hu, hu' => by
    obtain rfl := Except.ok.inj hu
    obtain rfl := Except.ok.inj hu'
    exact h
  | s :: ss, _, _, _, _, _, h, hu, hu' => by
    rw [addAllTo, bind_eq_ok_iff] at hu hu'
    obtain ⟨v, hv, hu⟩ := hu
    obtain ⟨v', hv', hu'⟩ := hu'
    exact narrows_addAllTo (narrows_addTo h hv hv') hu hu'

end

/-- One of several steps may bring trees apart; the steps around it keep them side by side. -/
theorem narrows_addAllTo_of_mid {before after : List PlanStep} {c c' : PlanStep}
    (hc : ∀ {v v' w w'}, Tree.Narrows v v' → c.addTo g v parent = .ok w →
      c'.addTo g v' parent = .ok w' → w.Narrows w')
    (h : t.Narrows t') (hu : addAllTo g t parent (before ++ c :: after) = .ok u)
    (hu' : addAllTo g t' parent (before ++ c' :: after) = .ok u') : u.Narrows u' := by
  obtain ⟨v, hv, hu⟩ := addAllTo_append_eq_ok_iff.mp hu
  obtain ⟨v', hv', hu'⟩ := addAllTo_append_eq_ok_iff.mp hu'
  rw [addAllTo, bind_eq_ok_iff] at hu hu'
  obtain ⟨w, hw, hu⟩ := hu
  obtain ⟨w', hw', hu'⟩ := hu'
  exact narrows_addAllTo (hc (narrows_addAllTo h hv hv') hw hw') hu hu'

theorem subset_insert_mid {before after : List PlanFilter} (f : PlanFilter) :
    before ++ after ⊆ before ++ f :: after :=
  List.append_subset.mpr ⟨List.subset_append_left _ _,
    List.Subset.trans (List.subset_cons_self f after) (List.subset_append_right _ _)⟩

theorem AddsFilter.narrows_addTo (hs : s.AddsFilter s') (h : t.Narrows t')
    (hu : s.addTo g t parent = .ok u) (hu' : s'.addTo g t' parent = .ok u') : u.Narrows u' := by
  induction hs generalizing t t' u u' parent with
  -- at the filter itself the descriptions differ; above it only the steps below do
  | here s f filters =>
    obtain ⟨spec, hspec, hu⟩ := addTo_eq_ok_iff.mp hu
    obtain ⟨spec', hspec', hu'⟩ := addTo_eq_ok_iff.mp hu'
    obtain ⟨filters', more, rfl⟩ :=
      stepSpec_of_subset (filters ▸ subset_insert_mid f) hspec hspec'
    rw [h.sameFrame.size] at hu'
    exact narrows_addAllTo (h.addChild parent more) hu hu'
  | nested s steps _ ih =>
    obtain ⟨spec, hspec, hu⟩ := addTo_eq_ok_iff.mp hu
    obtain ⟨spec', hspec', hu'⟩ := addTo_eq_ok_iff.mp hu'
    rw [stepSpec_withSteps] at hspec'
    obtain rfl : spec = spec' := Except.ok.inj (hspec.symm.trans hspec')
    rw [h.sameFrame.size] at hu'
    rw [steps] at hu
    exact narrows_addAllTo_of_mid ih (h.addChild parent (List.Subset.refl spec.filters)) hu hu'

theorem AddsFilter.narrows_tree (hs : s.AddsFilter s') (ht : s.tree g = .ok t)
    (ht' : s'.tree g = .ok t') : t.Narrows t' := by
  obtain ⟨spec, hspec, ht⟩ := bind_eq_ok_iff.mp ht
  obtain ⟨spec', hspec', ht'⟩ := bind_eq_ok_iff.mp ht'
  cases hs with
  | here _ f filters =>
    obtain ⟨filters', more, rfl⟩ :=
      rootSpec_of_subset (filters ▸ subset_insert_mid f) hspec hspec'
    exact narrows_addAllTo (.root _ spec more) ht ht'
  | nested _ steps adds =>
    have hsame : ∀ steps, rootSpec g { s with steps := steps } = s.rootSpec g := by
      intro steps
      simp only [rootSpec, readDirection]
    rw [hsame] at hspec'
    obtain rfl : spec = spec' := Except.ok.inj (hspec.symm.trans hspec')
    rw [steps] at ht
    exact narrows_addAllTo_of_mid adds.narrows_addTo
      (.root _ spec (List.Subset.refl spec.filters)) ht ht'

end PlanStep

/-! ## Plans with one more filter -/

namespace Plan

/-- A plan with one more filter, on a root or on a step below one. -/
inductive AddsFilter : Plan → Plan → Prop
  | root (p : Plan) {before after : List PlanStep} {r r' : PlanStep}
      (roots : p.roots = before ++ r :: after) (adds : r.AddsFilter r') :
      AddsFilter p { p with roots := before ++ r' :: after }

theorem build_eq_ok_iff {p : Plan} {g : Topology} {ts : List Tree} : p.build g = .ok ts ↔
    List.Forall₂ (fun r v ↦ ∃ t, r.tree g = .ok t ∧ p.prune t = v) p.roots ts := by
  have hroot : ∀ r v, p.buildRoot g r = .ok v ↔ ∃ t, r.1.tree g = .ok t ∧ p.prune t = v := by
    intro r v
    rw [buildRoot]
    exact map_eq_ok_iff.trans (by simp only [mapError_eq_ok_iff])
  rw [build, mapM_eq_ok_iff]
  simp only [hroot]
  conv_rhs => rw [← List.zipIdx_map_fst 0 p.roots, List.forall₂_map_left_iff]

theorem prune_of_depth_eq_zero {p : Plan} (hdepth : p.depth = 0) (t : Tree) :
    p.prune t = t.pruneByFilters.prune t.pruneByFilters.depth := by
  rw [prune, if_pos hdepth]

namespace AddsFilter

variable {p p' : Plan}

theorem depth_eq (h : p.AddsFilter p') : p'.depth = p.depth := by
  cases h
  rfl

theorem forall₂_roots (h : p.AddsFilter p') :
    List.Forall₂ (fun r r' ↦ r = r' ∨ r.AddsFilter r') p.roots p'.roots := by
  have hsame : ∀ rs : List PlanStep, List.Forall₂ (fun r r' ↦ r = r' ∨ r.AddsFilter r') rs rs :=
    fun rs ↦ List.forall₂_same.mpr fun _ _ ↦ .inl rfl
  cases h with
  | root roots adds =>
    rw [roots]
    exact List.rel_append (hsame _) (.cons (.inr adds) (hsame _))

end AddsFilter

/-- What two related lists are each related to is related. -/
theorem forall₂_of_forall₂ {α β : Type} {R : α → α → Prop} {S S' : α → β → Prop}
    {Q : β → β → Prop} (hQ : ∀ {a a' b b'}, R a a' → S a b → S' a' b' → Q b b')
    {as as' : List α} {bs bs' : List β} (has : List.Forall₂ R as as') (hbs : List.Forall₂ S as bs)
    (hbs' : List.Forall₂ S' as' bs') : List.Forall₂ Q bs bs' := by
  induction has generalizing bs bs' with
  | nil =>
    cases hbs
    cases hbs'
    exact .nil
  | cons ha _ ih =>
    obtain ⟨b, bs, hb, htail, rfl⟩ := List.forall₂_cons_left_iff.mp hbs
    obtain ⟨b', bs', hb', htail', rfl⟩ := List.forall₂_cons_left_iff.mp hbs'
    exact .cons (hQ ha hb hb') (ih htail htail')

/-- **When one more filter adds no results to a plan.** Of a plan that names no depth and the plan
with one more filter, root by root, the trees of the second project no step that those of the first
do not project exactly when the root matches nothing any more, or the tree is as deep as before, or
all its leaves emit. A filter that rules out the deepest branch makes the tree shallower, and steps
above it become leaves. -/
theorem projects_subset_iff_of_addsFilter {p p' : Plan} {g : Topology} {ts ts' : List Tree}
    (hdepth : p.depth = 0) (hadds : p.AddsFilter p') (hbuild : p.build g = .ok ts)
    (hbuild' : p'.build g = .ok ts') :
    List.Forall₂ (fun v v' ↦ (∀ id, v'.Projects id → v.Projects id) ↔
      v'.rootInvalid ∨ v'.depth = v.depth ∨ ∀ id ∈ v'.leaves, v'.emitsAt id) ts ts' := by
  have hdepth' : p'.depth = 0 := hadds.depth_eq.trans hdepth
  refine forall₂_of_forall₂ ?_ hadds.forall₂_roots (build_eq_ok_iff.mp hbuild)
    (build_eq_ok_iff.mp hbuild')
  rintro r r' v v' hr ⟨t, ht, hv⟩ ⟨t', ht', hv'⟩
  rw [prune_of_depth_eq_zero hdepth] at hv
  rw [prune_of_depth_eq_zero hdepth'] at hv'
  rcases hr with rfl | hr
  · -- the roots without the filter have the trees they had
    obtain rfl : t = t' := Except.ok.inj (ht.symm.trans ht')
    obtain rfl : v = v' := hv.symm.trans hv'
    exact iff_of_true (fun _ ↦ id) (.inr (.inl rfl))
  · exact (hr.narrows_tree ht ht').projects_subset_iff hv.symm hv'.symm

/-- The edges of every vertex, with some filters. -/
def edgesWith (filters : List PlanFilter) : Plan where
  roots := [{
    table := "V_a"
    steps := [{ table := "E_e", direction := "out", filters := filters }] }]

/-- A filter on a label that no edge has. -/
def otherLabel : PlanFilter := { key := labelKey, value := .str "b" }

theorem exists_build_edgesWith (filters : List PlanFilter) {d : ℕ}
    (h : ((edgesWith filters).build arrowGraph).map
      (fun ts ↦ ts.map fun v ↦ (v.rootInvalid, v.depth, v.leaves.all v.emitsAt)) =
        .ok [(false, d, false)]) :
    ∃ v, (edgesWith filters).build arrowGraph = .ok [v] ∧ v.rootInvalid = false ∧ v.depth = d ∧
      ¬ ∀ id ∈ v.leaves, v.emitsAt id := by
  obtain ⟨ts, hts, hmap⟩ := map_eq_ok_iff.mp h
  obtain ⟨v, rfl, hv⟩ := List.map_eq_singleton_iff.mp hmap
  obtain ⟨hvalid, hrest⟩ := Prod.mk.inj hv
  obtain ⟨hdepth, hleaves⟩ := Prod.mk.inj hrest
  refine ⟨v, hts, hvalid, hdepth, fun hemits ↦ ?_⟩
  rw [List.all_eq_true.mpr hemits] at hleaves
  cases hleaves

/-- Asking for edges of another label answers with the vertices. -/
theorem projects_edgesWith_otherLabel : ∃ v v', (edgesWith []).build arrowGraph = .ok [v] ∧
    (edgesWith [otherLabel]).build arrowGraph = .ok [v'] ∧
      ¬ ∀ id, v'.Projects id → v.Projects id := by
  have hadds : (edgesWith []).AddsFilter (edgesWith [otherLabel]) :=
    .root _ (show (edgesWith []).roots = [] ++ _ :: [] from rfl)
      (.nested _ (show _ = [] ++ _ :: [] from rfl) (.here _ _ (show _ = [] ++ [] from rfl)))
  obtain ⟨v, hv, -, hdepth, -⟩ := exists_build_edgesWith [] (d := 1) (by decide +kernel)
  obtain ⟨v', hv', hvalid', hdepth', hleaves'⟩ :=
    exists_build_edgesWith [otherLabel] (d := 0) (by decide +kernel)
  have hsubset := projects_subset_iff_of_addsFilter rfl hadds hv hv'
  refine ⟨v, v', hv, hv', ?_⟩
  rw [(List.forall₂_cons.mp hsubset).1, hvalid', hdepth, hdepth']
  rintro (hinvalid | hsame | hemits)
  · cases hinvalid
  · cases hsame
  · exact hleaves' hemits

end Plan

end PathQuery
