import PathQuery.Proofs.Compile.Operands
import PathQuery.Proofs.Compile.Sweep
import PathQuery.Proofs.Query.Upkeep

/-!
# Which steps the statements of a tree project

The statements of a tree are told by what they are for: a mode, a path and the branches that must be
absent. In which order they come is read off the compiler, which takes the paths of one mode after
those of another. Which steps they are for is a matter of the tree alone, where the leaves are a
list of their own and the other two modes are filtered out of the walk.

A leaf that emits is projected by its regular statement. The emit statements leave the leaves out,
so that no step is projected by both.
-/

namespace PathQuery

/-- What a statement is for: its mode, its path and the branches that must be absent. -/
def Statement.purpose (st : Statement) : Mode × Path × List NodeId :=
  (st.mode, st.path, st.branches)

namespace Tree

variable {t : Tree}

/-! ## The steps of each mode -/

/-- The live steps with optional steps below them, breadth first. -/
def optionalParents (t : Tree) : List NodeId :=
  t.walk.filter fun id ↦ !(t.optionalChildren id).isEmpty

/-- The live steps that emit and are no leaves, breadth first. -/
def emitters (t : Tree) : List NodeId := t.walk.filter fun id ↦ t.emitsAt id && !t.isLeaf id

theorem optionalPaths_eq_map (hvalid : t.rootInvalid = false) :
    t.optionalPaths = t.optionalParents.map fun id ↦ ⟨t.pathTo id, t.optionalChildren id⟩ := by
  have hfilter : ∀ ids : List NodeId,
      ids.filterMap (fun id ↦
        if (t.optionalChildren id).isEmpty then none
        else some (⟨t.pathTo id, t.optionalChildren id⟩ : OptionalPath)) =
      (ids.filter fun id ↦ !(t.optionalChildren id).isEmpty).map fun id ↦
        ⟨t.pathTo id, t.optionalChildren id⟩ := by
    intro ids
    induction ids with
    | nil => rfl
    | cons id ids ih =>
      rw [List.filterMap_cons, List.filter_cons, ih]
      by_cases hempty : (t.optionalChildren id).isEmpty
      · rw [if_pos hempty, hempty]
        rfl
      · rw [if_neg hempty, if_pos (by simpa using hempty)]
        rfl
  rw [optionalPaths, hvalid]
  exact hfilter t.walk

theorem emitPaths_eq_map (hvalid : t.rootInvalid = false) :
    t.emitPaths = t.emitters.map t.pathTo := by
  have hfilter : ∀ ids : List NodeId, (∀ id ∈ ids, t.isLive id) →
      (((ids.filterMap fun id ↦ (t.node? id).map (id, ·)).filter
        fun x ↦ x.2.emits && !t.isLeaf x.1).map (·.1)) =
      ids.filter fun id ↦ t.emitsAt id && !t.isLeaf id := by
    intro ids hlive
    induction ids with
    | nil => rfl
    | cons id ids ih =>
      obtain ⟨hid, hids⟩ := List.forall_mem_cons.mp hlive
      obtain ⟨n, hn⟩ := isLive_iff.mp hid
      have hemits : t.emitsAt id = n.emits := emitsAt_of_node? hn
      rw [List.filterMap_cons, hn, List.filter_cons, ← ih hids, hemits]
      simp only [Option.map_some, List.filter_cons]
      split <;> rfl
  rw [emitPaths, hvalid, emitters]
  exact congrArg (List.map t.pathTo) (hfilter t.walk fun _ ↦ isLive_of_mem_generations)

/-- What the statements of a tree are for, in order. -/
def purposes (t : Tree) : List (Mode × Path × List NodeId) :=
  t.leaves.map (fun id ↦ (.regular, t.pathTo id, [])) ++
    t.optionalParents.map (fun id ↦ (.optional, t.pathTo id, t.optionalChildren id)) ++
      t.emitters.map (fun id ↦ (.emit, t.pathTo id, []))

end Tree

namespace CompileM

variable {c : Compiler} {t : Tree} {s s' : CompileState}

theorem purpose_of_yields_statement {mode : Mode} {p : Path} {branches : List NodeId}
    {st : Statement} (h : (statement c t mode p branches).Yields s st s') :
    st.purpose = (mode, p, branches) := by
  obtain ⟨leaf, s₁, -, h₁⟩ := yields_bind_iff.mp h
  obtain ⟨⟨q, tables⟩, s₂, -, h₂⟩ := yields_bind_iff.mp h₁
  obtain ⟨_, s₃, -, h₃⟩ := yields_bind_iff.mp h₂
  obtain ⟨rfl, -⟩ := yields_pure_iff.mp h₃
  rfl

theorem map_purpose_of_yields_modeStatements {mode : Mode} {sts : List Statement}
    (h : (modeStatements c t mode).Yields s sts s') {paths : List OptionalPath}
    (hpaths : modePaths t mode = .ok paths) :
    sts.map Statement.purpose = paths.map fun p ↦ (mode, p.path, p.branches) := by
  obtain ⟨paths', hpaths', hsts⟩ := yields_modeStatements_iff.mp h
  obtain rfl : paths = paths' := Except.ok.inj (hpaths.symm.trans hpaths')
  clear h hpaths hpaths'
  induction paths generalizing s sts with
  | nil =>
    obtain ⟨rfl, -⟩ := yields_mapM_nil_iff.mp hsts
    rfl
  | cons p paths ih =>
    obtain ⟨st, s₁, rest, hst, hrest, rfl⟩ := yields_mapM_cons_iff.mp hsts
    rw [List.map_cons, List.map_cons, purpose_of_yields_statement hst, ih hrest]

/-- The statements of all modes are those of the single ones, mode by mode. -/
theorem exists_of_yields_allStatements {sts : List Statement}
    (h : (allStatements c t).Yields s sts s') : ∃ regular optional emit s₁ s₂,
      (modeStatements c t .regular).Yields s regular s₁ ∧
      (modeStatements c t .optional).Yields s₁ optional s₂ ∧
      (modeStatements c t .emit).Yields s₂ emit s' ∧ sts = regular ++ optional ++ emit := by
  obtain ⟨-, -, h₁⟩ := yields_lift_bind_iff.mp h
  obtain ⟨parts, _, hparts, h₂⟩ := yields_bind_iff.mp h₁
  obtain ⟨rfl, rfl⟩ := yields_pure_iff.mp h₂
  obtain ⟨regular, s₁, _, hregular, hrest₁, rfl⟩ := yields_mapM_cons_iff.mp hparts
  obtain ⟨optional, s₂, _, hoptional, hrest₂, rfl⟩ := yields_mapM_cons_iff.mp hrest₁
  obtain ⟨emit, s₃, _, hemit, hrest₃, rfl⟩ := yields_mapM_cons_iff.mp hrest₂
  obtain ⟨rfl, rfl⟩ := yields_mapM_nil_iff.mp hrest₃
  exact ⟨regular, optional, emit, s₁, s₂, hregular, hoptional, hemit, by simp⟩

theorem map_purpose_of_yields_allStatements (hvalid : t.rootInvalid = false)
    {sts : List Statement} (h : (allStatements c t).Yields s sts s') :
    sts.map Statement.purpose = t.purposes := by
  obtain ⟨regular, optional, emit, s₁, s₂, hregular, hoptional, hemit, rfl⟩ :=
    exists_of_yields_allStatements h
  have hregularPaths : t.regularPaths = t.leaves.map t.pathTo := by
    rw [Tree.regularPaths, hvalid]
    rfl
  rw [List.map_append, List.map_append, map_purpose_of_yields_modeStatements hregular rfl,
    map_purpose_of_yields_modeStatements hoptional rfl,
    map_purpose_of_yields_modeStatements hemit rfl, hregularPaths,
    Tree.optionalPaths_eq_map hvalid, Tree.emitPaths_eq_map hvalid]
  simp only [Tree.purposes, List.map_map, Function.comp_def]

end CompileM

namespace Tree

variable {t : Tree}

/-! ## The steps that must be projected -/

/-- The statements of a tree project what must be projected, each step once. -/
structure Covers (t : Tree) (sts : List Statement) : Prop where
  /-- There is one regular statement for every leaf, then one optional statement for every step
  with optional children, and then one emit statement for every emitting step that is no leaf. -/
  purposes : sts.map Statement.purpose = t.purposes
  /-- The path of a statement for a live step ends at that step. -/
  projects : ∀ id, t.isLive id → (t.pathTo id).leaf = id
  /-- The leaves are live and have no duplicates. -/
  leaves : t.leaves.Nodup ∧ ∀ id ∈ t.leaves, t.isLive id
  /-- The optional statements are for the live steps with live optional children. -/
  optionalParents : t.optionalParents.Nodup ∧
    ∀ id, id ∈ t.optionalParents ↔ t.isLive id ∧ ∃ b, t.IsParent id b ∧ t.isLive b ∧ t.optionalAt b
  /-- The branches of such a statement are the live optional children, each once. -/
  branches : ∀ id, (t.optionalChildren id).Nodup ∧
    ∀ b, b ∈ t.optionalChildren id ↔ t.IsParent id b ∧ t.isLive b ∧ t.optionalAt b
  /-- The emit statements are for the live steps that emit and are no leaves. -/
  emitters : t.emitters.Nodup ∧
    ∀ id, id ∈ t.emitters ↔ t.isLive id ∧ t.emitsAt id ∧ id ∉ t.leaves
  /-- A live optional step is a branch of one optional statement. -/
  optional : ∀ b, t.isLive b → t.optionalAt b →
    sts.countP (fun st ↦ st.mode = .optional ∧ b ∈ st.branches) = 1
  /-- A live step that emits is projected by one statement that is regular or an emit one. -/
  emit : ∀ id, t.isLive id → t.emitsAt id →
    sts.countP (fun st ↦ (st.mode = .regular ∨ st.mode = .emit) ∧ st.path.leaf = id) = 1

theorem Built.optionalAt_rootId (h : t.Built) : t.optionalAt rootId = false := by
  induction h with
  | root catalog spec => rfl
  | @child t t' parent spec built added ih =>
    obtain ⟨above, habove, hread⟩ := read_addChild? added (f := (·.isOptional)) fun _ _ ↦ rfl
    have hne : rootId ≠ t.nodes.size :=
      (Nat.zero_lt_of_lt (Array.getElem?_eq_some_iff.mp habove).1).ne
    rwa [optionalAt, hread, if_neg hne]
  | @prune t _ maxDepth ih =>
    have hframe : t.SameFrame (t.prune maxDepth) := lasting_frameOf.across_prune t maxDepth
    rwa [hframe.optionalAt]
  | @pruneByFilters t _ ih =>
    have hframe : t.SameFrame t.pruneByFilters := lasting_frameOf.across_pruneByFilters t
    rwa [hframe.optionalAt]

section Orderly

variable (h : t.Built) (horderly : t.Orderly)
include h horderly

theorem mem_optionalChildren_iff {id b : NodeId} :
    b ∈ t.optionalChildren id ↔ t.IsParent id b ∧ t.isLive b ∧ t.optionalAt b := by
  rw [optionalChildren, List.mem_filter, mem_children_iff h ⟨rfl, horderly.upward⟩, and_assoc]
  refine and_congr_right fun _ ↦ and_congr_right fun hlive ↦ ?_
  obtain ⟨n, hn⟩ := isLive_iff.mp hlive
  rw [optionalAt, getElem?_of_node? hn, hn]

omit horderly in
theorem nodup_optionalChildren (id : NodeId) : (t.optionalChildren id).Nodup := by
  rw [optionalChildren, children]
  split
  · next n hn =>
    rw [← listedBelow_of_node? hn]
    exact ((h.nodup_listedBelow id).filter _).filter _
  · exact List.nodup_nil

theorem mem_optionalParents_iff {id : NodeId} : id ∈ t.optionalParents ↔
    t.isLive id ∧ ∃ b, t.IsParent id b ∧ t.isLive b ∧ t.optionalAt b := by
  rw [optionalParents, List.mem_filter, mem_walk_iff h horderly.upward, Bool.not_eq_true',
    List.isEmpty_eq_false_iff_exists_mem]
  simp only [mem_optionalChildren_iff h horderly]

theorem mem_emitters_iff {id : NodeId} :
    id ∈ t.emitters ↔ t.isLive id ∧ t.emitsAt id ∧ id ∉ t.leaves := by
  rw [emitters, List.mem_filter, mem_walk_iff h horderly.upward]
  simp [isLeaf]

/-- An optional step is listed below one step, and only that one's statement has it. -/
theorem countP_purposes_optional {b : NodeId} (hlive : t.isLive b) (hoptional : t.optionalAt b) :
    t.purposes.countP (fun x ↦ x.1 = .optional ∧ b ∈ x.2.2) = 1 := by
  have hne : b ≠ rootId := by
    rintro rfl
    rw [h.optionalAt_rootId] at hoptional
    cases hoptional
  obtain ⟨above, -, hparent⟩ :=
    exists_isParent h.rooted (Array.getElem?_eq_getElem (lt_size_of_isLive hlive)) hne
  have habove : above ∈ t.optionalParents := (mem_optionalParents_iff h horderly).mpr
    ⟨horderly.upward hparent hlive, b, hparent, hlive, hoptional⟩
  -- its parent is a field of the step, so there is no second one
  have hbranch : ∀ id, b ∈ t.optionalChildren id ↔ id = above := by
    intro id
    rw [mem_optionalChildren_iff h horderly]
    constructor
    · rintro ⟨hid, -⟩
      exact Option.some.inj (hid.symm.trans hparent)
    · rintro rfl
      exact ⟨hparent, hlive, hoptional⟩
  have hcount : t.optionalParents.countP (fun id ↦ b ∈ t.optionalChildren id) = 1 := by
    have hcongr : t.optionalParents.countP (fun id ↦ b ∈ t.optionalChildren id) =
        t.optionalParents.count above := List.countP_congr fun id _ ↦ by simpa using hbranch id
    rw [hcongr]
    exact List.count_eq_one_of_mem ((nodup_walk h).filter _) habove
  simpa [purposes, List.countP_map, Function.comp_def] using hcount

/-- A step that emits has a regular statement when it is a leaf, and an emit statement else. -/
theorem countP_purposes_emit {id : NodeId} (hlive : t.isLive id) (hemits : t.emitsAt id) :
    t.purposes.countP (fun x ↦ (x.1 = .regular ∨ x.1 = .emit) ∧ x.2.1.leaf = id) = 1 := by
  have hleaf : ∀ a, t.isLive a → (t.pathTo a).leaf = a := fun a ha ↦
    (isChain_pathTo h.rooted (Array.getElem?_eq_getElem (lt_size_of_isLive ha))).2
  have hcount : ∀ ids : List NodeId, (∀ a ∈ ids, t.isLive a) →
      ids.countP (fun a ↦ (t.pathTo a).leaf = id) = ids.count id := by
    intro ids hids
    exact List.countP_congr fun a ha ↦ by simp [hleaf a (hids a ha)]
  -- the emitters leave the leaves out, so the step is in one of the lists
  have hsplit : t.leaves.count id + t.emitters.count id = 1 := by
    have hnodup : t.emitters.Nodup := (nodup_walk h).filter _
    by_cases hmem : id ∈ t.leaves
    · have hnot : id ∉ t.emitters := fun hin ↦ ((mem_emitters_iff h horderly).mp hin).2.2 hmem
      rw [List.count_eq_one_of_mem horderly.nodup hmem, List.count_eq_zero_of_not_mem hnot]
    · have hin : id ∈ t.emitters := (mem_emitters_iff h horderly).mpr ⟨hlive, hemits, hmem⟩
      rw [List.count_eq_one_of_mem hnodup hin, List.count_eq_zero_of_not_mem hmem]
  rw [← hcount _ fun _ ↦ horderly.live,
    ← hcount _ fun a ha ↦ ((mem_emitters_iff h horderly).mp ha).1] at hsplit
  simpa [purposes, List.countP_map, Function.comp_def] using hsplit

end Orderly

/-- **Every step that must be projected is projected once.** Of a tree that starts as its root,
grows below live steps and is pruned to any depth and by its filters, and whose root can match
something, the statements are one regular statement for every leaf in leaf order, one optional
statement for every live step with live optional children and one emit statement for every live
step that emits and is no leaf. A live optional step is a branch of one optional statement, and a
live step that emits is projected by one statement that is regular or an emit one. -/
theorem Tended.covers_allStatements (h : t.Tended) (hvalid : t.rootInvalid = false) {c : Compiler}
    {s s' : CompileState} {sts : List Statement}
    (hsts : (CompileM.allStatements c t).Yields s sts s') : t.Covers sts := by
  have hbuilt := h.built
  have horderly := h.orderly
  have hpurposes := CompileM.map_purpose_of_yields_allStatements hvalid hsts
  exact {
    purposes := hpurposes
    projects := fun id hlive ↦ (isChain_pathTo hbuilt.rooted
      (Array.getElem?_eq_getElem (lt_size_of_isLive hlive))).2
    leaves := ⟨horderly.nodup, fun _ ↦ horderly.live⟩
    optionalParents :=
      ⟨(nodup_walk hbuilt).filter _, fun _ ↦ mem_optionalParents_iff hbuilt horderly⟩
    branches := fun id ↦
      ⟨nodup_optionalChildren hbuilt id, fun _ ↦ mem_optionalChildren_iff hbuilt horderly⟩
    emitters := ⟨(nodup_walk hbuilt).filter _, fun _ ↦ mem_emitters_iff hbuilt horderly⟩
    optional := by
      intro b hlive hoptional
      rw [← countP_purposes_optional hbuilt horderly hlive hoptional, ← hpurposes, List.countP_map]
      rfl
    emit := by
      intro id hlive hemits
      rw [← countP_purposes_emit hbuilt horderly hlive hemits, ← hpurposes, List.countP_map]
      rfl }

/-- A vertex with three edges. One emits and has lost its end to the filters, one leads to a vertex
with an optional edge, and one to a vertex that emits and is a leaf. -/
def mixedTree : Tree :=
  let grow (parent : NodeId) (spec : StepSpec) (t : Tree) : Tree := (t.addChild? parent spec).getD t
  let edge : StepSpec := { table := ⟨"s", "E_e"⟩, element := .edge }
  let vertex : StepSpec := { table := ⟨"s", "V_a"⟩ }
  let labeled : Filter := { key := labelKey, predicate := .eq, value := .str "b" }
  let root := ofRoot annotationTree.catalog { table := ⟨"s", "V_a"⟩ }
  let first := grow 1 { vertex with filters := [labeled] } (grow 0 { edge with emits := true } root)
  let second := grow 4 { edge with isOptional := true } (grow 3 vertex (grow 0 edge first))
  let third := grow 6 { vertex with emits := true } (grow 0 edge second)
  third.pruneByFilters.prune 2

theorem tended_mixedTree : mixedTree.Tended := by
  unfold mixedTree
  refine Tended.prune (.pruneByFilters ?_) 2
  -- each step is added below one that is live by then
  refine (((((((Tended.root _ _).addChild ?_ _).addChild ?_ _).addChild ?_ _).addChild ?_ _).addChild
    ?_ _).addChild ?_ _).addChild ?_ _ <;> decide +kernel

/-- The statements are for the leaf, for the vertex with the optional edge, and for the edge that
has lost its end. -/
theorem covers_mixedTree : mixedTree.Tended ∧ mixedTree.rootInvalid = false ∧ ∃ sts s',
    (CompileM.allStatements { dialect := ⟨.sqlite, "s", 2, true⟩ } mixedTree).Yields {} sts s' ∧
      sts.map Statement.purpose = [(.regular, ⟨[6, 7]⟩, []), (.optional, ⟨[3, 4]⟩, [5]),
        (.emit, ⟨[1]⟩, [])] ∧ mixedTree.Covers sts := by
  have hvalid : mixedTree.rootInvalid = false := by decide +kernel
  obtain ⟨sts, s', hsts, hpurposes⟩ := CompileM.exists_yields (s := {})
    (m := CompileM.allStatements { dialect := ⟨.sqlite, "s", 2, true⟩ } mixedTree)
    (P := fun sts _ ↦ sts.map Statement.purpose = [(.regular, ⟨[6, 7]⟩, []),
      (.optional, ⟨[3, 4]⟩, [5]), (.emit, ⟨[1]⟩, [])]) (by decide +kernel)
  exact ⟨tended_mixedTree, hvalid, sts, s', hsts, of_decide_eq_true hpurposes,
    tended_mixedTree.covers_allStatements hvalid hsts⟩

end Tree

end PathQuery
