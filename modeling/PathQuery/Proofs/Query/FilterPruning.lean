import PathQuery.Proofs.Query.Removal

/-!
# What filter pruning keeps

Deciding filters goes over the steps breadth first and removes every step that can match nothing.
As what a removal leaves is independent of the order, the steps left at the end are told by the
filters of the tree as it was: the order of the walk and the filters dropped on the way do not
matter, except that a root which can match nothing stays, marked.

An optional step is no exception. Ruling out the only branch below a step takes the step along,
even when the branch was optional.
-/

namespace PathQuery

namespace Tree

variable {t u : Tree}

/-! ## Grown trees -/

/-- The trees that adding steps leads to. -/
inductive Grown : Tree → Prop
  | root (catalog : Option Topology) (spec : RootSpec) : Grown (ofRoot catalog spec)
  | child {t t' : Tree} {parent : NodeId} {spec : StepSpec} (grown : Grown t)
      (added : t.addChild? parent spec = some t') : Grown t'

theorem Grown.built (h : t.Grown) : t.Built := by
  induction h with
  | root catalog spec => exact .root catalog spec
  | child _ added ih => exact .child ih added

theorem Grown.rootInvalid (h : t.Grown) : t.rootInvalid = false := by
  induction h with
  | root catalog spec => rfl
  | child _ added ih =>
    obtain ⟨above, -, rfl⟩ := Option.map_eq_some_iff.mp added
    exact ih

theorem isLive_addChild? {t' : Tree} {parent : NodeId} {spec : StepSpec}
    (hadd : t.addChild? parent spec = some t') (id : NodeId) :
    t'.isLive id ↔ id = t.nodes.size ∨ t.isLive id := by
  obtain ⟨above, -, hread⟩ := read_addChild? hadd (f := fun n ↦ !n.removed) fun _ _ ↦ rfl
  rw [isLive_eq, isLive_eq, hread]
  split
  · next heq => simp [heq, childNode]
  · next hne => simp [hne]

theorem Grown.isLive_iff (h : t.Grown) {id : NodeId} : t.isLive id ↔ id < t.nodes.size := by
  refine ⟨lt_size_of_isLive, fun hid ↦ ?_⟩
  induction h with
  | root catalog spec =>
    obtain rfl : id = rootId := Nat.lt_one_iff.mp hid
    rfl
  | child _ added ih =>
    obtain ⟨-, -, hsize, -⟩ := exists_nodes_addChild? added
    rw [hsize] at hid
    rw [isLive_addChild? added]
    exact (Nat.lt_succ_iff_lt_or_eq.mp hid).symm.imp_right ih

theorem Grown.upward (h : t.Grown) : t.Upward := fun hparent hlive ↦
  h.isLive_iff.mpr ((hparent.lt h.built.rooted).trans (h.isLive_iff.mp hlive))

/-! ## Deciding the filters of a step -/

/-- Whether a step of the arena can match something, as far as its filters tell. -/
def matchableAt (t : Tree) (id : NodeId) : Bool := t.nodes[id]?.any (isMatchable t.catalog)

theorem isMatchable_keptFilters {catalog : Option Topology} {n : Node}
    (hn : isMatchable catalog n) :
    isMatchable catalog { n with filters := keptFilters catalog n } := by
  rw [isMatchable, List.all_eq_true] at hn ⊢
  intro f hf
  exact hn f (List.mem_filter.mp hf).1

theorem matchableAt_markRemoved (u : Tree) (b id : NodeId) :
    (u.markRemoved b).matchableAt id = u.matchableAt id := by
  rw [matchableAt, matchableAt, markRemoved, Array.getElem?_mapIdx]
  cases u.nodes[id]? with
  | none => rfl
  | some n =>
    rw [Option.map_some, Option.any_some, Option.any_some]
    split <;> rfl

theorem matchableAt_removeUp (u : Tree) (fuel : ℕ) (b id : NodeId) :
    (u.removeUp fuel b).matchableAt id = u.matchableAt id :=
  removeUp_induction (motive := fun v ↦ v.matchableAt id = u.matchableAt id)
    (fun v b _ hv ↦ (matchableAt_markRemoved v b id).trans hv) fuel b rfl

theorem isLive_setFilters (u : Tree) (b : NodeId) (filters : List Filter) (id : NodeId) :
    (u.setFilters b filters).isLive id = u.isLive id := by
  rw [isLive_eq, isLive_eq, setFilters, Array.getElem?_modify]
  split
  · rw [Option.map_map]
    rfl
  · rfl

theorem matchableAt_setFilters_of_ne {b id : NodeId} (hne : b ≠ id) (u : Tree)
    (filters : List Filter) : (u.setFilters b filters).matchableAt id = u.matchableAt id := by
  rw [matchableAt, matchableAt, setFilters, Array.getElem?_modify, if_neg hne]

theorem matchableAt_setFilters_self {id : NodeId} {n : Node} (hn : u.nodes[id]? = some n)
    (filters : List Filter) : (u.setFilters id filters).matchableAt id =
      isMatchable u.catalog { n with filters := filters } := by
  rw [matchableAt, setFilters, Array.getElem?_modify, if_pos rfl, hn]
  rfl

theorem sameFrame_setFilters (u : Tree) (id : NodeId) (filters : List Filter) :
    u.SameFrame (u.setFilters id filters) :=
  across_modify u id _ fun _ ↦ rfl

theorem Trims.setFilters (htrims : t.Trims u) (id : NodeId) (filters : List Filter) :
    t.Trims (u.setFilters id filters) where
  frame := (sameFrame_setFilters u id filters).trans htrims.frame
  upward := by
    intro above id' hparent hlive
    rw [isLive_setFilters] at hlive ⊢
    exact htrims.upward ((sameFrame_setFilters u id filters).isParent.mp hparent) hlive

/-- Deciding filters replaces filters, marks the root and removes steps below it, and nothing
else. -/
theorem resolveStep_induction {motive : Tree → Prop}
    (hset : ∀ v b filters, motive v → motive (v.setFilters b filters))
    (hinvalid : ∀ v, motive v → motive { v with rootInvalid := true })
    (hmark : ∀ v b, b ≠ rootId → motive v → motive (v.markRemoved b)) (id : NodeId)
    (hu : motive u) : motive (u.resolveStep id) := by
  rw [Tree.resolveStep]
  split
  · exact hu
  · dsimp only
    split
    · exact hset u id _ hu
    · split
      · exact hinvalid _ (hset u id [] hu)
      · exact removeUp_induction hmark _ id (hset u id _ hu)

theorem pruneByFilters_induction {motive : Tree → Prop}
    (hset : ∀ v b filters, motive v → motive (v.setFilters b filters))
    (hinvalid : ∀ v, motive v → motive { v with rootInvalid := true })
    (hmark : ∀ v b, b ≠ rootId → motive v → motive (v.markRemoved b)) (ht : motive t) :
    motive t.pruneByFilters :=
  List.foldlRecOn t.walk resolveStep ht fun _ hv id _ ↦
    resolveStep_induction hset hinvalid hmark id hv

/-! ## Deciding the filters of a tree -/

/-- Where deciding the filters of a grown tree stands, once some steps are done. -/
structure Decided (t : Tree) (done : List NodeId) (u : Tree) : Prop where
  /-- The tree has been pruned, and nothing else. -/
  trims : t.Trims u
  /-- The topology is the same. -/
  catalog : u.catalog = t.catalog
  /-- The steps done that match nothing have been removed, with those that go along. -/
  live : ∀ id, u.isLive id ↔ t.Kept (fun a ↦ a ∈ done ∧ t.matchableAt a = false) id
  /-- What is left can match what it could. -/
  matchable : ∀ {id}, id ≠ rootId → u.isLive id → u.matchableAt id = t.matchableAt id
  /-- The root can match something unless it is marked, or about to be. -/
  root : t.matchableAt rootId ↔ u.rootInvalid = false ∧ u.matchableAt rootId
  /-- The root is marked once it is done, if it can match nothing. -/
  rootDone : rootId ∈ done → u.rootInvalid = false → u.matchableAt rootId

theorem Grown.decided (h : t.Grown) : t.Decided [] t where
  trims := ⟨rfl, h.upward⟩
  catalog := rfl
  live := by
    intro id
    constructor
    · intro hlive
      obtain ⟨q, hq, hid⟩ := exists_stands_below h.built (h.isLive_iff.mp hlive)
      exact .inr ⟨q, hq, hid, by simp⟩
    · rintro (rfl | ⟨q, hq, hid, -⟩)
      · obtain ⟨labels, hroot⟩ := h.built.rooted.root
        obtain ⟨hlt, -⟩ := List.getElem?_eq_some_iff.mp hroot
        exact h.isLive_iff.mpr (by simpa [skeleton, across] using hlt)
      · exact h.isLive_iff.mpr ((le_of_mem_ancestors h.built.rooted hid).trans_lt hq.1)
  matchable := fun _ _ ↦ rfl
  root := by simp [h.rootInvalid]
  rootDone := by simp

namespace Decided

variable {done : List NodeId} {id : NodeId} (h : t.Built) (hdecided : t.Decided done u)
include h hdecided

/-- A removed step is passed over. -/
theorem pass (hid : ¬ u.isLive id) : t.Decided (done ++ [id]) u where
  trims := hdecided.trims
  catalog := hdecided.catalog
  live := by
    intro x
    rw [hdecided.live]
    constructor
    · intro hkept
      refine (hkept.or_eq (mt (hdecided.live id).mpr hid)).mono h.rooted ?_
      rintro a - - ⟨hmem, hbad⟩
      exact (List.mem_append.mp hmem).imp (⟨·, hbad⟩) List.mem_singleton.mp
    · exact fun hkept ↦ hkept.mono h.rooted fun a _ _ ↦ And.imp_left (List.mem_append_left _)
  matchable := hdecided.matchable
  root := hdecided.root
  rootDone := by
    intro hmem
    rcases List.mem_append.mp hmem with hold | hnew
    · exact hdecided.rootDone hold
    · obtain rfl := List.mem_singleton.mp hnew
      exact absurd ((hdecided.live rootId).mpr (.inl rfl)) hid

/-- A step that can match something keeps its place. -/
theorem keep {n : Node} (hn : u.node? id = some n) (hmatch : isMatchable u.catalog n) :
    t.Decided (done ++ [id]) (u.setFilters id (keptFilters u.catalog n)) := by
  have hlive : u.isLive id := isLive_iff.mpr ⟨n, hn⟩
  have hbefore : u.matchableAt id := by rwa [matchableAt, getElem?_of_node? hn]
  have hafter : (u.setFilters id (keptFilters u.catalog n)).matchableAt id := by
    rw [matchableAt_setFilters_self (getElem?_of_node? hn)]
    exact isMatchable_keptFilters hmatch
  have hsame : ∀ x, (u.setFilters id (keptFilters u.catalog n)).matchableAt x =
      u.matchableAt x := by
    intro x
    by_cases hx : id = x
    · rw [← hx, hbefore, hafter]
    · exact matchableAt_setFilters_of_ne hx u _
  refine ⟨hdecided.trims.setFilters id _, hdecided.catalog, fun x ↦ ?_, fun hne hx ↦ ?_, ?_, ?_⟩
  · -- one more step is done, but not one that matches nothing
    rw [isLive_setFilters, hdecided.live]
    constructor
    · refine fun hkept ↦ hkept.mono h.rooted ?_
      rintro a - hne ⟨hmem, hbad⟩
      rcases List.mem_append.mp hmem with hold | hnew
      · exact ⟨hold, hbad⟩
      · obtain rfl := List.mem_singleton.mp hnew
        rw [← hdecided.matchable hne hlive, hbefore] at hbad
        cases hbad
    · exact fun hkept ↦ hkept.mono h.rooted fun a _ _ ↦ And.imp_left (List.mem_append_left _)
  · rw [isLive_setFilters] at hx
    rw [hsame, hdecided.matchable hne hx]
  · rw [hsame]
    exact hdecided.root
  · intro hmem hvalid
    rw [hsame]
    rcases List.mem_append.mp hmem with hold | hnew
    · exact hdecided.rootDone hold hvalid
    · exact List.mem_singleton.mp hnew ▸ hbefore

/-- A root that can match nothing is marked and keeps its place. -/
theorem markRoot (hbad : u.matchableAt rootId = false) :
    t.Decided (done ++ [rootId]) { u.setFilters rootId [] with rootInvalid := true } := by
  have hlive : ∀ x, ({ u.setFilters rootId [] with rootInvalid := true } : Tree).isLive x =
      u.isLive x := isLive_setFilters u rootId []
  have htrims := hdecided.trims.setFilters rootId []
  refine ⟨⟨htrims.frame, htrims.upward⟩, hdecided.catalog, fun x ↦ ?_, fun hne hx ↦ ?_, ?_,
    fun _ hvalid ↦ by cases hvalid⟩
  · rw [hlive, hdecided.live]
    constructor
    · refine fun hkept ↦ hkept.mono h.rooted ?_
      rintro a - hne ⟨hmem, hbad⟩
      exact ⟨(List.mem_append.mp hmem).resolve_right fun hnew ↦
        hne (List.mem_singleton.mp hnew), hbad⟩
    · exact fun hkept ↦ hkept.mono h.rooted fun a _ _ ↦ And.imp_left (List.mem_append_left _)
  · rw [hlive] at hx
    exact (matchableAt_setFilters_of_ne (Ne.symm hne) u []).trans (hdecided.matchable hne hx)
  · rw [hdecided.root, hbad]
    simp

/-- Another step that can match nothing is removed, with the steps that go along. -/
theorem drop (hne : id ≠ rootId) (hid : u.isLive id) (hbad : u.matchableAt id = false)
    (filters : List Filter) : t.Decided (done ++ [id]) ((u.setFilters id filters).remove id) := by
  have hlive : ∀ x, ((u.setFilters id filters).remove id).isLive x ↔
      t.Kept (fun a ↦ (a ∈ done ∧ t.matchableAt a = false) ∨ a = id) x := by
    refine isLive_remove h (hdecided.trims.setFilters id filters) (fun x ↦ ?_) ?_ hne
    · rw [isLive_setFilters, hdecided.live]
    · rwa [isLive_setFilters]
  have hmatch : ∀ x ≠ id, ((u.setFilters id filters).remove id).matchableAt x =
      u.matchableAt x := by
    intro x hx
    rw [remove, matchableAt_removeUp, matchableAt_setFilters_of_ne (Ne.symm hx)]
  refine ⟨(hdecided.trims.setFilters id filters).removeUp h _ _,
    (catalog_removeUp _ _ _).trans hdecided.catalog, fun x ↦ ?_, fun {x} hx_ne hx ↦ ?_, ?_, ?_⟩
  · rw [hdecided.matchable hne hid] at hbad
    rw [hlive]
    constructor
    · refine fun hkept ↦ hkept.mono h.rooted ?_
      rintro a - - ⟨hmem, hbad'⟩
      exact (List.mem_append.mp hmem).imp (⟨·, hbad'⟩) List.mem_singleton.mp
    · refine fun hkept ↦ hkept.mono h.rooted ?_
      rintro a - - (⟨hmem, hbad'⟩ | rfl)
      · exact ⟨List.mem_append_left _ hmem, hbad'⟩
      · exact ⟨by simp, hbad⟩
  · have hkept := (hlive x).mp hx
    have hx_ne' : x ≠ id := fun heq ↦
      hkept.not_bad h.rooted (t.mem_ancestors_self x) hx_ne (.inr heq)
    rw [hmatch x hx_ne']
    exact hdecided.matchable hx_ne ((hdecided.live x).mpr (hkept.mono h.rooted fun _ _ _ ↦ .inl))
  · rw [hmatch rootId (Ne.symm hne), remove, rootInvalid_removeUp]
    exact hdecided.root
  · intro hmem
    rw [hmatch rootId (Ne.symm hne), remove, rootInvalid_removeUp]
    exact hdecided.rootDone ((List.mem_append.mp hmem).resolve_right fun hnew ↦
      hne (List.mem_singleton.mp hnew).symm)

end Decided

theorem Decided.resolveStep (h : t.Built) {done : List NodeId} (hdecided : t.Decided done u)
    (id : NodeId) : t.Decided (done ++ [id]) (u.resolveStep id) := by
  rw [Tree.resolveStep]
  split
  · next hnone => exact hdecided.pass h (by simp [isLive, hnone])
  · next n hn =>
    have hlive : u.isLive id := isLive_iff.mpr ⟨n, hn⟩
    dsimp only
    split
    · next hmatch => exact hdecided.keep h hn hmatch
    · next hmatch =>
      have hbad : u.matchableAt id = false := by
        rw [matchableAt, getElem?_of_node? hn, Option.any_some]
        exact Bool.eq_false_iff.mpr hmatch
      split
      · next heq =>
        subst heq
        exact hdecided.markRoot h hbad
      · next hne => exact hdecided.drop h hne hlive hbad _

theorem Decided.foldl (h : t.Built) {done : List NodeId} (hdecided : t.Decided done u)
    (ids : List NodeId) : t.Decided (done ++ ids) (ids.foldl Tree.resolveStep u) := by
  induction ids generalizing done u with
  | nil => simpa using hdecided
  | cons id ids ih => simpa using ih (hdecided.resolveStep h id)

/-! ## What is left -/

theorem Grown.decided_pruneByFilters (h : t.Grown) : t.Decided t.walk t.pruneByFilters := by
  have hfold := h.decided.foldl h.built t.walk
  rwa [List.nil_append] at hfold

/-- Filter pruning leaves the root and the steps at or above one that stands on its own, with
nothing that matches nothing on the way down to it. -/
theorem Grown.isLive_pruneByFilters (h : t.Grown) {id : NodeId} :
    t.pruneByFilters.isLive id ↔ t.Kept (fun a ↦ t.matchableAt a = false) id := by
  rw [h.decided_pruneByFilters.live]
  constructor
  · refine fun hkept ↦ hkept.mono h.built.rooted fun a ha _ hbad ↦ ⟨?_, hbad⟩
    exact (mem_walk_iff h.built h.upward).mpr (h.isLive_iff.mpr ha)
  · exact fun hkept ↦ hkept.mono h.built.rooted fun a _ _ ↦ And.right

/-- Filter pruning marks the root exactly when it can match nothing. -/
theorem Grown.rootInvalid_pruneByFilters (h : t.Grown) :
    t.pruneByFilters.rootInvalid = !t.matchableAt rootId := by
  have hdecided := h.decided_pruneByFilters
  have hroot : rootId ∈ t.walk :=
    (mem_walk_iff h.built h.upward).mpr ((h.decided.live rootId).mpr (.inl rfl))
  cases hinvalid : t.pruneByFilters.rootInvalid with
  | false =>
    have hmatch := hdecided.root.mpr ⟨hinvalid, hdecided.rootDone hroot hinvalid⟩
    rw [hmatch, Bool.not_true]
  | true =>
    have hmatch : t.matchableAt rootId = false := by
      rw [← Bool.not_eq_true, hdecided.root, hinvalid]
      simp
    rw [hmatch, Bool.not_false]

/-- A step with optional steps below it, on a path that can match something, is left by filter
pruning exactly when it is the root, emits, or lies above a step that stands on its own and is
reached over steps that can match something. Ruling out all its branches takes it along, though
they are optional. -/
theorem isLive_pruneByFilters_above_optional (h : t.Grown) {id : NodeId}
    (hpath : ∀ a ∈ (t.pathTo id).all, t.matchableAt a) (hoptional : t.optionalChildren id ≠ []) :
    t.pruneByFilters.isLive id ↔ id = rootId ∨ t.emitsAt id ∨
      ∃ q ≠ id, t.Stands q ∧ id ∈ (t.pathTo q).all ∧ ∀ a ∈ (t.pathTo q).all, t.matchableAt a := by
  obtain ⟨c, hc⟩ := List.exists_mem_of_ne_nil _ hoptional
  have hparent : t.IsParent id c :=
    ((mem_children_iff h.built h.decided.trims).mp (List.mem_filter.mp hc).1).1
  have hid : id < t.nodes.size := (hparent.lt h.built.rooted).trans hparent.lt_size
  have hlisted : t.listedBelow id ≠ [] :=
    List.ne_nil_of_mem (h.built.mem_listedBelow_iff.mpr hparent)
  have hall {q a : NodeId} (hq : q < t.nodes.size) : a ∈ (t.pathTo q).all ↔ a ∈ t.ancestors q :=
    mem_all_pathTo_iff h.built.rooted hq
  rw [h.isLive_pruneByFilters]
  constructor
  · rintro (hroot | ⟨q, hq, hmem, hgood⟩)
    · exact .inl hroot
    · by_cases heq : q = id
      · subst heq
        exact .inr (.inl (hq.2.resolve_right hlisted))
      · refine .inr (.inr ⟨q, heq, hq, (hall hq.1).mpr hmem, fun a ha ↦ ?_⟩)
        by_cases hroot : a = rootId
        · exact hpath a (hroot ▸ List.mem_cons_self)
        · exact Bool.not_eq_false _ ▸ hgood a ((hall hq.1).mp ha) hroot
  · rintro (hroot | hemits | ⟨q, -, hq, hmem, hgood⟩)
    · exact .inl hroot
    · refine .inr ⟨id, ⟨hid, .inl hemits⟩, t.mem_ancestors_self id, fun a ha _ hbad ↦ ?_⟩
      exact Bool.eq_false_iff.mp hbad (hpath a ((hall hid).mpr ha))
    · refine .inr ⟨q, hq, (hall hq.1).mp hmem, fun a ha _ hbad ↦ ?_⟩
      exact Bool.eq_false_iff.mp hbad (hgood a ((hall hq.1).mpr ha))

/-- A vertex, an edge from it, and its end if there is one with a label that the table of the end
does not have. -/
def idleBranch : Tree :=
  let root := ofRoot none { table := .vertex "s" "a" }
  let edge := (root.addChild? 0 { table := .edge "s" "e", element := .edge }).getD root
  (edge.addChild? 1 {
    table := .vertex "s" "a"
    filters := [{ key := labelKey, predicate := .eq, value := .str "b" }]
    isOptional := true }).getD edge

theorem Grown.addChild (h : t.Grown) (parent : NodeId) (spec : StepSpec) :
    ((t.addChild? parent spec).getD t).Grown := by
  cases hadd : t.addChild? parent spec with
  | none => exact h
  | some t' => exact h.child hadd

theorem grown_idleBranch : idleBranch.Grown := by
  unfold idleBranch
  exact ((Grown.root _ _).addChild _ _).addChild _ _

/-- The edge, which every start may have, goes with the end that none can have. -/
theorem isLive_pruneByFilters_idleBranch : idleBranch.optionalChildren 1 = [2] ∧
    (∀ a ∈ (idleBranch.pathTo 1).all, idleBranch.matchableAt a) ∧
      ¬ idleBranch.pruneByFilters.isLive 1 := by
  have hoptional : idleBranch.optionalChildren 1 = [2] := by decide +kernel
  have hpath : ∀ a ∈ (idleBranch.pathTo 1).all, idleBranch.matchableAt a := by decide +kernel
  refine ⟨hoptional, hpath, ?_⟩
  rw [isLive_pruneByFilters_above_optional grown_idleBranch hpath (by simp [hoptional])]
  rintro (hroot | hemits | ⟨q, hne, hq, hmem, hgood⟩)
  · cases hroot
  · exact absurd hemits (by decide)
  · -- the only step below the edge is the one that matches nothing
    have hbelow : ∀ q < 3, q ≠ 1 → 1 ∈ (idleBranch.pathTo q).all →
        ¬ ∀ a ∈ (idleBranch.pathTo q).all, idleBranch.matchableAt a := by
      decide +kernel
    exact hbelow q hq.1 hne hmem hgood

end Tree

end PathQuery
