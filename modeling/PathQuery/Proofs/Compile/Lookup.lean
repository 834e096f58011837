import PathQuery.Proofs.Compile.Reference
import PathQuery.Proofs.Query.Arena

/-!
# What a statement refers to in its derived tables

A statement that joins derived tables refers to columns of steps that may be in any of them: the
steps on the sides of a joint and the steps that rows are sorted by, which may be the root, the end
of the path, a labeled step or any other. All of them lie on the path, and the columns are columns
of theirs; so each is projected by the derived table of its step, and the alias that is looked up
for it is found there.
-/

namespace PathQuery

/-! ## Sort keys -/

namespace Tree

variable {t : Tree}

/-- The step a sort term refers to stands at or above its own. -/
theorem mem_ancestors_of_sortNode {id node : NodeId} {o : SortTerm}
    (h : t.sortNode id o = .ok node) : node ∈ t.ancestors id := by
  rw [sortNode] at h
  split at h
  · rw [← Except.ok.inj h]
    exact t.mem_ancestors_self id
  · split at h
    · next hfound =>
      rw [← Except.ok.inj h]
      exact List.mem_of_find?_eq_some hfound
    · cases h
  · cases h

/-- The column of a sort key resolves on the table of its step. -/
theorem resolves_of_sortKey {id : NodeId} {o : SortTerm} {key : SortKey}
    (h : t.sortKey id o = .ok key) :
    t.sortNode id o = .ok key.node ∧ ∃ n g, t.liveNode key.node = .ok n ∧ t.topology = .ok g ∧
      (g.resolveColumn? n.table key.column).isSome := by
  obtain ⟨node, hnode, h₁⟩ := bind_eq_ok_iff.mp h
  obtain ⟨n, hn, h₂⟩ := bind_eq_ok_iff.mp h₁
  obtain ⟨g, hg, h₃⟩ := bind_eq_ok_iff.mp h₂
  split at h₃
  · next hproperty =>
    obtain rfl := Except.ok.inj h₃
    refine ⟨hnode, n, g, hn, hg, ?_⟩
    rw [Topology.hasProperty] at hproperty
    split at hproperty
    · next meaning hmeaning => rw [Topology.resolveColumn?, hmeaning]; rfl
    · cases hproperty
  · cases h₃

theorem exists_sortKey_of_mem {ids : List NodeId} {keys : List SortKey}
    (h : t.sortKeys ids = .ok keys) {key : SortKey} (hkey : key ∈ keys) :
    ∃ id ∈ ids, ∃ o, t.sortKey id o = .ok key := by
  obtain ⟨parts, hparts, heq⟩ := bind_eq_ok_iff.mp h
  obtain rfl := Except.ok.inj heq
  obtain ⟨part, hpart, hmem⟩ := List.mem_flatten.mp hkey
  obtain ⟨id, hid, h₁⟩ := exists_of_mem_right_of_mapM_eq_ok hparts part hpart
  obtain ⟨n, -, h₂⟩ := bind_eq_ok_iff.mp h₁
  obtain ⟨o, -, h₃⟩ := exists_of_mem_right_of_mapM_eq_ok h₂ key hmem
  exact ⟨id, hid, o, h₃⟩

/-- Rows are sorted by steps of the path. -/
theorem node_mem_of_sortKeys (hrooted : Rooted t.skeleton) {id : NodeId}
    (hid : id < t.nodes.size) {keys : List SortKey}
    (h : t.sortKeys (t.pathTo id).all = .ok keys) : ∀ key ∈ keys, key.node ∈ (t.pathTo id).all := by
  intro key hkey
  obtain ⟨a, ha, o, hsort⟩ := exists_sortKey_of_mem h hkey
  rw [mem_all_pathTo_iff hrooted hid] at ha ⊢
  exact mem_ancestors_trans hrooted (mem_ancestors_of_sortNode (resolves_of_sortKey hsort).1) ha

end Tree

/-! ## Joints -/

/-- The joint behind the `i`-th segment correlates its last step with the first of the next. -/
theorem joint_of_getElem? {t : Tree} {segs : List (List NodeId)} {js : List CompileM.Joint}
    (h : CompileM.joints t segs = .ok js) {i : ℕ} {j : CompileM.Joint} (hj : js[i]? = some j) :
    ∃ before after, segs[i]? = some before ∧ segs[i + 1]? = some after ∧
      j.left = before.getLastD rootId ∧ j.right = after.headD rootId := by
  induction segs generalizing js i with
  | nil =>
    obtain rfl := Except.ok.inj h
    cases hj
  | cons before segs ih =>
    cases segs with
    | nil =>
      obtain rfl := Except.ok.inj h
      cases hj
    | cons after segs =>
      obtain ⟨j', js', _, _, rfl, hleft, hright, -, -, -, hjs'⟩ := joints_eq_ok h
      cases i with
      | zero =>
        obtain rfl := Option.some.inj hj
        exact ⟨before, after, rfl, rfl, hleft, hright⟩
      | succ i => exact ih hjs' hj

/-- The run of a segment has its steps. -/
theorem Run.exists_getElem?_ofSegments {segs : List (List NodeId)} {i : ℕ} {seg : List NodeId}
    (h : segs[i]? = some seg) (starts : Bool) :
    ∃ r, (Run.ofSegments starts segs)[i]? = some r ∧ seg ⊆ r.ids := by
  induction segs generalizing i starts with
  | nil => cases h
  | cons seg' segs ih =>
    cases i with
    | zero =>
      obtain rfl := Option.some.inj h
      refine ⟨_, rfl, ?_⟩
      cases starts with
      | true => exact List.subset_cons_self _ _
      | false => exact List.Subset.refl _
    | succ i => exact ih h false

/-! ## References of the statement -/

/-- A reference of the statement is to the alias under which one of its derived tables projects a
column. -/
def SplitSelect.Resolves (s : SplitSelect) (ref column : ColumnRef) : Prop :=
  ∃ n table, ref.source = .segment (n + 1) ∧ s.tables[n]? = some table ∧
    ⟨column, ref.column⟩ ∈ table.projections

/-- A path of an indexed topology that has been cut, with the derived tables of its segments. -/
structure CutPath (c : Compiler) (t : Tree) (p : Path) (branches : List NodeId) (k : ℕ)
    (keys : List Tree.SortKey) (js : List CompileM.Joint) (segments : List CompileM.Segment)
    (tables : List MembershipTable) : Prop where
  /-- The topology indexes some declarations. -/
  indexed : ∃ g, t.catalog = some g ∧ g.Indexed
  /-- No step comes twice. -/
  nodup : p.all.Nodup
  /-- Rows are sorted by these keys. -/
  sorted : t.sortKeys p.all = .ok keys
  /-- The keys are columns of steps of the path. -/
  within : ∀ key ∈ keys, key.node ∈ p.all
  /-- There is not only one segment. -/
  cut : ∀ nodes, t.segments p ≠ [nodes]
  /-- These are the joints between the segments. -/
  joints : CompileM.joints t (t.segments p) = .ok js
  /-- These are the derived tables of the segments. -/
  derived : DerivedTables c t p branches (CompileM.neededColumns js keys) k []
    (Run.ofSegments true (t.segments p)) segments tables

namespace CutPath

variable {c : Compiler} {t : Tree} {p : Path} {branches : List NodeId} {k : ℕ}
  {keys : List Tree.SortKey} {js : List CompileM.Joint} {segments : List CompileM.Segment}
  {tables : List MembershipTable} (h : CutPath c t p branches k keys js segments tables)
include h

theorem length_eq : segments.length = js.length + 1 := by
  obtain ⟨seg, segs, hsegs⟩ := List.exists_cons_of_ne_nil (t.segments_ne_nil p)
  have hjoints := h.joints
  rw [hsegs] at hjoints
  rw [← h.derived.forall₂.length_eq, length_ofSegments, hsegs, length_joints hjoints,
    List.length_cons]

/-- The steps on the sides of a joint are the last of one run and the first of the next. -/
theorem exists_runs {i : ℕ} {j : CompileM.Joint} (hj : js[i]? = some j) :
    ∃ before after, (t.segments p)[i]? = some before ∧ (t.segments p)[i + 1]? = some after ∧
      before.getLast? = some j.left ∧ after.head? = some j.right ∧
      ∃ r r', (Run.ofSegments true (t.segments p))[i]? = some r ∧ j.left ∈ r.ids ∧
        (Run.ofSegments true (t.segments p))[i + 1]? = some r' ∧ j.right ∈ r'.ids := by
  obtain ⟨before, after, hbefore, hafter, hleft, hright⟩ := joint_of_getElem? h.joints hj
  have hne := Tree.ne_nil_of_mem_segments h.cut
  have hlast : before.getLast? = some j.left := by
    rw [hleft, List.getLastD_eq_getLast?]
    obtain ⟨x, hx⟩ := Option.isSome_iff_exists.mp
      (List.getLast?_isSome.mpr (hne before (List.mem_of_getElem? hbefore)))
    rw [hx, Option.getD_some]
  have hhead : after.head? = some j.right := by
    obtain ⟨x, rest, rfl⟩ :=
      List.exists_cons_of_ne_nil (hne after (List.mem_of_getElem? hafter))
    rw [hright, List.head?_cons, List.headD_cons]
  obtain ⟨r, hr, hsub⟩ := Run.exists_getElem?_ofSegments hbefore true
  obtain ⟨r', hr', hsub'⟩ := Run.exists_getElem?_ofSegments hafter true
  exact ⟨before, after, hbefore, hafter, hlast, hhead, r, r', hr,
    hsub (List.mem_of_getLast? hlast), hr', hsub' (List.mem_of_head? hhead)⟩

/-- A column that is needed of a step is a column of its table, if that is declared. -/
theorem exists_node_of_needed {id : NodeId} {column : String}
    (hx : (id, column) ∈ CompileM.neededColumns js keys) :
    ∃ n, t.liveNode id = .ok n ∧
      ∀ columns, t.columnsOf n.table = .ok columns → column ∈ columns := by
  obtain ⟨g, hcatalog, hindexed⟩ := h.indexed
  -- a joint needs a column on each of its sides, a key the one it sorts by
  rcases List.mem_append.mp hx with hx | hx
  · obtain ⟨j, hj, hx⟩ := List.mem_flatMap.mp hx
    obtain ⟨above, below, habove, hbelow, hcorrelation⟩ := joint_of_mem h.joints hj
    obtain ⟨hcolumnAbove, hcolumnBelow⟩ :=
      Tree.mem_columns_of_correlation hcatalog hindexed hcorrelation
    rcases List.mem_pair.mp hx with heq | heq
    · obtain ⟨rfl, rfl⟩ := Prod.mk.inj heq
      exact ⟨above, habove, hcolumnAbove⟩
    · obtain ⟨rfl, rfl⟩ := Prod.mk.inj heq
      exact ⟨below, hbelow, hcolumnBelow⟩
  · obtain ⟨key, hkey, heq⟩ := List.mem_map.mp hx
    obtain ⟨rfl, rfl⟩ := Prod.mk.inj heq
    obtain ⟨a, -, o, hsort⟩ := Tree.exists_sortKey_of_mem h.sorted hkey
    obtain ⟨-, n, g', hn, hg', hresolves⟩ := Tree.resolves_of_sortKey hsort
    rw [Tree.topology, hcatalog] at hg'
    obtain rfl := Except.ok.inj hg'
    exact ⟨n, hn, fun _ ↦ Tree.mem_columns_of_resolves hcatalog hindexed hresolves⟩

/-- **A lookup finds the alias** of a needed column, and the reference is to the derived table that
has given it. -/
theorem resolves_outerRef {id : NodeId} {column : String}
    (hx : (id, column) ∈ CompileM.neededColumns js keys) {m : ℕ} {r : Run}
    (hr : (Run.ofSegments true (t.segments p))[m]? = some r) (hid : id ∈ r.ids) :
    (Projected.find? (segments.flatMap fun s ↦ s.shown ++ s.helpers) p.leaf id column).isSome ∧
      (CompileM.outerRef segments p.leaf id column).source = .segment (m + 1) ∧
      (SplitSelect.ofSegments p.leaf segments js keys).Resolves
        (CompileM.outerRef segments p.leaf id column) ⟨p.source id, column⟩ := by
  obtain ⟨n, hn, hcolumn⟩ := h.exists_node_of_needed hx
  obtain ⟨x, hslot, rfl, rfl⟩ :=
    h.derived.exists_slot (List.mem_of_getElem? hr) hid hn hx hcolumn
  -- no other run has the step, so the search does not stop before its run
  have hnodup : ((Run.ofSegments true (t.segments p)).flatMap Run.ids).Nodup := by
    rw [Run.flatMap_ids_ofSegments]
    exact h.nodup
  obtain ⟨k', parts, q, hsegment, hq, hnode, hcolumn', href⟩ :=
    outerRef_eq h.derived.forall₂ hnodup hr hslot
  have hmem : q ∈ segments.flatMap fun s ↦ s.shown ++ s.helpers := by
    refine List.mem_flatMap.mpr ⟨_, List.mem_of_getElem? hsegment, ?_⟩
    rwa [Run.segment_projected]
  have hfound := Projected.exists_find?_eq_some p.leaf hmem
    (Run.node_eq_leaf_of_mem_slots (Slot.mem_of_mem_nameAll hq))
  rw [hnode, hcolumn'] at hfound
  have htable : (SplitSelect.ofSegments p.leaf segments js keys).tables[m]? =
      some (r.segment t p (CompileM.neededColumns js keys) k' parts).select := by
    rw [SplitSelect.tables_ofSegments h.length_eq, List.getElem?_map, hsegment, Option.map_some]
  refine ⟨Option.isSome_iff_exists.mpr hfound, by rw [href], m, _, by rw [href], htable, ?_⟩
  rw [Run.projections_segment, href]
  refine List.mem_map.mpr ⟨q, hq, ?_⟩
  rw [Projected.projection, hnode, hcolumn']

/-- A joint compares the columns that correlate the steps on its sides, each under the alias that
the derived table of the step has given it. -/
theorem resolves_link {i : ℕ} {l : Link}
    (hl : (SplitSelect.ofSegments p.leaf segments js keys).links[i]? = some l) :
    ∃ j, js[i]? = some j ∧ l.left.source = .segment (i + 1) ∧ l.right.source = .segment (i + 2) ∧
      (SplitSelect.ofSegments p.leaf segments js keys).Resolves l.left
        ⟨p.source j.left, j.columns.above⟩ ∧
      (SplitSelect.ofSegments p.leaf segments js keys).Resolves l.right
        ⟨p.source j.right, j.columns.below⟩ := by
  rw [SplitSelect.ofSegments, List.getElem?_map] at hl
  obtain ⟨⟨s, j⟩, hsj, rfl⟩ := Option.map_eq_some_iff.mp hl
  have hj : js[i]? = some j := (List.getElem?_zip_eq_some.mp hsj).2
  obtain ⟨_, _, -, -, -, -, r, r', hr, hleft, hr', hright⟩ := h.exists_runs hj
  have hneeded : ∀ x ∈ [(j.left, j.columns.above), (j.right, j.columns.below)],
      x ∈ CompileM.neededColumns js keys :=
    fun x hx ↦ List.mem_append_left _ (List.mem_flatMap.mpr ⟨j, List.mem_of_getElem? hj, hx⟩)
  obtain ⟨-, hsource, hresolves⟩ :=
    h.resolves_outerRef (hneeded (j.left, j.columns.above) (by simp)) hr hleft
  obtain ⟨-, hsource', hresolves'⟩ :=
    h.resolves_outerRef (hneeded (j.right, j.columns.below) (by simp)) hr' hright
  exact ⟨j, hj, hsource, hsource', hresolves, hresolves'⟩

omit h in
/-- A step of the path belongs to a run. -/
theorem exists_run {id : NodeId} (hid : id ∈ p.all) :
    ∃ (m : ℕ) (r : Run), (Run.ofSegments true (t.segments p))[m]? = some r ∧ id ∈ r.ids := by
  rw [← Run.flatMap_ids_ofSegments t p] at hid
  obtain ⟨r, hr, hid⟩ := List.mem_flatMap.mp hid
  obtain ⟨m, hm⟩ := List.mem_iff_getElem?.mp hr
  exact ⟨m, r, hm, hid⟩

theorem exists_run_of_needed {x : NodeId × String} (hx : x ∈ CompileM.neededColumns js keys) :
    ∃ (m : ℕ) (r : Run), (Run.ofSegments true (t.segments p))[m]? = some r ∧ x.1 ∈ r.ids := by
  rcases List.mem_append.mp hx with hx | hx
  · obtain ⟨j, hj, hx⟩ := List.mem_flatMap.mp hx
    obtain ⟨i, hi⟩ := List.mem_iff_getElem?.mp hj
    obtain ⟨_, _, -, -, -, -, r, r', hr, hleft, hr', hright⟩ := h.exists_runs hi
    rcases List.mem_pair.mp hx with rfl | rfl
    · exact ⟨i, r, hr, hleft⟩
    · exact ⟨i + 1, r', hr', hright⟩
  · obtain ⟨key, hkey, rfl⟩ := List.mem_map.mp hx
    exact exists_run (h.within key hkey)

/-- **No lookup of a needed column fails.** -/
theorem isSome_find? {x : NodeId × String} (hx : x ∈ CompileM.neededColumns js keys) :
    (Projected.find? (segments.flatMap fun s ↦ s.shown ++ s.helpers) p.leaf x.1 x.2).isSome := by
  obtain ⟨m, r, hr, hid⟩ := h.exists_run_of_needed hx
  exact (h.resolves_outerRef hx hr hid).1

/-- Rows are sorted by the columns of the sort keys, one after the other. -/
theorem resolves_order :
    List.Forall₂ (fun key o ↦ o.order = key.order ∧
      (SplitSelect.ofSegments p.leaf segments js keys).Resolves o.column
        ⟨p.source key.node, key.column⟩)
      keys (SplitSelect.ofSegments p.leaf segments js keys).order := by
  rw [SplitSelect.ofSegments, List.forall₂_map_right_iff, List.forall₂_same]
  intro key hkey
  obtain ⟨m, r, hr, hid⟩ := exists_run (h.within key hkey)
  have hneeded : (key.node, key.column) ∈ CompileM.neededColumns js keys :=
    List.mem_append_right _ (List.mem_map_of_mem hkey)
  exact ⟨rfl, (h.resolves_outerRef hneeded hr hid).2.2⟩

/-- What the derived tables project. -/
theorem projections_tables :
    (SplitSelect.ofSegments p.leaf segments js keys).tables.flatMap (·.projections) =
      (Slot.nameAll k ((Run.ofSegments true (t.segments p)).flatMap
        (Run.slots t p (CompileM.neededColumns js keys)))).map (Projected.projection p) := by
  rw [SplitSelect.tables_ofSegments h.length_eq, List.flatMap_map, ← h.derived.flatMap_projected,
    List.map_flatMap]
  refine List.flatMap_congr fun s hs ↦ ?_
  obtain ⟨r, hr, k', parts, rfl⟩ := exists_of_mem_forall₂ h.derived.forall₂.flip hs
  rw [Run.projections_segment, Run.segment_projected]

/-- What the statement projects is projected by a derived table under the same alias. -/
theorem resolves_shown {q : Projection}
    (hq : q ∈ (SplitSelect.ofSegments p.leaf segments js keys).projections) :
    q.name = q.column.column ∧ ∃ x ∈ t.shownSlots p.leaf p.all,
      (SplitSelect.ofSegments p.leaf segments js keys).Resolves q.column
        ⟨p.source x.node, x.column⟩ := by
  obtain ⟨⟨s, n⟩, hs, hq⟩ := List.mem_flatMap.mp hq
  obtain ⟨y, hy, rfl⟩ := List.mem_map.mp hq
  rw [List.mk_mem_zipIdx_iff_le_and_getElem?_sub] at hs
  obtain ⟨m, rfl⟩ := Nat.exists_eq_add_of_le' hs.1
  rw [Nat.add_sub_cancel] at hs
  have hslot : y.slot ∈ t.shownSlots p.leaf p.all := by
    rw [← Run.flatMap_ids_ofSegments t p, ← map_slot_shown h.derived.forall₂]
    exact List.mem_map_of_mem (List.mem_flatMap.mpr ⟨s, List.mem_of_getElem? hs.2, hy⟩)
  refine ⟨rfl, y.slot, hslot, m, s.select, rfl, ?_, ?_⟩
  · rw [SplitSelect.tables_ofSegments h.length_eq, List.getElem?_map, hs.2, Option.map_some]
  · obtain ⟨r, -, k', parts, rfl⟩ :=
      exists_of_mem_forall₂ h.derived.forall₂.flip (List.mem_of_getElem? hs.2)
    rw [Run.projections_segment, ← Run.segment_projected]
    exact List.mem_map.mpr ⟨y, List.mem_append_left _ hy, rfl⟩

end CutPath

namespace Compiles

variable {c : Compiler} {t : Tree} {p : Path} {branches : List NodeId} {k : ℕ} {q : Query}
  {tables : List MembershipTable} {slots : List Slot}

/-- The rows of a statement are sorted by steps of its path. -/
theorem node_mem_of_sortKeys (h : Compiles c t p branches k q tables slots) (hbuilt : t.Built)
    {id : NodeId} (hp : p = t.pathTo id) {keys : List Tree.SortKey}
    (sorted : t.sortKeys p.all = .ok keys) : ∀ key ∈ keys, key.node ∈ p.all := by
  obtain ⟨n, hn⟩ := Tree.exists_of_pathTo_live hbuilt.rooted (hp ▸ h.steps.1)
  rw [hp] at sorted ⊢
  exact Tree.node_mem_of_sortKeys hbuilt.rooted (Array.getElem?_eq_some_iff.mp hn).1 sorted

/-- What a path compiles to when it has been cut. -/
theorem cutPath {keys : List Tree.SortKey} {js : List CompileM.Joint}
    {segments : List CompileM.Segment}
    (h : Compiles c t p branches k (.split (.ofSegments p.leaf segments js keys)) tables slots)
    (hbuilt : t.Built) (hindexed : ∃ g, t.catalog = some g ∧ g.Indexed) {id : NodeId}
    (hp : p = t.pathTo id) (sorted : t.sortKeys p.all = .ok keys)
    (cut : ∀ nodes, t.segments p ≠ [nodes]) (joints : CompileM.joints t (t.segments p) = .ok js)
    (derived : DerivedTables c t p branches (CompileM.neededColumns js keys) k []
      (Run.ofSegments true (t.segments p)) segments tables) :
    CutPath c t p branches k keys js segments tables where
  indexed := hindexed
  nodup := Tree.nodup_of_isChain hbuilt.rooted (h.isChain_all hbuilt hp)
  sorted := sorted
  within := h.node_mem_of_sortKeys hbuilt hp sorted
  cut := cut
  joints := joints
  derived := derived

end Compiles

end PathQuery
