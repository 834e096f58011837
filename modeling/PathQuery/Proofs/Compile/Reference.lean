import PathQuery.Proofs.Compile.Body
import PathQuery.Proofs.Graph.Columns
import PathQuery.Proofs.Query.Path

/-!
# References between derived tables

A statement that joins derived tables refers to their columns by alias, and looks the alias up
among everything the derived tables project. The steps of a path do not repeat, so a step belongs
to one derived table only; what has to be shown is that a column which a joint needs is projected
there at all, be it as a helper or because its step is shown.
-/

namespace PathQuery

/-! ## Looking up an alias -/

namespace Projected

/-- A column that has been found is a column of the step. -/
theorem exists_of_find?_eq_some {ps : List Projected} {leaf id : NodeId} {column name : String}
    (h : find? ps leaf id column = some name) :
    ∃ q ∈ ps, q.node = id ∧ q.column = column ∧ q.name = name := by
  have hunder : ∀ {role : Role},
      (ps.reverse.find? fun p ↦ p.node = id ∧ p.role = role ∧ p.column = column).map (·.name) =
        some name → ∃ q ∈ ps, q.node = id ∧ q.column = column ∧ q.name = name := by
    intro role h
    obtain ⟨q, hq, rfl⟩ := Option.map_eq_some_iff.mp h
    have hfound := List.find?_some hq
    simp only [decide_eq_true_eq] at hfound
    exact ⟨q, List.mem_reverse.mp (List.mem_of_find?_eq_some hq), hfound.1, hfound.2.2, rfl⟩
  rw [find?] at h
  simp only [Option.orElse_eq_or, Option.or_eq_some_iff] at h
  rcases h with h | ⟨-, h | ⟨-, h⟩⟩
  · exact hunder h
  · split at h
    · exact hunder h
    · cases h
  · exact hunder h

/-- A column of a step is found if it has been projected at all. -/
theorem exists_find?_eq_some {ps : List Projected} (leaf : NodeId) {q : Projected} (hq : q ∈ ps)
    (hresult : q.role = .result → q.node = leaf) :
    ∃ name, find? ps leaf q.node q.column = some name := by
  have hunder : ((ps.reverse.find? fun p ↦
      p.node = q.node ∧ p.role = q.role ∧ p.column = q.column).map (·.name)).isSome := by
    rw [Option.isSome_map, List.find?_isSome]
    exact ⟨q, List.mem_reverse.mpr hq, by simp⟩
  rw [← Option.isSome_iff_exists, find?]
  simp only [Option.orElse_eq_or, Option.isSome_or, Bool.or_eq_true]
  cases hrole : q.role with
  | labeled =>
    rw [hrole] at hunder
    exact .inl hunder
  | result =>
    rw [hrole] at hunder
    exact .inr (.inl (by rwa [if_pos (hresult hrole)]))
  | helper =>
    rw [hrole] at hunder
    exact .inr (.inr hunder)

end Projected

/-! ## What a derived table projects -/

namespace Run

variable {t : Tree} {p : Path} {needed : List (NodeId × String)}

/-- The derived table of a run, wherever its aliases begin. -/
def IsSegment (t : Tree) (p : Path) (needed : List (NodeId × String)) (r : Run)
    (s : CompileM.Segment) : Prop := ∃ k parts, s = r.segment t p needed k parts

theorem segment_projected (k : ℕ) (r : Run) (parts : SelectParts) :
    (r.segment t p needed k parts).shown ++ (r.segment t p needed k parts).helpers =
      Slot.nameAll k (r.slots t p needed) :=
  (Slot.nameAll_append k _ _).symm

theorem projections_segment (k : ℕ) (r : Run) (parts : SelectParts) :
    (r.segment t p needed k parts).select.projections =
      (Slot.nameAll k (r.slots t p needed)).map (Projected.projection p) := by
  rw [← segment_projected k r parts]
  rfl

theorem node_mem_of_mem_slots {r : Run} {x : Slot} (h : x ∈ r.slots t p needed) :
    x.node ∈ r.ids := by
  rcases List.mem_append.mp h with h | h
  · exact Tree.node_mem_of_mem_shownSlots h
  · exact Tree.node_mem_of_mem_helperSlots h

theorem node_eq_leaf_of_mem_slots {r : Run} {x : Slot} (h : x ∈ r.slots t p needed)
    (hrole : x.role = .result) : x.node = p.leaf := by
  rcases List.mem_append.mp h with h | h
  · obtain ⟨id, -, h⟩ := List.mem_flatMap.mp h
    rcases List.mem_append.mp h with h | h
    · split at h
      · next heq => rw [Tree.node_mem_of_mem_nodeSlots h, heq]
      · cases h
    · split at h
      · obtain ⟨_, -, rfl⟩ := List.mem_map.mp h
        cases hrole
      · cases h
  · obtain ⟨id, -, h⟩ := List.mem_flatMap.mp h
    obtain ⟨_, -, rfl⟩ := List.mem_map.mp h
    cases hrole

end Run

namespace DerivedTables

variable {c : Compiler} {t : Tree} {p : Path} {branches : List NodeId}
  {needed : List (NodeId × String)} {k : ℕ} {tables tables' : List MembershipTable}
  {runs : List Run} {segments : List CompileM.Segment}

/-- Membership tables are only added. -/
theorem exists_append (h : DerivedTables c t p branches needed k tables runs segments tables') :
    ∃ ts, tables' = tables ++ ts := by
  induction h with
  | nil => exact ⟨[], by simp⟩
  | cons parts _ fit _ ih =>
    obtain ⟨ts, hts⟩ := fit.clauses.loaded
    obtain ⟨ts', hts'⟩ := ih
    exact ⟨ts ++ ts', by rw [hts', hts, List.append_assoc]⟩

theorem eq_nil_of_nil (h : DerivedTables c t p branches needed k tables runs segments []) :
    tables = [] := by
  obtain ⟨ts, hts⟩ := h.exists_append
  exact (List.append_eq_nil_iff.mp hts.symm).1

/-- What each derived table has been put together from. -/
theorem exists_fit (h : DerivedTables c t p branches needed k tables runs segments tables') :
    List.Forall₂ (fun r s ↦ ∃ k parts tables, s = r.segment t p needed k parts ∧
      parts.Fit c t p branches tables r ∧ t.ShowsDeclared p.leaf r.ids ∧
      (tables' = [] → parts.clauses.tables = tables)) runs segments := by
  induction h with
  | nil => exact .nil
  | cons parts shown fit rest ih =>
    refine .cons ⟨_, parts, _, rfl, fit, shown, ?_⟩ ih
    rintro rfl
    have hparts := rest.eq_nil_of_nil
    obtain ⟨ts, hts⟩ := fit.clauses.loaded
    exact hparts.trans (List.append_eq_nil_iff.mp (hts.symm.trans hparts)).1.symm

/-- The membership tables that have been loaded up to each derived table are some of those of the
statement. -/
theorem forall₂_loaded (h : DerivedTables c t p branches needed k tables runs segments tables') :
    List.Forall₂ (fun r s ↦ ∃ k parts before, s = r.segment t p needed k parts ∧
      parts.Fit c t p branches before r ∧ parts.clauses.tables ⊆ tables') runs segments := by
  induction h with
  | nil => exact .nil
  | cons parts shown fit rest ih =>
    obtain ⟨ts, hts⟩ := rest.exists_append
    exact .cons ⟨_, parts, _, rfl, fit, hts ▸ List.subset_append_left _ _⟩ ih

theorem forall₂ (h : DerivedTables c t p branches needed k tables runs segments tables') :
    List.Forall₂ (Run.IsSegment t p needed) runs segments :=
  h.exists_fit.imp fun _ _ ⟨k, parts, _, heq, _⟩ ↦ ⟨k, parts, heq⟩

end DerivedTables

/-! ## References of the statement -/

section References

variable {t : Tree} {p : Path} {needed : List (NodeId × String)} {runs : List Run}
  {segments : List CompileM.Segment}

/-- Different runs of a path have no step in common. -/
theorem Run.eq_of_mem_ids (hnodup : (runs.flatMap Run.ids).Nodup) {m m' : ℕ} {r r' : Run}
    (hr : runs[m]? = some r) (hr' : runs[m']? = some r') {id : NodeId} (hid : id ∈ r.ids)
    (hid' : id ∈ r'.ids) : m = m' := by
  obtain ⟨-, hdisjoint⟩ := List.nodup_flatMap.mp hnodup
  rw [List.pairwise_iff_getElem] at hdisjoint
  obtain ⟨hm, rfl⟩ := List.getElem?_eq_some_iff.mp hr
  obtain ⟨hm', rfl⟩ := List.getElem?_eq_some_iff.mp hr'
  rcases Nat.lt_trichotomy m m' with hlt | heq | hlt
  · exact absurd hid' (hdisjoint m m' hm hm' hlt hid)
  · exact heq
  · exact absurd hid (hdisjoint m' m hm' hm hlt hid')

/-- The derived table of a run. -/
theorem exists_segment (h : List.Forall₂ (Run.IsSegment t p needed) runs segments) {m : ℕ}
    {r : Run} (hr : runs[m]? = some r) :
    ∃ k parts, segments[m]? = some (r.segment t p needed k parts) := by
  obtain ⟨hm, rfl⟩ := List.getElem?_eq_some_iff.mp hr
  have hm' : m < segments.length := h.length_eq ▸ hm
  obtain ⟨k, parts, heq⟩ := h.get hm hm'
  refine ⟨k, parts, ?_⟩
  rw [List.getElem?_eq_getElem hm']
  exact congrArg some heq

theorem segmentOf_eq (h : List.Forall₂ (Run.IsSegment t p needed) runs segments)
    (hnodup : (runs.flatMap Run.ids).Nodup) {m : ℕ} {r : Run} (hr : runs[m]? = some r)
    {id : NodeId} (hid : id ∈ r.ids) : CompileM.segmentOf segments id = m + 1 := by
  obtain ⟨k, parts, hs⟩ := exists_segment h hr
  obtain ⟨hm, hs⟩ := List.getElem?_eq_some_iff.mp hs
  rw [CompileM.segmentOf, (List.findIdx_eq hm).mpr]
  refine ⟨by rw [hs]; simpa [Run.segment] using hid, fun i hi ↦ ?_⟩
  have hi' : i < runs.length := h.length_eq ▸ (hi.trans hm)
  obtain ⟨k', parts', hs'⟩ := exists_segment h (List.getElem?_eq_getElem hi')
  obtain ⟨_, hsegment⟩ := List.getElem?_eq_some_iff.mp hs'
  rw [hsegment]
  have hne : id ∉ runs[i].ids := fun hmem ↦
    absurd (Run.eq_of_mem_ids hnodup (List.getElem?_eq_getElem hi') hr hmem hid) hi.ne
  simpa [Run.segment] using hne

/-- The statement refers to a column of a step by an alias that the step's derived table gives to
that column. -/
theorem outerRef_eq (h : List.Forall₂ (Run.IsSegment t p needed) runs segments)
    (hnodup : (runs.flatMap Run.ids).Nodup) {m : ℕ} {r : Run} (hr : runs[m]? = some r)
    {x : Slot} (hx : x ∈ r.slots t p needed) :
    ∃ k parts q, segments[m]? = some (r.segment t p needed k parts) ∧
      q ∈ Slot.nameAll k (r.slots t p needed) ∧ q.node = x.node ∧ q.column = x.column ∧
      CompileM.outerRef segments p.leaf x.node x.column = ⟨.segment (m + 1), q.name⟩ := by
  obtain ⟨k, parts, hs⟩ := exists_segment h hr
  obtain ⟨q₀, hq₀, rfl⟩ := Slot.exists_mem_nameAll (k := k) hx
  have hmem₀ : q₀ ∈ segments.flatMap fun s ↦ s.shown ++ s.helpers := by
    refine List.mem_flatMap.mpr ⟨_, List.mem_of_getElem? hs, ?_⟩
    rwa [Run.segment_projected]
  obtain ⟨name, hname⟩ := Projected.exists_find?_eq_some p.leaf hmem₀
    (Run.node_eq_leaf_of_mem_slots hx)
  obtain ⟨q, hq, hnode, hcolumn, rfl⟩ := Projected.exists_of_find?_eq_some hname
  have href : CompileM.outerRef segments p.leaf q₀.node q₀.column = ⟨.segment (m + 1), q.name⟩ := by
    have hsegment := segmentOf_eq h hnodup hr (Run.node_mem_of_mem_slots hx)
    rw [Projected.slot] at hsegment
    rw [CompileM.outerRef, hname, hsegment, Option.getD_some]
  -- the alias may have been found in no other derived table
  obtain ⟨s, hsmem, hqs⟩ := List.mem_flatMap.mp hq
  obtain ⟨m', hm', hs'⟩ := List.getElem_of_mem hsmem
  have hrun : m' < runs.length := h.length_eq ▸ hm'
  obtain ⟨k', parts', hsegment⟩ := exists_segment h (List.getElem?_eq_getElem hrun)
  rw [List.getElem?_eq_getElem hm', hs', Option.some.injEq] at hsegment
  rw [hsegment, Run.segment_projected] at hqs
  have hqmem : q.node ∈ runs[m'].ids := Run.node_mem_of_mem_slots (Slot.mem_of_mem_nameAll hqs)
  obtain rfl := Run.eq_of_mem_ids hnodup (List.getElem?_eq_getElem hrun) hr hqmem
    (hnode ▸ Run.node_mem_of_mem_slots hx)
  obtain rfl : runs[m'] = r := Option.some.inj ((List.getElem?_eq_getElem hrun).symm.trans hr)
  refine ⟨k', parts', q, ?_, hqs, hnode, hcolumn, href⟩
  rw [List.getElem?_eq_getElem hm', hs', hsegment]

end References

/-! ## The runs of a path -/

theorem Run.flatMap_ids_ofSegments_false (segs : List (List NodeId)) :
    (Run.ofSegments false segs).flatMap Run.ids = segs.flatten := by
  induction segs with
  | nil => rfl
  | cons seg segs ih => rw [Run.ofSegments, List.flatMap_cons, ih, List.flatten_cons]; rfl

theorem Run.ids_ne_nil_of_mem_ofSegments {starts : Bool} {segs : List (List NodeId)}
    (hne : ∀ seg ∈ segs, seg ≠ []) : ∀ r ∈ Run.ofSegments starts segs, r.ids ≠ [] := by
  induction segs generalizing starts with
  | nil => simp [Run.ofSegments]
  | cons seg segs ih =>
    obtain ⟨hseg, hsegs⟩ := List.forall_mem_cons.mp hne
    refine List.forall_mem_cons.mpr ⟨?_, ih hsegs⟩
    cases starts with
    | true => exact List.cons_ne_nil _ _
    | false => exact hseg

theorem Run.starts_eq_false {segs : List (List NodeId)} {r : Run}
    (hr : r ∈ Run.ofSegments false segs) : r.starts = false := by
  induction segs with
  | nil => cases hr
  | cons seg segs ih =>
    rcases List.mem_cons.mp hr with rfl | hr
    · rfl
    · exact ih hr

/-- A run is a stretch of the path: nothing comes before the first or after the last. -/
theorem Run.exists_append_of_mem {starts : Bool} {segs : List (List NodeId)} {r : Run}
    (hr : r ∈ Run.ofSegments starts segs) :
    ∃ pre post, (Run.ofSegments starts segs).flatMap Run.ids = pre ++ r.ids ++ post ∧
      (r.starts → pre = []) ∧ (r.ends → post = []) := by
  induction segs generalizing starts with
  | nil => cases hr
  | cons seg segs ih =>
    rw [Run.ofSegments] at hr ⊢
    rw [List.flatMap_cons]
    rcases List.mem_cons.mp hr with rfl | hr
    · refine ⟨[], _, rfl, fun _ ↦ rfl, fun hends ↦ ?_⟩
      obtain rfl : segs = [] := List.isEmpty_iff.mp hends
      rfl
    · obtain ⟨pre, post, heq, -, hpost⟩ := ih hr
      refine ⟨_ ++ pre, post, by rw [heq, List.append_assoc, List.append_assoc,
        List.append_assoc], fun hstarts ↦ ?_, hpost⟩
      rw [Run.starts_eq_false hr] at hstarts
      cases hstarts

/-- Some run is the last. -/
theorem Run.exists_ends (starts : Bool) {segs : List (List NodeId)} (hne : segs ≠ []) :
    ∃ r ∈ Run.ofSegments starts segs, r.ends = true := by
  induction segs generalizing starts with
  | nil => exact absurd rfl hne
  | cons seg segs ih =>
    cases segs with
    | nil => exact ⟨_, List.mem_cons_self, rfl⟩
    | cons seg' segs =>
      obtain ⟨r, hr, hends⟩ := ih false (List.cons_ne_nil _ _)
      exact ⟨r, List.mem_cons_of_mem _ hr, hends⟩

/-- The runs of a path have its steps, one run after the other. -/
theorem Run.flatMap_ids_ofSegments (t : Tree) (p : Path) :
    (Run.ofSegments true (t.segments p)).flatMap Run.ids = p.all := by
  have hflatten := t.flatten_segments p
  cases hsegments : t.segments p with
  | nil => exact absurd hsegments (t.segments_ne_nil p)
  | cons seg segs =>
    rw [hsegments, List.flatten_cons] at hflatten
    rw [Run.ofSegments, List.flatMap_cons, Run.flatMap_ids_ofSegments_false, Path.all, ← hflatten]
    rfl

/-! ## The columns that a joint needs -/

/-- A derived table projects columns of its steps and columns that are needed of them. -/
theorem Run.mem_columnsAt_or_needed {t : Tree} {p : Path} {needed : List (NodeId × String)}
    {r : Run} {x : Slot} (h : x ∈ r.slots t p needed) :
    x.column ∈ t.columnsAt x.node ∨ (x.node, x.column) ∈ needed := by
  rcases List.mem_append.mp h with h | h
  · refine .inl ?_
    obtain ⟨id, -, h⟩ := List.mem_flatMap.mp h
    have hslot : ∃ role, x ∈ t.nodeSlots id role := by
      rcases List.mem_append.mp h with h | h
      · split at h
        · exact ⟨_, h⟩
        · cases h
      · split at h
        · exact ⟨_, h⟩
        · cases h
    obtain ⟨role, hslot⟩ := hslot
    obtain ⟨column, hcolumn, rfl⟩ := List.mem_map.mp hslot
    exact hcolumn
  · refine .inr ?_
    obtain ⟨id, -, h⟩ := List.mem_flatMap.mp h
    obtain ⟨column, hcolumn, rfl⟩ := List.mem_map.mp h
    rw [CompileM.helperColumns] at hcolumn
    split at hcolumn
    · cases hcolumn
    · obtain ⟨y, hy, rfl⟩ := List.mem_map.mp (Topology.mem_of_mem_firstOccurrences hcolumn)
      obtain ⟨hneeded, hnode⟩ := List.mem_filter.mp hy
      obtain rfl : y.1 = id := by simpa using hnode
      exact hneeded

/-- A column that is needed of a step has a slot, if the step has it whenever it is shown. -/
theorem exists_mem_slots {t : Tree} {p : Path} {needed : List (NodeId × String)} {r : Run}
    {id : NodeId} {column : String} (hid : id ∈ r.ids) (hneeded : (id, column) ∈ needed)
    (hlive : ∃ n, t.node? id = some n)
    (hshown : id = p.leaf ∨ (t.nodeAt id).isLabeled → column ∈ t.columnsAt id) :
    ∃ x ∈ r.slots t p needed, x.node = id ∧ x.column = column := by
  by_cases hleaf : id = p.leaf
  · refine ⟨⟨id, .result, column⟩, List.mem_append_left _ ?_, rfl, rfl⟩
    refine List.mem_flatMap.mpr ⟨id, hid, List.mem_append_left _ ?_⟩
    rw [if_pos hleaf]
    exact List.mem_map.mpr ⟨column, hshown (.inl hleaf), rfl⟩
  · by_cases hlabeled : (t.nodeAt id).isLabeled
    · refine ⟨⟨id, .labeled, column⟩, List.mem_append_left _ ?_, rfl, rfl⟩
      refine List.mem_flatMap.mpr ⟨id, hid, List.mem_append_right _ ?_⟩
      rw [if_pos hlabeled]
      exact List.mem_map.mpr ⟨column, hshown (.inr hlabeled), rfl⟩
    · refine ⟨⟨id, .helper, column⟩, List.mem_append_right _ ?_, rfl, rfl⟩
      refine List.mem_flatMap.mpr ⟨id, hid, List.mem_map.mpr ⟨column, ?_, rfl⟩⟩
      obtain ⟨n, hn⟩ := hlive
      rw [Tree.nodeAt_of_some hn] at hlabeled
      have hhidden : ¬(decide (id = p.leaf) || ((t.node? id).map (·.isLabeled)).getD false) := by
        simp [hleaf, hn, hlabeled]
      rw [CompileM.helperColumns, if_neg hhidden]
      exact Topology.mem_firstOccurrences (List.mem_map.mpr ⟨(id, column),
        List.mem_filter.mpr ⟨hneeded, by simp⟩, rfl⟩) (by simp)

/-- Two steps are correlated by the identity of a vertex and the key of an edge that refers to
it. -/
theorem Tree.correlate_cases {id : NodeId} {above below : Node} {edge : Table} {key : String}
    {c : Correlation} (h : correlate id above below = .ok (edge, key, c)) :
    ∃ side : Direction,
      (above.table.kind = .vertex ∧ edge = below.table ∧
        key = above.table.foreignKeyColumn side ∧ c = ⟨idColumn, key⟩) ∨
      (below.table.kind = .vertex ∧ edge = above.table ∧
        key = below.table.foreignKeyColumn side ∧ c = ⟨key, idColumn⟩) := by
  rw [correlate] at h
  split at h
  · next habove _ =>
    obtain ⟨rfl, hrest⟩ := Prod.mk.inj (Except.ok.inj h)
    obtain ⟨rfl, rfl⟩ := Prod.mk.inj hrest
    exact ⟨_, .inl ⟨habove, rfl, rfl, rfl⟩⟩
  · next _ hbelow =>
    dsimp only at h
    generalize (if below.step = .edgeVertex then below.direction else below.direction.opposite) =
      side at h
    split at h
    · cases h
    · obtain ⟨rfl, hrest⟩ := Prod.mk.inj (Except.ok.inj h)
      obtain ⟨rfl, rfl⟩ := Prod.mk.inj hrest
      exact ⟨_, .inr ⟨hbelow, rfl, rfl, rfl⟩⟩
  · cases h

theorem Tree.columns?_of_columnsOf {t : Tree} {table : Table} {columns : List String}
    (h : t.columnsOf table = .ok columns) :
    ∃ g, t.catalog = some g ∧ g.columns? table = some columns := by
  obtain ⟨g, hg, h⟩ := bind_eq_ok_iff.mp h
  have hcatalog : t.catalog = some g := by
    rw [topology] at hg
    split at hg
    · next hsome => rw [hsome, Except.ok.inj hg]
    · cases hg
  refine ⟨g, hcatalog, ?_⟩
  split at h
  · next hsome => rw [hsome, Except.ok.inj h]
  · cases h

theorem Tree.idColumn_mem_of_columnsOf {t : Tree} {table : Table} {columns : List String}
    (h : t.columnsOf table = .ok columns) : idColumn ∈ columns := by
  obtain ⟨g, -, hcolumns⟩ := columns?_of_columnsOf h
  obtain ⟨properties, -, rfl⟩ := Option.map_eq_some_iff.mp hcolumns
  simp

/-- A name that resolves on a table is among the columns projected for it. -/
theorem Tree.mem_columns_of_resolves {t : Tree} {g : Topology} (hcatalog : t.catalog = some g)
    (hindexed : g.Indexed) {table : Table} {column : String}
    (h : (g.resolveColumn? table column).isSome) {columns : List String}
    (hcolumns : t.columnsOf table = .ok columns) : column ∈ columns := by
  obtain ⟨columns', hsome, hmem⟩ := Topology.mem_columns_of_resolveColumn? hindexed h
  obtain ⟨g', hg', hcolumns'⟩ := columns?_of_columnsOf hcolumns
  obtain rfl := Option.some.inj (hg'.symm.trans hcatalog)
  rwa [Option.some.inj (hcolumns'.symm.trans hsome)]

/-- The columns that correlate two steps are columns of theirs. -/
theorem Tree.mem_columns_of_correlation {t : Tree} {g : Topology} (hcatalog : t.catalog = some g)
    (hindexed : g.Indexed) {id : NodeId} {above below : Node} {c : Correlation}
    (h : t.correlation id above below = .ok c) :
    (∀ columns, t.columnsOf above.table = .ok columns → c.above ∈ columns) ∧
      ∀ columns, t.columnsOf below.table = .ok columns → c.below ∈ columns := by
  have htopology : t.topology = .ok g := by rw [topology, hcatalog]
  have hkey : ∀ {table key columns}, (g.resolveColumn? table key).isSome →
      t.columnsOf table = .ok columns → key ∈ columns :=
    fun hresolves ↦ mem_columns_of_resolves hcatalog hindexed hresolves
  obtain ⟨⟨edge, key, c'⟩, hcorrelate, h₁⟩ := bind_eq_ok_iff.mp h
  obtain ⟨g', hg', h₂⟩ := bind_eq_ok_iff.mp h₁
  rw [htopology, Except.ok.injEq] at hg'
  subst hg'
  split at h₂
  · next hresolved =>
    obtain rfl := Except.ok.inj h₂
    obtain ⟨side, ⟨-, rfl, -, rfl⟩ | ⟨-, rfl, -, rfl⟩⟩ := correlate_cases hcorrelate
    · exact ⟨fun _ ↦ idColumn_mem_of_columnsOf, fun _ ↦ hkey hresolved⟩
    · exact ⟨fun _ ↦ hkey hresolved, fun _ ↦ idColumn_mem_of_columnsOf⟩
  · cases h₂

/-! ## Joints -/

/-- The joint before a further run, and those after it. -/
theorem joints_eq_ok {t : Tree} {before after : List NodeId} {segs : List (List NodeId)}
    {js : List CompileM.Joint} (h : CompileM.joints t (before :: after :: segs) = .ok js) :
    ∃ j js' above below, js = j :: js' ∧ j.left = before.getLastD rootId ∧
      j.right = after.headD rootId ∧ t.liveNode j.left = .ok above ∧
      t.liveNode j.right = .ok below ∧ t.correlation j.right above below = .ok j.columns ∧
      CompileM.joints t (after :: segs) = .ok js' := by
  rw [CompileM.joints] at h
  obtain ⟨above, habove, h₁⟩ := bind_eq_ok_iff.mp h
  obtain ⟨below, hbelow, h₂⟩ := bind_eq_ok_iff.mp h₁
  obtain ⟨columns, hcolumns, h₃⟩ := bind_eq_ok_iff.mp h₂
  obtain ⟨js', hjs', h₄⟩ := bind_eq_ok_iff.mp h₃
  exact ⟨_, js', above, below, (Except.ok.inj h₄).symm, rfl, rfl, habove, hbelow, hcolumns, hjs'⟩

/-- A joint correlates the steps on its sides. -/
theorem joint_of_mem {t : Tree} {segs : List (List NodeId)} {js : List CompileM.Joint}
    (h : CompileM.joints t segs = .ok js) {j : CompileM.Joint} (hj : j ∈ js) :
    ∃ above below, t.liveNode j.left = .ok above ∧ t.liveNode j.right = .ok below ∧
      t.correlation j.right above below = .ok j.columns := by
  induction segs generalizing js with
  | nil =>
    obtain rfl := Except.ok.inj h
    cases hj
  | cons before segs ih =>
    cases segs with
    | nil =>
      obtain rfl := Except.ok.inj h
      cases hj
    | cons after segs =>
      obtain ⟨j', js', above, below, rfl, -, -, habove, hbelow, hcolumns, hjs'⟩ := joints_eq_ok h
      rcases List.mem_cons.mp hj with rfl | hj
      · exact ⟨above, below, habove, hbelow, hcolumns⟩
      · exact ih hjs' hj

/-- There is a joint between any two neighbouring segments. -/
theorem length_joints {t : Tree} {seg : List NodeId} {segs : List (List NodeId)}
    {js : List CompileM.Joint} (h : CompileM.joints t (seg :: segs) = .ok js) :
    js.length = segs.length := by
  induction segs generalizing seg js with
  | nil =>
    obtain rfl := Except.ok.inj h
    rfl
  | cons after segs ih =>
    obtain ⟨j, js', _, _, rfl, -, -, -, -, -, hjs'⟩ := joints_eq_ok h
    rw [List.length_cons, List.length_cons, ih hjs']

theorem length_ofSegments (starts : Bool) (segs : List (List NodeId)) :
    (Run.ofSegments starts segs).length = segs.length := by
  induction segs generalizing starts with
  | nil => rfl
  | cons seg segs ih => rw [Run.ofSegments, List.length_cons, ih, List.length_cons]

/-- The derived tables of a statement, in order. -/
def SplitSelect.tables (s : SplitSelect) : List Select := s.first :: s.links.map (·.select)

theorem SplitSelect.tables_ofSegments {leaf : NodeId} {segments : List CompileM.Segment}
    {js : List CompileM.Joint} (hjs : segments.length = js.length + 1) (keys : List Tree.SortKey) :
    (ofSegments leaf segments js keys).tables = segments.map (·.select) := by
  obtain ⟨first, rest, rfl⟩ := List.exists_cons_of_length_eq_add_one hjs
  have hrest : (rest.zip js).map Prod.fst = rest := List.map_fst_zip (by simpa using hjs.le)
  rw [tables, ofSegments, List.map_cons]
  dsimp only
  rw [List.drop_one, List.tail_cons, List.map_map]
  conv_rhs => rw [← hrest, List.map_map]
  rfl

/-! ## What a compiled path shows -/

theorem SelectParts.names_select (parts : SelectParts) (t : Tree) (p : Path)
    (projected : List Projected) (r : Run) (order : List SortColumn) :
    (Query.single (parts.select t p projected r order)).names = projected.map (·.name) := by
  rw [Query.names, SelectParts.select, List.map_map]
  rfl

theorem names_outerProjections (segments : List CompileM.Segment) :
    (CompileM.outerProjections segments).map (·.name) =
      (segments.flatMap (·.shown)).map (·.name) := by
  rw [CompileM.outerProjections, List.map_flatMap, List.map_flatMap]
  conv_rhs => rw [← List.zipIdx_map_fst 1 segments, List.flatMap_map]
  refine List.flatMap_congr fun x _ ↦ ?_
  rw [List.map_map]
  rfl

section Segments

variable {t : Tree} {p : Path} {needed : List (NodeId × String)} {runs : List Run}
  {segments : List CompileM.Segment}

/-- The derived tables show the columns of their runs. -/
theorem map_slot_shown (h : List.Forall₂ (Run.IsSegment t p needed) runs segments) :
    (segments.flatMap (·.shown)).map Projected.slot =
      t.shownSlots p.leaf (runs.flatMap Run.ids) := by
  induction h with
  | nil => rfl
  | cons hs _ ih =>
    obtain ⟨k, parts, rfl⟩ := hs
    rw [List.flatMap_cons, List.map_append, ih, List.flatMap_cons, Tree.shownSlots_append,
      Run.segment, Slot.map_slot_nameAll]

/-- The derived tables number the slots of their runs one after the other. -/
theorem DerivedTables.flatMap_projected {c : Compiler} {branches : List NodeId} {k : ℕ}
    {tables tables' : List MembershipTable}
    (h : DerivedTables c t p branches needed k tables runs segments tables') :
    segments.flatMap (fun s ↦ s.shown ++ s.helpers) =
      Slot.nameAll k (runs.flatMap (Run.slots t p needed)) := by
  induction h with
  | nil => rfl
  | cons parts _ _ _ ih =>
    rw [List.flatMap_cons, List.flatMap_cons, ih, Run.segment_projected, Slot.nameAll_append]

end Segments

/-- A needed column has a slot in the run of its step: a shown step has all its columns, and any
other step gets a helper. -/
theorem DerivedTables.exists_slot {c : Compiler} {t : Tree} {p : Path} {branches : List NodeId}
    {needed : List (NodeId × String)} {k : ℕ} {tables tables' : List MembershipTable}
    {runs : List Run} {segments : List CompileM.Segment}
    (h : DerivedTables c t p branches needed k tables runs segments tables') {r : Run}
    (hr : r ∈ runs) {id : NodeId} (hid : id ∈ r.ids) {n : Node} (hlive : t.liveNode id = .ok n)
    {column : String} (hneeded : (id, column) ∈ needed)
    (hcolumn : ∀ columns, t.columnsOf n.table = .ok columns → column ∈ columns) :
    ∃ x ∈ r.slots t p needed, x.node = id ∧ x.column = column := by
  have hn := Tree.liveNode_eq_ok_iff.mp hlive
  obtain ⟨s, _, _, _, _, -, -, hshown, -⟩ := exists_of_mem_forall₂ h.exists_fit hr
  refine exists_mem_slots hid hneeded ⟨n, hn⟩ fun hshows ↦ ?_
  obtain ⟨columns, hcolumns⟩ := hshown id hid hshows
  rw [Tree.columnsAt_of_eq_ok hcolumns]
  rw [Tree.nodeAt_of_some hn] at hcolumns
  exact hcolumn columns hcolumns

namespace Compiles

variable {c : Compiler} {t : Tree} {p : Path} {branches : List NodeId} {k : ℕ} {q : Query}
  {tables : List MembershipTable} {slots : List Slot}

/-- Every step of a compiled path is live, and its table declared if it is shown. -/
theorem steps (h : Compiles c t p branches k q tables slots) :
    (∀ id ∈ p.all, ∃ n, t.node? id = some n) ∧ t.ShowsDeclared p.leaf p.all := by
  cases h with
  | single parts sorted uncut shown fit => exact ⟨fit.live, shown⟩
  | split sorted cut joints derived =>
    have hstep : ∀ id ∈ p.all, ∃ r ∈ Run.ofSegments true (t.segments p), id ∈ r.ids := by
      intro id hid
      rw [← Run.flatMap_ids_ofSegments t p] at hid
      exact List.mem_flatMap.mp hid
    constructor
    · intro id hid
      obtain ⟨r, hr, hmem⟩ := hstep id hid
      obtain ⟨_, _, _, _, _, -, fit, -⟩ := exists_of_mem_forall₂ derived.exists_fit hr
      exact fit.live id hmem
    · intro id hid
      obtain ⟨r, hr, hmem⟩ := hstep id hid
      obtain ⟨_, _, _, _, _, -, -, hshown, -⟩ := exists_of_mem_forall₂ derived.exists_fit hr
      exact hshown id hmem

/-- The steps of a compiled path lead down from the root. -/
theorem isChain_all (h : Compiles c t p branches k q tables slots) (hbuilt : t.Built) {id : NodeId}
    (hp : p = t.pathTo id) : p.all.IsChain t.IsParent := by
  subst hp
  obtain ⟨n, hn⟩ := Tree.exists_of_pathTo_live hbuilt.rooted h.steps.1
  exact (Tree.isChain_pathTo hbuilt.rooted hn).1

/-- What a compiled path shows are some of the columns it has given aliases to. -/
theorem exists_shown (h : Compiles c t p branches k q tables slots) :
    ∃ qs : List Projected, qs ⊆ Slot.nameAll k slots ∧
      qs.map Projected.slot = t.shownSlots p.leaf p.all ∧ q.names = qs.map (·.name) := by
  cases h with
  | single parts sorted uncut shown fit =>
    exact ⟨_, List.Subset.refl _, Slot.map_slot_nameAll _ _, parts.names_select _ _ _ _ _⟩
  | @split keys js segments tables sorted cut joints derived =>
    refine ⟨segments.flatMap CompileM.Segment.shown, ?_, ?_, names_outerProjections segments⟩
    · rw [← derived.flatMap_projected]
      intro x hx
      obtain ⟨s, hs, hx⟩ := List.mem_flatMap.mp hx
      exact List.mem_flatMap.mpr ⟨s, hs, List.mem_append_left _ hx⟩
    · rw [map_slot_shown derived.forall₂, Run.flatMap_ids_ofSegments t p]

end Compiles

end PathQuery
