import PathQuery.Proofs.Relational.Derived

/-!
# The answer to a compiled path

A compiled path projects the columns of its end and of its labeled steps. Keeping the rows in which
the end has an identity leaves one row for every match, in either form of the statement: what a
left join fills in with nulls is exactly what the identity drops, or what a joint has dropped
before.
-/

namespace PathQuery

namespace Tree

/-- What a match answers: the values of the projected columns, under the given aliases. -/
def answerOf (t : Tree) (p : Path) (names : List String) (rs : List Row) : List (String × Value) :=
  names.zip ((t.shownSlots p.leaf p.all).map fun s ↦ rowOf p.all rs s.node s.column)

/-- The identity of the projected element in a row of the answer. -/
def leafIdentity (t : Tree) (p : Path) (cells : List (String × Value)) : Value :=
  (cells.map (·.2)).getD ((t.shownSlots p.leaf p.all).idxOf ⟨p.leaf, .result, idColumn⟩) .null

variable {t : Tree} {p : Path}

theorem answerOf_map_name {qs : List Projected} (h : qs.map Projected.slot = t.shownSlots p.leaf p.all)
    (rs : List Row) :
    t.answerOf p (qs.map (·.name)) rs =
      qs.map fun q ↦ (q.name, rowOf p.all rs q.node q.column) := by
  rw [answerOf, ← h, List.map_map, List.zip_map']
  rfl

/-- The identity of the projected step is projected. -/
theorem identity_mem_shownSlots (h : t.ShowsDeclared p.leaf p.all) :
    (⟨p.leaf, .result, idColumn⟩ : Slot) ∈ t.shownSlots p.leaf p.all := by
  have hleaf : p.leaf ∈ p.all := List.mem_of_getLast? (getLast?_all p)
  obtain ⟨columns, hcolumns⟩ := h p.leaf hleaf (.inl rfl)
  refine List.mem_flatMap.mpr ⟨p.leaf, hleaf, List.mem_append_left _ ?_⟩
  rw [if_pos rfl, nodeSlots, columnsAt_of_eq_ok hcolumns]
  exact List.mem_map.mpr ⟨idColumn, idColumn_mem_of_columnsOf hcolumns, rfl⟩

theorem leafIdentity_answerOf (h : t.ShowsDeclared p.leaf p.all) {names : List String}
    (hnames : names.length = (t.shownSlots p.leaf p.all).length) (rs : List Row) :
    t.leafIdentity p (t.answerOf p names rs) = rowOf p.all rs p.leaf idColumn := by
  rw [leafIdentity, answerOf, List.map_snd_zip (by simp [hnames]), List.getD_eq_getElem?_getD,
    List.getElem?_map, List.getElem?_idxOf (identity_mem_shownSlots h), Option.map_some,
    Option.getD_some]

theorem rowOf_leaf (hnodup : p.all.Nodup) {rs : List Row} (hrs : rs.length = p.all.length) :
    rowOf p.all rs p.leaf = rs.getLastD nullRow := by
  have hlast : rowOf (p.all ++ []) (rs ++ []) p.leaf = rs.getLastD nullRow :=
    rowOf_last (by rwa [List.append_nil]) (getLast?_all p) hrs []
  rwa [List.append_nil, List.append_nil] at hlast

end Tree

/-! ## What the statement projects -/

/-- The cells of a select of steps. -/
theorem cells_projection (p : Path) (qs : List Projected) (rs : List Row) :
    Projection.cells (qs.map (Projected.projection p)) (.ofRows 0 rs) =
      qs.map fun q ↦ (q.name, Tree.rowOf p.all rs q.node q.column) := by
  rw [Projection.cells, List.map_map]
  refine List.map_congr_left fun q _ ↦ ?_
  rw [← JoinedRow.ofRows_source]
  rfl

section Segments

variable {t : Tree} {p : Path} {needed : List (NodeId × String)} {runs : List Run}
  {segments : List CompileM.Segment}

/-- The cells of a statement that joins derived tables. -/
theorem cells_outerProjections (h : List.Forall₂ (Run.IsSegment t p needed) runs segments)
    (rs : List Row) :
    Projection.cells (CompileM.outerProjections segments) (.ofSegments segments rs) =
      (segments.flatMap (·.shown)).map fun q ↦
        (q.name, Tree.rowOf p.all rs q.node q.column) := by
  rw [Projection.cells, CompileM.outerProjections, List.map_flatMap, List.map_flatMap]
  conv_rhs => rw [← List.zipIdx_map_fst 1 segments, List.flatMap_map]
  refine List.flatMap_congr fun x hx ↦ ?_
  obtain ⟨s, n⟩ := x
  obtain ⟨i, hi, heq⟩ := List.getElem_of_mem hx
  rw [List.getElem_zipIdx, Prod.mk.injEq] at heq
  rw [List.length_zipIdx] at hi
  obtain ⟨rfl, rfl⟩ := heq
  rw [List.map_map]
  refine List.map_congr_left fun q hq ↦ ?_
  have hrun : i < runs.length := h.length_eq ▸ hi
  obtain ⟨k, parts, hs⟩ := h.get hrun hi
  rw [List.get_eq_getElem, List.get_eq_getElem] at hs
  rw [hs] at hq
  have hname : q ∈ Slot.nameAll k (runs[i].slots t p needed) := by
    rw [← Run.segment_projected k runs[i] parts]
    exact List.mem_append_left _ hq
  rw [Function.comp_apply, ColumnRef.value, Nat.add_comm, JoinedRow.ofSegments,
    List.getElem?_eq_getElem hi, hs]
  simp only
  rw [Run.projections_segment, derivedRow_nameAll hname, JoinedRow.ofRows_source]

end Segments

/-! ## One row for every match -/

/-- Keeping some of the images of a bag is choosing for each element whether it has one. -/
theorem filter_map_eq_bind {α β : Type} (s : Multiset α) (f : α → β) (P : β → Prop)
    [DecidablePred P] :
    (s.map f).filter P = s.bind fun a ↦ if P (f a) then {f a} else 0 := by
  rw [← Multiset.bind_singleton, Multiset.filter_bind]
  exact Multiset.bind_congr fun a _ ↦ Multiset.filter_singleton P

/-- The answer that some rows give, unless their end has no identity. -/
def Tree.identified (t : Tree) (p : Path) (names : List String) (rs : List Row) :
    Multiset (List (String × Value)) :=
  if ¬(rs.getLastD nullRow idColumn).isNull then {t.answerOf p names rs} else 0

section Evaluation

variable {c : Compiler} {t : Tree} {p : Path} {branches : List NodeId} {db : RowStore}

theorem Tree.identified_of_lost {names : List String} {rs : List Row}
    (h : rs.getLast? = some nullRow) : t.identified p names rs = 0 := by
  rw [identified, List.getLastD_eq_getLast?, h, Option.getD_some, if_neg (by simp [nullRow, Value.isNull])]

/-- Keeping the cells of some rows if there is an identity among them. -/
theorem Tree.ite_leafIdentity (hshown : t.ShowsDeclared p.leaf p.all) (hnodup : p.all.Nodup)
    {qs : List Projected} (hqs : qs.map Projected.slot = t.shownSlots p.leaf p.all) {rs : List Row}
    (hrs : rs.length = p.all.length) {cells : List (String × Value)}
    (hcells : cells = qs.map fun q ↦ (q.name, rowOf p.all rs q.node q.column)) :
    (if ¬(t.leafIdentity p cells).isNull then ({cells} : Multiset _) else 0) =
      t.identified p (qs.map (·.name)) rs := by
  rw [hcells, ← answerOf_map_name hqs, leafIdentity_answerOf hshown (by rw [← hqs]; simp),
    rowOf_leaf hnodup hrs, identified]

/-- The walks that the first run keeps, continued past its end, are the walks over the path. -/
theorem bind_keeps_root {β : Type} {f : List Row → Multiset β}
    (hf : ∀ rs, rs.getLast? = some nullRow → f rs = 0) (rest : List NodeId)
    {segs : List (List NodeId)} (hne : ∀ seg ∈ segs, seg ≠ [])
    (hpath : p.all = rootId :: rest ++ segs.flatten) (hnodup : p.all.Nodup) :
    (Run.leftWalks t db rootId rest).bind (fun rs ↦
        if Run.Keeps t db branches ⟨rootId :: rest, true, segs.isEmpty⟩ rs then
          continued t db branches f segs rs
        else 0) =
      (walks (t.partners db) nullRow p.all).bind fun rs ↦
        if ∀ b ∈ branches, t.Lonely db b (rs.getLastD nullRow) then f rs else 0 := by
  have hroot : rootId ∉ rest ++ segs.flatten := by
    rw [hpath, List.cons_append] at hnodup
    exact (List.nodup_cons.mp hnodup).1
  have hfits : ∀ row, t.Fits db rootId (([] : List Row).getLastD nullRow) row ↔
      ((true → t.StartsAt db row) ∧ t.Passes db rootId row) ∧ True := by
    intro row
    rw [Tree.Fits, if_pos rfl]
    simp
  have hwalks := bind_keeps_walks branches hf hne hroot (fun _ ↦ True) hfits
  simpa only [if_true, List.nil_append, ← hpath, List.getLastD_nil] using hwalks

/-- The answer to a statement of one select. -/
theorem eval_single {parts : SelectParts} (fit : parts.Fit c t p branches [] (Run.whole p))
    (hinline : parts.clauses.tables = []) (hshown : t.ShowsDeclared p.leaf p.all)
    (hchain : p.all.IsChain t.IsParent) (hnodup : p.all.Nodup) (hdb : db.Identified) {k : ℕ}
    {order : List SortColumn} {q : Query}
    (hq : q = .single (parts.select t p (Slot.nameAll k (t.shownSlots p.leaf p.all)) (Run.whole p)
      order)) :
    (q.eval db).filter (fun cells ↦ ¬(t.leafIdentity p cells).isNull) =
      (walks (t.partners db) nullRow p.all).bind fun rs ↦
        if ∀ b ∈ branches, t.Lonely db b (rs.getLastD nullRow)
        then t.identified p q.names rs else 0 := by
  have hpath : p.all = [] ++ rootId :: p.nodes ++ [] := by simp [Path.all]
  have hr : (Run.whole p).Stretches t p 0 rootId p.nodes :=
    stretches_of_append hnodup hchain rfl hpath (fun _ ↦ rfl) fun _ ↦ rfl
  have hqs := Slot.map_slot_nameAll k (t.shownSlots p.leaf p.all)
  have hlost : ∀ rs, rs.getLast? = some nullRow → t.identified p q.names rs = 0 :=
    fun _ ↦ Tree.identified_of_lost
  rw [← bind_keeps_root hlost p.nodes (List.forall_mem_nil _) hpath hnodup, hq,
    SelectParts.names_select, Query.eval, Select.eval, filter_map_eq_bind,
    SelectParts.kept_select fit hinline hr hdb, Multiset.bind_assoc]
  refine Multiset.bind_congr fun rs hrs ↦ ?_
  have hlength : rs.length = p.all.length := Run.length_of_mem_leftWalks hrs
  rw [continued, List.isEmpty_nil, if_pos rfl]
  change (if (Run.whole p).Keeps t db branches rs then _ else _ : Multiset JoinedRow).bind _ =
    if (Run.whole p).Keeps t db branches rs then _ else _
  split
  · rw [Multiset.singleton_bind]
    exact Tree.ite_leafIdentity hshown hnodup hqs hlength (cells_projection p _ rs)
  · rw [Multiset.zero_bind]

/-- The derived tables project what a joint compares. -/
theorem DerivedTables.joint_projected {g : Topology} (hcatalog : t.catalog = some g)
    (hindexed : g.Indexed) {keys : List Tree.SortKey} {js : List CompileM.Joint}
    {segs : List (List NodeId)} (hjoints : CompileM.joints t segs = .ok js) {k : ℕ}
    {tables tables' : List MembershipTable} {runs : List Run} {segments : List CompileM.Segment}
    (h : DerivedTables c t p branches (CompileM.neededColumns js keys) k tables runs segments
      tables') :
    ∀ j ∈ js, j.Projected t p (CompileM.neededColumns js keys) runs := by
  intro j hj
  obtain ⟨above, below, habove, hbelow, hcorrelation⟩ := joint_of_mem hjoints hj
  obtain ⟨hcolumnAbove, hcolumnBelow⟩ :=
    Tree.mem_columns_of_correlation hcatalog hindexed hcorrelation
  have hneeded : ∀ x ∈ [(j.left, j.columns.above), (j.right, j.columns.below)],
      x ∈ CompileM.neededColumns js keys :=
    fun x hx ↦ List.mem_append_left _ (List.mem_flatMap.mpr ⟨j, hj, hx⟩)
  exact ⟨fun r hr hid ↦ h.exists_slot hr hid habove (hneeded _ (by simp)) hcolumnAbove,
    fun r hr hid ↦ h.exists_slot hr hid hbelow (hneeded _ (by simp)) hcolumnBelow⟩

/-- The answer to a statement that joins derived tables. -/
theorem eval_split {g : Topology} (hcatalog : t.catalog = some g) (hindexed : g.Indexed)
    {keys : List Tree.SortKey} {js : List CompileM.Joint} {segments : List CompileM.Segment} {k : ℕ}
    (hcut : ∀ nodes, t.segments p ≠ [nodes])
    (hjoints : CompileM.joints t (t.segments p) = .ok js)
    (hderived : DerivedTables c t p branches (CompileM.neededColumns js keys) k []
      (Run.ofSegments true (t.segments p)) segments [])
    (hshown : t.ShowsDeclared p.leaf p.all) (hchain : p.all.IsChain t.IsParent)
    (hnodup : p.all.Nodup) (hdb : db.Identified) {q : Query}
    (hq : q = .split (.ofSegments p.leaf segments js keys)) :
    (q.eval db).filter (fun cells ↦ ¬(t.leafIdentity p cells).isNull) =
      (walks (t.partners db) nullRow p.all).bind fun rs ↦
        if ∀ b ∈ branches, t.Lonely db b (rs.getLastD nullRow)
        then t.identified p q.names rs else 0 := by
  have hids := Run.flatMap_ids_ofSegments t p
  have hne := Tree.ne_nil_of_mem_segments hcut
  have hprojected := hderived.joint_projected hcatalog hindexed hjoints
  have cut : IsCut t p (CompileM.neededColumns js keys) (Run.ofSegments true (t.segments p))
      segments := ⟨hderived.forall₂, hids, hnodup, hchain⟩
  have hqs : (segments.flatMap (·.shown)).map Projected.slot = t.shownSlots p.leaf p.all := by
    rw [map_slot_shown cut.segments, hids]
  have hnames : q.names = (segments.flatMap (·.shown)).map (·.name) := by
    rw [hq]
    exact names_outerProjections segments
  have hlost : ∀ rs, rs.getLast? = some nullRow → t.identified p q.names rs = 0 :=
    fun _ ↦ Tree.identified_of_lost
  have hcells : ∀ rs : List Row, rs.length = p.all.length →
      (if ¬(t.leafIdentity p (Projection.cells (CompileM.outerProjections segments)
          (.ofSegments segments rs))).isNull
        then {Projection.cells (CompileM.outerProjections segments) (.ofSegments segments rs)}
        else 0) = t.identified p q.names rs := by
    intro rs hrs
    rw [hnames]
    exact Tree.ite_leafIdentity hshown hnodup hqs hrs (cells_outerProjections cut.segments rs)
  obtain ⟨seg, segs, hsegs⟩ := List.exists_cons_of_ne_nil (t.segments_ne_nil p)
  rw [hsegs] at hne hjoints hprojected cut hderived hids
  rw [Run.ofSegments, if_pos rfl] at hderived hprojected cut hids
  have hpath : p.all = rootId :: seg ++ segs.flatten := by
    rw [← hids, List.flatMap_cons, Run.flatMap_ids_ofSegments_false]
  have hr : Run.Stretches t p 0 ⟨rootId :: seg, true, segs.isEmpty⟩ rootId seg :=
    stretches_of_append hnodup hchain rfl (by rw [hpath, List.nil_append]) (fun _ ↦ rfl)
      fun h ↦ by rw [List.isEmpty_iff.mp h, List.flatten_nil]
  cases hderived with
  | @cons _ _ _ r _ todo parts shown fit tail =>
  have hinline : parts.clauses.tables = [] := tail.eq_nil_of_nil
  rw [← bind_keeps_root hlost seg (List.forall_mem_cons.mp hne).2 hpath hnodup, hq, Query.eval,
    SplitSelect.eval, filter_map_eq_bind, Link.extendAll_eq_bind, Multiset.bind_assoc,
    Multiset.bind_map, ← hq]
  exact cut.bind_statement hdb hlost hcells (List.forall_mem_cons.mp hne).2 hr fit hinline
    (hinline ▸ tail) hjoints hprojected

/-- A row of a walk is a row of some table. -/
theorem exists_mem_rowsAt_of_mem_walks {above : Row} {ids : List NodeId} {rs : List Row}
    (h : rs ∈ walks (t.partners db) above ids) : ∀ r ∈ rs, ∃ id, r ∈ t.rowsAt db id := by
  induction ids generalizing above rs with
  | nil =>
    obtain rfl := Multiset.mem_singleton.mp h
    simp
  | cons id ids ih =>
    obtain ⟨r, hr, hrest⟩ := Multiset.mem_bind.mp h
    obtain ⟨rest, hwalk, rfl⟩ := Multiset.mem_map.mp hrest
    exact List.forall_mem_cons.mpr ⟨⟨id, (Multiset.mem_filter.mp hr).1⟩, ih hwalk⟩

/-- The end of a walk over a path has an identity. -/
theorem identified_of_mem_walks (hdb : db.Identified) (names : List String) {rs : List Row}
    (h : rs ∈ walks (t.partners db) nullRow p.all) :
    t.identified p names rs = {t.answerOf p names rs} := by
  have hlength : rs.length = p.nodes.length + 1 := length_of_mem_walks h
  have hlast : rs.getLastD nullRow ∈ rs := by
    obtain ⟨row, rest, rfl⟩ := List.exists_cons_of_length_eq_add_one hlength
    rw [List.getLastD_cons]
    exact List.getLastD_mem_cons
  obtain ⟨id, hmem⟩ := exists_mem_rowsAt_of_mem_walks h _ hlast
  rw [Tree.identified, if_pos (hdb _ _ hmem)]

end Evaluation

namespace Compiles

variable {c : Compiler} {t : Tree} {p : Path} {branches : List NodeId} {k : ℕ} {q : Query}
  {tables : List MembershipTable} {slots : List Slot}

/-- **One row for every match.** The rows of the answer in which the projected element has an
identity are the matches of the path whose end is lonely for every branch. -/
theorem filter_eval (h : Compiles c t p branches k q [] slots) {g : Topology}
    (hcatalog : t.catalog = some g) (hindexed : g.Indexed) (hchain : p.all.IsChain t.IsParent)
    (hnodup : p.all.Nodup) {db : RowStore} (hdb : db.Identified) :
    (q.eval db).filter (fun cells ↦ ¬(t.leafIdentity p cells).isNull) =
      ((t.matchesOf db p).filter fun rs ↦
        ∀ b ∈ branches, t.Lonely db b (Tree.rowOf p.all rs p.leaf)).map (t.answerOf p q.names) := by
  obtain ⟨hlive, hshown⟩ := h.steps
  have heval : (q.eval db).filter (fun cells ↦ ¬(t.leafIdentity p cells).isNull) =
      (walks (t.partners db) nullRow p.all).bind fun rs ↦
        if ∀ b ∈ branches, t.Lonely db b (rs.getLastD nullRow)
        then t.identified p q.names rs else 0 := by
    generalize htables : ([] : List MembershipTable) = tables at h
    cases h with
    | single parts sorted uncut shown fit =>
      exact eval_single fit htables.symm shown hchain hnodup hdb rfl
    | split sorted cut joints derived =>
      subst htables
      exact eval_split hcatalog hindexed cut joints derived hshown hchain hnodup hdb rfl
  rw [heval, ← Multiset.bind_singleton, Multiset.bind_filter,
    Tree.matchesOf_eq_walks db hchain hnodup hlive]
  refine Multiset.bind_congr fun rs hrs ↦ ?_
  rw [identified_of_mem_walks hdb q.names hrs, Tree.rowOf_leaf hnodup (length_of_mem_walks hrs)]

end Compiles

end PathQuery
