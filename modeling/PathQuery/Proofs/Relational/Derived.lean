import PathQuery.Proofs.Compile.Reference
import PathQuery.Proofs.Relational.Select

/-!
# Joining derived tables

The derived tables of a path are joined where it was cut. A row of the statement is again a list
of rows, one for each step of the derived tables joined so far: whatever a derived table projects
is read off the rows of its own steps. The condition at a joint compares, by alias, exactly the two
columns that correlate the steps on its sides, so that a further derived table continues the walk;
and it drops the walks of the table before that have lost their track.
-/

namespace PathQuery

/-! ## Rows of the statement as lists -/

/-- The row of a statement that has joined some derived tables, with `rs` for the steps of the
path. -/
def JoinedRow.ofSegments (segments : List CompileM.Segment) (rs : List Row) : JoinedRow
  | .segment (n + 1) => match segments[n]? with
    | some s => derivedRow (Projection.cells s.select.projections (.ofRows 0 rs))
    | none => nullRow
  | _ => nullRow

theorem JoinedRow.ofSegments_nil (rs : List Row) : ofSegments [] rs = blank := by
  funext source
  match source with
  | .segment 0 | .segment (_ + 1) | .step _ | .branch _ | .membership _ => rfl

theorem JoinedRow.ofRows_source (p : Path) (rs : List Row) (id : NodeId) :
    ofRows 0 rs (p.source id) = Tree.rowOf p.all rs id := by
  rw [Path.source, ← Nat.zero_add (p.all.idxOf id), ofRows_step, Tree.rowOf]

theorem Projection.cells_congr {ps : List Projection} {e e' : JoinedRow}
    (h : ∀ q ∈ ps, e q.column.source = e' q.column.source) : cells ps e = cells ps e' := by
  refine List.map_congr_left fun q hq ↦ ?_
  rw [ColumnRef.value, ColumnRef.value, h q hq]

theorem lookupKey_map_of_nodup {α : Type} {key : α → String} {value : α → Value} {xs : List α}
    (hnodup : (xs.map key).Nodup) {x : α} (hx : x ∈ xs) :
    lookupKey (key x) (xs.map fun x ↦ (key x, value x)) = some (value x) := by
  induction xs with
  | nil => cases hx
  | cons y xs ih =>
    obtain ⟨hy, hnodup⟩ := List.nodup_cons.mp hnodup
    rw [List.map_cons, lookupKey_cons]
    rcases List.mem_cons.mp hx with rfl | hx
    · simp
    · have hne : (key y == key x) = false := by
        rw [beq_eq_false_iff_ne]
        exact fun heq ↦ hy (heq ▸ List.mem_map_of_mem hx)
      simp only [hne, Bool.false_eq_true, if_false]
      exact ih hnodup hx

/-- A derived table has, under the alias of a slot, the column of the slot's step. -/
theorem derivedRow_nameAll {k : ℕ} {slots : List Slot} {q : Projected}
    (hq : q ∈ Slot.nameAll k slots) (p : Path) (e : JoinedRow) :
    derivedRow (Projection.cells ((Slot.nameAll k slots).map (Projected.projection p)) e) q.name =
      e (p.source q.node) q.column := by
  have hcells : Projection.cells ((Slot.nameAll k slots).map (Projected.projection p)) e =
      (Slot.nameAll k slots).map fun q ↦ (q.name, e (p.source q.node) q.column) := by
    rw [Projection.cells, List.map_map]
    rfl
  rw [derivedRow, hcells, lookupKey_map_of_nodup (Slot.nodup_names k slots) hq, Option.getD_some]

/-- The sources of what a derived table projects are its own steps. -/
theorem Run.IsSegment.exists_source {t : Tree} {p : Path} {needed : List (NodeId × String)}
    {r : Run} {s : CompileM.Segment} (h : r.IsSegment t p needed s) :
    ∀ q ∈ s.select.projections, ∃ id ∈ r.ids, q.column.source = p.source id := by
  obtain ⟨k, parts, rfl⟩ := h
  intro q hq
  rw [Run.projections_segment] at hq
  obtain ⟨c, hc, rfl⟩ := List.mem_map.mp hq
  exact ⟨c.node, Run.node_mem_of_mem_slots (Slot.mem_of_mem_nameAll hc), rfl⟩

/-- Joining a further derived table appends the rows of its steps. -/
theorem JoinedRow.update_ofSegments {t : Tree} {p : Path} {needed : List (NodeId × String)}
    {done : List CompileM.Segment} {runs : List Run} {s : CompileM.Segment} {r : Run}
    {post : List NodeId} (hdone : List.Forall₂ (Run.IsSegment t p needed) runs done)
    (hs : r.IsSegment t p needed s) (hpath : p.all = runs.flatMap Run.ids ++ (r.ids ++ post))
    (hnodup : p.all.Nodup) {rs : List Row} (hrs : rs.length = (runs.flatMap Run.ids).length)
    (rs' : List Row) :
    Function.update (ofSegments done rs) (.segment (done.length + 1))
        (derivedRow (Projection.cells s.select.projections (.ofRows rs.length rs'))) =
      ofSegments (done ++ [s]) (rs ++ rs') := by
  have hbefore : ∀ id ∈ runs.flatMap Run.ids, ofRows 0 rs (p.source id) =
      ofRows 0 (rs ++ rs') (p.source id) := by
    intro id hid
    have hlt : p.all.idxOf id < rs.length := by
      rw [hpath, List.idxOf_append_of_mem hid, hrs]
      exact List.idxOf_lt_length_of_mem hid
    rw [ofRows_source, ofRows_source, Tree.rowOf, Tree.rowOf, List.getD_eq_getElem?_getD,
      List.getD_eq_getElem?_getD, List.getElem?_append_left hlt]
  have hhere : ∀ id ∈ r.ids, ofRows rs.length rs' (p.source id) =
      ofRows 0 (rs ++ rs') (p.source id) := by
    intro id hid
    have hfresh : id ∉ runs.flatMap Run.ids := by
      intro hmem
      rw [hpath] at hnodup
      exact (List.disjoint_of_nodup_append hnodup) hmem (List.mem_append_left _ hid)
    have hidx : p.all.idxOf id = rs.length + (r.ids ++ post).idxOf id := by
      rw [hpath, List.idxOf_append_of_notMem hfresh, hrs]
    rw [ofRows_source, Path.source, Tree.rowOf, hidx, ofRows_step, List.getD_eq_getElem?_getD,
      List.getD_eq_getElem?_getD, List.getElem?_append_right (Nat.le_add_right _ _),
      Nat.add_sub_cancel_left]
  funext source
  by_cases hsource : source = .segment (done.length + 1)
  · subst hsource
    rw [Function.update_self, ofSegments, List.getElem?_append_right (Nat.le_refl _),
      Nat.sub_self, List.getElem?_cons_zero]
    refine congrArg derivedRow (Projection.cells_congr fun q hq ↦ ?_)
    obtain ⟨id, hid, hq⟩ := hs.exists_source q hq
    rw [hq, hhere id hid]
  · rw [Function.update_of_ne hsource]
    cases source with
    | step _ | branch _ | membership _ => rfl
    | segment m =>
      cases m with
      | zero => rfl
      | succ n =>
        have hne : n ≠ done.length := fun h ↦ hsource (by rw [h])
        rcases Nat.lt_or_gt_of_ne hne with hlt | hgt
        · have hrun : n < runs.length := hdone.length_eq ▸ hlt
          simp only [ofSegments, List.getElem?_append_left hlt, List.getElem?_eq_getElem hlt]
          refine congrArg derivedRow (Projection.cells_congr fun q hq ↦ ?_)
          obtain ⟨id, hid, hq⟩ := (hdone.get hrun hlt).exists_source q hq
          rw [hq, hbefore id (List.mem_flatMap.mpr ⟨runs[n], List.getElem_mem hrun, hid⟩)]
        · have hout : (done ++ [s]).length ≤ n := by
            rw [List.length_append]
            exact hgt
          simp only [ofSegments, List.getElem?_eq_none (Nat.le_of_lt hgt),
            List.getElem?_eq_none hout]

/-- A reference of the statement has the value that the step's row has. -/
theorem outerRef_value {t : Tree} {p : Path} {needed : List (NodeId × String)} {runs : List Run}
    {segments : List CompileM.Segment}
    (h : List.Forall₂ (Run.IsSegment t p needed) runs segments)
    (hnodup : (runs.flatMap Run.ids).Nodup) {m : ℕ} {r : Run} (hr : runs[m]? = some r)
    {x : Slot} (hx : x ∈ r.slots t p needed) {joined : List CompileM.Segment}
    (hjoined : joined[m]? = segments[m]?) (rs : List Row) :
    (CompileM.outerRef segments p.leaf x.node x.column).value (.ofSegments joined rs) =
      Tree.rowOf p.all rs x.node x.column := by
  obtain ⟨k, parts, q, hsegment, hq, hnode, hcolumn, href⟩ := outerRef_eq h hnodup hr hx
  rw [href, ColumnRef.value, JoinedRow.ofSegments, hjoined, hsegment]
  simp only
  rw [Run.projections_segment, derivedRow_nameAll hq, JoinedRow.ofRows_source, hnode, hcolumn]

section Rows

variable {pre post : List NodeId} {id : NodeId} {rs : List Row}

theorem rowOf_last (hnodup : (pre ++ post).Nodup) (hlast : pre.getLast? = some id)
    (hrs : rs.length = pre.length) (rs' : List Row) :
    Tree.rowOf (pre ++ post) (rs ++ rs') id = rs.getLastD nullRow := by
  obtain ⟨pre, rfl⟩ := List.getLast?_eq_some_iff.mp hlast
  have hfresh : id ∉ pre := by
    intro hmem
    rw [List.append_assoc] at hnodup
    exact List.disjoint_of_nodup_append hnodup hmem (by simp)
  have hidx : (pre ++ [id] ++ post).idxOf id = pre.length := by
    rw [List.append_assoc, List.idxOf_append_of_notMem hfresh, List.singleton_append,
      List.idxOf_cons_self, Nat.add_zero]
  have hlength : rs.length = pre.length + 1 := by simpa using hrs
  rw [Tree.rowOf, hidx, List.getD_eq_getElem?_getD, List.getElem?_append_left (by omega),
    List.getLastD_eq_getLast?, List.getLast?_eq_getElem?, hlength, Nat.add_sub_cancel]

theorem rowOf_head (hnodup : (pre ++ id :: post).Nodup) (hrs : rs.length = pre.length)
    (rs' : List Row) :
    Tree.rowOf (pre ++ id :: post) (rs ++ rs') id = rs'.headD nullRow := by
  have hfresh : id ∉ pre := fun hmem ↦ List.disjoint_of_nodup_append hnodup hmem (by simp)
  rw [Tree.rowOf, List.idxOf_append_of_notMem hfresh, List.idxOf_cons_self, Nat.add_zero, ← hrs,
    List.getD_eq_getElem?_getD, List.getElem?_append_right (Nat.le_refl _), Nat.sub_self,
    List.headD_eq_head?_getD, List.head?_eq_getElem?]

end Rows

/-! ## One more derived table -/

/-- Derived tables are joined to every row by itself. -/
theorem Link.extendAll_eq_bind (db : RowStore) (n : ℕ) (ls : List Link)
    (es : Multiset JoinedRow) :
    Link.extendAll db n ls es = es.bind fun e ↦ Link.extendAll db n ls {e} := by
  induction ls generalizing n es with
  | nil => simpa [extendAll] using (Multiset.bind_singleton es fun e ↦ e).symm
  | cons l ls ih =>
    have hcons : ∀ es, extendAll db n (l :: ls) es =
        extendAll db (n + 1) ls (es.bind (l.extend db n)) := fun _ ↦ rfl
    rw [hcons, ih, Multiset.bind_assoc]
    refine Multiset.bind_congr fun e _ ↦ ?_
    rw [hcons, Multiset.singleton_bind, ← ih]

theorem Link.extendAll_cons (db : RowStore) (n : ℕ) (l : Link) (ls : List Link) (e : JoinedRow) :
    Link.extendAll db n (l :: ls) {e} =
      (l.extend db n e).bind fun e ↦ Link.extendAll db (n + 1) ls {e} := by
  rw [← extendAll_eq_bind]
  change extendAll db (n + 1) ls (Multiset.bind {e} (l.extend db n)) = _
  rw [Multiset.singleton_bind]

/-- The rows of a derived table, as far as what follows looks at them. -/
theorem eval_segment_bind {c : Compiler} {t : Tree} {p : Path} {branches : List NodeId}
    {needed : List (NodeId × String)} {k k' : ℕ} {r : Run} {parts : SelectParts} {first : NodeId}
    {rest : List NodeId} {db : RowStore} (fit : parts.Fit c t p branches [] r)
    (hinline : parts.clauses.tables = []) (hr : r.Stretches t p k first rest)
    (hdb : db.Identified) {β : Type} (f : List (String × Value) → Multiset β) :
    ((r.segment t p needed k' parts).select.eval db).bind f =
      (Run.leftWalks t db first rest).bind fun rs ↦
        if r.Keeps t db branches rs then
          f (Projection.cells (r.segment t p needed k' parts).select.projections (.ofRows k rs))
        else 0 := by
  rw [Select.eval, Multiset.bind_map, Run.segment, SelectParts.kept_select fit hinline hr hdb,
    Multiset.bind_assoc]
  refine Multiset.bind_congr fun rs _ ↦ ?_
  split
  · rw [Multiset.singleton_bind]
  · rw [Multiset.zero_bind]

/-- A path that has been cut into runs, with a derived table for each. -/
structure IsCut (t : Tree) (p : Path) (needed : List (NodeId × String)) (runs : List Run)
    (segments : List CompileM.Segment) : Prop where
  /-- Each derived table has its run. -/
  segments : List.Forall₂ (Run.IsSegment t p needed) runs segments
  /-- The runs have the steps of the path. -/
  ids : runs.flatMap Run.ids = p.all
  /-- No step comes twice. -/
  nodup : p.all.Nodup
  /-- Each step stands right above the next. -/
  chain : p.all.IsChain t.IsParent

/-- The derived tables project the columns that a joint compares. -/
structure CompileM.Joint.Projected (t : Tree) (p : Path) (needed : List (NodeId × String))
    (runs : List Run) (j : CompileM.Joint) : Prop where
  /-- The column on the side before. -/
  left : ∀ r ∈ runs, j.left ∈ r.ids →
    ∃ x ∈ r.slots t p needed, x.node = j.left ∧ x.column = j.columns.above
  /-- The column on the side after. -/
  right : ∀ r ∈ runs, j.right ∈ r.ids →
    ∃ x ∈ r.slots t p needed, x.node = j.right ∧ x.column = j.columns.below

section Links

variable {t : Tree} {p : Path} {needed : List (NodeId × String)} {runs : List Run}
  {segments : List CompileM.Segment} {db : RowStore}

/-- A reference to a column of a step, wherever the step's derived table has been joined. -/
theorem IsCut.outerRef_value (cut : IsCut t p needed runs segments) {joined : List CompileM.Segment}
    {m : ℕ} {r : Run} (hr : runs[m]? = some r) (hjoined : joined[m]? = segments[m]?) {id : NodeId}
    {column : String} (hx : ∃ x ∈ r.slots t p needed, x.node = id ∧ x.column = column)
    (rs : List Row) :
    (CompileM.outerRef segments p.leaf id column).value (.ofSegments joined rs) =
      Tree.rowOf p.all rs id column := by
  obtain ⟨x, hx, rfl, rfl⟩ := hx
  exact PathQuery.outerRef_value cut.segments (cut.ids ▸ cut.nodup) hr hx hjoined rs

/-- At a joint, the rows on its sides are compared as the path asks. -/
theorem IsCut.truth_joint (cut : IsCut t p needed runs segments) {before after : List Run}
    {r : Run} {done todo : List CompileM.Segment} {s : CompileM.Segment} {j : CompileM.Joint}
    {rest : List NodeId} (hruns : runs = before ++ r :: after)
    (hsegments : segments = done ++ s :: todo) (hlength : before.length = done.length)
    (hids : r.ids = j.right :: rest) (hlast : (before.flatMap Run.ids).getLast? = some j.left)
    (hcorrelation : t.parentCorrelation j.right = .ok j.columns)
    (hj : j.Projected t p needed runs) {rs : List Row}
    (hrs : rs.length = (before.flatMap Run.ids).length) (rs' : List Row) :
    (Condition.same (CompileM.outerRef segments p.leaf j.left j.columns.above)
        (CompileM.outerRef segments p.leaf j.right j.columns.below)).truth db
          (.ofSegments (done ++ [s]) (rs ++ rs')) = .yes ↔
      t.Correlates db j.right (rs.getLastD nullRow) (rs'.headD nullRow) := by
  have hpath : p.all = before.flatMap Run.ids ++ j.right :: (rest ++ after.flatMap Run.ids) := by
    rw [← cut.ids, hruns, List.flatMap_append, List.flatMap_cons, hids, List.cons_append]
  have hnodup := hpath ▸ cut.nodup
  -- the step before the joint belongs to some run that has been joined
  obtain ⟨r₀, hr₀, hleft⟩ := List.mem_flatMap.mp (List.mem_of_getLast? hlast)
  obtain ⟨m, hm, hget⟩ := List.getElem_of_mem hr₀
  have hjoined : ∀ i, i ≤ done.length → (done ++ [s])[i]? = segments[i]? := by
    intro i hi
    have hlt : i < (done ++ [s]).length := by
      rw [List.length_append]
      exact Nat.lt_succ_of_le hi
    rw [hsegments, show done ++ s :: todo = (done ++ [s]) ++ todo by simp]
    exact (List.getElem?_append_left hlt).symm
  rw [Tree.correlates_iff hcorrelation, Condition.truth,
    cut.outerRef_value (m := m) (r := r₀) ?_ (hjoined m (by omega)) (hj.left r₀ ?_ hleft),
    cut.outerRef_value (m := done.length) (r := r) ?_ (hjoined _ (Nat.le_refl _))
      (hj.right r ?_ (by simp [hids])), hpath, rowOf_last hnodup hlast hrs,
    rowOf_head hnodup hrs]
  · rw [hruns, ← hlength, List.getElem?_append_right (Nat.le_refl _), Nat.sub_self,
      List.getElem?_cons_zero]
  · simp [hruns]
  · rw [hruns, List.getElem?_append_left hm, List.getElem?_eq_getElem hm, hget]
  · exact hruns ▸ List.mem_append_left _ hr₀

/-- The links of the derived tables that are still to be joined. -/
def linksOf (segments : List CompileM.Segment) (leaf : NodeId) (todo : List CompileM.Segment)
    (js : List CompileM.Joint) : List Link :=
  (todo.zip js).map fun (s, j) ↦
    ⟨s.select, CompileM.outerRef segments leaf j.left j.columns.above,
      CompileM.outerRef segments leaf j.right j.columns.below⟩

/-- The joint before a further run. -/
theorem joints_cons_cons {before after : List NodeId} {segs : List (List NodeId)}
    {js : List CompileM.Joint} (h : CompileM.joints t (before :: after :: segs) = .ok js)
    (hparent : t.IsParent (before.getLastD rootId) (after.headD rootId)) :
    ∃ j js', js = j :: js' ∧ j.left = before.getLastD rootId ∧ j.right = after.headD rootId ∧
      t.parentCorrelation j.right = .ok j.columns ∧
      CompileM.joints t (after :: segs) = .ok js' := by
  obtain ⟨j, js', above, n, rfl, hleft, hright, habove, hn, hcolumns, hjs'⟩ := joints_eq_ok h
  rw [← hleft, ← hright] at hparent
  have hsome := (Tree.isParent_of_some (Tree.liveNode_eq_ok_iff.mp hn)).mp hparent
  exact ⟨j, js', rfl, hleft, hright, Tree.parentCorrelation_eq_ok hn hsome habove hcolumns, hjs'⟩

theorem Path.places_of_append {p : Path} (hnodup : p.all.Nodup) {pre ids post : List NodeId}
    (h : p.all = pre ++ ids ++ post) : p.Places pre.length ids := by
  intro i id hid
  obtain ⟨hi, rfl⟩ := List.getElem?_eq_some_iff.mp hid
  have hlt : pre.length + i < p.all.length := by
    rw [h, List.length_append, List.length_append]
    omega
  have hget : p.all[pre.length + i] = ids[i] := by
    simp [h, List.getElem_append_right, List.getElem_append_left, hi]
  rw [Path.source, ← hget, hnodup.idxOf_getElem _ hlt]

/-- What follows the joint after some rows: the end of the statement, or further walks. -/
def continued (t : Tree) (db : RowStore) (branches : List NodeId) {β : Type}
    (f : List Row → Multiset β) (segs : List (List NodeId)) (rs : List Row) : Multiset β :=
  if segs.isEmpty then f rs
  else (walks (t.partners db) (rs.getLastD nullRow) segs.flatten).bind fun rs' ↦
    if ∀ b ∈ branches, t.Lonely db b ((rs ++ rs').getLastD nullRow) then f (rs ++ rs') else 0

/-- A walk that has lost its track is not continued. -/
theorem continued_eq_zero {branches : List NodeId} {β : Type} {f : List Row → Multiset β}
    (hf : ∀ rs, rs.getLast? = some nullRow → f rs = 0) {segs : List (List NodeId)}
    (hne : ∀ seg ∈ segs, seg ≠ []) (hroot : rootId ∉ segs.flatten) {rs : List Row}
    (hrs : rs.getLast? = some nullRow) : continued t db branches f segs rs = 0 := by
  rw [continued]
  cases segs with
  | nil => exact hf rs hrs
  | cons seg segs =>
    obtain ⟨id, rest, rfl⟩ := List.exists_cons_of_ne_nil (hne seg (by simp))
    have hid : id ≠ rootId := fun h ↦ hroot (by simp [h])
    have hnone : t.partners db id nullRow = 0 := by
      rw [Tree.partners, Multiset.filter_eq_nil]
      intro r _ hfits
      rw [Tree.Fits, if_neg hid] at hfits
      exact t.not_correlates_nullRow db id r hfits.1
    rw [List.isEmpty_cons, if_neg Bool.false_ne_true, List.getLastD_eq_getLast?, hrs,
      Option.getD_some, List.flatten_cons, List.cons_append, walks_cons_bind, hnone,
      Multiset.zero_bind]

/-- The walks that a run keeps, continued past its end, are the walks over all that is left of the
path; `meets` is what a row of the first step has to meet besides the run's own conditions. -/
theorem bind_keeps_walks (branches : List NodeId) {β : Type} {f : List Row → Multiset β}
    (hf : ∀ rs, rs.getLast? = some nullRow → f rs = 0) {first : NodeId} {rest : List NodeId}
    {segs : List (List NodeId)} (hne : ∀ seg ∈ segs, seg ≠ []) (hroot : rootId ∉ rest ++ segs.flatten)
    {starts : Bool} {rs : List Row} (meets : Row → Prop) [DecidablePred meets]
    (hfits : ∀ row, t.Fits db first (rs.getLastD nullRow) row ↔
      ((starts → t.StartsAt db row) ∧ t.Passes db first row) ∧ meets row) :
    (Run.leftWalks t db first rest).bind (fun rs' ↦
        if Run.Keeps t db branches ⟨first :: rest, starts, segs.isEmpty⟩ rs' then
          if meets (rs'.headD nullRow) then continued t db branches f segs (rs ++ rs') else 0
        else 0) =
      (walks (t.partners db) (rs.getLastD nullRow) (first :: rest ++ segs.flatten)).bind fun rs' ↦
        if ∀ b ∈ branches, t.Lonely db b ((rs ++ rs').getLastD nullRow) then f (rs ++ rs') else 0 := by
  obtain ⟨hrest, hsegs⟩ : rootId ∉ rest ∧ rootId ∉ segs.flatten := by
    simpa only [List.mem_append, not_or] using hroot
  have hlost : ∀ rs', rs'.getLast? = some nullRow →
      (if meets (rs'.headD nullRow) then continued t db branches f segs (rs ++ rs') else 0) = 0 := by
    intro rs' hrs'
    rw [continued_eq_zero hf hne hsegs (by simp [hrs']), ite_self]
  rw [Run.leftWalks_bind_keeps rfl hrest hlost, List.cons_append, walks_cons_bind, Tree.partners,
    Multiset.bind_filter]
  refine Multiset.bind_congr fun row _ ↦ ?_
  have hlast : ∀ rs', (rs ++ row :: rs').getLastD nullRow = rs'.getLastD row := by
    intro rs'
    simp [List.getLast?_append, List.getLast?_cons]
  by_cases hown : (starts → t.StartsAt db row) ∧ t.Passes db first row
  · rw [if_pos hown]
    by_cases hmeets : meets row
    · rw [if_pos ((hfits row).mpr ⟨hown, hmeets⟩), walks_append_bind]
      refine Multiset.bind_congr fun rs' _ ↦ ?_
      rw [List.headD_cons, if_pos hmeets, continued, hlast]
      cases segs with
      | nil => simp [walks, List.getLast?_append, List.getLast?_cons]
      | cons seg segs => simp
    · rw [if_neg fun h ↦ hmeets ((hfits row).mp h).2]
      refine (Multiset.bind_congr fun rs' _ ↦ ?_).trans (Multiset.bind_zero _)
      rw [List.headD_cons, if_neg hmeets, ite_self]
  · rw [if_neg hown, if_neg fun h ↦ hown ((hfits row).mp h).1]

/-- One more derived table continues the walks by those over its run. -/
theorem bind_keeps_continued {branches : List NodeId} {β : Type} {f : List Row → Multiset β}
    (hf : ∀ rs, rs.getLast? = some nullRow → f rs = 0) {first : NodeId} {rest : List NodeId}
    {segs : List (List NodeId)} (hne : ∀ seg ∈ segs, seg ≠ [])
    (hroot : rootId ∉ first :: rest ++ segs.flatten) (rs : List Row) :
    (Run.leftWalks t db first rest).bind (fun rs' ↦
        if Run.Keeps t db branches ⟨first :: rest, false, segs.isEmpty⟩ rs' then
          if t.Correlates db first (rs.getLastD nullRow) (rs'.headD nullRow)
          then continued t db branches f segs (rs ++ rs') else 0
        else 0) =
      continued t db branches f ((first :: rest) :: segs) rs := by
  obtain ⟨hfirst, hroot⟩ : first ≠ rootId ∧ rootId ∉ rest ++ segs.flatten := by
    rw [List.cons_append, List.mem_cons, not_or] at hroot
    exact ⟨Ne.symm hroot.1, hroot.2⟩
  rw [bind_keeps_walks branches hf hne hroot (t.Correlates db first (rs.getLastD nullRow)),
    continued, List.isEmpty_cons, if_neg Bool.false_ne_true, List.flatten_cons]
  intro row
  rw [Tree.Fits, if_neg hfirst]
  simp [and_comm]

/-- A stretch of a path that leads down is joined as one run. -/
theorem stretches_of_append (hnodup : p.all.Nodup) (hchain : p.all.IsChain t.IsParent)
    {pre rest post : List NodeId} {first : NodeId} {r : Run} (hids : r.ids = first :: rest)
    (hpath : p.all = pre ++ first :: rest ++ post) (hstarts : r.starts → pre = [])
    (hends : r.ends → post = []) : r.Stretches t p pre.length first rest where
  ids := hids
  chain := (hpath ▸ hchain).left_of_append.right_of_append
  places := Path.places_of_append hnodup hpath
  starts h := by
    rw [hstarts h, Path.all] at hpath
    exact (List.cons.inj hpath).1.symm
  ends h := by
    have hlast := Tree.getLast?_all p
    rw [hpath, hends h, List.append_nil, List.getLast?_append, List.getLast?_cons,
      Option.some_or] at hlast
    rw [List.getLastD_eq_getLast?, Option.some.inj hlast]

/-- Joining the next derived table appends the rows that its run keeps, where the joint holds. -/
theorem IsCut.extend_link_bind (cut : IsCut t p needed runs segments) {c : Compiler}
    {branches : List NodeId} (hdb : db.Identified) {before after : List Run} {r : Run}
    {done todo : List CompileM.Segment} {k : ℕ} {parts : SelectParts} {j : CompileM.Joint}
    {rest : List NodeId} {rs : List Row} (hruns : runs = before ++ r :: after)
    (hsegments : segments = done ++ r.segment t p needed k parts :: todo)
    (hlength : before.length = done.length) (fit : parts.Fit c t p branches [] r)
    (hinline : parts.clauses.tables = []) (hr : r.Stretches t p rs.length j.right rest)
    (hlast : (before.flatMap Run.ids).getLast? = some j.left)
    (hcorrelation : t.parentCorrelation j.right = .ok j.columns)
    (hj : j.Projected t p needed runs) (hrs : rs.length = (before.flatMap Run.ids).length)
    {β : Type} (g : JoinedRow → Multiset β) :
    (Link.extend db (done.length + 1)
        ⟨(r.segment t p needed k parts).select,
          CompileM.outerRef segments p.leaf j.left j.columns.above,
          CompileM.outerRef segments p.leaf j.right j.columns.below⟩
        (.ofSegments done rs)).bind g =
      (Run.leftWalks t db j.right rest).bind fun rs' ↦
        if r.Keeps t db branches rs' then
          if t.Correlates db j.right (rs.getLastD nullRow) (rs'.headD nullRow)
          then g (.ofSegments (done ++ [r.segment t p needed k parts]) (rs ++ rs')) else 0
        else 0 := by
  have hpath : p.all = before.flatMap Run.ids ++ (r.ids ++ after.flatMap Run.ids) := by
    rw [← cut.ids, hruns, List.flatMap_append, List.flatMap_cons]
  have hdone : List.Forall₂ (Run.IsSegment t p needed) before done := by
    have hall := List.forall₂_take before.length cut.segments
    rwa [hruns, hsegments, List.take_left, hlength, List.take_left] at hall
  rw [Link.extend, Multiset.bind_filter, Multiset.bind_map,
    eval_segment_bind fit hinline hr hdb]
  refine Multiset.bind_congr fun rs' _ ↦ ?_
  rw [JoinedRow.update_ofSegments hdone ⟨k, parts, rfl⟩ hpath cut.nodup hrs]
  simp only [cut.truth_joint hruns hsegments hlength hr.ids hlast hcorrelation hj hrs]

/-- Joining the derived tables that are left continues the walks over the whole path. -/
theorem IsCut.bind_extendAll_links (cut : IsCut t p needed runs segments) {c : Compiler}
    {branches : List NodeId} (hdb : db.Identified) {β : Type} {f : List Row → Multiset β}
    {g : JoinedRow → Multiset β} (hf : ∀ rs, rs.getLast? = some nullRow → f rs = 0)
    (hg : ∀ rs, rs.length = p.all.length → g (.ofSegments segments rs) = f rs)
    {segs : List (List NodeId)} (hne : ∀ seg ∈ segs, seg ≠ []) {before : List Run}
    {done todo : List CompileM.Segment} {seg : List NodeId} {js : List CompileM.Joint} {k : ℕ}
    {rs : List Row} (hruns : runs = before ++ Run.ofSegments false segs)
    (hsegments : segments = done ++ todo) (hlength : before.length = done.length)
    (hderived : DerivedTables c t p branches needed k [] (Run.ofSegments false segs) todo [])
    (hjoints : CompileM.joints t (seg :: segs) = .ok js)
    (hjs : ∀ j ∈ js, j.Projected t p needed runs)
    (hlast : (before.flatMap Run.ids).getLast? = some (seg.getLastD rootId))
    (hrs : rs.length = (before.flatMap Run.ids).length) :
    (Link.extendAll db (done.length + 1) (linksOf segments p.leaf todo js)
        {.ofSegments done rs}).bind g = continued t db branches f segs rs := by
  have hpath : p.all = before.flatMap Run.ids ++ segs.flatten := by
    rw [← cut.ids, hruns, List.flatMap_append, Run.flatMap_ids_ofSegments_false]
  induction segs generalizing before done todo seg js k rs with
  | nil =>
    cases hderived
    rw [continued, List.isEmpty_nil, if_pos rfl, ← hg rs (by rw [hrs, hpath]; simp), hsegments,
      List.append_nil]
    simp [linksOf, Link.extendAll]
  | cons after segs ih =>
    obtain ⟨hafter, hothers⟩ := List.forall_mem_cons.mp hne
    obtain ⟨first, rest, rfl⟩ := List.exists_cons_of_ne_nil hafter
    change DerivedTables c t p branches needed k []
      (⟨first :: rest, false, segs.isEmpty⟩ :: Run.ofSegments false segs) todo [] at hderived
    change runs = before ++ (⟨first :: rest, false, segs.isEmpty⟩ :: Run.ofSegments false segs)
      at hruns
    rw [List.flatten_cons] at hpath
    cases hderived with
    | @cons _ _ _ r _ todo parts shown fit tail =>
    have hinline : parts.clauses.tables = [] := tail.eq_nil_of_nil
    have hroot : rootId ∉ first :: rest ++ segs.flatten := by
      have hhead : rootId ∈ before.flatMap Run.ids := by
        cases hbefore : before.flatMap Run.ids with
        | nil => simp [hbefore] at hlast
        | cons id ids =>
          rw [hbefore, Path.all] at hpath
          rw [(List.cons.inj hpath).1]
          exact List.mem_cons_self
      exact fun hmem ↦ List.disjoint_of_nodup_append (hpath ▸ cut.nodup) hhead hmem
    have hr : Run.Stretches t p rs.length ⟨first :: rest, false, segs.isEmpty⟩ first rest := by
      rw [hrs]
      refine stretches_of_append cut.nodup cut.chain rfl (hpath.trans (List.append_assoc _ _ _).symm)
        (fun h ↦ Bool.noConfusion h) fun h ↦ ?_
      rw [List.isEmpty_iff.mp h, List.flatten_nil]
    have hparent : t.IsParent (seg.getLastD rootId) first := by
      obtain ⟨-, -, hjoint⟩ := List.isChain_append.mp (hpath ▸ cut.chain)
      exact hjoint _ hlast first rfl
    obtain ⟨j, js, rfl, hleft, hright, hcorrelation, hjoints⟩ := joints_cons_cons hjoints hparent
    obtain ⟨hj, hjs⟩ := List.forall_mem_cons.mp hjs
    obtain rfl : j.right = first := hright
    rw [← bind_keeps_continued hf hothers hroot rs]
    have hlinks : linksOf segments p.leaf (Run.segment t p needed k _ parts :: todo) (j :: js) =
        ⟨(Run.segment t p needed k ⟨j.right :: rest, false, segs.isEmpty⟩ parts).select,
          CompileM.outerRef segments p.leaf j.left j.columns.above,
          CompileM.outerRef segments p.leaf j.right j.columns.below⟩ ::
          linksOf segments p.leaf todo js := rfl
    rw [hlinks, Link.extendAll_cons, Multiset.bind_assoc, cut.extend_link_bind hdb hruns hsegments
      hlength fit hinline hr (hleft ▸ hlast) hcorrelation hj hrs]
    refine Multiset.bind_congr fun rs' hrs' ↦ ?_
    have hlength' := Run.length_of_mem_leftWalks hrs'
    have hnext : (Link.extendAll db (done.length + 1 + 1) (linksOf segments p.leaf todo js)
        {.ofSegments (done ++ [Run.segment t p needed k ⟨j.right :: rest, false, segs.isEmpty⟩
          parts]) (rs ++ rs')}).bind g = continued t db branches f segs (rs ++ rs') := by
      have hstep := @ih hothers
        (before ++ [⟨j.right :: rest, false, segs.isEmpty⟩])
        (done ++ [Run.segment t p needed k ⟨j.right :: rest, false, segs.isEmpty⟩ parts]) todo
        (j.right :: rest) js _ (rs ++ rs') (by rw [hruns]; simp) (by rw [hsegments]; simp)
        (by simp [hlength]) (hinline ▸ tail) hjoints hjs
        (by simp [List.flatMap_append, List.getLast?_append, List.getLast?_cons])
        (by simp [List.flatMap_append, hrs, hlength']) (by rw [hpath]; simp)
      rwa [List.length_append] at hstep
    rw [hnext]

/-- The rows of a statement are continued from those of its first derived table. -/
theorem IsCut.bind_statement {r : Run} {segs : List (List NodeId)} {todo : List CompileM.Segment}
    {k : ℕ} {parts : SelectParts}
    (cut : IsCut t p needed (r :: Run.ofSegments false segs) (r.segment t p needed k parts :: todo))
    {c : Compiler} {branches : List NodeId} (hdb : db.Identified) {β : Type}
    {f : List Row → Multiset β} {g : JoinedRow → Multiset β}
    (hf : ∀ rs, rs.getLast? = some nullRow → f rs = 0)
    (hg : ∀ rs, rs.length = p.all.length →
      g (.ofSegments (r.segment t p needed k parts :: todo) rs) = f rs)
    (hne : ∀ seg ∈ segs, seg ≠ []) {seg : List NodeId} (hr : r.Stretches t p 0 rootId seg)
    (fit : parts.Fit c t p branches [] r) (hinline : parts.clauses.tables = [])
    {k' : ℕ} (tail : DerivedTables c t p branches needed k' [] (Run.ofSegments false segs) todo [])
    {js : List CompileM.Joint} (hjoints : CompileM.joints t (seg :: segs) = .ok js)
    (hjs : ∀ j ∈ js, j.Projected t p needed (r :: Run.ofSegments false segs)) :
    ((r.segment t p needed k parts).select.eval db).bind (fun cells ↦
        (Link.extendAll db 2 (linksOf (r.segment t p needed k parts :: todo) p.leaf todo js)
          {Function.update JoinedRow.blank (.segment 1) (derivedRow cells)}).bind g) =
      (Run.leftWalks t db rootId seg).bind fun rs ↦
        if r.Keeps t db branches rs then continued t db branches f segs rs else 0 := by
  have hpath : p.all = [] ++ (r.ids ++ segs.flatten) := by
    rw [← cut.ids, List.flatMap_cons, Run.flatMap_ids_ofSegments_false, List.nil_append]
  rw [eval_segment_bind fit hinline hr hdb]
  refine Multiset.bind_congr fun rs hrs ↦ ?_
  have hlength : rs.length = (List.flatMap Run.ids [r]).length := by
    simp [Run.length_of_mem_leftWalks hrs, hr.ids]
  -- a row of the first derived table is a row of the statement that has joined nothing else
  have hfirst : Function.update (JoinedRow.ofSegments [] []) (.segment 1) (derivedRow (Projection.cells
      (r.segment t p needed k parts).select.projections (.ofRows 0 rs))) =
      JoinedRow.ofSegments [r.segment t p needed k parts] rs :=
    JoinedRow.update_ofSegments .nil ⟨k, parts, rfl⟩ hpath cut.nodup rfl rs
  rw [← JoinedRow.ofSegments_nil [], hfirst]
  have hlinks : (Link.extendAll db ([r.segment t p needed k parts].length + 1)
      (linksOf (r.segment t p needed k parts :: todo) p.leaf todo js)
      {.ofSegments [r.segment t p needed k parts] rs}).bind g =
      continued t db branches f segs rs :=
    cut.bind_extendAll_links hdb hf hg hne rfl rfl rfl tail hjoints hjs
      (by simp [hr.ids, List.getLast?_cons]) hlength
  exact congrArg (fun x ↦ if r.Keeps t db branches rs then x else 0) hlinks

end Links

end PathQuery
