import PathQuery.Proofs.Element.Identities
import PathQuery.Proofs.Graph.Resolution

/-!
# Labels in results

The labels of a step are joined into one text, which goes with every column of the step and is cut
again when a row is read. The text that is kept for helper columns is itself a label, and a step
that has this label and no other is taken for a helper: its cells are passed over. All other sets
of labels survive.
-/

namespace PathQuery

/-- Labels in order are cut again as they were joined, unless they are taken for those of a
helper. -/
theorem labelSet_joinLabels_iff {labels : List String} (hne : labels ≠ [])
    (hsorted : labels.Pairwise (· < ·)) (hlabels : ∀ l ∈ labels, l ≠ "" ∧ '.' ∉ l.toList)
    (table : Table) (name : String) :
    ((Column.mk (joinLabels labels) table name).isLabeled ∧
      ¬(Column.mk (joinLabels labels) table name).isHidden ∧
      (Column.mk (joinLabels labels) table name).labelSet = labels) ↔ labels ≠ [hiddenLabels] := by
  have hlabeled := isLabeled_joinLabels hne hlabels table name
  refine ⟨fun h ↦ hlabeled.mp h.1, fun hvisible ↦ ⟨hlabeled.mpr hvisible, ?_, ?_⟩⟩
  · have hmarked := hlabeled.mpr hvisible
    rw [Column.isLabeled, Bool.and_eq_true] at hmarked
    simpa [Column.isHidden] using hmarked.2
  · have hcut := labelsIn_joinLabels hne hlabels hvisible
    rw [List.mergeSort_of_pairwise (hsorted.imp fun h ↦ decide_eq_true (Std.le_of_lt h))] at hcut
    exact hcut

/-! ## The identities of a path -/

/-- An element that comes once stands where it is found. -/
theorem idxOf_getElem_of_count {α : Type} [BEq α] [LawfulBEq α] {xs : List α} {i : ℕ}
    (hi : i < xs.length) (hcount : xs.count xs[i] ≤ 1) : xs.idxOf xs[i] = i := by
  have hsplit : xs = xs.take i ++ xs[i] :: xs.drop (i + 1) := by simp
  have hnew : xs[i] ∉ xs.take i := by
    intro hmem
    have hpos := List.count_pos_iff.mpr hmem
    have hsum := congrArg (List.count xs[i]) hsplit
    rw [List.count_append, List.count_cons_self] at hsum
    omega
  calc xs.idxOf xs[i] = (xs.take i ++ xs[i] :: xs.drop (i + 1)).idxOf xs[i] := by rw [← hsplit]
    _ = i := by
      rw [List.idxOf_append_of_notMem hnew, List.idxOf_cons_self, List.length_take]
      omega

/-- The values beside elements that come once are found by these elements. -/
theorem filter_zip_eq_map {α β : Type} [BEq α] [LawfulBEq α] {xs : List α} {ys : List β} (d : β)
    (hlength : ys.length = xs.length) {P : α → Bool} (hnodup : (xs.filter P).Nodup) :
    (xs.zip ys).filter (fun z ↦ P z.1) =
      (xs.filter P).map fun x ↦ (x, ys.getD (xs.idxOf x) d) := by
  have hvalue : ∀ z ∈ (xs.zip ys).filter (fun z ↦ P z.1), (z.1, ys.getD (xs.idxOf z.1) d) = z := by
    intro z hz
    obtain ⟨hz, hP⟩ := List.mem_filter.mp hz
    obtain ⟨i, hi, rfl⟩ := List.mem_iff_getElem.mp hz
    rw [List.length_zip, hlength, Nat.min_self] at hi
    rw [List.getElem_zip] at hP ⊢
    have hcount : xs.count xs[i] ≤ 1 := by
      rw [← List.count_filter hP]
      exact List.nodup_iff_count_le_one.mp hnodup _
    rw [idxOf_getElem_of_count hi hcount, List.getD_eq_getElem?_getD,
      List.getElem?_eq_getElem (by omega), Option.getD_some]
  have hfst : ((xs.zip ys).filter fun z ↦ P z.1).map Prod.fst = xs.filter P := by
    conv_rhs => rw [← List.map_fst_zip (Nat.le_of_eq hlength.symm), List.filter_map]
    rfl
  rw [← hfst, List.map_map]
  exact (List.map_id _).symm.trans (List.map_congr_left fun z hz ↦ (hvalue z hz).symm)

/-- The identity comes once among the columns of an indexed table. -/
theorem filter_columns_eq_singleton {g : Topology} (hg : g.Indexed) {table : Table}
    {columns : List String} (h : g.columns? table = some columns) :
    columns.filter (· == idColumn) = [idColumn] := by
  obtain ⟨d, hindex⟩ := hg
  obtain ⟨properties, hproperties, rfl⟩ := Option.map_eq_some_iff.mp h
  obtain ⟨info, hinfo, rfl⟩ := Option.map_eq_some_iff.mp hproperties
  have hcharted : info.Charted := Topology.charted_index hindex table info hinfo
  have hproperty : ∀ p ∈ info.properties, idColumn ∉ p.columns := by
    intro p hp hmem
    rcases Property.mem_columns_iff.mp hmem with heq | hoccupies
    · exact hcharted.indexed.named p hp heq.symm
    · exact p.not_occupies_idColumn hoccupies
  rw [List.cons_append, List.filter_cons_of_pos (by simp), List.filter_eq_nil_iff.mpr]
  intro c hc heq
  obtain rfl := beq_iff_eq.mp heq
  rcases List.mem_append.mp hc with hc | hc
  · obtain ⟨p, hp, hmem⟩ := List.mem_flatMap.mp hc
    exact hproperty p hp hmem
  · split at hc
    · obtain ⟨k, hk, hcolumn⟩ := List.mem_map.mp hc
      rw [Topology.foreignKeys, hinfo] at hk
      exact hcharted.apart k hk (hcolumn ▸ List.mem_cons_self)
    · cases hc

namespace Tree

variable {t : Tree} {p : Path} {row : List Value}

/-- The slot of the identity of a part. -/
def identitySlot (x : NodeId × Role) : Slot := ⟨x.1, x.2, idColumn⟩

theorem filter_shownSlots (hcolumns : ∀ x ∈ t.parts p.leaf p.all,
      (t.columnsAt x.1).filter (· == idColumn) = [idColumn]) :
    (t.shownSlots p.leaf p.all).filter (fun s ↦ s.column == idColumn) =
      (t.parts p.leaf p.all).map identitySlot := by
  rw [shownSlots_eq_flatMap_parts, List.filter_flatMap, List.map_eq_flatMap]
  refine List.flatMap_congr fun x hx ↦ ?_
  rw [nodeSlots, List.filter_map]
  exact congrArg (List.map _) (hcolumns x hx)

/-- The identities of a row are those of its parts. -/
theorem identities_reader (hnodup : p.all.Nodup) (hcolumns : ∀ x ∈ t.parts p.leaf p.all,
      (t.columnsAt x.1).filter (· == idColumn) = [idColumn])
    (hrow : row.length = (t.shownSlots p.leaf p.all).length) (g : Topology) (mode : Mode) :
    RowReader.identities (t.reader g mode p).columns row =
      ((t.parts p.leaf p.all).filter fun x ↦ (t.occurrence x).labels ≠ hiddenLabels).map fun x ↦
        ((t.occurrence x).labels, (t.nodeAt x.1).table,
          (t.valueAt p row (identitySlot x)).asCell) := by
  have hslots := filter_shownSlots hcolumns
  have honce : ((t.shownSlots p.leaf p.all).filter fun s ↦ s.column == idColumn).Nodup := by
    rw [hslots]
    refine (nodup_parts hnodup).map fun x y heq ↦ ?_
    exact Prod.ext (Slot.mk.inj heq).1 (Slot.mk.inj heq).2.1
  have hreader : (t.reader g mode p).columns = (t.shownSlots p.leaf p.all).map t.slotColumn :=
    (map_slotColumn_shownSlots t p.leaf p.all).symm
  rw [RowReader.identities, hreader, List.zip_map_left, List.filter_map, List.map_map]
  have hfilter : (fun x : Column × Value ↦ !x.1.isHidden && x.1.name == idColumn) ∘
      Prod.map t.slotColumn id = fun z : Slot × Value ↦
        !(t.slotColumn z.1).isHidden && (fun z : Slot × Value ↦ z.1.column == idColumn) z := rfl
  rw [hfilter, ← List.filter_filter,
    filter_zip_eq_map (P := fun s ↦ s.column == idColumn) .null hrow honce, hslots, List.map_map,
    List.filter_map, List.map_map]
  refine congrArg₂ _ ?_ (List.filter_congr fun x _ ↦ ?_)
  · rfl
  · by_cases h : x.2.labels (t.nodeAt x.1) = hiddenLabels <;>
      simp [slotColumn, identitySlot, Column.isHidden, occurrence, h]

/-- The steps of a path that show an element under a label: those that have it, unless they are
labeled like a helper or have no identity. -/
def stepsUnder (t : Tree) (p : Path) (row : List Value) (l : String) : List NodeId :=
  (t.stepsWithLabel p l).filter fun id ↦ (t.nodeAt id).labels ≠ [hiddenLabels] &&
    !(t.valueAt p row ⟨id, .labeled, idColumn⟩).isNull

/-- The labels of a checked path. -/
def WellLabeled (t : Tree) (p : Path) : Prop := ∀ id ∈ p.all, (t.nodeAt id).labels.Nodup ∧
  ∀ l ∈ (t.nodeAt id).labels, l ≠ "" ∧ '.' ∉ l.toList

/-- The labels of a part are cut again, unless they are taken for those of a helper. -/
theorem labelsIn_occurrence (h : t.WellLabeled p) {x : NodeId × Role}
    (hx : x ∈ t.parts p.leaf p.all) (l : String) :
    (labelsIn (t.occurrence x).labels).count l =
      if x.2 = .labeled ∧ l ∈ (t.nodeAt x.1).labels ∧ (t.nodeAt x.1).labels ≠ [hiddenLabels]
      then 1 else 0 := by
  obtain ⟨hid, rfl | ⟨hrole, hlabeled⟩⟩ := mem_parts.mp hx
  · rw [if_neg (by simp)]
    rfl
  · obtain ⟨hnodup, hlabels⟩ := h x.1 hid
    have hne : (t.nodeAt x.1).labels ≠ [] := by simpa [Node.isLabeled] using hlabeled
    have hjoined : (t.occurrence x).labels = joinLabels (t.nodeAt x.1).labels := by
      rw [occurrence, hrole]
      rfl
    rw [hjoined]
    by_cases hhidden : (t.nodeAt x.1).labels = [hiddenLabels]
    · rw [if_neg (by simp [hhidden]), hhidden]
      simp [joinLabels, labelsIn, Column.labelSet, Column.isLabeled]
    · rw [count_labelsIn_joinLabels hne hnodup hlabels hhidden]
      simp [hrole, hhidden]

theorem filter_parts {leaf : NodeId} {ids : List NodeId} {Q : NodeId × Role → Bool}
    (hQ : ∀ x, Q x → x.2 = .labeled ∧ (t.nodeAt x.1).isLabeled) :
    (t.parts leaf ids).filter Q =
      (ids.filter fun id ↦ Q (id, .labeled)).map fun id ↦ (id, Role.labeled) := by
  induction ids with
  | nil => rfl
  | cons id ids ih =>
    have hresult : Q (id, .result) = false := by
      by_contra h
      cases (hQ (id, .result) (by simpa using h)).1
    rw [parts, List.flatMap_cons, ← parts, List.filter_append, ih, List.filter_append]
    have hfirst : List.filter Q (if id = leaf then [(id, Role.result)] else []) = [] := by
      split <;> simp [hresult]
    rw [hfirst, List.nil_append]
    by_cases h : Q (id, .labeled)
    · simp [h, (hQ _ h).2]
    · split <;> simp [h]

/-- The identities under a label are those of the steps that show an element under it. -/
theorem filter_listed_parts (h : t.WellLabeled p) (l : String) :
    (((t.parts p.leaf p.all).filter fun x ↦ (t.occurrence x).labels ≠ hiddenLabels).map fun x ↦
        ((t.occurrence x).labels, (t.nodeAt x.1).table,
          (t.valueAt p row (identitySlot x)).asCell)).filter (RowReader.listed l) =
      (t.stepsUnder p row l).map fun id ↦ ((t.occurrence (id, .labeled)).labels,
        (t.nodeAt id).table, (t.valueAt p row ⟨id, .labeled, idColumn⟩).asCell) := by
  -- a part shows an element under the label exactly if its step does
  set Q : NodeId × Role → Bool := fun x ↦ x.2 = .labeled && (t.nodeAt x.1).labels.contains l &&
    (t.nodeAt x.1).labels ≠ [hiddenLabels] && !(t.valueAt p row (identitySlot x)).isNull with hQ
  rw [List.filter_map, List.filter_filter, List.filter_congr (q := Q), filter_parts, List.map_map,
    stepsUnder, stepsWithLabel, List.filter_filter]
  · refine congrArg₂ _ rfl (List.filter_congr fun id _ ↦ ?_)
    rw [Bool.eq_iff_iff]
    simp [hQ, identitySlot]
    tauto
  · intro x hx
    simp [hQ, Node.isLabeled] at hx ⊢
    exact ⟨hx.1.1.1, List.ne_nil_of_mem hx.1.1.2⟩
  · intro x hx
    have hcount := labelsIn_occurrence h hx l
    have hmem : l ∈ labelsIn (t.occurrence x).labels ↔ x.2 = .labeled ∧
        l ∈ (t.nodeAt x.1).labels ∧ (t.nodeAt x.1).labels ≠ [hiddenLabels] := by
      rw [← List.count_pos_iff, hcount]
      split
      · next hlabel => exact iff_of_true Nat.one_pos hlabel
      · next hlabel => exact iff_of_false (Nat.lt_irrefl 0) hlabel
    have hvisible : l ∈ labelsIn (t.occurrence x).labels → (t.occurrence x).labels ≠ hiddenLabels := by
      intro hl heq
      rw [heq] at hl
      simp [labelsIn, Column.labelSet, Column.isLabeled] at hl
    have hnull : (t.valueAt p row (identitySlot x)).asCell.isNull =
        (t.valueAt p row (identitySlot x)).isNull := by
      rw [Bool.eq_iff_iff, Value.isNull_iff, Value.isNull_iff, Value.asCell_eq_null_iff]
    have hlisted : RowReader.listed l ((t.occurrence x).labels, (t.nodeAt x.1).table,
        (t.valueAt p row (identitySlot x)).asCell) ↔ Q x := by
      simp only [hQ, RowReader.listed, hnull, Bool.and_eq_true, decide_eq_true_eq, hmem,
        List.contains_iff_mem, and_assoc]
    rw [Bool.eq_iff_iff, Bool.and_eq_true, decide_eq_true_eq, ← hlisted]
    refine and_iff_left_of_imp fun hx ↦ hvisible ?_
    exact of_decide_eq_true (Bool.and_eq_true_iff.mp hx).1

/-- The elements with a label are those of the steps that show one under it. -/
theorem exists_stepsUnder (h : t.WellLabeled p) (hnodup : p.all.Nodup)
    (hcolumns : ∀ x ∈ t.parts p.leaf p.all,
      (t.columnsAt x.1).filter (· == idColumn) = [idColumn])
    (hrow : row.length = (t.shownSlots p.leaf p.all).length) {g : Topology} {mode : Mode}
    (htells : (t.reader g mode p).TellsApart) {result : Result}
    (hread : (t.reader g mode p).read row = .ok (some result)) (l : String) :
    ∃ found : List (Table × Int),
      List.Forall₂ (fun id x ↦ x.1 = (t.nodeAt id).table ∧
        (t.valueAt p row ⟨id, .labeled, idColumn⟩).asCell.toIdentity = .ok x.2)
        (t.stepsUnder p row l) found ∧
      found.Perm ((result.labeledWith l).map fun e ↦ (e.table, e.id)) := by
  have hlength : row.length = (t.reader g mode p).columns.length := by
    rw [hrow, reader, ← map_slotColumn_shownSlots, List.length_map]
  have honce : ∀ c ∈ (t.reader g mode p).columns, (labelsIn c.labels).count l ≤ 1 := by
    intro c hc
    obtain ⟨o, ho, hc⟩ := List.mem_flatMap.mp hc
    obtain ⟨x, hx, rfl⟩ := List.mem_map.mp ho
    obtain ⟨column, -, rfl⟩ := List.mem_map.mp hc
    rw [labelsIn_occurrence h hx]
    split <;> simp
  obtain ⟨found, hfound, hperm⟩ := RowReader.exists_identifies htells hlength hread honce
  rw [identities_reader hnodup hcolumns hrow, filter_listed_parts h,
    List.forall₂_map_left_iff] at hfound
  exact ⟨found, hfound, hperm⟩

/-- Without a NUL in a label, and without a point in the name of a table, the columns of a path are
told apart. -/
theorem tellsApart_of_notMem {g : Topology} {mode : Mode}
    (hlabels : ∀ id ∈ p.all, ∀ l ∈ (t.nodeAt id).labels, Char.ofNat 0 ∉ l.toList)
    (htables : ∀ id ∈ p.all, '.' ∉ (t.nodeAt id).table.name.toList) :
    (t.reader g mode p).TellsApart := by
  have hcolumn : ∀ c ∈ (t.reader g mode p).columns,
      Char.ofNat 0 ∉ c.labels.toList ∧ '.' ∉ c.table.name.toList := by
    intro c hc
    obtain ⟨o, ho, hc⟩ := List.mem_flatMap.mp hc
    obtain ⟨x, hx, rfl⟩ := List.mem_map.mp ho
    obtain ⟨column, -, rfl⟩ := List.mem_map.mp hc
    obtain ⟨hid, hpart⟩ := mem_parts.mp hx
    refine ⟨fun hmem ↦ ?_, htables x.1 hid⟩
    rcases hpart with rfl | ⟨hrole, -⟩
    · simp [occurrence, Role.labels] at hmem
    · rw [occurrence, hrole] at hmem
      obtain ⟨l, hl, hmem⟩ := mem_of_mem_joinLabels (by decide) hmem
      exact hlabels x.1 hid l hl hmem
  intro c hc c' hc' hkey
  have hsame : (⟨c.labels, c.table, []⟩ : Occurrence).groupKey 0 =
    (⟨c'.labels, c'.table, []⟩ : Occurrence).groupKey 0 := hkey
  have hstem := (Occurrence.groupKey_inj hsame).1
  have hchars : c.labels.toList ++ Char.ofNat 0 :: c.table.render.toList =
      c'.labels.toList ++ Char.ofNat 0 :: c'.table.render.toList := by
    simpa [Occurrence.stem, String.toList_append] using congrArg String.toList hstem
  obtain ⟨heq, hrender⟩ :=
    append_cons_inj_of_notMem_left (hcolumn c hc).1 (hcolumn c' hc').1 hchars
  have hparts : c.table.schema.toList ++ '.' :: c.table.name.toList =
      c'.table.schema.toList ++ '.' :: c'.table.name.toList := by
    simpa [Table.render, String.toList_append] using hrender
  obtain ⟨hschema, hname⟩ :=
    append_cons_inj_of_notMem_right (hcolumn c hc).2 (hcolumn c' hc').2 hparts
  obtain ⟨labels, ⟨schema, name⟩, column⟩ := c
  obtain ⟨labels', ⟨schema', name'⟩, column'⟩ := c'
  exact ⟨String.toList_inj.mp heq,
    Table.mk.injEq .. ▸ ⟨String.toList_inj.mp hschema, String.toList_inj.mp hname⟩⟩

/-- **Labels survive, but for the one of the helpers.** The labels of a step of a checked tree, joined
into the labels of a column, make the column a labeled one, keep it in sight, and are cut again to
the labels of the step, exactly if they are not the label of the helpers alone. When a row of any
path of the tree is read into a result, the elements with a label are, by table and identity, those
of the steps with the label that have an identity, but for the steps labeled like a helper; provided
that the reader tells the columns apart, which it does if no label holds a NUL and no table a
point. -/
theorem labels_survive_iff {t : Tree} (hbuilt : t.Built) (hvalid : t.validate = .ok ()) :
    (∀ id ∈ t.walk, (t.nodeAt id).labels ≠ [] → ∀ (table : Table) (name : String),
      ((Column.mk (joinLabels (t.nodeAt id).labels) table name).isLabeled ∧
        ¬(Column.mk (joinLabels (t.nodeAt id).labels) table name).isHidden ∧
        (Column.mk (joinLabels (t.nodeAt id).labels) table name).labelSet =
          (t.nodeAt id).labels) ↔ (t.nodeAt id).labels ≠ [hiddenLabels]) ∧
    ∀ g : Topology, t.catalog = some g → g.Indexed →
      ∀ (c : Compiler) (mode : Mode) (paths : List OptionalPath),
      CompileM.modePaths t mode = .ok paths → ∀ op ∈ paths, ∀ (s s' : CompileState) (st : Statement),
      (CompileM.statement c t mode op.path op.branches).Yields s st s' → ∀ r : Registry,
      s'.registry.columns.toList <+: r.columns.toList →
      ∃ reader, RowReader.ofNames g r st.mode st.query.names = .ok reader ∧
        ((∀ id ∈ op.path.all, (∀ l ∈ (t.nodeAt id).labels, Char.ofNat 0 ∉ l.toList) ∧
          '.' ∉ (t.nodeAt id).table.name.toList) → reader.TellsApart) ∧
        (reader.TellsApart → ∀ (row : List Value) (result : Result),
          row.length = st.query.names.length → reader.read row = .ok (some result) → ∀ l : String,
          ∃ found : List (Table × Int),
            List.Forall₂ (fun id x ↦ x.1 = (t.nodeAt id).table ∧
              (t.valueAt op.path row ⟨id, .labeled, idColumn⟩).asCell.toIdentity = .ok x.2)
              (t.stepsUnder op.path row l) found ∧
            found.Perm ((result.labeledWith l).map fun e ↦ (e.table, e.id))) := by
  have hstep : ∀ id ∈ t.walk, ∀ n, t.node? id = some n → (t.nodeAt id).labels.Pairwise (· < ·) ∧
      ∀ l ∈ (t.nodeAt id).labels, l ≠ "" ∧ '.' ∉ l.toList := by
    intro id hid n hn
    rw [nodeAt_of_some hn]
    have hnode := (Option.filter_eq_some_iff.mp hn).1
    have hskeleton : t.skeleton[id]? = some (n.parent, n.labels) := by
      rw [skeleton_getElem?, hnode]
      rfl
    exact ⟨hbuilt.sorted hskeleton, labels_of_validate hvalid hid hn⟩
  constructor
  · intro id hid hne table name
    cases hn : t.node? id with
    | none =>
      rw [nodeAt, hn] at hne
      exact absurd rfl hne
    | some n =>
      obtain ⟨hsorted, hlabels⟩ := hstep id hid n hn
      exact labelSet_joinLabels_iff hne hsorted hlabels table name
  · intro g hcatalog hindexed c mode paths hpaths op hop s s' st hst r hr
    obtain ⟨-, rfl, slots, hcompiles, hregistry⟩ := CompileM.yields_statement hst
    obtain ⟨id, hid⟩ := exists_pathTo_of_modePaths hpaths hop
    rw [hregistry] at hr
    obtain ⟨hlive, hshown⟩ := hcompiles.steps
    have hchain := hcompiles.isChain_all hbuilt hid
    have hwalk := mem_walk_of_isChain hbuilt hchain fun i hi ↦ isLive_iff.mpr (hlive i hi)
    refine ⟨t.reader g st.mode op.path, hcompiles.ofNames_eq hr g st.mode,
      fun hplain ↦ tellsApart_of_notMem (fun id hid ↦ (hplain id hid).1)
        fun id hid ↦ (hplain id hid).2, fun htells row result hrow hread l ↦ ?_⟩
    refine exists_stepsUnder (fun id hid ↦ ?_) (nodup_of_isChain hbuilt.rooted hchain)
      (fun x hx ↦ ?_) (hrow.trans hcompiles.length_names) htells hread l
    · obtain ⟨n, hn⟩ := hlive id hid
      obtain ⟨hsorted, hlabels⟩ := hstep id (hwalk id hid) n hn
      exact ⟨hsorted.imp fun h heq ↦ absurd (heq ▸ h) (String.lt_irrefl _), hlabels⟩
    · have hdeclared : x.1 = op.path.leaf ∨ (t.nodeAt x.1).isLabeled := by
        rcases (mem_parts.mp hx).2 with heq | hlabeled
        · exact .inl (by rw [heq])
        · exact .inr hlabeled.2
      obtain ⟨columns, hcolumns⟩ := hshown x.1 (mem_parts.mp hx).1 hdeclared
      obtain ⟨g', hg', htable⟩ := columns?_of_columnsOf hcolumns
      obtain rfl : g = g' := Option.some.inj (hcatalog.symm.trans hg')
      rw [columnsAt_of_eq_ok hcolumns]
      exact filter_columns_eq_singleton hindexed htable

end Tree

/-! ### Vertices with the label of the helpers -/

/-- A vertex with some labels. -/
def vertexTree (labels : List String) : Tree :=
  Tree.ofRoot (some arrowGraph) { table := ⟨"s", "V_a"⟩, labels }

/-- A result row of a labeled vertex. -/
def vertexRow : List Value := [.int .int64 1, .int .int64 1]

/-- Whether the row is read into a result under the aliases of a statement. -/
def readsVertexRow (st : Statement) (s : CompileState) : Bool :=
  vertexRow.length == st.query.names.length &&
    match RowReader.ofNames arrowGraph s.registry st.mode st.query.names with
    | .ok reader =>
      match reader.read vertexRow with
      | .ok (some _) => true
      | _ => false
    | .error _ => false

theorem exists_of_readsVertexRow {st : Statement} {s : CompileState} (h : readsVertexRow st s) :
    vertexRow.length = st.query.names.length ∧ ∃ reader result,
      RowReader.ofNames arrowGraph s.registry st.mode st.query.names = .ok reader ∧
      reader.read vertexRow = .ok (some result) := by
  rw [readsVertexRow, Bool.and_eq_true, beq_iff_eq] at h
  refine ⟨h.1, ?_⟩
  cases hreader : RowReader.ofNames arrowGraph s.registry st.mode st.query.names with
  | error e => simp [hreader] at h
  | ok reader =>
    have hread := h.2
    rw [hreader] at hread
    dsimp only at hread
    split at hread
    · next result hresult => exact ⟨reader, result, rfl, hresult⟩
    · cases hread

/-- The elements that are listed under the label of a vertex when its row is read, in any order. -/
def Lists (label : String) (elements : List (Table × Int)) : Prop :=
  ∃ st s' reader result,
    (CompileM.statement inlineCompiler (vertexTree [label]) .regular ⟨[]⟩ []).Yields {} st s' ∧
    RowReader.ofNames arrowGraph s'.registry st.mode st.query.names = .ok reader ∧
    reader.read vertexRow = .ok (some result) ∧
    elements.Perm ((result.labeledWith label).map fun e ↦ (e.table, e.id))

/-- A vertex is found under its label, but not under that of the helpers. -/
theorem labels_survive_vertices :
    Lists "x" [(⟨"s", "V_a"⟩, 1)] ∧ Lists hiddenLabels [] ∧
    ¬((Column.mk (joinLabels [hiddenLabels]) ⟨"s", "V_a"⟩ idColumn).isLabeled ∧
      ¬(Column.mk (joinLabels [hiddenLabels]) ⟨"s", "V_a"⟩ idColumn).isHidden ∧
      (Column.mk (joinLabels [hiddenLabels]) ⟨"s", "V_a"⟩ idColumn).labelSet = [hiddenLabels]) := by
  have hbuilt : ∀ label, (vertexTree [label]).Built := fun label ↦ .root _ _
  have hread : ∀ label, (vertexTree [label]).validate = .ok () →
      CompileM.modePaths (vertexTree [label]) .regular = .ok [⟨⟨[]⟩, []⟩] →
      (∀ id ∈ (⟨[]⟩ : Path).all, (∀ l ∈ ((vertexTree [label]).nodeAt id).labels,
        Char.ofNat 0 ∉ l.toList) ∧ '.' ∉ ((vertexTree [label]).nodeAt id).table.name.toList) →
      (∃ st s', (CompileM.statement inlineCompiler (vertexTree [label]) .regular ⟨[]⟩ []).Yields {}
        st s' ∧ readsVertexRow st s') →
      ∃ found, List.Forall₂ (fun id x ↦ x.1 = ((vertexTree [label]).nodeAt id).table ∧
        ((vertexTree [label]).valueAt ⟨[]⟩ vertexRow ⟨id, .labeled, idColumn⟩).asCell.toIdentity =
          .ok x.2) ((vertexTree [label]).stepsUnder ⟨[]⟩ vertexRow label) found ∧
        Lists label found := by
    rintro label hvalid hpaths hplain ⟨st, s', hst, hreads⟩
    obtain ⟨hlength, reader, result, hreader, hresult⟩ := exists_of_readsVertexRow hreads
    obtain ⟨reader', hreader', htells, hlisted⟩ := (Tree.labels_survive_iff (hbuilt label) hvalid).2
      arrowGraph rfl ⟨arrows, rfl⟩ inlineCompiler .regular _ hpaths ⟨⟨[]⟩, []⟩
      (List.mem_singleton.mpr rfl) {} s' st hst _ List.prefix_rfl
    obtain rfl : reader' = reader := Except.ok.inj (hreader'.symm.trans hreader)
    obtain ⟨found, hfound, hperm⟩ := hlisted (htells hplain) vertexRow result hlength hresult label
    exact ⟨found, hfound, st, s', reader', result, hst, hreader, hresult, hperm⟩
  refine ⟨?_, ?_, ?_⟩
  · obtain ⟨found, hfound, hlists⟩ := hread "x" (by decide +kernel) rfl (by decide +kernel)
      (CompileM.exists_yields (P := readsVertexRow) (by decide +kernel))
    have hsteps : (vertexTree ["x"]).stepsUnder ⟨[]⟩ vertexRow "x" = [rootId] := by decide +kernel
    rw [hsteps] at hfound
    obtain ⟨⟨table, id⟩, rest, ⟨htable, hid⟩, hrest, rfl⟩ := List.forall₂_cons_left_iff.mp hfound
    obtain rfl := List.forall₂_nil_left_iff.mp hrest
    obtain rfl : table = ⟨"s", "V_a"⟩ := htable
    have hone : ((vertexTree ["x"]).valueAt ⟨[]⟩ vertexRow
        ⟨rootId, .labeled, idColumn⟩).asCell.toIdentity.toOption = some 1 := by decide +kernel
    rw [hid] at hone
    obtain rfl : id = 1 := Option.some.inj hone
    exact hlists
  · obtain ⟨found, hfound, hlists⟩ := hread hiddenLabels (by decide +kernel) rfl (by decide +kernel)
      (CompileM.exists_yields (P := readsVertexRow) (by decide +kernel))
    have hsteps : (vertexTree [hiddenLabels]).stepsUnder ⟨[]⟩ vertexRow hiddenLabels = [] := by
      decide +kernel
    rw [hsteps, List.forall₂_nil_left_iff] at hfound
    exact hfound ▸ hlists
  · have hlabels : ((vertexTree [hiddenLabels]).nodeAt rootId).labels = [hiddenLabels] := by
      decide +kernel
    have hsurvive := (Tree.labels_survive_iff (hbuilt hiddenLabels) (by decide +kernel)).1 rootId
      (by decide +kernel) (by decide +kernel) ⟨"s", "V_a"⟩ idColumn
    rw [hlabels] at hsurvive
    exact hsurvive.not.mpr (not_not.mpr rfl)

end PathQuery
