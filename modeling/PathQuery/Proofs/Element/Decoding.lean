import PathQuery.Proofs.Element.Parts
import PathQuery.Proofs.Relational.Statement

/-!
# Reading rows back

A row is read back rightly when every element comes from its own part of the row: the projected
element from that of the projected step, and the elements with a label from those of the steps
that have the label, top down. Reading recovers the parts from the columns alone. It does so for
every row exactly when the keys of the groups tell the labels and tables of the columns apart,
which fails only for labels that hold a NUL.

A row that cannot be read ends the reading of a result. When all rows can be read, their results
are those of the rows with a projected element, in the order of the rows, and each of them carries
the mode of its reader.
-/

namespace PathQuery

/-- No column comes twice in a table. -/
def Topology.DistinctColumns (g : Topology) : Prop :=
  ∀ table columns, g.columns? table = some columns → columns.Nodup

/-! ## The element of a group -/

namespace RowGroup

variable {t : Topology} {g : RowGroup}

/-- A group has no element exactly when it has no identity. -/
theorem element?_eq_none_iff : g.element? t = .ok none ↔ g.cell idColumn = .null := by
  rw [element?]
  split
  · next hnull => simp [hnull]
  · next hsome =>
    refine ⟨fun h ↦ ?_, fun h ↦ absurd h hsome⟩
    obtain ⟨id, -, h⟩ := bind_eq_ok_iff.mp h
    obtain ⟨e, -, h⟩ := bind_eq_ok_iff.mp h
    obtain ⟨e', -, h⟩ := bind_eq_ok_iff.mp h
    cases h

/-- A group in which only the identity has a value has an element. -/
theorem exists_element? (hcell : g.cell idColumn = .int .int64 1)
    (hcells : ∀ column w, lookupKey column g.cells = some w → column ≠ idColumn → w = .null)
    (hproperties : ∀ property ∈ (t.properties? g.table).getD [], property.name ≠ idColumn) :
    ∃ e, g.element? t = .ok (some e) := by
  have hproperty : ∀ property ∈ (t.properties? g.table).getD [], ∀ e : Element,
      ∃ e', g.addProperty e property = .ok e' := by
    intro property hmem e
    have hvalue : g.propertyValue property = .ok .null := by
      rw [propertyValue]
      split
      · rfl
      · next base hbase =>
        rw [hcells _ _ hbase (hproperties property hmem)]
        rfl
    exact ⟨_, by rw [addProperty, hvalue]; rfl⟩
  have hendpoint : ∀ keys : List ForeignKey, ∀ key ∈ keys, ∀ e : Element,
      ∃ e', g.addEndpoint e key = .ok e' := by
    intro keys key _ e
    rw [addEndpoint]
    split
    · exact ⟨e, rfl⟩
    · next hsome =>
      have hone : g.cell key.column = .int .int64 1 := by
        by_cases hcolumn : key.column = idColumn
        · rw [hcolumn, hcell]
        · refine absurd ?_ hsome
          rw [cell]
          cases hlookup : lookupKey key.column g.cells with
          | none => rfl
          | some w => exact hcells _ _ hlookup hcolumn
      rw [hone]
      exact ⟨_, rfl⟩
  obtain ⟨e, he⟩ := exists_foldlM_eq_ok hproperty { table := g.table, id := 1 }
  obtain ⟨e', he'⟩ := exists_foldlM_eq_ok
    (hendpoint (if g.table.isEdge then t.foreignKeys g.table else [])) e
  refine ⟨e', ?_⟩
  rw [element?, hcell]
  exact bind_eq_ok_iff.mpr ⟨1, rfl, bind_eq_ok_iff.mpr ⟨e, he, bind_eq_ok_iff.mpr ⟨e', he', rfl⟩⟩⟩

end RowGroup

theorem Value.asCell_eq_null_iff {v : Value} : v.asCell = .null ↔ v = .null := by
  cases v with
  | bytes text => rw [asCell, ofText]; split <;> simp
  | _ => simp [asCell]

/-! ## What reading is to give -/

namespace Tree

/-- The values of a part of a row as a group of their own. -/
def partGroup (t : Tree) (p : Path) (row : List Value) (x : NodeId × Role) : RowGroup where
  key := ""
  labels := ""
  table := (t.nodeAt x.1).table
  cells := (t.columnsAt x.1).zip ((t.slice p row x).map Value.asCell)

/-- The element of a part of a row, from the values of that part alone. -/
def elementAt (t : Tree) (g : Topology) (p : Path) (row : List Value) (x : NodeId × Role) :
    Except RowError (Option Element) := (t.partGroup p row x).element? g

/-- The steps of a path that have a label, top down. -/
def stepsWithLabel (t : Tree) (p : Path) (l : String) : List NodeId :=
  p.all.filter fun id ↦ l ∈ (t.nodeAt id).labels

/-- The answer to a row has every element from its own part of the row. -/
structure ReadsBack (t : Tree) (g : Topology) (mode : Mode) (p : Path) (row : List Value)
    (answer : Except RowError (Option Result)) : Prop where
  /-- Reading fails only where the values of some element cannot be converted. -/
  failed : ∀ e, answer = .error e → ∃ x ∈ t.parts p.leaf p.all, t.elementAt g p row x = .error e
  /-- It fails for every such element. -/
  converted : ∀ found, answer = .ok found →
    ∀ x ∈ t.parts p.leaf p.all, ∃ element, t.elementAt g p row x = .ok element
  /-- There is no result exactly when the projected element has no identity. -/
  absent : ∀ found, answer = .ok found →
    (found = none ↔ t.valueAt p row ⟨p.leaf, .result, idColumn⟩ = .null)
  /-- The projected element is that of the projected step. -/
  projected : ∀ r, answer = .ok (some r) → r.mode = mode ∧
    t.elementAt g p row (p.leaf, .result) = .ok (some r.element)
  /-- The elements with a label are those of the steps with the label, without those that have no
  identity. -/
  labeled : ∀ r, answer = .ok (some r) → ∀ l, r.labeledWith l =
    (t.stepsWithLabel p l).filterMap fun id ↦
      (t.elementAt g p row (id, .labeled)).toOption.join

/-- The reader of the rows of a path. -/
def reader (t : Tree) (g : Topology) (mode : Mode) (p : Path) : RowReader :=
  ⟨g, mode, ((t.parts p.leaf p.all).map t.occurrence).flatMap Occurrence.logical⟩

/-- The occurrences of a row with their cells. -/
def filledParts (t : Tree) (p : Path) (row : List Value) : List (Occurrence × List Value) :=
  (t.parts p.leaf p.all).map fun x ↦ (t.occurrence x, (t.slice p row x).map Value.asCell)

/-- One for an identity and null for everything else. -/
def markedCell (column : String) : Value := if column = idColumn then .int .int64 1 else .null

/-- The row in which every identity is one and nothing else has a value. -/
def markedRow (t : Tree) (p : Path) : List Value :=
  (t.shownSlots p.leaf p.all).map fun s ↦ markedCell s.column

namespace Legible

variable {t : Tree} {p : Path} {row : List Value}

theorem collect_eq (h : t.Legible p) (g : Topology) (mode : Mode)
    (hrow : row.length = (t.shownSlots p.leaf p.all).length) :
    RowReader.collect [] [] (t.reader g mode p).columns row =
      .ok (RowReader.groupAll [] [] (t.filledParts p row)) := by
  have hvss : List.Forall₂ (fun o vs ↦ vs.length = o.columns.length)
      ((t.parts p.leaf p.all).map t.occurrence) ((t.parts p.leaf p.all).map (t.slice p row)) := by
    rw [List.forall₂_map_left_iff, List.forall₂_map_right_iff, List.forall₂_same]
    exact fun x _ ↦ length_slice p row x
  have hcollect := h.separable.collect_eq hvss
  rwa [flatten_slices h.nodup_shownSlots hrow, List.map_map, List.zip_map'] at hcollect

/-- The identity of a part is the first of its values. -/
theorem cell_identity (h : t.Legible p) {x : NodeId × Role} (hx : x ∈ t.parts p.leaf p.all) :
    (t.partGroup p row x).cell idColumn =
      (t.valueAt p row ⟨x.1, x.2, idColumn⟩).asCell := by
  obtain ⟨rest, hcolumns⟩ := List.head?_eq_some_iff.mp (h.columns x hx).2
  rw [RowGroup.cell, partGroup, slice, nodeSlots, hcolumns, List.map_cons, List.map_cons,
    List.map_cons, List.zip_cons_cons, lookupKey_cons, if_pos (beq_self_eq_true _)]
  rfl

/-- With a group for each part, a row is read part by part. -/
theorem read_eq (h : t.Legible p) (g : Topology) (mode : Mode)
    (hapart : RowReader.Apart ((t.parts p.leaf p.all).map t.occurrence))
    (hrow : row.length = (t.shownSlots p.leaf p.all).length) :
    (t.reader g mode p).read row = ((t.parts p.leaf p.all).mapM (t.elementAt g p row)).map fun es ↦
      RowReader.combine mode
        (((t.parts p.leaf p.all).map fun x ↦ (t.occurrence x).labels).zip es) := by
  have hvss : List.Forall₂ (fun o vs ↦ vs.length = o.columns.length)
      ((t.parts p.leaf p.all).map t.occurrence)
      ((t.parts p.leaf p.all).map fun x ↦ (t.slice p row x).map Value.asCell) := by
    rw [List.forall₂_map_left_iff, List.forall₂_map_right_iff, List.forall₂_same]
    exact fun x _ ↦ by rw [List.length_map, length_slice]
  have hgroups := h.separable.groupAll_eq hapart hvss
  rw [List.zip_map', List.map_map] at hgroups
  change (RowReader.groupAll [] [] (t.filledParts p row)).map RowGroup.content = _ at hgroups
  have helements : (RowReader.groupAll [] [] (t.filledParts p row)).mapM (RowGroup.element? g) =
      (t.parts p.leaf p.all).mapM (t.elementAt g p row) := by
    have hcontent : RowGroup.element? g =
        (fun x ↦ RowGroup.element? g ⟨"", "", x.2.1, x.2.2⟩) ∘ RowGroup.content := rfl
    rw [hcontent, ← List.mapM_map, hgroups, List.mapM_map]
    rfl
  have hlabels : (RowReader.groupAll [] [] (t.filledParts p row)).map (·.labels) =
      (t.parts p.leaf p.all).map fun x ↦ (t.occurrence x).labels := by
    have hmap := congrArg (List.map Prod.fst) hgroups
    rwa [List.map_map, List.map_map] at hmap
  rw [RowReader.read_eq _ (h.collect_eq g mode hrow), ← hlabels, ← helements]
  rfl

/-- The first element without labels is that of the projected step. -/
theorem firstPlain_parts (h : t.Legible p) (f : NodeId × Role → Option Element) :
    RowReader.firstPlain ((t.parts p.leaf p.all).map fun x ↦ ((t.occurrence x).labels, f x)) =
      f (p.leaf, .result) := by
  have hparts : ∀ x ∈ t.parts p.leaf p.all,
      (if (t.occurrence x).labels = "" then f x else none) =
        if x = (p.leaf, .result) then f (p.leaf, .result) else none := by
    intro x hx
    by_cases heq : x = (p.leaf, .result)
    · rw [if_pos heq, if_pos ((h.labels_eq_empty_iff hx).mpr heq), heq]
    · rw [if_neg heq, if_neg (mt (h.labels_eq_empty_iff hx).mp heq)]
  rw [RowReader.firstPlain, List.findSome?_map]
  cases hfound : List.findSome? _ (t.parts p.leaf p.all) with
  | none =>
    have hmem := t.result_mem_parts p
    have hnone := List.findSome?_eq_none_iff.mp hfound _ hmem
    rw [Function.comp_apply, hparts _ hmem, if_pos rfl] at hnone
    exact hnone.symm
  | some e =>
    obtain ⟨x, hx, he⟩ := List.exists_of_findSome?_eq_some hfound
    rw [Function.comp_apply, hparts x hx] at he
    split at he
    · exact he.symm
    · cases he

/-- The elements with a label are those of the steps with the label. -/
theorem withLabel_parts (h : t.Legible p) (f : NodeId × Role → Option Element) (l : String) :
    RowReader.withLabel ((t.parts p.leaf p.all).map fun x ↦ ((t.occurrence x).labels, f x)) l =
      (t.stepsWithLabel p l).filterMap fun id ↦ f (id, .labeled) := by
  have hpart : ∀ x ∈ t.parts p.leaf p.all,
      (f x).toList.flatMap (fun e ↦ List.replicate ((labelsIn (t.occurrence x).labels).count l) e) =
        if x.2 = .labeled ∧ l ∈ (t.nodeAt x.1).labels then (f x).toList else [] := by
    intro x hx
    rw [h.count_labelsIn hx]
    split <;> cases f x <;> rfl
  rw [RowReader.withLabel, List.flatMap_map, List.flatMap_congr hpart, stepsWithLabel, parts,
    List.flatMap_assoc, List.filterMap_filter, List.filterMap_eq_flatMap_toList]
  refine List.flatMap_congr fun id _ ↦ ?_
  rw [List.flatMap_append]
  have hresult : (if id = p.leaf then [(id, Role.result)] else []).flatMap (fun x ↦
      if x.2 = .labeled ∧ l ∈ (t.nodeAt x.1).labels then (f x).toList else []) = [] := by
    split <;> simp
  rw [hresult, List.nil_append]
  by_cases hl : l ∈ (t.nodeAt id).labels
  · have hlabeled : (t.nodeAt id).isLabeled := by
      simpa [Node.isLabeled] using List.ne_nil_of_mem hl
    simp [hlabeled, hl]
  · split <;> simp [hl]

/-- **Parts with groups of their own are read back.** -/
theorem readsBack (h : t.Legible p) (g : Topology) (mode : Mode)
    (hapart : RowReader.Apart ((t.parts p.leaf p.all).map t.occurrence))
    (hrow : row.length = (t.shownSlots p.leaf p.all).length) :
    t.ReadsBack g mode p row ((t.reader g mode p).read row) := by
  rw [h.read_eq g mode hapart hrow]
  cases hes : (t.parts p.leaf p.all).mapM (t.elementAt g p row) with
  | error e =>
    obtain ⟨x, hx, hfail⟩ := exists_of_mapM_eq_error hes
    refine ⟨?_, nofun, nofun, nofun, nofun⟩
    rintro _ ⟨⟩
    exact ⟨x, hx, hfail⟩
  | ok es =>
    have hconverted : ∀ x ∈ t.parts p.leaf p.all, ∃ element,
        t.elementAt g p row x = .ok element := by
      intro x hx
      obtain ⟨element, -, helement⟩ := exists_of_mem_of_mapM_eq_ok hes x hx
      exact ⟨element, helement⟩
    have hall : es = (t.parts p.leaf p.all).map fun x ↦ (t.elementAt g p row x).toOption.join := by
      rw [← List.map_id es]
      exact map_eq_map_of_mapM_eq_ok hes fun x element hok ↦ by rw [hok]; rfl
    obtain ⟨element, helement⟩ := hconverted _ (t.result_mem_parts p)
    have hjoin : (t.elementAt g p row (p.leaf, .result)).toOption.join = element := by
      rw [helement]
      rfl
    rw [hall, Except.map, List.zip_map']
    have hfirst := h.firstPlain_parts fun x ↦ (t.elementAt g p row x).toOption.join
    rw [hjoin] at hfirst
    refine ⟨nofun, fun _ _ ↦ hconverted, ?_, ?_, ?_⟩
    · rintro _ ⟨⟩
      rw [RowReader.combine_eq_none_iff, hfirst, ← Value.asCell_eq_null_iff,
        ← h.cell_identity (t.result_mem_parts p), ← RowGroup.element?_eq_none_iff (t := g)]
      change element = none ↔ t.elementAt g p row (p.leaf, .result) = .ok none
      rw [helement, Except.ok.injEq]
    · intro r hr
      obtain ⟨hmode, hplain, -⟩ := RowReader.combine_eq_some (Except.ok.inj hr)
      rw [hfirst] at hplain
      exact ⟨hmode, by rw [helement, hplain]⟩
    · intro r hr l
      obtain ⟨-, -, hlabeled⟩ := RowReader.combine_eq_some (Except.ok.inj hr)
      rw [hlabeled, h.withLabel_parts]

/-! ## A row that tells shared groups

In the row in which every identity is one and nothing else has a value, every group has an
element, so that an element is missing wherever two parts share a group.
-/

theorem slice_markedRow {x : NodeId × Role} (hx : x ∈ t.parts p.leaf p.all) :
    (t.slice p (t.markedRow p) x).map Value.asCell = (t.columnsAt x.1).map markedCell := by
  rw [slice, nodeSlots, List.map_map, List.map_map]
  refine List.map_congr_left fun c hc ↦ ?_
  have hmem : (⟨x.1, x.2, c⟩ : Slot) ∈ t.shownSlots p.leaf p.all := by
    rw [shownSlots_eq_flatMap_parts]
    exact List.mem_flatMap.mpr ⟨x, hx, List.mem_map.mpr ⟨c, hc, rfl⟩⟩
  rw [Function.comp_apply, Function.comp_apply, markedRow, valueAt_map hmem, markedCell]
  split <;> rfl

/-- The cells of the parts depend on the column only. -/
theorem marked_of_mem_zip {x : NodeId × Role} (hx : x ∈ t.parts p.leaf p.all)
    {y : String × Value}
    (hy : y ∈ (t.columnsAt x.1).zip ((t.slice p (t.markedRow p) x).map Value.asCell)) :
    y.2 = markedCell y.1 := by
  rw [slice_markedRow hx, ← List.map_id (t.columnsAt x.1), List.map_map, List.zip_map'] at hy
  obtain ⟨c, -, rfl⟩ := List.mem_map.mp hy
  rfl

theorem valueAt_markedRow (h : t.Legible p) {x : NodeId × Role}
    (hx : x ∈ t.parts p.leaf p.all) :
    t.valueAt p (t.markedRow p) ⟨x.1, x.2, idColumn⟩ = .int .int64 1 := by
  have hmem : (⟨x.1, x.2, idColumn⟩ : Slot) ∈ t.shownSlots p.leaf p.all := by
    rw [shownSlots_eq_flatMap_parts]
    refine List.mem_flatMap.mpr ⟨x, hx, List.mem_map.mpr ⟨idColumn, ?_, rfl⟩⟩
    exact List.mem_of_head? (h.columns x hx).2
  rw [markedRow, valueAt_map hmem]
  rfl

/-- Every part of the marked row has an element. -/
theorem exists_elementAt_markedRow (h : t.Legible p) {g : Topology}
    (hproperties : ∀ table, ∀ property ∈ (g.properties? table).getD [], property.name ≠ idColumn)
    {x : NodeId × Role} (hx : x ∈ t.parts p.leaf p.all) :
    ∃ e, t.elementAt g p (t.markedRow p) x = .ok (some e) := by
  refine RowGroup.exists_element? ?_ ?_ (hproperties _)
  · rw [h.cell_identity hx, h.valueAt_markedRow hx]
    rfl
  · intro column w hw hne
    have hmarked : w = markedCell column := marked_of_mem_zip hx (mem_of_lookupKey hw)
    rw [hmarked, markedCell, if_neg hne]

/-- Every occurrence of a row has its cells. -/
theorem filled_filledParts (h : t.Legible p) (row : List Value) :
    RowReader.Filled (t.filledParts p row) := by
  intro y hy
  obtain ⟨x, hx, rfl⟩ := List.mem_map.mp hy
  refine ⟨h.separable.columns_ne_nil (List.mem_map_of_mem hx), ?_⟩
  rw [List.length_map, length_slice]

/-- Every group of the marked row has an element. -/
theorem exists_element?_markedRow (h : t.Legible p) {g : Topology}
    (hproperties : ∀ table, ∀ property ∈ (g.properties? table).getD [], property.name ≠ idColumn) :
    ∀ group ∈ RowReader.groupAll [] [] (t.filledParts p (t.markedRow p)),
      ∃ e, group.element? g = .ok (some e) := by
  have hmarked : ∀ y ∈ t.filledParts p (t.markedRow p), ∀ z ∈ y.1.columns.zip y.2,
      z.2 = markedCell z.1 := by
    intro y hy
    obtain ⟨x, hx, rfl⟩ := List.mem_map.mp hy
    exact fun z hz ↦ marked_of_mem_zip hx hz
  have hhead : ∀ y ∈ t.filledParts p (t.markedRow p), y.1.columns.head? = some idColumn := by
    intro y hy
    obtain ⟨x, hx, rfl⟩ := List.mem_map.mp hy
    exact (h.columns x hx).2
  have hcells := RowReader.forall_cells_groupAll (fun column w ↦ w = markedCell column) hmarked []
    (List.forall_mem_nil _)
  have hidentity := RowReader.identity_groupAll (h.filled_filledParts (t.markedRow p)) hhead []
    (List.forall_mem_nil _)
  intro group hgroup
  obtain ⟨w, hw⟩ := Option.isSome_iff_exists.mp (hidentity group hgroup)
  refine RowGroup.exists_element? ?_ ?_ (hproperties _)
  · rw [RowGroup.cell, hw, hcells group hgroup _ _ hw]
    rfl
  · intro column w hw hne
    rw [hcells group hgroup _ _ hw, markedCell, if_neg hne]

/-- The labels of a group are those of some part. -/
theorem exists_part_of_mem_groupAll (h : t.Legible p) (row : List Value) :
    ∀ group ∈ RowReader.groupAll [] [] (t.filledParts p row),
      ∃ x ∈ t.parts p.leaf p.all, group.labels = (t.occurrence x).labels := by
  set P : String → Bool := fun labels ↦
    decide ¬∃ x ∈ t.parts p.leaf p.all, labels = (t.occurrence x).labels with hP
  have hle := RowReader.countP_groupAll_le (h.filled_filledParts row) P [] []
  have hnone : (t.filledParts p row).countP (fun x ↦ P x.1.labels) = 0 := by
    rw [List.countP_eq_zero]
    intro y hy
    obtain ⟨x, hx, rfl⟩ := List.mem_map.mp hy
    simpa [hP] using ⟨x.1, x.2, hx, rfl⟩
  rw [hnone, List.countP_nil, Nat.add_zero, Nat.le_zero, List.countP_eq_zero] at hle
  intro group hgroup
  simpa [hP] using hle group hgroup

/-- The answer to the marked row, in which every group has an element. -/
theorem read_markedRow (h : t.Legible p) {g : Topology} (mode : Mode)
    (hproperties : ∀ table, ∀ property ∈ (g.properties? table).getD [], property.name ≠ idColumn) :
    (t.reader g mode p).read (t.markedRow p) = .ok (RowReader.combine mode
      ((RowReader.groupAll [] [] (t.filledParts p (t.markedRow p))).map fun group ↦
        (group.labels, (group.element? g).toOption.join))) := by
  have hrow : (t.markedRow p).length = (t.shownSlots p.leaf p.all).length := by simp [markedRow]
  have helements : (RowReader.groupAll [] [] (t.filledParts p (t.markedRow p))).mapM
      (RowGroup.element? g) =
      .ok ((RowReader.groupAll [] [] (t.filledParts p (t.markedRow p))).map fun group ↦
        (group.element? g).toOption.join) := by
    rw [mapM_eq_ok_iff, List.forall₂_map_right_iff, List.forall₂_same]
    intro group hgroup
    obtain ⟨e, he⟩ := h.exists_element?_markedRow hproperties group hgroup
    rw [he]
    rfl
  rw [RowReader.read_eq _ (h.collect_eq g mode hrow)]
  change Except.map _ (List.mapM (RowGroup.element? g) _) = _
  rw [helements, Except.map, List.zip_map']
  rfl

theorem count_labelsIn_le_one (h : t.Legible p) {x : NodeId × Role}
    (hx : x ∈ t.parts p.leaf p.all) (l : String) :
    (labelsIn (t.occurrence x).labels).count l ≤ 1 := by
  rw [h.count_labelsIn hx]
  split <;> simp

/-- Of the marked row, as many elements are listed under a label as parts have it. -/
theorem length_withLabel_parts (h : t.Legible p) {g : Topology}
    (hproperties : ∀ table, ∀ property ∈ (g.properties? table).getD [], property.name ≠ idColumn)
    (l : String) :
    (RowReader.withLabel ((t.parts p.leaf p.all).map fun x ↦
      ((t.occurrence x).labels, (t.elementAt g p (t.markedRow p) x).toOption.join)) l).length =
      (t.parts p.leaf p.all).countP fun x ↦ l ∈ labelsIn (t.occurrence x).labels := by
  have hsome : ∀ x ∈ t.parts p.leaf p.all,
      (t.elementAt g p (t.markedRow p) x).toOption.join.isSome := by
    intro x hx
    obtain ⟨e, he⟩ := h.exists_elementAt_markedRow hproperties hx
    rw [he]
    rfl
  rw [RowReader.length_withLabel (List.forall_mem_map.mpr hsome)
    (List.forall_mem_map.mpr fun x hx ↦ h.count_labelsIn_le_one hx l), List.countP_map]
  rfl

/-- The same of the groups that it is read into. -/
theorem length_withLabel_groups (h : t.Legible p) {g : Topology}
    (hproperties : ∀ table, ∀ property ∈ (g.properties? table).getD [], property.name ≠ idColumn)
    (l : String) :
    (RowReader.withLabel ((RowReader.groupAll [] [] (t.filledParts p (t.markedRow p))).map
      fun group ↦ (group.labels, (group.element? g).toOption.join)) l).length =
      (RowReader.groupAll [] [] (t.filledParts p (t.markedRow p))).countP fun group ↦
        l ∈ labelsIn group.labels := by
  have hsome : ∀ group ∈ RowReader.groupAll [] [] (t.filledParts p (t.markedRow p)),
      (group.element? g).toOption.join.isSome := by
    intro group hgroup
    obtain ⟨e, he⟩ := h.exists_element?_markedRow hproperties group hgroup
    rw [he]
    rfl
  have honce : ∀ group ∈ RowReader.groupAll [] [] (t.filledParts p (t.markedRow p)),
      (labelsIn group.labels).count l ≤ 1 := by
    intro group hgroup
    obtain ⟨x, hx, hlabels⟩ := h.exists_part_of_mem_groupAll _ group hgroup
    rw [hlabels]
    exact h.count_labelsIn_le_one hx l
  rw [RowReader.length_withLabel (List.forall_mem_map.mpr hsome) (List.forall_mem_map.mpr honce),
    List.countP_map]
  rfl

/-- **Parts that share a group are not read back.** -/
theorem not_readsBack (h : t.Legible p) {g : Topology} (mode : Mode)
    (hproperties : ∀ table, ∀ property ∈ (g.properties? table).getD [], property.name ≠ idColumn)
    (hapart : ¬RowReader.Apart ((t.parts p.leaf p.all).map t.occurrence)) :
    ¬t.ReadsBack g mode p (t.markedRow p) ((t.reader g mode p).read (t.markedRow p)) := by
  intro hreads
  have hos : (t.filledParts p (t.markedRow p)).map (·.1) =
      (t.parts p.leaf p.all).map t.occurrence := by
    rw [filledParts, List.map_map]
    rfl
  obtain ⟨o, ho, hlt⟩ := RowReader.exists_countP_groupAll_lt
    (h.filled_filledParts (t.markedRow p)) (by rwa [hos])
  rw [hos] at ho hlt
  obtain ⟨x, hx, rfl⟩ := List.mem_map.mp ho
  have hread := h.read_markedRow mode hproperties
  have hlisted := h.length_withLabel_groups hproperties
  generalize RowReader.groupAll [] [] (t.filledParts p (t.markedRow p)) = groups
    at hlt hread hlisted
  have hfound := (hreads.absent _ hread).not.mpr (by
    rw [h.valueAt_markedRow (t.result_mem_parts p)]
    exact Value.noConfusion)
  obtain ⟨-, rfl | ⟨hrole, hlabeled⟩⟩ := mem_parts.mp hx
  · -- no group is left for the projected element
    have hone : ((t.parts p.leaf p.all).map t.occurrence).countP (fun o ↦ o.labels = "") = 1 := by
      rw [List.countP_map, ← List.count_eq_one_of_mem (nodup_parts h.nodup) hx, List.count]
      refine List.countP_congr fun y hy ↦ ?_
      simpa using h.labels_eq_empty_iff hy
    have hzero := hlt (fun labels ↦ labels = "") (by simp [occurrence, Role.labels])
    rw [hone, Nat.lt_one_iff, List.countP_eq_zero] at hzero
    refine hfound (RowReader.combine_eq_none_iff.mpr ?_)
    rw [RowReader.firstPlain, List.findSome?_map, List.findSome?_eq_none_iff]
    intro group hgroup
    exact if_neg (by simpa using hzero group hgroup)
  · -- a label of the part is listed less often than steps have it
    have hne : (t.nodeAt x.1).labels ≠ [] := by simpa [Node.isLabeled] using hlabeled
    obtain ⟨l, hl⟩ := List.exists_mem_of_ne_nil _ hne
    obtain ⟨r, hr⟩ := Option.ne_none_iff_exists'.mp hfound
    have hwith := hreads.labeled r (by rw [hread, hr]) l
    rw [(RowReader.combine_eq_some hr).2.2 l,
      ← h.withLabel_parts fun y ↦ (t.elementAt g p (t.markedRow p) y).toOption.join] at hwith
    have hlength := congrArg List.length hwith
    rw [hlisted, h.length_withLabel_parts hproperties] at hlength
    have hless := hlt (fun labels ↦ l ∈ labelsIn labels) (by
      have hcount := h.count_labelsIn hx l
      rw [if_pos ⟨hrole, hl⟩] at hcount
      simpa using List.count_pos_iff.mp (by omega))
    rw [List.countP_map] at hless
    exact absurd hlength hless.ne

end Legible

/-- The columns of a compiled path of a checked tree can be told apart, but for their groups. -/
theorem legible {t : Tree} (hbuilt : t.Built) (hvalid : t.validate = .ok ()) {g : Topology}
    (hcatalog : t.catalog = some g) (hdistinct : g.DistinctColumns) {c : Compiler} {p : Path}
    {branches : List NodeId} {k : ℕ} {q : Query} {tables : List MembershipTable} {slots : List Slot}
    (h : Compiles c t p branches k q tables slots) {id : NodeId} (hp : p = t.pathTo id)
    (hvisible : ∀ id ∈ p.all, (t.nodeAt id).labels ≠ [hiddenLabels])
    (hkeyed : Column.Keyed (slots.map t.slotColumn)) : t.Legible p := by
  obtain ⟨hlive, hshown⟩ := h.steps
  have hchain := h.isChain_all hbuilt hp
  refine ⟨nodup_of_isChain hbuilt.rooted hchain, fun x hx ↦ ?_, fun id hid ↦ ?_, hvisible, ?_⟩
  · have hdeclared : x.1 = p.leaf ∨ (t.nodeAt x.1).isLabeled := by
      rcases (mem_parts.mp hx).2 with heq | hlabeled
      · exact .inl (by rw [heq])
      · exact .inr hlabeled.2
    obtain ⟨columns, hcolumns⟩ := hshown x.1 (mem_parts.mp hx).1 hdeclared
    obtain ⟨g', hg', htable⟩ := columns?_of_columnsOf hcolumns
    obtain rfl : g = g' := Option.some.inj (hcatalog.symm.trans hg')
    rw [columnsAt_of_eq_ok hcolumns]
    refine ⟨hdistinct _ _ htable, ?_⟩
    obtain ⟨properties, -, rfl⟩ := Option.map_eq_some_iff.mp htable
    rfl
  · obtain ⟨n, hn⟩ := hlive id hid
    have hwalk := mem_walk_of_isChain hbuilt hchain (fun i hi ↦ isLive_iff.mpr (hlive i hi)) id hid
    rw [nodeAt_of_some hn]
    refine ⟨?_, labels_of_validate hvalid hwalk hn⟩
    have hnode := (Option.filter_eq_some_iff.mp hn).1
    have hskeleton : t.skeleton[id]? = some (n.parent, n.labels) := by
      rw [skeleton_getElem?, hnode]
      rfl
    exact hbuilt.rooted.labels hskeleton
  · obtain ⟨qs, hsub, hslots, -⟩ := h.exists_shown
    have hregistered : (t.shownSlots p.leaf p.all).map t.slotColumn ⊆ slots.map t.slotColumn := by
      refine List.map_subset _ fun s hs ↦ ?_
      rw [← hslots] at hs
      obtain ⟨x, hx, rfl⟩ := List.mem_map.mp hs
      exact Slot.mem_of_mem_nameAll (hsub hx)
    exact fun c hc c' hc' ↦ hkeyed c (hregistered hc) c' (hregistered hc')

end Tree

/-! ## When the groups are told apart -/

/-- Columns of different labels or tables have different group keys. -/
def RowReader.TellsApart (r : RowReader) : Prop :=
  ∀ c ∈ r.columns, ∀ c' ∈ r.columns, RowReader.groupKey c 0 = RowReader.groupKey c' 0 →
    c.labels = c'.labels ∧ c.table = c'.table

namespace Tree.Legible

variable {t : Tree} {p : Path}

theorem tellsApart_iff (h : t.Legible p) (g : Topology) (mode : Mode) :
    (t.reader g mode p).TellsApart ↔
      RowReader.Apart ((t.parts p.leaf p.all).map t.occurrence) := by
  constructor
  · intro htells o ho o' ho' hstem
    obtain ⟨column, hcolumn⟩ := List.exists_mem_of_ne_nil _ (h.separable.columns_ne_nil ho)
    obtain ⟨column', hcolumn'⟩ := List.exists_mem_of_ne_nil _ (h.separable.columns_ne_nil ho')
    obtain ⟨hlabels, htable⟩ := htells ⟨o.labels, o.table, column⟩
      (List.mem_flatMap.mpr ⟨o, ho, List.mem_map_of_mem hcolumn⟩) ⟨o'.labels, o'.table, column'⟩
      (List.mem_flatMap.mpr ⟨o', ho', List.mem_map_of_mem hcolumn'⟩)
      (Occurrence.groupKey_of_stem hstem 0)
    exact Prod.ext hlabels htable
  · intro hapart c hc c' hc' hkey
    obtain ⟨o, ho, hc⟩ := List.mem_flatMap.mp hc
    obtain ⟨o', ho', hc'⟩ := List.mem_flatMap.mp hc'
    obtain ⟨column, -, rfl⟩ := List.mem_map.mp hc
    obtain ⟨column', -, rfl⟩ := List.mem_map.mp hc'
    exact Prod.mk.inj (hapart o ho o' ho' (Occurrence.groupKey_inj hkey).1)

/-- Without a NUL in a label, the first NUL of a stem ends the labels. -/
theorem apart_of_notMem (h : t.Legible p)
    (hlabels : ∀ id ∈ p.all, ∀ l ∈ (t.nodeAt id).labels, Char.ofNat 0 ∉ l.toList) :
    RowReader.Apart ((t.parts p.leaf p.all).map t.occurrence) := by
  have hnul : ∀ x ∈ t.parts p.leaf p.all, Char.ofNat 0 ∉ (t.occurrence x).labels.toList := by
    intro x hx hmem
    obtain ⟨hid, rfl | ⟨hrole, -⟩⟩ := mem_parts.mp hx
    · simp [occurrence, Role.labels] at hmem
    · rw [occurrence, hrole] at hmem
      obtain ⟨l, hl, hmem⟩ := mem_of_mem_joinLabels (by decide) hmem
      exact hlabels x.1 hid l hl hmem
  intro o ho o' ho' hstem
  obtain ⟨x, hx, rfl⟩ := List.mem_map.mp ho
  obtain ⟨y, hy, rfl⟩ := List.mem_map.mp ho'
  have hchars : (t.occurrence x).labels.toList ++ Char.ofNat 0 ::
      (t.occurrence x).table.render.toList = (t.occurrence y).labels.toList ++ Char.ofNat 0 ::
        (t.occurrence y).table.render.toList := by
    simpa [Occurrence.stem, String.toList_append] using congrArg String.toList hstem
  obtain ⟨heq, hrender⟩ := append_cons_inj_of_notMem_left (hnul x hx) (hnul y hy) hchars
  rw [String.toList_inj] at heq hrender
  -- the identities of the two parts have the same key, so they are the same column
  have hidentity : ∀ z ∈ t.parts p.leaf p.all,
      Column.mk (t.occurrence z).labels (t.occurrence z).table idColumn ∈
        (t.occurrence z).logical :=
    fun z hz ↦ List.mem_map_of_mem (List.mem_of_head? (h.columns z hz).2)
  have hcolumn := h.separable.keyed _ ho _ ho' _ (hidentity x hx) _ (hidentity y hy)
    (by simp only [Column.key, heq, hrender])
  exact Prod.ext heq (Column.mk.inj hcolumn).2.1

end Tree.Legible

/-! ## Reading inverts projecting -/

/-- The columns that have been registered since there were `n`. -/
def Registry.since (r : Registry) (n : ℕ) : List Column := r.columns.toList.drop n

theorem since_withSlots (s : CompileState) (t : Tree) (slots : List Slot) :
    (s.withSlots t slots).registry.since s.registry.size = slots.map t.slotColumn := by
  have hsize : s.registry.size = s.registry.columns.toList.length := rfl
  rw [Registry.since, CompileState.withSlots, Array.toList_append, List.toList_toArray, hsize,
    List.drop_left]

/-- The identity is not the name of a property. -/
theorem Topology.DistinctColumns.name_ne {g : Topology} (h : g.DistinctColumns) (table : Table) :
    ∀ property ∈ (g.properties? table).getD [], property.name ≠ idColumn := by
  intro property hmem heq
  cases hproperties : g.properties? table with
  | none => simp [hproperties] at hmem
  | some properties =>
    rw [hproperties, Option.getD_some] at hmem
    have hnodup := h table _ (by rw [columns?, hproperties, Option.map_some])
    refine (List.nodup_cons.mp hnodup).1 (List.mem_append_left _ ?_)
    exact List.mem_flatMap.mpr ⟨property, hmem, by simp [Property.columns, heq]⟩

/-- **Reading inverts projecting, unless groups run together.** For every path that a checked tree
has in some mode, in either form of its statement and whatever else has been registered, the
aliases of the statement have a reader; every row under these aliases is read back from its own
parts exactly when the group keys tell the labels and tables of the columns apart; and they do if
no label on the path holds a NUL. -/
theorem readsBack_iff_tellsApart {t : Tree} (hbuilt : t.Built) (hvalid : t.validate = .ok ())
    {g : Topology} (hcatalog : t.catalog = some g) (hdistinct : g.DistinctColumns) {c : Compiler}
    {mode : Mode} {paths : List OptionalPath} (hpaths : CompileM.modePaths t mode = .ok paths)
    {op : OptionalPath} (hop : op ∈ paths)
    (hvisible : ∀ id ∈ op.path.all, (t.nodeAt id).labels ≠ [hiddenLabels])
    {s s' : CompileState} {st : Statement}
    (hst : (CompileM.statement c t mode op.path op.branches).Yields s st s')
    (hkeyed : Column.Keyed (s'.registry.since s.registry.size)) {r : Registry}
    (hr : s'.registry.columns.toList <+: r.columns.toList) :
    ∃ reader, RowReader.ofNames g r st.mode st.query.names = .ok reader ∧
      ((∀ row : List Value, row.length = st.query.names.length →
        t.ReadsBack g mode op.path row (reader.read row)) ↔ reader.TellsApart) ∧
      ((∀ id ∈ op.path.all, ∀ l ∈ (t.nodeAt id).labels, Char.ofNat 0 ∉ l.toList) →
        reader.TellsApart) := by
  obtain ⟨-, rfl, slots, hcompiles, hregistry⟩ := CompileM.yields_statement hst
  obtain ⟨id, hid⟩ := Tree.exists_pathTo_of_modePaths hpaths hop
  rw [hregistry] at hr hkeyed
  rw [since_withSlots] at hkeyed
  have hlegible := Tree.legible hbuilt hvalid hcatalog hdistinct hcompiles hid hvisible hkeyed
  refine ⟨t.reader g st.mode op.path, hcompiles.ofNames_eq hr g st.mode, ?_, fun hlabels ↦ ?_⟩
  · rw [hcompiles.length_names, hlegible.tellsApart_iff]
    refine ⟨fun hreads ↦ ?_, fun hapart row hrow ↦ hlegible.readsBack g st.mode hapart hrow⟩
    by_contra hapart
    exact hlegible.not_readsBack st.mode hdistinct.name_ne hapart
      (hreads _ (by simp [Tree.markedRow]))
  · exact (hlegible.tellsApart_iff g st.mode).mpr (hlegible.apart_of_notMem hlabels)

/-! ### Groups that run together

A schema whose name begins with `s` and a NUL has vertices of the same label as the schema `b`. A
vertex of `b` labeled `x`, NUL, `s` then has the group key of a vertex of the other schema labeled
`x`.
-/

/-- Vertices of two schemas and edges from those of one to those of the other. -/
def nulBridge : Declarations :=
  [("b", some {
    vertices := [("a", none)]
    edges := [("e", some { outs := ["a"], ins := ["s\x00b.a"] })] }),
   ("s\x00b", some { vertices := [("a", none)] })]

/-- The topology of the two schemas. -/
def nulGraph : Topology where
  publicSchema := "b"
  declarations := nulBridge
  tables := match nulBridge.index with
    | .ok tables => tables
    | .error _ => []

/-- One edge from a labeled vertex to another one. -/
def nulTree : Tree :=
  let root := Tree.ofRoot (some nulGraph) { table := ⟨"b", "V_a"⟩, labels := ["x\x00s"] }
  let first := (root.addChild? 0 { table := ⟨"b", "E_e"⟩, element := .edge }).getD root
  (first.addChild? 1 { table := ⟨"s\x00b", "V_a"⟩, labels := ["x"] }).getD first

theorem built_nulTree : nulTree.Built := by
  unfold nulTree
  exact ((Tree.Built.root _ _).addChild _ _).addChild _ _

instance : DecidablePred Column.Keyed :=
  fun cs ↦ inferInstanceAs (Decidable (∀ c ∈ cs, ∀ c' ∈ cs, c.key = c'.key → c = c'))

instance (r : RowReader) : Decidable r.TellsApart :=
  inferInstanceAs (Decidable (∀ c ∈ r.columns, ∀ c' ∈ r.columns,
    RowReader.groupKey c 0 = RowReader.groupKey c' 0 → c.labels = c'.labels ∧ c.table = c'.table))

/-- Columns are distinct if they are in every table of the index. -/
theorem distinctColumns_of_forall {g : Topology}
    (h : ∀ x ∈ g.tables, ∀ columns ∈ g.columns? x.1, columns.Nodup) : g.DistinctColumns := by
  intro table columns hcolumns
  obtain ⟨properties, hproperties, -⟩ := Option.map_eq_some_iff.mp hcolumns
  obtain ⟨info, hinfo, -⟩ := Option.map_eq_some_iff.mp hproperties
  exact h _ (mem_of_lookupKey hinfo) columns hcolumns

/-- The rows of the two edges in a row, where two vertices of one table have the same label, are
read back; those of the edge between the schemas are not. -/
theorem readsBack_arrows :
    (∃ st s' reader, (CompileM.statement inlineCompiler arrowTree .regular ⟨[1, 2, 3]⟩ []).Yields {}
        st s' ∧
      RowReader.ofNames arrowGraph s'.registry st.mode st.query.names = .ok reader ∧
      ∀ row : List Value, row.length = st.query.names.length →
        arrowTree.ReadsBack arrowGraph .regular ⟨[1, 2, 3]⟩ row (reader.read row)) ∧
    ∃ st s' reader, (CompileM.statement inlineCompiler nulTree .regular ⟨[1, 2]⟩ []).Yields {}
        st s' ∧
      RowReader.ofNames nulGraph s'.registry st.mode st.query.names = .ok reader ∧
      ¬∀ row : List Value, row.length = st.query.names.length →
        nulTree.ReadsBack nulGraph .regular ⟨[1, 2]⟩ row (reader.read row) := by
  constructor
  · obtain ⟨st, s', hst, hkeyed⟩ := CompileM.exists_yields (s := {})
      (m := CompileM.statement inlineCompiler arrowTree .regular ⟨[1, 2, 3]⟩ [])
      (P := fun _ s' ↦ Column.Keyed (s'.registry.since 0)) (by decide +kernel)
    obtain ⟨reader, hreader, hiff, htells⟩ := @readsBack_iff_tellsApart arrowTree built_arrowTree
      (by decide +kernel) arrowGraph rfl (distinctColumns_of_forall (by decide +kernel))
      inlineCompiler .regular _ rfl ⟨⟨[1, 2, 3]⟩, []⟩ (by decide +kernel) (by decide +kernel) {} s' st
      hst (of_decide_eq_true hkeyed) _ List.prefix_rfl
    exact ⟨st, s', reader, hst, hreader, hiff.mpr (htells (by decide +kernel))⟩
  · obtain ⟨st, s', hst, hchecked⟩ := CompileM.exists_yields (s := {})
      (m := CompileM.statement inlineCompiler nulTree .regular ⟨[1, 2]⟩ [])
      (P := fun st s' ↦ Column.Keyed (s'.registry.since 0) ∧
        ∃ reader ∈ (RowReader.ofNames nulGraph s'.registry st.mode st.query.names).toOption,
          ¬reader.TellsApart) (by decide +kernel)
    obtain ⟨hkeyed, reader', hreader', hruns⟩ := of_decide_eq_true hchecked
    obtain ⟨reader, hreader, hiff, -⟩ := @readsBack_iff_tellsApart nulTree built_nulTree
      (by decide +kernel) nulGraph rfl (distinctColumns_of_forall (by decide +kernel))
      inlineCompiler .regular _ rfl ⟨⟨[1, 2]⟩, []⟩ (by decide +kernel) (by decide +kernel) {} s' st
      hst hkeyed _ List.prefix_rfl
    rw [hreader] at hreader'
    obtain rfl : reader = reader' := Option.some.inj hreader'
    exact ⟨st, s', reader, hst, hreader, fun hreads ↦ hruns (hiff.mp hreads)⟩

/-! ## Many rows -/

namespace RowReader

variable {r : RowReader} {row : List Value}

/-- Whether the identity of the projected element is null. Its columns are those without labels. -/
def leafIsNull (r : RowReader) (row : List Value) : Bool :=
  match collect [] [] r.columns row with
  | .ok groups => groups.all fun g ↦ g.labels ≠ "" || (g.cell idColumn).isNull
  | .error _ => true

/-- Every row can be read. -/
def Readable (r : RowReader) (rows : List (List Value)) : Prop :=
  ∀ row ∈ rows, ∃ found, r.read row = .ok found

instance (r : RowReader) (rows : List (List Value)) : Decidable (r.Readable rows) :=
  decidable_of_iff (rows.all fun row ↦ (r.read row).toBool) <| by
    rw [List.all_eq_true, Readable]
    refine forall₂_congr fun row _ ↦ ?_
    cases r.read row <;> simp [Except.toBool]

/-- The results of rows, in order. -/
def readAll (r : RowReader) (rows : List (List Value)) : List Result :=
  rows.filterMap fun row ↦ (r.read row).toOption.join

theorem readAll_cons {found : Option Result} (h : r.read row = .ok found)
    (rows : List (List Value)) : r.readAll (row :: rows) = found.toList ++ r.readAll rows := by
  rw [readAll, List.filterMap_cons, h, ← readAll]
  cases found <;> rfl

theorem readAll_append (rows rows' : List (List Value)) :
    r.readAll (rows ++ rows') = r.readAll rows ++ r.readAll rows' := List.filterMap_append

theorem exists_of_read_eq_ok {found : Option Result} (h : r.read row = .ok found) :
    ∃ groups es, collect [] [] r.columns row = .ok groups ∧
      List.Forall₂ (fun g e ↦ g.element? r.topology = .ok e) groups es ∧
      found = combine r.mode ((groups.map (·.labels)).zip es) := by
  obtain ⟨groups, hgroups, -⟩ := bind_eq_ok_iff.mp h
  rw [read_eq r hgroups] at h
  obtain ⟨es, hes, hfound⟩ := map_eq_ok_iff.mp h
  exact ⟨groups, es, hgroups, mapM_eq_ok_iff.mp hes, hfound.symm⟩

theorem mode_of_read_eq_ok {result : Result} (h : r.read row = .ok (some result)) :
    result.mode = r.mode := by
  obtain ⟨_, _, -, -, hresult⟩ := exists_of_read_eq_ok h
  exact (combine_eq_some hresult.symm).1

/-- A row is passed over just when the identity of its projected element is null. -/
theorem eq_none_iff_leafIsNull {found : Option Result} (h : r.read row = .ok found) :
    found = none ↔ r.leafIsNull row := by
  obtain ⟨groups, es, hgroups, hes, rfl⟩ := exists_of_read_eq_ok h
  rw [combine_eq_none_iff, leafIsNull, hgroups, firstPlain]
  dsimp only
  clear hgroups h
  induction hes with
  | nil => simp
  | @cons g e groups es he _ ih =>
    have hnull : e = none ↔ (g.cell idColumn).isNull := by
      rw [Value.isNull_iff, ← RowGroup.element?_eq_none_iff, he, Except.ok.injEq]
    rw [List.map_cons, List.zip_cons_cons, List.all_cons, Bool.and_eq_true, ← ih,
      List.findSome?_eq_none_iff, List.forall_mem_cons, ← List.findSome?_eq_none_iff]
    by_cases hlabels : g.labels = "" <;> simp [hlabels, hnull]

/-- The results of rows are those of the rows that have a projected element. -/
theorem forall₂_readAll {rows : List (List Value)} (h : r.Readable rows) :
    List.Forall₂ (fun row result ↦ r.read row = .ok (some result))
      (rows.filter fun row ↦ !r.leafIsNull row) (r.readAll rows) := by
  induction rows with
  | nil => exact .nil
  | cons row rows ih =>
    rw [Readable, List.forall_mem_cons] at h
    obtain ⟨⟨found, hfound⟩, hrows⟩ := h
    have hnull := eq_none_iff_leafIsNull hfound
    rw [readAll_cons hfound]
    cases found with
    | none =>
      rw [List.filter_cons_of_neg (by simp [← hnull])]
      exact ih hrows
    | some result =>
      rw [List.filter_cons_of_pos (by simpa using hnull)]
      exact .cons hfound (ih hrows)

end RowReader

end PathQuery
