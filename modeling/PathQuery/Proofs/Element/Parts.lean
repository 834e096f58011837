import PathQuery.Proofs.Compile.Reference
import PathQuery.Proofs.Compile.Registry
import PathQuery.Proofs.Element.Reading

/-!
# The parts of a row

What a path shows are all columns of its end and all columns of its labeled steps, so a row falls
into *parts*, one for each time a step is shown. A labeled end is shown twice and has two parts.
The aliases of a statement lead back to the logical columns of these parts, in order, whatever
has been registered before or since; the parts are then the occurrences that the groups of the row
have to keep apart.
-/

namespace PathQuery

/-! ## Aliases lead back to columns -/

namespace Slot

/-- Where the alias of a named slot stands. -/
theorem exists_index_of_mem_nameAll {k : ℕ} {xs : List Slot} {q : Projected}
    (h : q ∈ nameAll k xs) : ∃ i, xs[i]? = some q.slot ∧ q.name = aliasName (k + i) := by
  induction xs generalizing k with
  | nil => cases h
  | cons x xs ih =>
    rcases List.mem_cons.mp h with rfl | h
    · exact ⟨0, rfl, rfl⟩
    · obtain ⟨i, hi, hname⟩ := ih h
      exact ⟨i + 1, hi, by rw [hname, Nat.add_assoc, Nat.add_comm 1 i]⟩

end Slot

/-- The aliases that a statement has given out name its slots, also in a registry that has been
given more since. -/
theorem column?_of_mem_nameAll {t : Tree} {s : CompileState} {slots : List Slot} {r : Registry}
    (hr : (s.withSlots t slots).registry.columns.toList <+: r.columns.toList) {q : Projected}
    (hq : q ∈ Slot.nameAll s.registry.size slots) :
    r.column? q.name = some (t.slotColumn q.slot) := by
  obtain ⟨i, hi, hname⟩ := Slot.exists_index_of_mem_nameAll hq
  rw [hname]
  have hregistered : (s.withSlots t slots).registry.columns.toList[s.registry.size + i]? =
      some (t.slotColumn q.slot) := by
    have hsize : s.registry.size = s.registry.columns.toList.length := rfl
    rw [CompileState.withSlots, Array.toList_append, List.toList_toArray, hsize,
      List.getElem?_append_right (Nat.le_add_right _ _), Nat.add_sub_cancel_left,
      List.getElem?_map, hi]
    rfl
  obtain ⟨later, hlater⟩ := hr
  refine Registry.column?_aliasName ?_
  rw [← hlater, List.getElem?_append_left (List.getElem?_eq_some_iff.mp hregistered).1, hregistered]

/-- Different columns have different keys. -/
def Column.Keyed (cs : List Column) : Prop := ∀ c ∈ cs, ∀ c' ∈ cs, c.key = c'.key → c = c'

/-! ## Parts -/

namespace Tree

/-- Each time a step is shown, with the reason. -/
def parts (t : Tree) (leaf : NodeId) (ids : List NodeId) : List (NodeId × Role) :=
  ids.flatMap fun id ↦
    (if id = leaf then [(id, .result)] else []) ++
      if (t.nodeAt id).isLabeled then [(id, .labeled)] else []

/-- The occurrence of a part. -/
def occurrence (t : Tree) (x : NodeId × Role) : Occurrence :=
  ⟨x.2.labels (t.nodeAt x.1), (t.nodeAt x.1).table, t.columnsAt x.1⟩

/-- The value of a slot in a row of the answer. -/
def valueAt (t : Tree) (p : Path) (row : List Value) (s : Slot) : Value :=
  row.getD ((t.shownSlots p.leaf p.all).idxOf s) .null

/-- The values of a part in a row of the answer. -/
def slice (t : Tree) (p : Path) (row : List Value) (x : NodeId × Role) : List Value :=
  (t.nodeSlots x.1 x.2).map (t.valueAt p row)

variable {t : Tree} {leaf : NodeId} {ids : List NodeId} {p : Path}

theorem shownSlots_eq_flatMap_parts (t : Tree) (leaf : NodeId) (ids : List NodeId) :
    t.shownSlots leaf ids = (t.parts leaf ids).flatMap fun x ↦ t.nodeSlots x.1 x.2 := by
  rw [shownSlots, parts, List.flatMap_assoc]
  refine List.flatMap_congr fun id _ ↦ ?_
  split <;> split <;> simp

theorem mem_parts {x : NodeId × Role} : x ∈ t.parts leaf ids ↔
    x.1 ∈ ids ∧ (x = (leaf, .result) ∨ x.2 = .labeled ∧ (t.nodeAt x.1).isLabeled) := by
  obtain ⟨id, role⟩ := x
  rw [parts, List.mem_flatMap]
  constructor
  · rintro ⟨id', hid', hmem⟩
    rcases List.mem_append.mp hmem with hmem | hmem
    · split at hmem
      · next heq =>
        obtain ⟨rfl, rfl⟩ := Prod.mk.inj (List.mem_singleton.mp hmem)
        exact ⟨hid', .inl (by rw [heq])⟩
      · cases hmem
    · split at hmem
      · next hlabeled =>
        obtain ⟨rfl, rfl⟩ := Prod.mk.inj (List.mem_singleton.mp hmem)
        exact ⟨hid', .inr ⟨rfl, hlabeled⟩⟩
      · cases hmem
  · rintro ⟨hid, heq | ⟨hrole, hlabeled⟩⟩
    · obtain ⟨rfl, rfl⟩ := Prod.mk.inj heq
      exact ⟨id, hid, List.mem_append_left _ (by simp)⟩
    · refine ⟨id, hid, List.mem_append_right _ ?_⟩
      rw [if_pos hlabeled]
      simpa using hrole

theorem result_mem_parts (t : Tree) (p : Path) : (p.leaf, Role.result) ∈ t.parts p.leaf p.all :=
  mem_parts.mpr ⟨List.mem_of_getLast? (getLast?_all p), .inl rfl⟩

theorem nodup_parts (hnodup : ids.Nodup) : (t.parts leaf ids).Nodup := by
  refine List.nodup_flatMap.mpr ⟨fun id _ ↦ ?_, hnodup.imp fun {a b} hne ↦ ?_⟩
  · split <;> split <;> simp
  · intro x hx hx'
    have hnode : ∀ {id : NodeId}, x ∈ (if id = leaf then [(id, Role.result)] else []) ++
        (if (t.nodeAt id).isLabeled then [(id, Role.labeled)] else []) → x.1 = id := by
      intro id hmem
      have hpart : x ∈ t.parts leaf [id] := by simpa [parts] using hmem
      simpa using (mem_parts.mp hpart).1
    exact hne ((hnode hx).symm.trans (hnode hx'))

/-- No slot is shown twice. -/
theorem nodup_shownSlots (hnodup : ids.Nodup)
    (hcolumns : ∀ x ∈ t.parts leaf ids, (t.columnsAt x.1).Nodup) :
    (t.shownSlots leaf ids).Nodup := by
  rw [shownSlots_eq_flatMap_parts]
  refine List.nodup_flatMap.mpr ⟨fun x hx ↦ ?_, (nodup_parts hnodup).imp fun {x y} hne ↦ ?_⟩
  · exact (hcolumns x hx).map fun _ _ h ↦ (Slot.mk.inj h).2.2
  · intro s hs hs'
    obtain ⟨c, -, rfl⟩ := List.mem_map.mp hs
    obtain ⟨c', -, heq⟩ := List.mem_map.mp hs'
    obtain ⟨hnode, hrole, -⟩ := Slot.mk.inj heq
    exact hne (Prod.ext hnode.symm hrole.symm)

/-- The logical columns of what is shown are those of the occurrences of the parts. -/
theorem map_slotColumn_shownSlots (t : Tree) (leaf : NodeId) (ids : List NodeId) :
    (t.shownSlots leaf ids).map t.slotColumn =
      ((t.parts leaf ids).map t.occurrence).flatMap Occurrence.logical := by
  rw [shownSlots_eq_flatMap_parts, List.map_flatMap, List.flatMap_map]
  refine List.flatMap_congr fun x _ ↦ ?_
  rw [nodeSlots, List.map_map]
  rfl

theorem length_slice (p : Path) (row : List Value) (x : NodeId × Role) :
    (t.slice p row x).length = (t.occurrence x).columns.length := by
  simp [slice, nodeSlots, occurrence]

/-- A row is made up of the slices of its parts. -/
theorem flatten_slices (hnodup : (t.shownSlots p.leaf p.all).Nodup) {row : List Value}
    (hrow : row.length = (t.shownSlots p.leaf p.all).length) :
    ((t.parts p.leaf p.all).map (t.slice p row)).flatten = row := by
  have hvalues : (t.shownSlots p.leaf p.all).map (t.valueAt p row) = row := by
    refine List.ext_getElem (by simpa using hrow.symm) fun i hi hi' ↦ ?_
    rw [List.getElem_map, valueAt, hnodup.idxOf_getElem, List.getD_eq_getElem?_getD,
      List.getElem?_eq_getElem hi', Option.getD_some]
  conv_rhs => rw [← hvalues, shownSlots_eq_flatMap_parts, List.map_flatMap]
  rfl

/-- The values of a row that is given by slots. -/
theorem valueAt_map {f : Slot → Value} {s : Slot} (hs : s ∈ t.shownSlots p.leaf p.all) :
    t.valueAt p ((t.shownSlots p.leaf p.all).map f) s = f s := by
  rw [valueAt, List.getD_eq_getElem?_getD, List.getElem?_map, List.getElem?_idxOf hs,
    Option.map_some, Option.getD_some]

/-! ## Parts that can be told apart -/

/-- Nothing stands in the way of reading the rows of a path but the keys of the groups. -/
structure Legible (t : Tree) (p : Path) : Prop where
  /-- No step comes twice. -/
  nodup : p.all.Nodup
  /-- The columns of a part are different, and its identity comes first. -/
  columns : ∀ x ∈ t.parts p.leaf p.all,
    (t.columnsAt x.1).Nodup ∧ (t.columnsAt x.1).head? = some idColumn
  /-- No label comes twice at a step, has a point in it, or is empty. -/
  labels : ∀ id ∈ p.all, (t.nodeAt id).labels.Nodup ∧
    ∀ l ∈ (t.nodeAt id).labels, l ≠ "" ∧ '.' ∉ l.toList
  /-- No step is labeled like a helper. -/
  visible : ∀ id ∈ p.all, (t.nodeAt id).labels ≠ [hiddenLabels]
  /-- Different columns have different keys. -/
  keyed : Column.Keyed ((t.shownSlots p.leaf p.all).map t.slotColumn)

namespace Legible

/-- A label counts once at each part of a labeled step that has it. -/
theorem count_labelsIn (h : t.Legible p) {x : NodeId × Role} (hx : x ∈ t.parts p.leaf p.all)
    (l : String) : (labelsIn (t.occurrence x).labels).count l =
      if x.2 = .labeled ∧ l ∈ (t.nodeAt x.1).labels then 1 else 0 := by
  obtain ⟨hid, rfl | ⟨hrole, hlabeled⟩⟩ := mem_parts.mp hx
  · rw [if_neg (by simp)]
    rfl
  · obtain ⟨hnodup, hlabels⟩ := h.labels x.1 hid
    have hne : (t.nodeAt x.1).labels ≠ [] := by simpa [Node.isLabeled] using hlabeled
    have hjoined : (t.occurrence x).labels = joinLabels (t.nodeAt x.1).labels := by
      rw [occurrence, hrole]
      rfl
    rw [hjoined, count_labelsIn_joinLabels hne hnodup hlabels (h.visible x.1 hid)]
    simp [hrole]

/-- Only the part of the projected element has no labels. -/
theorem labels_eq_empty_iff (h : t.Legible p) {x : NodeId × Role}
    (hx : x ∈ t.parts p.leaf p.all) : (t.occurrence x).labels = "" ↔ x = (p.leaf, .result) := by
  refine ⟨fun hempty ↦ ?_, fun heq ↦ by rw [heq]; rfl⟩
  obtain ⟨-, heq | ⟨hrole, hlabeled⟩⟩ := mem_parts.mp hx
  · exact heq
  · -- a labeled step has a label, which then is among those of the empty text
    have hne : (t.nodeAt x.1).labels ≠ [] := by simpa [Node.isLabeled] using hlabeled
    obtain ⟨l, hl⟩ := List.exists_mem_of_ne_nil _ hne
    have hcount := h.count_labelsIn hx l
    rw [hempty, labelsIn_empty, if_pos ⟨hrole, hl⟩] at hcount
    simp at hcount

theorem nodup_shownSlots (h : t.Legible p) : (t.shownSlots p.leaf p.all).Nodup :=
  Tree.nodup_shownSlots h.nodup fun x hx ↦ (h.columns x hx).1

theorem separable (h : t.Legible p) :
    RowReader.Separable ((t.parts p.leaf p.all).map t.occurrence) where
  visible := by
    intro o ho
    obtain ⟨x, hx, rfl⟩ := List.mem_map.mp ho
    obtain ⟨hid, rfl | ⟨hrole, hlabeled⟩⟩ := mem_parts.mp hx
    · simp [occurrence, Role.labels, hiddenLabels]
    · have hne : (t.nodeAt x.1).labels ≠ [] := by simpa [Node.isLabeled] using hlabeled
      rw [occurrence, hrole]
      exact fun heq ↦ h.visible x.1 hid (eq_singleton_of_joinLabels hne
        (fun l hl ↦ ((h.labels x.1 hid).2 l hl).2) (by decide) heq)
  nodup := by
    intro o ho
    obtain ⟨x, hx, rfl⟩ := List.mem_map.mp ho
    exact (h.columns x hx).1
  identified := by
    intro o ho
    obtain ⟨x, hx, rfl⟩ := List.mem_map.mp ho
    exact (h.columns x hx).2
  alike := by
    intro o ho o' ho' hkind
    obtain ⟨x, -, rfl⟩ := List.mem_map.mp ho
    obtain ⟨y, -, rfl⟩ := List.mem_map.mp ho'
    have htable : (t.nodeAt x.1).table = (t.nodeAt y.1).table := (Prod.mk.inj hkind).2
    rw [occurrence, occurrence, columnsAt, columnsAt, htable]
  keyed := by
    intro o ho o' ho' c hc c' hc'
    have hkeyed := h.keyed
    rw [map_slotColumn_shownSlots] at hkeyed
    exact hkeyed c (List.mem_flatMap.mpr ⟨o, ho, hc⟩) c' (List.mem_flatMap.mpr ⟨o', ho', hc'⟩)

end Legible

end Tree

/-- The columns of a compiled path are read as the occurrences of its parts. -/
theorem Compiles.ofNames_eq {c : Compiler} {t : Tree} {p : Path} {branches : List NodeId}
    {q : Query} {tables : List MembershipTable} {slots : List Slot} {s : CompileState}
    (h : Compiles c t p branches s.registry.size q tables slots) {r : Registry}
    (hr : (s.withSlots t slots).registry.columns.toList <+: r.columns.toList) (g : Topology)
    (mode : Mode) : RowReader.ofNames g r mode q.names =
      .ok ⟨g, mode, ((t.parts p.leaf p.all).map t.occurrence).flatMap Occurrence.logical⟩ := by
  obtain ⟨qs, hsub, hslots, hnames⟩ := h.exists_shown
  rw [← Tree.map_slotColumn_shownSlots, ← hslots, List.map_map, RowReader.ofNames, bind_eq_ok_iff]
  refine ⟨_, mapM_eq_ok_iff.mpr ?_, rfl⟩
  rw [hnames, List.forall₂_map_left_iff, List.forall₂_map_right_iff, List.forall₂_same]
  intro x hx
  rw [column?_of_mem_nameAll hr (hsub hx)]
  rfl

end PathQuery
