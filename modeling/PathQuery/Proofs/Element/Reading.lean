import PathQuery.Proofs.Element.Group

/-!
# From groups to a result

Every group of a row has an element or none, and reading fails at the first group whose cells
cannot be converted. When all can, the elements are put together in the order of their groups: the
first one without labels is the projected one, and every other is listed once under each of its
labels.
-/

namespace PathQuery

/-! ## Labels joined and cut -/

/-- The labels of a step, from the text that joins them. -/
def labelsIn (labels : String) : List String := (Column.mk labels default "").labelSet

theorem labelsIn_empty : labelsIn "" = [] := rfl

theorem mem_of_mem_intercalate {α : Type} {a : α} {sep : List α} {xs : List (List α)}
    (h : a ∈ sep.intercalate xs) (hsep : a ∉ sep) : ∃ x ∈ xs, a ∈ x := by
  induction xs with
  | nil => cases h
  | cons x xs ih =>
    by_cases hne : xs = []
    · subst hne
      exact ⟨x, by simp, by simpa using h⟩
    · rw [List.intercalate_cons_of_ne_nil hne, List.append_assoc] at h
      rcases List.mem_append.mp h with h | h
      · exact ⟨x, by simp, h⟩
      · obtain ⟨y, hy, hmem⟩ := ih ((List.mem_append.mp h).resolve_left hsep)
        exact ⟨y, List.mem_cons_of_mem _ hy, hmem⟩

/-- Cutting the joined labels gives them back, in order. -/
theorem splitOn_joinLabels {labels : List String} (hne : labels ≠ [])
    (hlabels : ∀ l ∈ labels, '.' ∉ l.toList) :
    (joinLabels labels).toList.splitOn '.' =
      (labels.mergeSort fun a b ↦ decide (a ≤ b)).map String.toList := by
  rw [joinLabels, String.toList_intercalate]
  refine List.splitOn_intercalate '.' ?_ ?_
  · intro cs hcs
    obtain ⟨l, hl, rfl⟩ := List.mem_map.mp hcs
    exact hlabels l (List.mem_mergeSort.mp hl)
  · rw [Ne, List.map_eq_nil_iff, ← List.length_eq_zero_iff, List.length_mergeSort]
    exact fun hnil ↦ hne (List.length_eq_zero_iff.mp hnil)

/-- Joining labels adds points only. -/
theorem mem_of_mem_joinLabels {labels : List String} {c : Char} (hc : c ≠ '.')
    (h : c ∈ (joinLabels labels).toList) : ∃ l ∈ labels, c ∈ l.toList := by
  rw [joinLabels, String.toList_intercalate] at h
  obtain ⟨cs, hcs, hmem⟩ := mem_of_mem_intercalate h (by simpa using hc)
  obtain ⟨l, hl, rfl⟩ := List.mem_map.mp hcs
  exact ⟨l, List.mem_mergeSort.mp hl, hmem⟩

/-- A text without points that joins some labels is the only one of them. -/
theorem eq_singleton_of_joinLabels {labels : List String} (hne : labels ≠ [])
    (hlabels : ∀ l ∈ labels, '.' ∉ l.toList) {label : String} (hlabel : '.' ∉ label.toList)
    (h : joinLabels labels = label) : labels = [label] := by
  have hcut := splitOn_joinLabels hne hlabels
  have hone : label.toList.splitOn '.' = [label.toList] := by
    have hsplit := List.splitOn_intercalate '.' (List.forall_mem_singleton.mpr hlabel)
      (List.cons_ne_nil label.toList [])
    simpa using hsplit
  rw [h, hone] at hcut
  obtain ⟨l, ls, hsorted, hl, hls⟩ := List.map_eq_cons_iff.mp hcut.symm
  rw [List.map_eq_nil_iff.mp hls, String.toList_inj.mp hl] at hsorted
  have hperm := List.mergeSort_perm labels fun a b ↦ decide (a ≤ b)
  rw [hsorted] at hperm
  exact List.perm_singleton.mp hperm.symm

/-- Labels that are joined are labels still, unless the only one is that of the helpers. -/
theorem isLabeled_joinLabels {labels : List String} (hne : labels ≠ [])
    (hlabels : ∀ l ∈ labels, l ≠ "" ∧ '.' ∉ l.toList) (table : Table) (name : String) :
    (Column.mk (joinLabels labels) table name).isLabeled ↔ labels ≠ [hiddenLabels] := by
  have hpoints : ∀ l ∈ labels, '.' ∉ l.toList := fun l hl ↦ (hlabels l hl).2
  have hempty : joinLabels labels ≠ "" := by
    intro h
    have hsingle := eq_singleton_of_joinLabels hne hpoints (by decide) h
    exact (hlabels "" (by simp [hsingle])).1 rfl
  have hhidden : joinLabels labels = hiddenLabels ↔ labels = [hiddenLabels] := by
    refine ⟨eq_singleton_of_joinLabels hne hpoints (by decide), ?_⟩
    rintro rfl
    simp [joinLabels]
  simp [Column.isLabeled, hempty, hhidden]

/-- The labels of a step are those that have been joined, in order. -/
theorem labelsIn_joinLabels {labels : List String} (hne : labels ≠ [])
    (hlabels : ∀ l ∈ labels, l ≠ "" ∧ '.' ∉ l.toList) (hhidden : labels ≠ [hiddenLabels]) :
    labelsIn (joinLabels labels) = labels.mergeSort fun a b ↦ decide (a ≤ b) := by
  rw [labelsIn, Column.labelSet, if_pos ((isLabeled_joinLabels hne hlabels _ _).mpr hhidden),
    splitOn_joinLabels hne fun l hl ↦ (hlabels l hl).2, List.map_map]
  simp [Function.comp_def]

/-- The labels of a step are those of its joined labels, each once. -/
theorem count_labelsIn_joinLabels {labels : List String} (hne : labels ≠ [])
    (hnodup : labels.Nodup) (hlabels : ∀ l ∈ labels, l ≠ "" ∧ '.' ∉ l.toList)
    (hhidden : labels ≠ [hiddenLabels]) (l : String) :
    (labelsIn (joinLabels labels)).count l = if l ∈ labels then 1 else 0 := by
  rw [labelsIn_joinLabels hne hlabels hhidden, (List.mergeSort_perm labels _).count_eq,
    List.Nodup.count hnodup]

/-! ## Putting elements together -/

namespace Result

theorem labeledWith_addLabeled (r : Result) (e : Element) (label l : String) :
    (r.addLabeled e label).labeledWith l =
      r.labeledWith l ++ if label = l then [e] else [] := by
  rw [labeledWith, addLabeled, lookupKey_putKey]
  by_cases h : label = l
  · rw [if_pos (by simpa using h), if_pos h, Option.getD_some, h]
  · rw [if_neg (by simpa using h), if_neg h, List.append_nil, labeledWith]

/-- An element is listed once for each time a label comes. -/
theorem labeledWith_foldl_addLabeled (r : Result) (e : Element) (labels : List String)
    (l : String) :
    (labels.foldl (fun r l ↦ r.addLabeled e l) r).labeledWith l =
      r.labeledWith l ++ List.replicate (labels.count l) e := by
  induction labels generalizing r with
  | nil => simp
  | cons label labels ih =>
    rw [List.foldl_cons, ih, labeledWith_addLabeled, List.append_assoc, List.count_cons]
    by_cases h : label = l
    · rw [if_pos h, if_pos (by simpa using h), Nat.add_comm, List.replicate_add]
      rfl
    · rw [if_neg h, if_neg (by simpa using h), List.nil_append, Nat.add_zero]

theorem mode_foldl_addLabeled (r : Result) (e : Element) (labels : List String) :
    (labels.foldl (fun r l ↦ r.addLabeled e l) r).mode = r.mode := by
  induction labels generalizing r with
  | nil => rfl
  | cons label labels ih => rw [List.foldl_cons, ih]; rfl

end Result

namespace RowReader

/-- Adds the element of a group with these labels, if it has one, to what has been read of a
row. -/
def addReading (read : Option Element × Result) (x : String × Option Element) :
    Option Element × Result :=
  x.2.elim read (addElement read { key := "", labels := x.1, table := default })

/-- The first element without labels. -/
def firstPlain (xs : List (String × Option Element)) : Option Element :=
  xs.findSome? fun x ↦ if x.1 = "" then x.2 else none

/-- The elements with a label, in order. -/
def withLabel (xs : List (String × Option Element)) (l : String) : List Element :=
  xs.flatMap fun x ↦ x.2.toList.flatMap fun e ↦ List.replicate ((labelsIn x.1).count l) e

/-- If every group has an element, as many are listed under a label as groups have it. -/
theorem length_withLabel {xs : List (String × Option Element)} {l : String}
    (hsome : ∀ x ∈ xs, x.2.isSome) (honce : ∀ x ∈ xs, (labelsIn x.1).count l ≤ 1) :
    (withLabel xs l).length = xs.countP fun x ↦ l ∈ labelsIn x.1 := by
  induction xs with
  | nil => rfl
  | cons x xs ih =>
    obtain ⟨hx, hxs⟩ := List.forall_mem_cons.mp hsome
    obtain ⟨hcount, hcounts⟩ := List.forall_mem_cons.mp honce
    obtain ⟨e, he⟩ := Option.isSome_iff_exists.mp hx
    have hlength : (x.2.toList.flatMap fun e ↦
        List.replicate ((labelsIn x.1).count l) e).length = (labelsIn x.1).count l := by
      simp [he]
    rw [List.countP_cons, ← ih hxs hcounts, withLabel, withLabel, List.flatMap_cons,
      List.length_append, hlength, Nat.add_comm]
    by_cases hl : l ∈ labelsIn x.1
    · have hpos := List.count_pos_iff.mpr hl
      rw [if_pos (by simpa using hl)]
      omega
    · rw [if_neg (by simpa using hl), List.count_eq_zero.mpr hl]

/-- What has been read of a row once the elements of some groups have been added. -/
theorem foldl_addReading (xs : List (String × Option Element)) (read : Option Element × Result) :
    (xs.foldl addReading read).1 = (read.1 <|> firstPlain xs) ∧
      (xs.foldl addReading read).2.mode = read.2.mode ∧
      ∀ l, (xs.foldl addReading read).2.labeledWith l = read.2.labeledWith l ++ withLabel xs l := by
  induction xs generalizing read with
  | nil => simp [firstPlain, withLabel]
  | cons x xs ih =>
    obtain ⟨labels, element⟩ := x
    obtain ⟨hfirst, hmode, hlabeled⟩ := ih (addReading read (labels, element))
    rw [List.foldl_cons, hfirst, hmode]
    simp only [hlabeled]
    cases element with
    | none => simp [addReading, firstPlain, withLabel]
    | some e =>
      by_cases hempty : labels = ""
      · subst hempty
        have hadd : addReading read ("", some e) = (read.1 <|> some e, read.2) := rfl
        rw [hadd]
        simp only [firstPlain, withLabel, List.findSome?_cons, if_pos, List.flatMap_cons]
        cases read.1 <;> simp [labelsIn_empty]
      · have hadd : addReading read (labels, some e) =
            (read.1, (labelsIn labels).foldl (fun r l ↦ r.addLabeled e l) read.2) := by
          rw [addReading, Option.elim_some, addElement, if_neg hempty]
          rfl
        rw [hadd]
        refine ⟨?_, Result.mode_foldl_addLabeled _ _ _, fun l ↦ ?_⟩
        · simp [firstPlain, hempty]
        · rw [Result.labeledWith_foldl_addLabeled, List.append_assoc]
          simp [withLabel]

/-- The result of the elements of some groups. -/
def combine (mode : Mode) (xs : List (String × Option Element)) : Option Result :=
  let read := xs.foldl addReading (none, { mode, element := default })
  read.1.map fun element ↦ { read.2 with element }

theorem combine_eq_none_iff {mode : Mode} {xs : List (String × Option Element)} :
    combine mode xs = none ↔ firstPlain xs = none := by
  rw [combine, Option.map_eq_none_iff, (foldl_addReading xs _).1]
  simp

theorem combine_eq_some {mode : Mode} {xs : List (String × Option Element)} {r : Result}
    (h : combine mode xs = some r) :
    r.mode = mode ∧ firstPlain xs = some r.element ∧ ∀ l, r.labeledWith l = withLabel xs l := by
  obtain ⟨hfirst, hmode, hlabeled⟩ := foldl_addReading xs (none, { mode, element := default })
  obtain ⟨element, helement, rfl⟩ := Option.map_eq_some_iff.mp h
  rw [hfirst] at helement
  exact ⟨hmode, by simpa using helement, fun l ↦ hlabeled l⟩

/-- Groups that can all be converted are added one after the other. -/
theorem foldlM_addReading (t : Topology)
    {f : Option Element × Result → RowGroup → Except RowError (Option Element × Result)}
    (hf : ∀ read g, f read g = (g.element? t).map fun e ↦ addReading read (g.labels, e))
    (groups : List RowGroup) (read : Option Element × Result) :
    groups.foldlM f read = (groups.mapM (RowGroup.element? t)).map fun es ↦
      ((groups.map (·.labels)).zip es).foldl addReading read := by
  induction groups generalizing read with
  | nil => rfl
  | cons g groups ih =>
    rw [List.foldlM_cons, List.mapM_cons, hf]
    cases hg : g.element? t with
    | error e => rfl
    | ok element =>
      change groups.foldlM _ (addReading read (g.labels, element)) = _
      rw [ih]
      cases hrest : groups.mapM (RowGroup.element? t) with
      | error e => rfl
      | ok es => rfl

/-- Reading fails at the first group that cannot be converted and puts the elements together
otherwise. -/
theorem read_eq (r : RowReader) {row : List Value} {groups : List RowGroup}
    (h : collect [] [] r.columns row = .ok groups) :
    r.read row = (groups.mapM (RowGroup.element? r.topology)).map fun es ↦
      combine r.mode ((groups.map (·.labels)).zip es) := by
  rw [read, h]
  refine (congrArg (fun x : Except RowError (Option Element × Result) ↦
    x >>= fun read ↦ pure (read.1.map fun element ↦ { read.2 with element }))
    (foldlM_addReading r.topology (fun read g ↦ ?_) groups
      (none, { mode := r.mode, element := default }))).trans ?_
  · cases hg : g.element? r.topology with
    | error e => rfl
    | ok element => cases element <;> rfl
  · cases hes : groups.mapM (RowGroup.element? r.topology) with
    | error e => rfl
    | ok es => rfl

end RowReader

end PathQuery
