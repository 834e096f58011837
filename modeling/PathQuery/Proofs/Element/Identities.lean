import PathQuery.Proofs.Element.Decoding

/-!
# The identities of a row

That the elements of a row arrive under their labels rests on the identities alone. Every identity
cell is put into a group that has none yet, because the count of its column has gone up with each
identity before; so the groups of a row have its identities between them, whatever becomes of the
other cells.
-/

namespace PathQuery

/-! ## Identities and groups -/

/-- The identity of a group, with its labels and its table. -/
def RowGroup.identity? (g : RowGroup) : Option (String × Table × Value) :=
  (lookupKey idColumn g.cells).map (g.labels, g.table, ·)

theorem lookupKey_idColumn_putKey {name : String} (hname : name ≠ idColumn) (v : Value)
    (cells : List (String × Value)) :
    lookupKey idColumn (putKey name v cells) = lookupKey idColumn cells := by
  rw [lookupKey_putKey, if_neg (by simpa using hname)]

theorem RowGroup.identity?_put_id (g : RowGroup) (v : Value) :
    identity? { g with cells := putKey idColumn v g.cells } = some (g.labels, g.table, v) := by
  rw [identity?, lookupKey_putKey, if_pos (beq_self_eq_true _), Option.map_some]

theorem RowGroup.identity?_put_of_ne (g : RowGroup) {name : String} (hname : name ≠ idColumn)
    (v : Value) : identity? { g with cells := putKey name v g.cells } = g.identity? := by
  rw [identity?, identity?, lookupKey_idColumn_putKey hname]

namespace RowReader

/-- The identities among the cells of a row, with their labels and tables. -/
def identities (cs : List Column) (row : List Value) : List (String × Table × Value) :=
  ((cs.zip row).filter fun x ↦ !x.1.isHidden && x.1.name == idColumn).map fun x ↦
    (x.1.labels, x.1.table, x.2.asCell)

variable {r : RowReader}

/-- Groups are opened by columns, and an identity in one of them has been counted. -/
def Counted (r : RowReader) (seen : List String) (groups : List RowGroup) : Prop :=
  ∀ g ∈ groups, ∃ c ∈ r.columns, g.labels = c.labels ∧ g.table = c.table ∧
    ∃ n, g.key = groupKey c n ∧ ((lookupKey idColumn g.cells).isSome →
      n < seen.count (Column.mk c.labels c.table idColumn).key)

/-- The key of a group tells its labels, its table and its count. -/
theorem TellsApart.eq_of_groupKey (h : r.TellsApart) {c c' : Column} (hc : c ∈ r.columns)
    (hc' : c' ∈ r.columns) {n n' : ℕ} (heq : groupKey c n = groupKey c' n') :
    c.labels = c'.labels ∧ c.table = c'.table ∧ n = n' := by
  have hkey : (⟨c.labels, c.table, []⟩ : Occurrence).groupKey n =
      (⟨c'.labels, c'.table, []⟩ : Occurrence).groupKey n' := heq
  obtain ⟨hstem, rfl⟩ := Occurrence.groupKey_inj hkey
  obtain ⟨hlabels, htable⟩ := h c hc c' hc' (Occurrence.groupKey_of_stem hstem 0)
  exact ⟨hlabels, htable, rfl⟩

/-- A cell opens a group or goes into one. -/
theorem putCell_cases (key : String) (c : Column) (v : Value) (groups : List RowGroup) :
    putCell key c v groups = groups ++ [⟨key, c.labels, c.table, [(c.name, v)]⟩] ∨
      ∃ (before : List RowGroup) (g : RowGroup) (after : List RowGroup),
        groups = before ++ g :: after ∧ g.key = key ∧
        putCell key c v groups = before ++ { g with cells := putKey c.name v g.cells } :: after := by
  induction groups with
  | nil => exact .inl rfl
  | cons g groups ih =>
    rw [putCell]
    split
    · next hkey => exact .inr ⟨[], g, groups, rfl, beq_iff_eq.mp hkey, rfl⟩
    · rcases ih with hopen | ⟨before, g', after, rfl, hkey, hput⟩
      · exact .inl (by rw [hopen, List.cons_append])
      · exact .inr ⟨g :: before, g', after, rfl, hkey, by rw [hput, List.cons_append]⟩

/-- Groups stay counted when more has been seen. -/
theorem Counted.cons {seen : List String} {groups : List RowGroup} (h : r.Counted seen groups)
    (key : String) : r.Counted (key :: seen) groups := by
  intro g hg
  obtain ⟨c, hc, hlabels, htable, n, hn, hid⟩ := h g hg
  exact ⟨c, hc, hlabels, htable, n, hn, fun hsome ↦
    (hid hsome).trans_le (List.count_le_count_cons ..)⟩

/-- A cell goes with its own labels and table, and an identity into a group that has none yet. -/
theorem Counted.putCell (htells : r.TellsApart) {seen : List String} {groups : List RowGroup}
    (h : r.Counted seen groups) {c : Column} (hc : c ∈ r.columns) (v : Value) :
    r.Counted (c.key :: seen) (putCell (groupKey c (seen.count c.key)) c v groups) ∧
      ((putCell (groupKey c (seen.count c.key)) c v groups).filterMap RowGroup.identity?).Perm
        (groups.filterMap RowGroup.identity? ++
          if c.name = idColumn then [(c.labels, c.table, v)] else []) := by
  have hcounted := h.cons c.key
  -- an identity that has just been seen is counted above the number of its group
  have hcount {c' : Column} (hlabels : c'.labels = c.labels) (htable : c'.table = c.table)
      (hname : c.name = idColumn) : seen.count c.key <
        (c.key :: seen).count (Column.mk c'.labels c'.table idColumn).key := by
    rw [hlabels, htable, ← hname, List.count_cons_self]
    exact Nat.lt_succ_self _
  rcases putCell_cases (groupKey c (seen.count c.key)) c v groups with
    hput | ⟨before, g, after, rfl, hkey, hput⟩
  · rw [hput]
    refine ⟨List.forall_mem_append.mpr ⟨hcounted, List.forall_mem_singleton.mpr ?_⟩, ?_⟩
    · exact ⟨c, hc, rfl, rfl, _, rfl, fun hsome ↦
        hcount rfl rfl (by simpa [lookupKey] using hsome)⟩
    · rw [List.filterMap_append]
      refine List.Perm.of_eq (congrArg _ ?_)
      by_cases hname : c.name = idColumn <;>
        simp [RowGroup.identity?, lookupKey, hname]
  · rw [hput]
    obtain ⟨c', hc', hlabels, htable, n, hn, hid⟩ := h g (by simp)
    obtain ⟨hlabels', htable', rfl⟩ := htells.eq_of_groupKey hc' hc (hn.symm.trans hkey)
    obtain ⟨hbefore, hg⟩ := List.forall_mem_append.mp hcounted
    have hafter := (List.forall_mem_cons.mp hg).2
    by_cases hname : c.name = idColumn
    · -- the group has no identity yet, as its number would be among those counted
      have hnone : lookupKey idColumn g.cells = none := by
        rw [← Option.not_isSome_iff_eq_none]
        refine fun hsome ↦ Nat.lt_irrefl (seen.count c.key) ?_
        simpa only [hlabels', htable', ← hname] using hid hsome
      have hnew : RowGroup.identity? { g with cells := putKey c.name v g.cells } =
          some (c.labels, c.table, v) := by
        rw [hname, RowGroup.identity?_put_id, hlabels, htable, hlabels', htable']
      refine ⟨List.forall_mem_append.mpr ⟨hbefore, List.forall_mem_cons.mpr ⟨?_, hafter⟩⟩, ?_⟩
      · exact ⟨c', hc', hlabels, htable, _, hn, fun _ ↦ hcount hlabels' htable' hname⟩
      · rw [if_pos hname, List.filterMap_append, List.filterMap_append, List.filterMap_cons_some hnew,
          List.filterMap_cons_none (by rw [RowGroup.identity?, hnone]; rfl)]
        exact List.perm_middle.trans (List.perm_append_singleton _ _).symm
    · -- no other cell is an identity
      refine ⟨List.forall_mem_append.mpr ⟨hbefore, List.forall_mem_cons.mpr ⟨?_, hafter⟩⟩, ?_⟩
      · exact ⟨c', hc', hlabels, htable, _, hn, fun hsome ↦
          (hid (lookupKey_idColumn_putKey hname v _ ▸ hsome)).trans_le (List.count_le_count_cons ..)⟩
      · rw [if_neg hname, List.append_nil, List.filterMap_append, List.filterMap_append,
          List.filterMap_cons, List.filterMap_cons, g.identity?_put_of_ne hname]

/-- The groups of a row have its identities between them. -/
theorem perm_collect (htells : r.TellsApart) {cs : List Column} (hcs : cs ⊆ r.columns)
    {row : List Value} (hrow : row.length = cs.length) {seen : List String}
    {groups groups' : List RowGroup} (h : r.Counted seen groups)
    (hcollect : collect seen groups cs row = .ok groups') :
    (∃ seen', r.Counted seen' groups') ∧ (groups'.filterMap RowGroup.identity?).Perm
      (groups.filterMap RowGroup.identity? ++ identities cs row) := by
  induction cs generalizing row seen groups with
  | nil =>
    obtain rfl := Except.ok.inj hcollect
    exact ⟨⟨seen, h⟩, by simp [identities]⟩
  | cons c cs ih =>
    obtain ⟨v, row, rfl⟩ := List.exists_cons_of_length_eq_add_one hrow
    obtain ⟨hc, hcs⟩ := List.cons_subset.mp hcs
    have hlength : row.length = cs.length := by simpa using hrow
    rw [collect] at hcollect
    split at hcollect
    · next hhidden =>
      have hskip : identities (c :: cs) (v :: row) = identities cs row := by
        simp [identities, hhidden]
      rw [hskip]
      exact ih hcs hlength h hcollect
    · next hhidden =>
      obtain ⟨hcounted, hperm⟩ := h.putCell htells hc v.asCell
      have hcons : identities (c :: cs) (v :: row) =
          (if c.name = idColumn then [(c.labels, c.table, v.asCell)] else []) ++
            identities cs row := by
        by_cases hname : c.name = idColumn <;> simp [identities, hhidden, hname]
      obtain ⟨hlast, hrest⟩ := ih hcs hlength hcounted hcollect
      rw [hcons, ← List.append_assoc]
      exact ⟨hlast, hrest.trans (hperm.append_right _)⟩

end RowReader

/-! ## Elements by their identities -/

namespace RowGroup

theorem addProperty_eq_ok {g : RowGroup} {e e' : Element} {p : Property}
    (h : g.addProperty e p = .ok e') : e'.table = e.table ∧ e'.id = e.id := by
  obtain ⟨v, -, h⟩ := bind_eq_ok_iff.mp h
  obtain rfl := Except.ok.inj h
  split <;> exact ⟨rfl, rfl⟩

theorem addEndpoint_eq_ok {g : RowGroup} {e e' : Element} {key : ForeignKey}
    (h : g.addEndpoint e key = .ok e') : e'.table = e.table ∧ e'.id = e.id := by
  rw [addEndpoint] at h
  split at h
  · obtain rfl := Except.ok.inj h
    exact ⟨rfl, rfl⟩
  · obtain ⟨id, -, h⟩ := bind_eq_ok_iff.mp h
    obtain rfl := Except.ok.inj h
    split <;> exact ⟨rfl, rfl⟩

/-- An element has the table of its group and the identity in it. -/
theorem element?_eq_some {t : Topology} {g : RowGroup} {e : Element}
    (h : g.element? t = .ok (some e)) :
    g.cell idColumn ≠ .null ∧ (g.cell idColumn).toIdentity = .ok e.id ∧ e.table = g.table := by
  rw [element?] at h
  split at h
  · cases h
  · next hnull =>
    obtain ⟨id, hid, h⟩ := bind_eq_ok_iff.mp h
    obtain ⟨e₁, he₁, h⟩ := bind_eq_ok_iff.mp h
    obtain ⟨e₂, he₂, h⟩ := bind_eq_ok_iff.mp h
    obtain rfl := Option.some.inj (Except.ok.inj h)
    have hkeep : ∀ e' : Element, e'.table = g.table ∧ e'.id = id →
        ∀ e'' : Element, e''.table = e'.table ∧ e''.id = e'.id → e''.table = g.table ∧ e''.id = id :=
      fun e' he' e'' he'' ↦ ⟨he''.1.trans he'.1, he''.2.trans he'.2⟩
    have h₁ := foldlM_eq_ok_induction (P := fun e : Element ↦ e.table = g.table ∧ e.id = id) he₁
      ⟨rfl, rfl⟩ fun e' _ e'' he' hadd ↦ hkeep e' he' e'' (addProperty_eq_ok hadd)
    have h₂ := foldlM_eq_ok_induction (P := fun e : Element ↦ e.table = g.table ∧ e.id = id) he₂
      h₁ fun e' _ e'' he' hadd ↦ hkeep e' he' e'' (addEndpoint_eq_ok hadd)
    exact ⟨hnull, by rw [h₂.2, mapError_eq_ok_iff.mp hid], h₂.1⟩

end RowGroup

namespace RowReader

variable {r : RowReader}

/-- Whether an identity is that of an element with a label. -/
def listed (l : String) (x : String × Table × Value) : Bool :=
  l ∈ labelsIn x.1 && !x.2.2.isNull

/-- The table and the identity of an element, from those of its group. -/
def Identifies (x : String × Table × Value) (y : Table × Int) : Prop :=
  y.1 = x.2.1 ∧ x.2.2.toIdentity = .ok y.2

/-- The elements with a label are those of the groups that have it, with their identities. -/
theorem identifies_withLabel {t : Topology} {l : String} {groups : List RowGroup}
    {es : List (Option Element)}
    (hes : List.Forall₂ (fun g e ↦ g.element? t = .ok e) groups es)
    (honce : ∀ g ∈ groups, (labelsIn g.labels).count l ≤ 1) :
    List.Forall₂ Identifies ((groups.filterMap RowGroup.identity?).filter (listed l))
      ((withLabel ((groups.map (·.labels)).zip es) l).map fun e ↦ (e.table, e.id)) := by
  induction hes with
  | nil => exact .nil
  | @cons g element groups es hg _ ih =>
    obtain ⟨hcount, hcounts⟩ := List.forall_mem_cons.mp honce
    have hrest := ih hcounts
    rw [List.map_cons, List.zip_cons_cons, withLabel, List.flatMap_cons, ← withLabel, List.map_append]
    cases element with
    | none =>
      have hnull := RowGroup.element?_eq_none_iff.mp hg
      rw [RowGroup.cell] at hnull
      have hskip : (List.filterMap RowGroup.identity? (g :: groups)).filter (listed l) =
          (groups.filterMap RowGroup.identity?).filter (listed l) := by
        cases hlookup : lookupKey idColumn g.cells with
        | none => rw [List.filterMap_cons_none (by rw [RowGroup.identity?, hlookup]; rfl)]
        | some v =>
          rw [hlookup, Option.getD_some] at hnull
          rw [List.filterMap_cons_some (by rw [RowGroup.identity?, hlookup]; rfl),
            List.filter_cons_of_neg (by simp [listed, hnull, Value.isNull])]
      rw [hskip]
      exact hrest
    | some e =>
      obtain ⟨hsome, hid, htable⟩ := RowGroup.element?_eq_some hg
      obtain ⟨v, hv⟩ : ∃ v, lookupKey idColumn g.cells = some v := by
        rw [← Option.isSome_iff_exists]
        by_contra hnone
        rw [RowGroup.cell, Option.not_isSome_iff_eq_none.mp hnone] at hsome
        exact hsome rfl
      rw [RowGroup.cell, hv, Option.getD_some] at hsome hid
      rw [List.filterMap_cons_some (by rw [RowGroup.identity?, hv]; rfl)]
      by_cases hl : l ∈ labelsIn g.labels
      · have hone : (labelsIn g.labels).count l = 1 :=
          Nat.le_antisymm hcount (List.count_pos_iff.mpr hl)
        rw [List.filter_cons_of_pos (by simpa [listed, hl, ← Value.isNull_iff] using hsome)]
        simp only [Option.toList_some, List.flatMap_singleton, hone, List.replicate_one,
          List.map_singleton, List.singleton_append]
        exact .cons ⟨htable, hid⟩ hrest
      · rw [List.filter_cons_of_neg (by simp [listed, hl])]
        simpa [List.count_eq_zero.mpr hl] using hrest

/-- The elements with a label have the identities that a row holds under the label. -/
theorem exists_identifies (htells : r.TellsApart) {row : List Value}
    (hrow : row.length = r.columns.length) {result : Result}
    (hread : r.read row = .ok (some result)) {l : String}
    (honce : ∀ c ∈ r.columns, (labelsIn c.labels).count l ≤ 1) :
    ∃ found, List.Forall₂ Identifies ((identities r.columns row).filter (listed l)) found ∧
      found.Perm ((result.labeledWith l).map fun e ↦ (e.table, e.id)) := by
  obtain ⟨groups, hgroups, -⟩ := bind_eq_ok_iff.mp hread
  rw [read_eq r hgroups] at hread
  obtain ⟨es, hes, hresult⟩ := map_eq_ok_iff.mp hread
  obtain ⟨⟨seen, hcounted⟩, hperm⟩ := perm_collect htells (List.Subset.refl _) hrow
    (fun _ hg ↦ absurd hg List.not_mem_nil) hgroups
  have hlabels : ∀ g ∈ groups, (labelsIn g.labels).count l ≤ 1 := by
    intro g hg
    obtain ⟨c, hc, hlabels, -⟩ := hcounted g hg
    rw [hlabels]
    exact honce c hc
  rw [(combine_eq_some hresult).2.2 l]
  exact List.perm_comp_forall₂ (hperm.symm.filter _)
    (identifies_withLabel (mapM_eq_ok_iff.mp hes) hlabels)

end RowReader

end PathQuery
