import PathQuery.Proofs.Compile.Slots
import PathQuery.Proofs.Query.Path
import PathQuery.Proofs.Relational.Walk

/-!
# Matches of a path

What a path asks of the data, without a word about statements: a *match* gives a row to every step
so that the root has the identity the traversal starts from, every further row is correlated with
the one above it, and every filter is true on its row. An element is *lonely* for a branch when
no row of the branch's first step belongs to it. Since a row above decides which rows follow it,
the matches are walks.
-/

namespace PathQuery

/-! ## Filters on rows -/

/-- What a filter comes to on the value it is about. -/
def Filter.truthOf (db : RowStore) (f : Filter) (v : Value) : Truth :=
  let matched := match f.textOperand with
    | .ok operand => db.like v (f.predicate.pattern operand)
    | .error _ => .unknown
  match f.predicate with
  | .within => db.isAmong v f.values
  | .without => (db.isAmong v f.values).not
  | .startsWith | .endsWith | .contains => matched
  | .notContains => matched.not
  | p => match p.comparison? with
    | some op => db.compare op v f.value
    | none => .unknown

/-- What a filter of a step on `table` comes to on a row. -/
def Filter.truth (db : RowStore) (table : Table) (r : Row) (f : Filter) : Truth :=
  if f.key = labelKey then .ofBool (f.matchesTable table)
  else f.truthOf db (r (Tree.keyColumn f.key))

/-- Being equal to a null that stands for no operand is not true of anything. -/
theorem RowStore.isAmong_orNull (db : RowStore) (v : Value) (vs : List Value) :
    db.isAmong v (if vs.isEmpty then [.null] else vs) = .yes ↔ db.isAmong v vs = .yes := by
  cases vs with
  | nil => simp [isAmong, Truth.any, Truth.or, db.compare_null_right]
  | cons v vs => rfl

namespace Filter

variable {d : Dialect} {catalog : Except QueryError Topology} {bulk : Bool} {table : Table}
  {source : Source} {f : Filter} {form : FilterForm}

theorem column_eq_ok {column : String} {type : PropertyType}
    (h : f.column catalog table = .ok (column, type)) : column = Tree.keyColumn f.key := by
  rw [Filter.column] at h
  rw [Tree.keyColumn]
  split at h
  · next hkey =>
    rw [if_pos hkey]
    exact (Prod.mk.inj (Except.ok.inj h)).1.symm
  · next hkey =>
    rw [if_neg hkey]
    obtain ⟨topology, -, h⟩ := bind_eq_ok_iff.mp h
    split at h
    · exact (Prod.mk.inj (Except.ok.inj h)).1.symm
    · cases h

/-- On a column, a filter that is written inline is true exactly when its condition is, if it
needs one. -/
theorem truthOf_iff_of_formOn (db : RowStore) (e : JoinedRow) {ref : ColumnRef}
    {type : PropertyType} (h : f.formOn d bulk ref type = .ok form)
    (hinline : ∀ column type without, form ≠ .member column type without) :
    f.truthOf db (ref.value e) = .yes ↔ ∀ c ∈ form.condition?, c.truth db e = .yes := by
  rw [formOn] at h
  -- one case for each kind of predicate that is treated alike
  split at h
  case h_1 hp =>
    simp only [truthOf, hp]
    split at h
    · obtain rfl := Except.ok.inj h
      exact absurd rfl (hinline _ _ _)
    · obtain rfl := Except.ok.inj h
      simpa [FilterForm.condition?, Condition.truth] using
        (db.isAmong_orNull (ref.value e) f.values).symm
  case h_2 hp =>
    simp only [truthOf, hp]
    split at h
    · next hempty =>
      obtain rfl := Except.ok.inj h
      simp [FilterForm.condition?, List.isEmpty_iff.mp hempty, RowStore.isAmong, Truth.any,
        Truth.not]
    · next hempty =>
      split at h
      · obtain rfl := Except.ok.inj h
        exact absurd rfl (hinline _ _ _)
      · obtain rfl := Except.ok.inj h
        have hne : f.values ≠ [] := by simpa using hempty
        simp [FilterForm.condition?, Condition.truth, hne]
  case h_3 hp | h_4 hp | h_5 hp =>
    obtain ⟨operand, hoperand, hholds⟩ := bind_eq_ok_iff.mp h
    obtain rfl := Except.ok.inj hholds
    simp [truthOf, hp, hoperand, FilterForm.condition?, Condition.truth]
  case h_6 hp =>
    obtain ⟨operand, hoperand, hholds⟩ := bind_eq_ok_iff.mp h
    obtain rfl := Except.ok.inj hholds
    simp [truthOf, hp, hoperand, FilterForm.condition?, Condition.truth]
  case h_7 h₁ h₂ h₃ h₄ h₅ h₆ =>
    split at h
    · next op hop =>
      obtain rfl := Except.ok.inj h
      simp [truthOf, hop, FilterForm.condition?, Condition.truth]
    · cases h

/-- A filter that is written inline is true on a row exactly when its condition is, if it needs
one. -/
theorem truth_iff_of_form (db : RowStore) (e : JoinedRow)
    (h : f.form d catalog bulk table source = .ok form)
    (hinline : ∀ column type without, form ≠ .member column type without) :
    f.truth db table (e source) = .yes ↔ ∀ c ∈ form.condition?, c.truth db e = .yes := by
  rw [Filter.form] at h
  rw [Filter.truth]
  split at h
  case isTrue hlabel =>
    rw [if_pos hlabel]
    obtain rfl := Except.ok.inj h
    cases f.matchesTable table <;> simp [FilterForm.condition?, Truth.ofBool, Condition.truth]
  case isFalse hlabel =>
    rw [if_neg hlabel]
    obtain ⟨⟨column, type⟩, hcolumn, hform⟩ := bind_eq_ok_iff.mp h
    obtain rfl := column_eq_ok hcolumn
    exact truthOf_iff_of_formOn db e hform hinline

end Filter

namespace Tree

/-! ## Rows of steps -/

/-- The rows of a step's table. -/
def rowsAt (t : Tree) (db : RowStore) (id : NodeId) : Multiset Row := db.rows (t.nodeAt id).table

/-- Every filter of a step is true on a row. -/
def Passes (t : Tree) (db : RowStore) (id : NodeId) (r : Row) : Prop :=
  ∀ f ∈ (t.nodeAt id).filters, f.truth db (t.nodeAt id).table r = .yes

instance (t : Tree) (db : RowStore) (id : NodeId) (r : Row) : Decidable (t.Passes db id r) :=
  inferInstanceAs (Decidable (∀ _ ∈ _, _))

/-- A row of a step is correlated with a row of the step above. -/
def Correlates (t : Tree) (db : RowStore) (id : NodeId) (above r : Row) : Prop :=
  match t.parentCorrelation id with
  | .ok c => db.compare .eq (above c.above) (r c.below) = .yes
  | .error _ => False

instance (t : Tree) (db : RowStore) (id : NodeId) (above r : Row) :
    Decidable (t.Correlates db id above r) := by
  unfold Correlates
  split <;> infer_instance

theorem correlates_iff {t : Tree} {db : RowStore} {id : NodeId} {above r : Row} {c : Correlation}
    (h : t.parentCorrelation id = .ok c) :
    t.Correlates db id above r ↔ db.compare .eq (above c.above) (r c.below) = .yes := by
  rw [Correlates, h]

/-- Nothing is correlated with a missing row. -/
theorem not_correlates_nullRow (t : Tree) (db : RowStore) (id : NodeId) (r : Row) :
    ¬t.Correlates db id nullRow r := by
  rw [Correlates]
  split
  · rw [nullRow, db.compare_null_left]
    exact Truth.noConfusion
  · exact not_false

/-- A row has the identity the traversal starts from, if there is one. -/
def StartsAt (t : Tree) (db : RowStore) (r : Row) : Prop :=
  t.start.isNull ∨ db.compare .eq (r idColumn) t.start = .yes

instance (t : Tree) (db : RowStore) (r : Row) : Decidable (t.StartsAt db r) :=
  inferInstanceAs (Decidable (_ ∨ _))

/-- A row has no partner in a branch. -/
def Lonely (t : Tree) (db : RowStore) (branch : NodeId) (above : Row) : Prop :=
  ∀ r ∈ t.rowsAt db branch, ¬(t.Correlates db branch above r ∧ t.Passes db branch r)

instance (t : Tree) (db : RowStore) (branch : NodeId) (above : Row) :
    Decidable (t.Lonely db branch above) :=
  inferInstanceAs (Decidable (∀ _ ∈ _, _))

/-! ## Matches -/

/-- The row an assignment gives to a step; a step without one has nulls. -/
def rowOf (ids : List NodeId) (rs : List Row) (id : NodeId) : Row := rs.getD (ids.idxOf id) nullRow

/-- The step above a step. -/
def parentAt (t : Tree) (id : NodeId) : NodeId := (t.nodeAt id).parent.getD rootId

theorem parentAt_of_isParent {t : Tree} {above id : NodeId} {n : Node} (hn : t.node? id = some n)
    (h : t.IsParent above id) : t.parentAt id = above := by
  rw [parentAt, nodeAt_of_some hn, (isParent_of_some hn).mp h, Option.getD_some]

/-- Rows for the steps of a path match it. -/
structure IsMatch (t : Tree) (db : RowStore) (p : Path) (row : NodeId → Row) : Prop where
  /-- The root is where the traversal starts. -/
  starts : t.StartsAt db (row rootId)
  /-- Each row is correlated with the one above it. -/
  correlates : ∀ id ∈ p.nodes, t.Correlates db id (row (t.parentAt id)) (row id)
  /-- Every filter is true on its row. -/
  passes : ∀ id ∈ p.all, t.Passes db id (row id)

theorem isMatch_iff {t : Tree} {db : RowStore} {p : Path} {row : NodeId → Row} :
    t.IsMatch db p row ↔ t.StartsAt db (row rootId) ∧
      (∀ id ∈ p.nodes, t.Correlates db id (row (t.parentAt id)) (row id)) ∧
      ∀ id ∈ p.all, t.Passes db id (row id) :=
  ⟨fun h ↦ ⟨h.starts, h.correlates, h.passes⟩, fun h ↦ ⟨h.1, h.2.1, h.2.2⟩⟩

instance (t : Tree) (db : RowStore) (p : Path) (row : NodeId → Row) :
    Decidable (t.IsMatch db p row) :=
  decidable_of_iff _ isMatch_iff.symm

/-- The matches of a path, each as often as rows for it can be chosen. -/
def matchesOf (t : Tree) (db : RowStore) (p : Path) : Multiset (List Row) :=
  (choices (t.rowsAt db) p.all).filter fun rs ↦ t.IsMatch db p (rowOf p.all rs)

/-! ## Matches are walks -/

/-- A row is one a match may have for a step below a row. -/
def Fits (t : Tree) (db : RowStore) (id : NodeId) (above r : Row) : Prop :=
  (if id = rootId then t.StartsAt db r else t.Correlates db id above r) ∧ t.Passes db id r

instance (t : Tree) (db : RowStore) (id : NodeId) (above : Row) :
    DecidablePred (t.Fits db id above) :=
  fun _ ↦ inferInstanceAs (Decidable (_ ∧ _))

/-- The rows a match may have for a step below a row. -/
def partners (t : Tree) (db : RowStore) (id : NodeId) (above : Row) : Multiset Row :=
  (t.rowsAt db id).filter (t.Fits db id above)

theorem forall₂_rowOf {ids : List NodeId} (h : ids.Nodup) {rs : List Row}
    (hlength : rs.length = ids.length) :
    List.Forall₂ (fun id r ↦ rowOf ids rs id = r) ids rs := by
  refine List.forall₂_iff_get.mpr ⟨hlength.symm, fun i hi hi' ↦ ?_⟩
  rw [rowOf, List.get_eq_getElem, h.idxOf_getElem i hi, List.get_eq_getElem,
    List.getD_eq_getElem?_getD, List.getElem?_eq_getElem hi', Option.getD_some]

theorem linked_fits_iff {t : Tree} {db : RowStore} {row : NodeId → Row} {above : NodeId}
    {ids : List NodeId} {rs : List Row} (hrows : List.Forall₂ (fun id r ↦ row id = r) ids rs)
    (hchain : (above :: ids).IsChain t.IsParent) (hroot : rootId ∉ ids)
    (hlive : ∀ id ∈ ids, ∃ n, t.node? id = some n) :
    Linked (t.Fits db) (row above) ids rs ↔
      (∀ id ∈ ids, t.Correlates db id (row (t.parentAt id)) (row id)) ∧
        ∀ id ∈ ids, t.Passes db id (row id) := by
  induction hrows generalizing above with
  | nil => simp [Linked]
  | @cons id r ids rs hrow _ ih =>
    obtain ⟨hparent, hrest⟩ := List.isChain_cons_cons.mp hchain
    obtain ⟨⟨n, hn⟩, hlive⟩ := List.forall_mem_cons.mp hlive
    obtain ⟨hne, hroot⟩ : rootId ≠ id ∧ rootId ∉ ids := by simpa using hroot
    subst hrow
    rw [Linked, ih hrest hroot hlive, Fits, if_neg hne.symm, List.forall_mem_cons,
      List.forall_mem_cons, parentAt_of_isParent hn hparent]
    tauto

/-- The matches of a path are the walks over its steps. -/
theorem matchesOf_eq_walks {t : Tree} (db : RowStore) {p : Path}
    (hchain : p.all.IsChain t.IsParent) (hnodup : p.all.Nodup)
    (hlive : ∀ id ∈ p.all, ∃ n, t.node? id = some n) :
    t.matchesOf db p = walks (t.partners db) nullRow p.all := by
  rw [matchesOf]
  change _ = walks (fun id above ↦ (t.rowsAt db id).filter (t.Fits db id above)) nullRow p.all
  rw [← filter_linked_choices]
  refine Multiset.filter_congr fun rs hrs ↦ ?_
  have hlength : rs.length = p.all.length := length_of_mem_walks hrs
  have hrows := forall₂_rowOf hnodup hlength
  obtain ⟨hroot, -⟩ := List.nodup_cons.mp hnodup
  rw [isMatch_iff]
  generalize rowOf p.all rs = row at hrows
  clear hrs hlength
  rw [Path.all] at hrows hchain hlive ⊢
  cases hrows with
  | @cons _ r _ rs hrow hrest =>
    subst hrow
    rw [Linked, Fits, if_pos rfl, linked_fits_iff hrest hchain hroot
      (fun id hid ↦ hlive id (List.mem_cons_of_mem _ hid)), List.forall_mem_cons]
    tauto

end Tree

end PathQuery
