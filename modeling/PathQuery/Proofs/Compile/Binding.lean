import PathQuery.Proofs.Compile.Operands
import PathQuery.Proofs.Value.Identity

/-!
# What a statement binds

Whatever a statement compares a column with is told to the database apart from its text: either it
is an operand, or it is held by one of the membership tables. The operands are those of the start
and of the filters, binder by binder; the tables hold the lists of the filters that are loaded, site
by site, each operand once. So a signed integer of 64 bits that a start or a filter compares with
is bound as it is.
-/

namespace PathQuery

/-! ## Operands -/

namespace Tree

variable {t : Tree} {d : Dialect} {p : Path}

theorem operands_boundBy_singleton {b : Binder} (h : b.Faithful t d p) :
    (t.boundBy d p [b]).flatMap Condition.operands = b.operands t d := by
  rw [← show _ = b.operands t d from h, boundBy]
  cases hc : b.condition? t d p with
  | none =>
    rw [List.filterMap_cons_none hc]
    rfl
  | some c =>
    rw [List.filterMap_cons_some hc, List.filterMap_nil]
    by_cases hbinds : c.binds
    · rw [List.filter_cons_of_pos hbinds]
      exact List.append_nil _
    · rw [List.filter_cons_of_neg hbinds]
      exact (Condition.operands_of_not_binds hbinds).symm

/-- The conditions of binders have their operands. -/
theorem operands_boundBy {bs : List Binder} (h : ∀ b ∈ bs, b.Faithful t d p) :
    (t.boundBy d p bs).flatMap Condition.operands = bs.flatMap (Binder.operands t d) := by
  induction bs with
  | nil => rfl
  | cons b bs ih =>
    obtain ⟨hb, hbs⟩ := List.forall_mem_cons.mp h
    rw [← List.singleton_append, boundBy_append, List.flatMap_append, ih hbs,
      operands_boundBy_singleton hb]
    rfl

end Tree

/-! ## Membership tables -/

/-- Whether the filter is loaded into a membership table. -/
def FilterSite.isLoaded (t : Tree) (d : Dialect) (x : FilterSite) : Bool :=
  match x.form t d true with
  | .ok (.member ..) => true
  | _ => false

/-- What the membership tables of some sites hold, table by table. -/
def Tree.loadedLists (t : Tree) (d : Dialect) (xs : List FilterSite) : List (List Value) :=
  (xs.filter (FilterSite.isLoaded t d)).map fun x ↦ distinctOperands x.filter.values

theorem Tree.loadedLists_append (t : Tree) (d : Dialect) (xs ys : List FilterSite) :
    t.loadedLists d (xs ++ ys) = t.loadedLists d xs ++ t.loadedLists d ys := by
  rw [loadedLists, List.filter_append, List.map_append]
  rfl

/-- The clauses have come to hold these lists as well. -/
def FilterClauses.Loads (fc fc' : FilterClauses) (lists : List (List Value)) : Prop :=
  fc'.tables.map (·.values) = fc.tables.map (·.values) ++ lists

namespace FilterClauses.Loads

variable {fc fc₁ fc₂ : FilterClauses} {ls ls' : List (List Value)}

theorem nil (fc : FilterClauses) : fc.Loads fc [] := (List.append_nil _).symm

theorem trans (h : fc.Loads fc₁ ls) (h' : fc₁.Loads fc₂ ls') : fc.Loads fc₂ (ls ++ ls') := by
  rw [Loads, h', h, List.append_assoc]

end FilterClauses.Loads

namespace CompileM

variable {c : Compiler} {t : Tree} {p : Path} {fc fc' : FilterClauses} {s s' : CompileState}

/-- A filter loads its list, if it is loaded at all. -/
theorem loads_addFilter {id : NodeId} {source : Source} {f : Filter}
    (h : (addFilter c t (t.nodeAt id).table source fc f).Yields s fc' s') :
    fc.Loads fc' (t.loadedLists c.dialect [⟨id, source, f⟩]) := by
  have hloaded : ∀ form, f.form c.dialect t.topology true (t.nodeAt id).table source = .ok form →
      (⟨id, source, f⟩ : FilterSite).form t c.dialect true = .ok form := fun _ h ↦ h
  rcases addFilter_cases h with ⟨hform, rfl⟩ | ⟨condition, hform, rfl⟩ |
    ⟨column, type, without, members, hform, rfl, hvalues, -⟩
  · simp [FilterClauses.Loads, Tree.loadedLists, FilterSite.isLoaded, hloaded _ hform]
  · simp [FilterClauses.Loads, Tree.loadedLists, FilterSite.isLoaded, hloaded _ hform,
      FilterClauses.addCondition]
  · simp [FilterClauses.Loads, Tree.loadedLists, FilterSite.isLoaded, hloaded _ hform,
      FilterClauses.addMember, hvalues]

theorem loads_addFilters {id : NodeId} (h : (addFilters c t p fc id).Yields s fc' s') :
    fc.Loads fc' (t.loadedLists c.dialect (t.sites p id)) := by
  obtain ⟨n, s₁, hlift, hfold⟩ := yields_bind_iff.mp h
  obtain ⟨hlive, rfl⟩ := yields_lift_iff.mp hlift
  obtain rfl := Tree.nodeAt_of_some (Tree.liveNode_eq_ok_iff.mp hlive)
  rw [Tree.sites, Tree.sitesFrom]
  clear h hlift hlive
  generalize (t.nodeAt id).filters = fs at hfold ⊢
  induction fs generalizing fc s₁ with
  | nil =>
    obtain ⟨rfl, -⟩ := yields_foldlM_nil_iff.mp hfold
    exact .nil _
  | cons f fs ih =>
    obtain ⟨fc₁, s₂, hstep, hrest⟩ := yields_foldlM_cons_iff.mp hfold
    rw [List.map_cons, ← List.singleton_append, Tree.loadedLists_append]
    exact (loads_addFilter hstep).trans (ih _ hrest)

/-- Walking over a run of steps loads the lists of its sites. -/
theorem loads_foldlM_addFilters {ids : List NodeId}
    (h : (ids.foldlM (addFilters c t p) fc).Yields s fc' s') :
    fc.Loads fc' (t.loadedLists c.dialect (ids.flatMap (t.sites p))) := by
  induction ids generalizing fc s with
  | nil =>
    obtain ⟨rfl, -⟩ := yields_foldlM_nil_iff.mp h
    exact .nil _
  | cons id ids ih =>
    obtain ⟨fc₁, s₁, hstep, hrest⟩ := yields_foldlM_cons_iff.mp h
    rw [List.flatMap_cons, Tree.loadedLists_append]
    exact (loads_addFilters hstep).trans (ih hrest)

end CompileM

/-- Each derived table loads the lists of its run, after those of the runs before. -/
theorem DerivedTables.values {c : Compiler} {t : Tree} {p : Path} {branches : List NodeId}
    {needed : List (NodeId × String)} {k : ℕ} {tables tables' : List MembershipTable}
    {runs : List Run} {segments : List CompileM.Segment}
    (h : DerivedTables c t p branches needed k tables runs segments tables') :
    tables'.map (·.values) = tables.map (·.values) ++
      t.loadedLists c.dialect ((runs.flatMap Run.ids).flatMap (t.sites p)) := by
  induction h with
  | nil => exact (List.append_nil _).symm
  | cons parts shown fit rest ih =>
    obtain ⟨s, s', hwalked⟩ := fit.walked
    rw [ih, CompileM.loads_foldlM_addFilters hwalked, List.flatMap_cons, List.flatMap_append,
      Tree.loadedLists_append, List.append_assoc]

namespace Compiles

variable {c : Compiler} {t : Tree} {p : Path} {branches : List NodeId} {k : ℕ} {q : Query}
  {tables : List MembershipTable} {slots : List Slot}

/-- The operands of a compiled path are those of its binders. -/
theorem operands_eq (h : Compiles c t p branches k q tables slots) :
    q.operands c.dialect = (t.binders p branches).flatMap (Binder.operands t c.dialect) := by
  rw [q.operands_eq, h.bound_eq.1, Tree.operands_boundBy h.bound_eq.2]

/-- The membership tables of a compiled path hold the lists of its steps that are loaded. -/
theorem values_eq (h : Compiles c t p branches k q tables slots) :
    tables.map (·.values) = t.loadedLists c.dialect (p.all.flatMap (t.sites p)) := by
  cases h with
  | single parts sorted uncut shown fit =>
    obtain ⟨s, s', hwalked⟩ := fit.walked
    exact CompileM.loads_foldlM_addFilters hwalked
  | split sorted cut joints derived =>
    rw [derived.values, Run.flatMap_ids_ofSegments]
    rfl

end Compiles

/-! ## Nothing that is compared with is left out -/

/-- The operands that a filter compares a column with. The label is no column, and a text comparison
has a pattern made from its operand. -/
def Filter.compared (f : Filter) : List Value :=
  if f.key = labelKey then []
  else match f.predicate with
    | .within | .without => f.values
    | .startsWith | .endsWith | .contains | .notContains => []
    | _ => [f.value]

theorem Filter.compared_subset_operands (d : Dialect) (f : Filter) :
    f.compared ⊆ f.operands d false := by
  intro v hv
  rw [compared] at hv
  rw [operands]
  by_cases hkey : f.key = labelKey
  · rw [if_pos hkey] at hv
    cases hv
  rw [if_neg hkey] at hv ⊢
  cases hp : f.predicate with
  | startsWith | endsWith | contains | notContains =>
    simp only [hp] at hv
    cases hv
  | _ =>
    simp only [hp] at hv ⊢
    exact hv

/-- What a filter compares with is an operand, unless its list is loaded. -/
theorem Filter.mem_operands_or_member {d : Dialect} {catalog : Except QueryError Topology}
    {table : Table} {source : Source} {f : Filter} {form : FilterForm}
    (h : f.form d catalog true table source = .ok form) {v : Value} (hv : v ∈ f.compared) :
    v ∈ f.operands d true ∨
      v ∈ f.values ∧ ∃ column type without, form = .member column type without := by
  have hinline := f.compared_subset_operands d hv
  rw [Filter.form] at h
  rw [compared] at hv
  rw [Filter.operands] at hinline ⊢
  by_cases hkey : f.key = labelKey
  · rw [if_pos hkey] at hv
    cases hv
  rw [if_neg hkey] at h hv hinline ⊢
  obtain ⟨⟨column, type⟩, -, hform⟩ := bind_eq_ok_iff.mp h
  simp only [formOn, Bool.true_and] at hform
  cases hp : f.predicate with
  | within =>
    simp only [hp, Bool.true_and] at hform hv ⊢
    by_cases hbulk : f.isBulk d = true
    · rw [if_pos hbulk] at hform
      exact .inr ⟨hv, _, _, _, (Except.ok.inj hform).symm⟩
    · rw [if_neg hbulk]
      exact .inl hv
  | without =>
    simp only [hp, Bool.true_and] at hform hv ⊢
    rw [if_neg (by simpa using List.ne_nil_of_mem hv)] at hform
    by_cases hbulk : f.isBulk d = true
    · rw [if_pos hbulk] at hform
      exact .inr ⟨hv, _, _, _, (Except.ok.inj hform).symm⟩
    · rw [if_neg hbulk]
      exact .inl hv
  | _ =>
    simp only [hp] at hinline ⊢
    exact .inl hinline

section Sites

variable {t : Tree} {p : Path} {branches : List NodeId}

theorem Run.exists_mem_sites {x : FilterSite} (hx : x ∈ p.all.flatMap (t.sites p)) :
    ∃ r ∈ Run.ofSegments true (t.segments p), x ∈ r.ids.flatMap (t.sites p) := by
  rwa [← Run.flatMap_ids_ofSegments t p, List.flatMap_assoc, List.mem_flatMap] at hx

/-! Every statement has the start among its binders, and all filters of its steps and branches. -/

theorem Tree.start_mem_binders (t : Tree) (p : Path) (branches : List NodeId) :
    .start ∈ t.binders p branches := by
  obtain ⟨seg, segs, hsegs⟩ := List.exists_cons_of_ne_nil (t.segments_ne_nil p)
  rw [binders, hsegs, Run.ofSegments, List.flatMap_cons]
  exact List.mem_append_left _
    (List.mem_append_left _ (List.mem_append_right _ List.mem_cons_self))

theorem Tree.filter_mem_binders {x : FilterSite} (hx : x ∈ p.all.flatMap (t.sites p)) :
    .filter x true ∈ t.binders p branches := by
  obtain ⟨r, hr, hx⟩ := Run.exists_mem_sites hx
  exact List.mem_flatMap.mpr ⟨r, hr, List.mem_append_right _ (List.mem_map_of_mem hx)⟩

theorem Tree.branch_mem_binders {b : Binder} (hb : b ∈ t.branchBinders branches) :
    b ∈ t.binders p branches := by
  obtain ⟨r, hr, hends⟩ := Run.exists_ends true (t.segments_ne_nil p)
  refine List.mem_flatMap.mpr ⟨r, hr, List.mem_append_left _ (List.mem_append_left _ ?_)⟩
  rwa [if_pos hends]

end Sites

namespace Compiles

variable {c : Compiler} {t : Tree} {p : Path} {branches : List NodeId} {k : ℕ} {q : Query}
  {tables : List MembershipTable} {slots : List Slot} {x : FilterSite}

/-- Every filter of a compiled path has a form. -/
theorem formed (h : Compiles c t p branches k q tables slots)
    (hx : x ∈ p.all.flatMap (t.sites p)) : ∃ form, x.form t c.dialect true = .ok form := by
  cases h with
  | single parts sorted uncut shown fit => exact fit.clauses.formed x hx
  | split sorted cut joints derived =>
    obtain ⟨r, hr, hx⟩ := Run.exists_mem_sites hx
    obtain ⟨_, _, _, parts, _, -, fit, -⟩ := exists_of_mem_forall₂ derived.exists_fit hr
    exact fit.clauses.formed x hx

/-- An integer that a filter of a compiled path compares with is an operand, or a table has it. -/
theorem mem_operands_or_tables (h : Compiles c t p branches k q tables slots)
    (hx : x ∈ p.all.flatMap (t.sites p)) {m : ℤ} (hm : .int .int64 m ∈ x.filter.compared) :
    .int .int64 m ∈ q.operands c.dialect ∨ ∃ table ∈ tables, .int .int64 m ∈ table.values := by
  obtain ⟨form, hform⟩ := h.formed hx
  rcases Filter.mem_operands_or_member hform hm with hv | ⟨hv, column, type, without, rfl⟩
  · rw [h.operands_eq]
    exact .inl (List.mem_flatMap.mpr ⟨_, Tree.filter_mem_binders hx, hv⟩)
  · -- the list of the filter is loaded, and integers are told apart in it
    have hloaded : distinctOperands x.filter.values ∈ tables.map (·.values) := by
      rw [h.values_eq]
      exact List.mem_map_of_mem (f := fun x : FilterSite ↦ distinctOperands x.filter.values)
        (List.mem_filter.mpr ⟨hx, by rw [FilterSite.isLoaded, hform]⟩)
    obtain ⟨table, htable, heq⟩ := List.mem_map.mp hloaded
    exact .inr ⟨table, htable, heq ▸ mem_distinctOperands_int64_iff.mpr hv⟩

end Compiles

namespace Statement

/-- The statement binds a value, as an operand or in one of its membership tables. -/
def Binds (st : Statement) (v : Value) : Prop := v ∈ st.operands ∨ ∃ m ∈ st.tables, v ∈ m.values

/-- What is bound for a statement of a path and its branches. -/
structure Bound (st : Statement) (t : Tree) (p : Path) (branches : List NodeId) : Prop where
  /-- The operands are those of the binders, in order. -/
  operands : st.operands = (t.binders p branches).flatMap (Binder.operands t st.dialect)
  /-- The membership tables hold the lists that are loaded, in order. -/
  tables : st.tables.map (·.values) = t.loadedLists st.dialect (p.all.flatMap (t.sites p))
  /-- The identity that the traversal starts from is bound. -/
  start : t.start.isNull = false → st.Binds t.start
  /-- An integer that a filter of a step or of a branch compares with is bound. -/
  compared : ∀ {id n f m}, id ∈ p.all ∨ id ∈ branches → t.node? id = some n → f ∈ n.filters →
    .int .int64 m ∈ f.compared → st.Binds (.int .int64 m)

/-- **A statement binds what it compares with.** -/
theorem bound_of_yields {c : Compiler} {t : Tree} {mode : Mode} {p : Path}
    {branches : List NodeId} {s s' : CompileState} {st : Statement}
    (hst : (CompileM.statement c t mode p branches).Yields s st s') : st.Bound t p branches := by
  obtain ⟨hdialect, -, slots, hcompiles, -⟩ := CompileM.yields_statement hst
  obtain ⟨-, hquery⟩ := CompileM.text_statement hst
  have hoperands : st.operands = (t.binders p branches).flatMap (Binder.operands t st.dialect) := by
    rw [hquery, hdialect, hcompiles.operands_eq]
  have hbinds : ∀ {b : Binder} {v}, b ∈ t.binders p branches → v ∈ b.operands t st.dialect →
      st.Binds v := by
    intro b v hb hv
    exact .inl (hoperands ▸ List.mem_flatMap.mpr ⟨b, hb, hv⟩)
  refine ⟨hoperands, by rw [hdialect, hcompiles.values_eq], ?_, ?_⟩
  · intro hstart
    refine hbinds (t.start_mem_binders p branches) ?_
    rw [Binder.operands, if_neg (Bool.eq_false_iff.mp hstart)]
    exact List.mem_cons_self
  · intro id n f m hid hn hf hm
    obtain rfl := Tree.nodeAt_of_some hn
    rcases hid with hid | hid
    · have hx : ⟨id, p.source id, f⟩ ∈ p.all.flatMap (t.sites p) :=
        List.mem_flatMap.mpr ⟨id, hid, List.mem_map_of_mem hf⟩
      have hbound := hcompiles.mem_operands_or_tables hx hm
      rwa [← hdialect, ← hquery] at hbound
    · -- branches write all lists inline
      obtain ⟨j, hj, rfl⟩ := List.getElem_of_mem hid
      have hb : .filter ⟨branches[j], .branch j, f⟩ false ∈ t.branchBinders branches :=
        List.mem_flatMap.mpr ⟨(branches[j], j),
          List.mk_mem_zipIdx_iff_getElem?.mpr (List.getElem?_eq_getElem hj),
          List.mem_map_of_mem (List.mem_map_of_mem hf)⟩
      exact hbinds (Tree.branch_mem_binders hb) (f.compared_subset_operands _ hm)

end Statement

end PathQuery
