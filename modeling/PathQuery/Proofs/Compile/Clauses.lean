import PathQuery.Proofs.Compile.Slots

/-!
# What filters become

A filter of a step, together with the source of the step's rows, is a *site*. Compiling walks the
sites of a run of steps in order and lets three lists grow: conditions, joins with membership
tables, and the tables themselves. One inversion lemma says what a single site can add; `Grows`
collects what follows for a whole walk, so that later proofs speak of the sites and of nothing
else. A walk that adds no table has written every filter inline.
-/

namespace PathQuery

/-- A filter of a step and the source of that step's rows. -/
structure FilterSite where
  /-- The step. -/
  node : NodeId
  /-- The source of its rows. -/
  source : Source
  /-- The filter. -/
  filter : Filter

namespace FilterSite

/-- What the filter becomes; `bulk` allows a membership table. -/
def form (t : Tree) (d : Dialect) (bulk : Bool) (x : FilterSite) : Except QueryError FilterForm :=
  x.filter.form d t.topology bulk (t.nodeAt x.node).table x.source

/-- The condition the filter is written as, if it is written inline. -/
def condition? (t : Tree) (d : Dialect) (bulk : Bool) (x : FilterSite) : Option Condition :=
  match x.form t d bulk with
  | .ok form => form.condition?
  | .error _ => none

theorem condition?_of_form {t : Tree} {d : Dialect} {bulk : Bool} {x : FilterSite}
    {form : FilterForm} (h : x.form t d bulk = .ok form) :
    x.condition? t d bulk = form.condition? := by
  rw [condition?, h]

end FilterSite

/-- The sites of a step whose rows come from `source`. -/
def Tree.sitesFrom (t : Tree) (source : Source) (id : NodeId) : List FilterSite :=
  (t.nodeAt id).filters.map fun f ↦ ⟨id, source, f⟩

/-- The sites of a step of a path. -/
def Tree.sites (t : Tree) (p : Path) (id : NodeId) : List FilterSite := t.sitesFrom (p.source id) id

/-- Whether a condition has operands. -/
def Condition.binds : Condition → Bool
  | .compare .. | .among .. | .like .. => true
  | .same .. | .isNull .. | .never => false

/-! ## Growing clauses -/

/-- What walking over `xs` has added on the way from `fc` to `fc'`. -/
structure FilterClauses.Grows (t : Tree) (d : Dialect) (fc fc' : FilterClauses)
    (xs : List FilterSite) : Prop where
  /-- Every filter has a form. -/
  formed : ∀ x ∈ xs, ∃ form, x.form t d true = .ok form
  /-- The conditions with operands are those of the sites, in order. -/
  bound : fc'.conditions.filter Condition.binds = fc.conditions.filter Condition.binds ++
    (xs.filterMap (FilterSite.condition? t d true)).filter Condition.binds
  /-- Joins with membership tables compare two columns. -/
  joined : ∃ js : List Join, fc'.joins = fc.joins ++ js ∧
    ∀ j ∈ js, ∃ l r, j.conditions = [.same l r]
  /-- Tables are only added. -/
  loaded : ∃ ts, fc'.tables = fc.tables ++ ts
  /-- Without a new table every filter is a condition or passes every row. -/
  inline : fc'.tables = fc.tables → fc'.joins = fc.joins ∧
    fc'.conditions = fc.conditions ++ xs.filterMap (FilterSite.condition? t d true) ∧
    ∀ x ∈ xs, ∀ column type without, x.form t d true ≠ .ok (.member column type without)

namespace FilterClauses.Grows

variable {t : Tree} {d : Dialect} {fc fc₁ fc₂ : FilterClauses} {xs ys : List FilterSite}

theorem nil (t : Tree) (d : Dialect) (fc : FilterClauses) : Grows t d fc fc [] where
  formed := by simp
  bound := by simp
  joined := ⟨[], by simp, by simp⟩
  loaded := ⟨[], by simp⟩
  inline := by simp

theorem trans (h₁ : Grows t d fc fc₁ xs) (h₂ : Grows t d fc₁ fc₂ ys) :
    Grows t d fc fc₂ (xs ++ ys) where
  formed := by
    intro x hx
    rcases List.mem_append.mp hx with hx | hx
    · exact h₁.formed x hx
    · exact h₂.formed x hx
  bound := by
    rw [h₂.bound, h₁.bound, List.filterMap_append, List.filter_append, List.append_assoc]
  joined := by
    obtain ⟨js₁, heq₁, hjs₁⟩ := h₁.joined
    obtain ⟨js₂, heq₂, hjs₂⟩ := h₂.joined
    refine ⟨js₁ ++ js₂, by rw [heq₂, heq₁, List.append_assoc], fun j hj ↦ ?_⟩
    rcases List.mem_append.mp hj with hj | hj
    · exact hjs₁ j hj
    · exact hjs₂ j hj
  loaded := by
    obtain ⟨ts₁, heq₁⟩ := h₁.loaded
    obtain ⟨ts₂, heq₂⟩ := h₂.loaded
    exact ⟨ts₁ ++ ts₂, by rw [heq₂, heq₁, List.append_assoc]⟩
  inline := by
    intro h
    obtain ⟨ts₁, heq₁⟩ := h₁.loaded
    obtain ⟨ts₂, heq₂⟩ := h₂.loaded
    -- nothing is ever taken out, so neither part of the walk has added a table
    have hnone : ts₁ = [] ∧ ts₂ = [] := by
      rw [heq₂, heq₁, List.append_assoc, List.append_right_eq_self] at h
      exact List.append_eq_nil_iff.mp h
    obtain ⟨hj₁, hc₁, hx₁⟩ := h₁.inline (by rw [heq₁, hnone.1, List.append_nil])
    obtain ⟨hj₂, hc₂, hx₂⟩ := h₂.inline (by rw [heq₂, hnone.2, List.append_nil])
    refine ⟨hj₂.trans hj₁, by rw [hc₂, hc₁, List.filterMap_append, List.append_assoc], ?_⟩
    intro x hx
    rcases List.mem_append.mp hx with hx | hx
    · exact hx₁ x hx
    · exact hx₂ x hx

theorem always {x : FilterSite} (h : x.form t d true = .ok .always) : Grows t d fc fc [x] where
  formed := by simpa using ⟨_, h⟩
  bound := by simp [FilterSite.condition?_of_form h, FilterForm.condition?]
  joined := ⟨[], by simp, by simp⟩
  loaded := ⟨[], by simp⟩
  inline := by simp [FilterSite.condition?_of_form h, FilterForm.condition?, h]

theorem holds {x : FilterSite} {c : Condition} (h : x.form t d true = .ok (.holds c)) :
    Grows t d fc (fc.addCondition c) [x] where
  formed := by simpa using ⟨_, h⟩
  bound := by
    simp [FilterSite.condition?_of_form h, FilterForm.condition?, addCondition, List.filter_append]
  joined := ⟨[], by simp [addCondition], by simp⟩
  loaded := ⟨[], by simp [addCondition]⟩
  inline := by simp [FilterSite.condition?_of_form h, FilterForm.condition?, h, addCondition]

theorem member {x : FilterSite} {column : ColumnRef} {type : PropertyType} {without : Bool}
    (h : x.form t d true = .ok (.member column type without)) (table : MembershipTable) :
    Grows t d fc (fc.addMember column table) [x] where
  formed := by simpa using ⟨_, h⟩
  bound := by
    rw [addMember, memberConditions]
    split <;>
      simp [FilterSite.condition?_of_form h, FilterForm.condition?, List.filter_append,
        Condition.binds]
  joined := ⟨_, rfl, by simp [memberJoin]⟩
  loaded := ⟨_, rfl⟩
  inline := by simp [addMember]

end FilterClauses.Grows

/-! ## Branches -/

/-- Without leave to load a table, a filter is written inline. -/
theorem Filter.form_ne_member {d : Dialect} {catalog : Except QueryError Topology} {table : Table}
    {source : Source} {f : Filter} {column : ColumnRef} {type : PropertyType} {without : Bool} :
    f.form d catalog false table source ≠ .ok (.member column type without) := by
  intro h
  rw [form] at h
  split at h
  · have heq := Except.ok.inj h
    split at heq <;> cases heq
  · obtain ⟨⟨column', type'⟩, -, hform⟩ := bind_eq_ok_iff.mp h
    simp only [formOn, Bool.false_and, Bool.false_eq_true, if_false] at hform
    split at hform
    case h_1 => cases hform
    case h_2 | h_7 => split at hform <;> cases hform
    case h_3 | h_4 | h_5 | h_6 =>
      obtain ⟨_, -, heq⟩ := bind_eq_ok_iff.mp hform
      cases heq

/-- The conditions of filters that have been given a form one by one. -/
theorem filterMap_condition?_of_forms {t : Tree} {d : Dialect} {bulk : Bool} {id : NodeId}
    {source : Source} {fs : List Filter} {forms : List FilterForm}
    (h : fs.mapM (Filter.form d t.topology bulk (t.nodeAt id).table source) = .ok forms) :
    (∀ f ∈ fs, ∃ form, (⟨id, source, f⟩ : FilterSite).form t d bulk = .ok form) ∧
      forms.filterMap FilterForm.condition? =
        (fs.map (FilterSite.mk id source)).filterMap (FilterSite.condition? t d bulk) := by
  rw [mapM_eq_ok_iff] at h
  induction h with
  | nil => simp
  | @cons f form fs forms hform _ ih =>
    have hsite : (⟨id, source, f⟩ : FilterSite).form t d bulk = .ok form := hform
    refine ⟨List.forall_mem_cons.mpr ⟨⟨form, hsite⟩, ih.1⟩, ?_⟩
    rw [List.map_cons, List.filterMap_cons, List.filterMap_cons,
      FilterSite.condition?_of_form hsite, ih.2]

/-- The join of a branch whose first step stands below the end of the path. -/
theorem Tree.branchJoin_eq_ok {t : Tree} {d : Dialect} {p : Path} {above : Node} {id : NodeId}
    {i : ℕ} {j : Join} (habove : t.liveNode p.leaf = .ok above)
    (h : t.branchJoin d p above id i = .ok j) :
    ∃ c, t.parentCorrelation id = .ok c ∧
      (∀ x ∈ t.sitesFrom (.branch i) id, ∃ form, x.form t d false = .ok form) ∧ j = {
        kind := .left
        relation := .table (t.nodeAt id).table
        source := .branch i
        conditions := .same ⟨p.source p.leaf, c.above⟩ ⟨.branch i, c.below⟩ ::
          (t.sitesFrom (.branch i) id).filterMap (FilterSite.condition? t d false) } := by
  rw [branchJoin] at h
  split at h
  · cases h
  · next n hn =>
    split at h
    · cases h
    · next hparent =>
      have hparent : n.parent = some p.leaf := not_not.mp hparent
      obtain ⟨c, hc, h₁⟩ := bind_eq_ok_iff.mp h
      obtain ⟨forms, hforms, h₂⟩ := bind_eq_ok_iff.mp h₁
      obtain rfl := nodeAt_of_some hn
      obtain ⟨hformed, hconditions⟩ := filterMap_condition?_of_forms hforms
      refine ⟨c, parentCorrelation_eq_ok (liveNode_eq_ok_iff.mpr hn) hparent habove hc, ?_, ?_⟩
      · simpa [sitesFrom] using hformed
      · rw [sitesFrom, ← hconditions]
        exact (Except.ok.inj h₂).symm

namespace CompileM

/-! ## Walking over the sites -/

/-- What a single filter can do. -/
theorem addFilter_cases {c : Compiler} {t : Tree} {table : Table} {source : Source}
    {fc fc' : FilterClauses} {f : Filter} {s s' : CompileState}
    (h : (addFilter c t table source fc f).Yields s fc' s') :
    (f.form c.dialect t.topology true table source = .ok .always ∧ fc' = fc) ∨
    (∃ condition, f.form c.dialect t.topology true table source = .ok (.holds condition) ∧
      fc' = fc.addCondition condition) ∨
    ∃ column type without members,
      f.form c.dialect t.topology true table source = .ok (.member column type without) ∧
        fc' = fc.addMember column members ∧ members.values = distinctOperands f.values ∧
          members.without = without := by
  obtain ⟨form, s₁, hlift, hform⟩ := yields_bind_iff.mp h
  obtain ⟨hok, rfl⟩ := yields_lift_iff.mp hlift
  cases form with
  | always => exact .inl ⟨hok, (yields_pure_iff.mp hform).1⟩
  | holds condition =>
    have hpure := yields_drafting_bind_iff.mp hform
    exact .inr (.inl ⟨condition, hok, (yields_pure_iff.mp hpure).1⟩)
  | member column type without =>
    obtain ⟨name, s₂, -, hdraft⟩ := yields_bind_iff.mp hform
    have hpure := yields_drafting_bind_iff.mp hdraft
    exact .inr (.inr ⟨column, type, without, _, hok, (yields_pure_iff.mp hpure).1, rfl, rfl⟩)

/-- Compiling leaves the aliases alone while it walks over filters. -/
theorem registry_addFilter {c : Compiler} {t : Tree} {table : Table} {source : Source}
    {fc fc' : FilterClauses} {f : Filter} {s s' : CompileState}
    (h : (addFilter c t table source fc f).Yields s fc' s') : s'.registry = s.registry := by
  obtain ⟨form, s₁, hlift, hform⟩ := yields_bind_iff.mp h
  obtain ⟨-, rfl⟩ := yields_lift_iff.mp hlift
  cases form with
  | always => rw [(yields_pure_iff.mp hform).2]
  | holds condition =>
    have hpure := yields_drafting_bind_iff.mp hform
    rw [(yields_pure_iff.mp hpure).2]
  | member column type without =>
    obtain ⟨name, s₂, hname, hdraft⟩ := yields_bind_iff.mp hform
    have hpure := yields_drafting_bind_iff.mp hdraft
    rw [(yields_pure_iff.mp hpure).2, (yields_nextName hname).2]

theorem grows_addFilter {c : Compiler} {t : Tree} {id : NodeId} {source : Source}
    {fc fc' : FilterClauses} {f : Filter} {s s' : CompileState}
    (h : (addFilter c t (t.nodeAt id).table source fc f).Yields s fc' s') :
    fc.Grows t c.dialect fc' [⟨id, source, f⟩] := by
  rcases addFilter_cases h with ⟨hform, rfl⟩ | ⟨condition, hform, rfl⟩ |
    ⟨column, type, without, members, hform, rfl, -, -⟩
  · exact .always hform
  · exact .holds hform
  · exact .member (x := ⟨id, source, f⟩) hform members

/-- What walking over the filters of a step adds; the step has been found. -/
theorem grows_addFilters {c : Compiler} {t : Tree} {p : Path} {fc fc' : FilterClauses}
    {id : NodeId} {s s' : CompileState} (h : (addFilters c t p fc id).Yields s fc' s') :
    fc.Grows t c.dialect fc' (t.sites p id) ∧ s'.registry = s.registry ∧
      ∃ n, t.node? id = some n := by
  obtain ⟨n, s₁, hlift, hfold⟩ := yields_bind_iff.mp h
  obtain ⟨hlive, rfl⟩ := yields_lift_iff.mp hlift
  rw [Tree.liveNode_eq_ok_iff] at hlive
  rw [← and_assoc]
  refine ⟨?_, n, hlive⟩
  obtain rfl := Tree.nodeAt_of_some hlive
  rw [Tree.sites, Tree.sitesFrom]
  clear h hlift hlive
  generalize (t.nodeAt id).filters = fs at hfold ⊢
  induction fs generalizing fc s₁ with
  | nil =>
    obtain ⟨rfl, rfl⟩ := yields_foldlM_nil_iff.mp hfold
    exact ⟨.nil t c.dialect _, rfl⟩
  | cons f fs ih =>
    obtain ⟨fc₁, s₂, hstep, hrest⟩ := yields_foldlM_cons_iff.mp hfold
    obtain ⟨hgrows, hregistry⟩ := ih _ hrest
    exact ⟨(grows_addFilter hstep).trans hgrows, hregistry.trans (registry_addFilter hstep)⟩

/-- What walking over a run of steps adds; all of them have been found. -/
theorem grows_foldlM_addFilters {c : Compiler} {t : Tree} {p : Path} {fc fc' : FilterClauses}
    {ids : List NodeId} {s s' : CompileState}
    (h : (ids.foldlM (addFilters c t p) fc).Yields s fc' s') :
    fc.Grows t c.dialect fc' (ids.flatMap (t.sites p)) ∧ s'.registry = s.registry ∧
      ∀ id ∈ ids, ∃ n, t.node? id = some n := by
  induction ids generalizing fc s with
  | nil =>
    obtain ⟨rfl, rfl⟩ := yields_foldlM_nil_iff.mp h
    exact ⟨.nil t c.dialect _, rfl, by simp⟩
  | cons id ids ih =>
    obtain ⟨fc₁, s₁, hstep, hrest⟩ := yields_foldlM_cons_iff.mp h
    obtain ⟨hgrows, hregistry, hlive⟩ := grows_addFilters hstep
    obtain ⟨hgrows', hregistry', hlive'⟩ := ih hrest
    exact ⟨hgrows.trans hgrows', hregistry'.trans hregistry,
      List.forall_mem_cons.mpr ⟨hlive, hlive'⟩⟩

end CompileM

end PathQuery
