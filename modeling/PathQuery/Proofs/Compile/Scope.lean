import PathQuery.Proofs.Compile.Lookup
import PathQuery.Proofs.Relational.Statement

/-!
# The scope of a select

A select introduces sources one after the other: the table it starts from, then one source with
each join. A join may compare columns of the sources before it and of its own, and everything else
in the select may refer to any of them. Steps, branches and membership tables are numbered apart,
so no two sources have the same name, and what each of them stands for has the columns that are
referred to. The walk over the filters is the only place where sources are added as a side effect;
what one filter adds keeps to the scope, and so does the walk.
-/

namespace PathQuery

/-! ## Names of sources -/

/-- The letter that a name begins with, which tells the role of the source. -/
def Source.mark : Source → Char
  | .step _ => 't'
  | .branch _ => 'o'
  | .membership _ => 'm'
  | .segment _ => 'a'

theorem Source.head?_name (s : Source) : s.name.toList.head? = some s.mark := by
  cases s <;> rw [name, String.toList_append] <;> rfl

theorem Source.name_injective : Function.Injective Source.name := by
  intro s s' h
  have hmark : some s.mark = some s'.mark := by rw [← head?_name, ← head?_name, h]
  have hnumber : ∀ {mark : String} {i j : ℕ}, mark ++ toString i = mark ++ toString j → i = j :=
    fun heq ↦ repr_injective ((String.append_right_inj _).mp heq)
  cases s <;> cases s'
  case step.step => rw [hnumber h]
  case branch.branch => rw [hnumber h]
  case membership.membership => rw [hnumber h]
  case segment.segment => rw [hnumber h]
  all_goals simp [mark] at hmark

/-! ## What a relation has -/

/-- Whether a relation has a column: a table of the topology, or one of some temporary tables. -/
def Relation.Has (g : Topology) (tables : List MembershipTable) : Relation → String → Prop
  | .table t, column => ∃ columns, g.columns? t = some columns ∧ column ∈ columns
  | .temporary name, column => ∃ m ∈ tables, m.name = name ∧ m.column = column

/-- The sources of a select, in the order in which they are introduced, each with the relation it
stands for. -/
abbrev Scope := List (Source × Relation)

section Scopes

variable (g : Topology) (tables : List MembershipTable)

/-- A column of a source in scope, which the source has. -/
def ColumnRef.Within (scope : Scope) (ref : ColumnRef) : Prop :=
  ∃ relation, (ref.source, relation) ∈ scope ∧ relation.Has g tables ref.column

/-- All columns of a condition are within scope. -/
def Condition.Within (scope : Scope) (c : Condition) : Prop :=
  ∀ ref ∈ c.columns, ref.Within g tables scope

/-- The source that a join introduces. -/
def Join.entry (j : Join) : Source × Relation := (j.source, j.relation)

/-- Every join compares columns of the sources before it and of its own. -/
def Join.AllWithin : Scope → List Join → Prop
  | _, [] => True
  | scope, j :: js => (∀ c ∈ j.conditions, c.Within g tables (scope ++ [j.entry])) ∧
      AllWithin (scope ++ [j.entry]) js

/-- The sources of a select. -/
def Select.scope (s : Select) : Scope := (s.source, .table s.table) :: s.joins.map Join.entry

/-- No two sources have the same name, and every reference is to a column of a source that has
been introduced. -/
structure Select.WellScoped (s : Select) : Prop where
  /-- The names of the sources are different. -/
  distinct : (s.scope.map (·.1.name)).Nodup
  /-- Joins refer to sources up to their own. -/
  joined : Join.AllWithin g tables [(s.source, .table s.table)] s.joins
  /-- Projected columns are within scope. -/
  projected : ∀ q ∈ s.projections, q.column.Within g tables s.scope
  /-- Conditions are within scope. -/
  filtered : ∀ c ∈ s.conditions, c.Within g tables s.scope
  /-- The columns that rows are sorted by are within scope. -/
  sorted : ∀ o ∈ s.order, o.column.Within g tables s.scope

end Scopes

section Lemmas

variable {g : Topology} {tables : List MembershipTable} {scope scope' : Scope}

theorem ColumnRef.Within.mono {ref : ColumnRef} (h : ref.Within g tables scope)
    (hsub : scope ⊆ scope') : ref.Within g tables scope' := by
  obtain ⟨relation, hmem, hhas⟩ := h
  exact ⟨relation, hsub hmem, hhas⟩

theorem Condition.Within.mono {c : Condition} (h : c.Within g tables scope)
    (hsub : scope ⊆ scope') : c.Within g tables scope' :=
  fun ref href ↦ (h ref href).mono hsub

theorem Join.allWithin_append {js js' : List Join} :
    Join.AllWithin g tables scope (js ++ js') ↔ Join.AllWithin g tables scope js ∧
      Join.AllWithin g tables (scope ++ js.map Join.entry) js' := by
  induction js generalizing scope with
  | nil => simp [Join.AllWithin]
  | cons j js ih => simp [Join.AllWithin, ih, and_assoc]

/-- Joins that each compare columns within scope and their own. -/
theorem Join.allWithin_of_forall {js : List Join}
    (h : ∀ j ∈ js, ∀ c ∈ j.conditions, c.Within g tables (scope ++ [j.entry])) :
    Join.AllWithin g tables scope js := by
  induction js generalizing scope with
  | nil => trivial
  | cons j js ih =>
    obtain ⟨hj, hjs⟩ := List.forall_mem_cons.mp h
    refine ⟨hj, ih fun j' hj' c hc ↦ (hjs j' hj' c hc).mono ?_⟩
    intro e he
    rcases List.mem_append.mp he with he | he
    · exact List.mem_append_left _ (List.mem_append_left _ he)
    · exact List.mem_append_right _ he

end Lemmas

/-! ## Filters -/

/-- The sources of membership tables, the first of which is the `k`-th of the statement. -/
def MembershipTable.scope (k : ℕ) (ms : List MembershipTable) : Scope :=
  (ms.zipIdx k).map fun (m, i) ↦ (.membership i, .temporary m.name)

/-- The clauses keep to a scope to which they add the sources of their membership tables. -/
structure FilterClauses.Within (g : Topology) (tables : List MembershipTable) (scope : Scope)
    (before : List MembershipTable) (fc : FilterClauses) : Prop where
  /-- There is one join for each further table. -/
  members : ∃ ms, fc.tables = before ++ ms ∧
    fc.joins.map Join.entry = MembershipTable.scope before.length ms
  /-- Joins keep to the scope. -/
  joined : Join.AllWithin g tables scope fc.joins
  /-- Conditions keep to the scope. -/
  filtered : ∀ c ∈ fc.conditions, c.Within g tables (scope ++ fc.joins.map Join.entry)

namespace FilterClauses.Within

variable {g : Topology} {tables before : List MembershipTable} {scope : Scope}
  {fc : FilterClauses}

theorem start (g : Topology) (tables before : List MembershipTable) (scope : Scope) :
    Within g tables scope before { tables := before } where
  members := ⟨[], by rw [List.append_nil], rfl⟩
  joined := trivial
  filtered c hc := by cases hc

theorem addCondition (h : fc.Within g tables scope before) {c : Condition}
    (hc : c.Within g tables scope) : (fc.addCondition c).Within g tables scope before where
  members := h.members
  joined := h.joined
  filtered := by
    intro c' hc'
    rcases List.mem_append.mp hc' with hc' | hc'
    · exact h.filtered c' hc'
    · rw [List.mem_singleton.mp hc']
      exact hc.mono (List.subset_append_left _ _)

/-- A membership table is joined as a source of its own, with a column within scope. -/
theorem addMember (h : fc.Within g tables scope before) {ref : ColumnRef}
    (href : ref.Within g tables scope) {m : MembershipTable} (hm : m ∈ tables) :
    (fc.addMember ref m).Within g tables scope before := by
  obtain ⟨ms, htables, hentries⟩ := h.members
  set own : Source × Relation := (.membership fc.tables.length, .temporary m.name) with hown
  have hmember : ∀ outer : Scope, own ∈ outer →
      (⟨.membership fc.tables.length, m.column⟩ : ColumnRef).Within g tables outer :=
    fun outer hmem ↦ ⟨_, hmem, m, hm, rfl, rfl⟩
  have hjoins : (fc.addMember ref m).joins.map Join.entry = fc.joins.map Join.entry ++ [own] := by
    rw [FilterClauses.addMember, List.map_append]
    rfl
  refine ⟨⟨ms ++ [m], by rw [FilterClauses.addMember, htables, List.append_assoc], ?_⟩, ?_, ?_⟩
  · rw [hjoins, hentries, MembershipTable.scope, MembershipTable.scope, List.zipIdx_append,
      List.map_append, hown, htables, List.length_append]
    rfl
  · refine Join.allWithin_append.mpr ⟨h.joined, ?_, trivial⟩
    intro c hc ref' href'
    rw [List.mem_singleton.mp hc] at href'
    rcases List.mem_pair.mp href' with rfl | rfl
    · exact href.mono fun e he ↦ List.mem_append_left _ (List.mem_append_left _ he)
    · exact hmember _ (List.mem_append_right _ List.mem_cons_self)
  · intro c hc
    rw [hjoins, ← List.append_assoc]
    rcases List.mem_append.mp hc with hc | hc
    · exact (h.filtered c hc).mono (List.subset_append_left _ _)
    · rw [memberConditions] at hc
      split at hc
      · rw [List.mem_singleton.mp hc]
        intro ref' href'
        rw [List.mem_singleton.mp href']
        exact hmember _ (List.mem_append_right _ List.mem_cons_self)
      · cases hc

end FilterClauses.Within

/-! ## Over a topology -/

/-- A tree over an indexed topology. -/
structure Tree.Over (t : Tree) (g : Topology) : Prop where
  /-- The topology is the tree's. -/
  catalog : t.catalog = some g
  /-- It indexes some declarations. -/
  indexed : g.Indexed

/-- The steps have declared tables. -/
def Tree.DeclaredIn (t : Tree) (g : Topology) (ids : List NodeId) : Prop :=
  ∀ id ∈ ids, ∃ info, g.info? (t.nodeAt id).table = some info

theorem Topology.exists_columns?_of_info? {g : Topology} {table : Table}
    (h : ∃ info, g.info? table = some info) : ∃ columns, g.columns? table = some columns := by
  obtain ⟨info, hinfo⟩ := h
  exact ⟨_, by rw [columns?, properties?, hinfo, Option.map_some, Option.map_some]⟩

namespace Tree.Over

variable {t : Tree} {g : Topology} (h : t.Over g)
include h

theorem columnsOf_of_columns? {table : Table} {columns : List String}
    (hcolumns : g.columns? table = some columns) : t.columnsOf table = .ok columns := by
  refine bind_eq_ok_iff.mpr ⟨g, by rw [topology, h.catalog], ?_⟩
  simp only [hcolumns]

/-- A column that the table has once it is declared. -/
theorem has_table {tables : List MembershipTable} {table : Table}
    (hdeclared : ∃ info, g.info? table = some info) {column : String}
    (hcolumn : ∀ columns, t.columnsOf table = .ok columns → column ∈ columns) :
    Relation.Has g tables (.table table) column := by
  obtain ⟨columns, hcolumns⟩ := Topology.exists_columns?_of_info? hdeclared
  exact ⟨columns, hcolumns, hcolumn columns (h.columnsOf_of_columns? hcolumns)⟩

/-- The columns that correlate a step with the one above it are columns of theirs. -/
theorem mem_columns_of_parentCorrelation {above id : NodeId} {c : Correlation}
    (hc : t.parentCorrelation id = .ok c) (hparent : t.IsParent above id) :
    (∀ columns, t.columnsOf (t.nodeAt above).table = .ok columns → c.above ∈ columns) ∧
      ∀ columns, t.columnsOf (t.nodeAt id).table = .ok columns → c.below ∈ columns := by
  obtain ⟨n, hn, h₁⟩ := bind_eq_ok_iff.mp hc
  have hnode := liveNode_eq_ok_iff.mp hn
  rw [(isParent_of_some hnode).mp hparent] at h₁
  obtain ⟨m, hm, hcorrelation⟩ := bind_eq_ok_iff.mp h₁
  rw [nodeAt_of_some hnode, nodeAt_of_some (liveNode_eq_ok_iff.mp hm)]
  exact mem_columns_of_correlation h.catalog h.indexed hcorrelation

/-- What a filter becomes is about a column of its step. -/
theorem within_of_form {tables : List MembershipTable} {scope : Scope} {d : Dialect} {bulk : Bool}
    {table : Table} {source : Source} {f : Filter} {form : FilterForm}
    (hform : f.form d t.topology bulk table source = .ok form)
    (hdeclared : ∃ info, g.info? table = some info) (hsource : (source, .table table) ∈ scope) :
    (∀ c ∈ form.condition?, c.Within g tables scope) ∧
      ∀ ref type without, form = .member ref type without → ref.Within g tables scope := by
  rw [Filter.form] at hform
  split at hform
  · obtain rfl := Except.ok.inj hform
    split <;> simp [FilterForm.condition?, Condition.Within, Condition.columns]
  · obtain ⟨⟨column, type⟩, hcolumn, hon⟩ := bind_eq_ok_iff.mp hform
    have hwithin : (⟨source, column⟩ : ColumnRef).Within g tables scope := by
      refine ⟨_, hsource, h.has_table hdeclared fun columns hcolumns ↦ ?_⟩
      rcases Filter.resolves_of_column hcolumn with rfl | ⟨g', hg', hresolves⟩
      · exact idColumn_mem_of_columnsOf hcolumns
      · rw [topology, h.catalog] at hg'
        obtain rfl := Except.ok.inj hg'
        exact mem_columns_of_resolves h.catalog h.indexed hresolves hcolumns
    obtain ⟨hconditions, hmember⟩ := Filter.columns_of_formOn hon
    constructor
    · intro c hc ref href
      rw [hconditions c hc, List.mem_singleton] at href
      rwa [href]
    · intro ref type' without heq
      rwa [hmember ref type' without heq]

end Tree.Over

/-! ## The walk over the filters -/

namespace CompileM

variable {c : Compiler} {t : Tree} {g : Topology} {tables before : List MembershipTable}
  {scope : Scope} {fc fc' : FilterClauses} {s s' : CompileState}

/-- One filter only adds what keeps to the scope. -/
theorem within_addFilter (h : t.Over g) {table : Table} {source : Source}
    (hdeclared : ∃ info, g.info? table = some info) (hsource : (source, .table table) ∈ scope)
    {f : Filter} (hyields : (addFilter c t table source fc f).Yields s fc' s')
    (hfc : fc.tables ⊆ tables → fc.Within g tables scope before) :
    fc'.tables ⊆ tables → fc'.Within g tables scope before := by
  intro hsub
  rcases addFilter_cases hyields with ⟨-, rfl⟩ | ⟨condition, hform, rfl⟩ |
    ⟨ref, type, without, m, hform, rfl, -, -⟩
  · exact hfc hsub
  · exact (hfc hsub).addCondition ((h.within_of_form hform hdeclared hsource).1 condition rfl)
  · have hbefore : fc.tables ⊆ tables := fun x hx ↦ hsub (List.mem_append_left _ hx)
    have hm : m ∈ tables := hsub (List.mem_append_right _ List.mem_cons_self)
    exact (hfc hbefore).addMember
      ((h.within_of_form hform hdeclared hsource).2 ref type without rfl) hm

/-- The filters of a run of steps only add what keeps to the scope, by induction over the steps and
then over the filters of each. -/
theorem within_foldlM_addFilters (h : t.Over g) {p : Path} {ids : List NodeId}
    (hdeclared : t.DeclaredIn g ids)
    (hsource : ∀ id ∈ ids, (p.source id, .table (t.nodeAt id).table) ∈ scope)
    (hyields : (ids.foldlM (addFilters c t p) { tables := before }).Yields s fc s')
    (hsub : fc.tables ⊆ tables) : fc.Within g tables scope before := by
  refine yields_foldlM_induction hyields (P := fun fc ↦
    fc.tables ⊆ tables → fc.Within g tables scope before)
    (fun _ ↦ .start g tables before scope) ?_ hsub
  intro id hid fc s fc' s' hfc hstep
  obtain ⟨n, s₁, hlift, hfold⟩ := yields_bind_iff.mp hstep
  obtain ⟨hlive, rfl⟩ := yields_lift_iff.mp hlift
  obtain rfl := Tree.nodeAt_of_some (Tree.liveNode_eq_ok_iff.mp hlive)
  exact yields_foldlM_induction hfold hfc fun f _ fc s fc' s' hfc hyields ↦
    within_addFilter h (hdeclared id hid) (hsource id hid) hyields hfc

end CompileM

/-! ## The joins of a run -/

/-- The sources of some steps of a path. -/
def Tree.stepScope (t : Tree) (p : Path) (ids : List NodeId) : Scope :=
  ids.map fun id ↦ (p.source id, .table (t.nodeAt id).table)

/-- The sources of optional branches. -/
def Tree.branchScope (t : Tree) (branches : List NodeId) : Scope :=
  branches.zipIdx.map fun (b, j) ↦ (.branch j, .table (t.nodeAt b).table)

/-- The sources of a run whose filters have loaded some membership tables, the first of which is
the `k`-th of the statement. -/
def Run.scope (t : Tree) (p : Path) (branches : List NodeId) (k : ℕ) (ms : List MembershipTable)
    (r : Run) : Scope :=
  t.stepScope p r.ids ++ MembershipTable.scope k ms ++ if r.ends then t.branchScope branches else []

namespace Tree.Over

variable {t : Tree} {g : Topology} (h : t.Over g) {tables : List MembershipTable}
include h

/-- Each step is joined to the one above it, which is in scope. -/
theorem allWithin_stepJoins {p : Path} {above : NodeId} {ids : List NodeId} {js : List Join}
    (hjs : t.stepJoins p ids = .ok js) (hchain : (above :: ids).IsChain t.IsParent)
    (hdeclared : t.DeclaredIn g (above :: ids)) {scope : Scope}
    (habove : (p.source above, .table (t.nodeAt above).table) ∈ scope) :
    Join.AllWithin g tables scope js ∧ js.map Join.entry = t.stepScope p ids := by
  induction ids generalizing above js scope with
  | nil =>
    obtain rfl : js = [] := by simpa [stepJoins, pure, Except.pure] using hjs.symm
    exact ⟨trivial, rfl⟩
  | cons id ids ih =>
    obtain ⟨j, js, hj, hrestJs, rfl⟩ := List.forall₂_cons_left_iff.mp (mapM_eq_ok_iff.mp hjs)
    obtain ⟨hparent, hrest⟩ := List.isChain_cons_cons.mp hchain
    obtain ⟨hinfo, hdeclared⟩ := List.forall_mem_cons.mp hdeclared
    obtain ⟨c, hc, rfl⟩ := stepJoin_eq_ok hj hparent
    obtain ⟨hcolumnAbove, hcolumnBelow⟩ := h.mem_columns_of_parentCorrelation hc hparent
    have hown := hdeclared id List.mem_cons_self
    have hentered : (p.source id, Relation.table (t.nodeAt id).table) ∈
        scope ++ [(p.source id, Relation.table (t.nodeAt id).table)] :=
      List.mem_append_right _ List.mem_cons_self
    obtain ⟨hall, hentries⟩ := ih (mapM_eq_ok_iff.mpr hrestJs) hrest hdeclared hentered
    refine ⟨⟨?_, hall⟩, by rw [List.map_cons, hentries]; rfl⟩
    intro condition hcondition ref href
    rw [List.mem_singleton.mp hcondition] at href
    rcases List.mem_pair.mp href with rfl | rfl
    · exact ⟨_, List.mem_append_left _ habove, h.has_table hinfo hcolumnAbove⟩
    · exact ⟨_, List.mem_append_right _ List.mem_cons_self, h.has_table hown hcolumnBelow⟩

/-- Each branch is joined to the end of the path, which is in scope. -/
theorem within_branchJoin {d : Dialect} {p : Path} {above : Node}
    (habove : t.liveNode p.leaf = .ok above) {b : NodeId} {i : ℕ} {j : Join}
    (hj : t.branchJoin d p above b i = .ok j) (hparent : t.IsParent p.leaf b)
    (hleaf : ∃ info, g.info? (t.nodeAt p.leaf).table = some info)
    (hdeclared : ∃ info, g.info? (t.nodeAt b).table = some info) {scope : Scope}
    (hscope : (p.source p.leaf, .table (t.nodeAt p.leaf).table) ∈ scope) :
    (∀ c ∈ j.conditions, c.Within g tables (scope ++ [j.entry])) ∧
      j.entry = (.branch i, .table (t.nodeAt b).table) := by
  obtain ⟨c, hc, hformed, rfl⟩ := branchJoin_eq_ok habove hj
  obtain ⟨hcolumnAbove, hcolumnBelow⟩ := h.mem_columns_of_parentCorrelation hc hparent
  refine ⟨List.forall_mem_cons.mpr ⟨?_, ?_⟩, rfl⟩
  · intro ref href
    rcases List.mem_pair.mp href with rfl | rfl
    · exact ⟨_, List.mem_append_left _ hscope, h.has_table hleaf hcolumnAbove⟩
    · exact ⟨_, List.mem_append_right _ List.mem_cons_self, h.has_table hdeclared hcolumnBelow⟩
  · intro condition hcondition
    obtain ⟨x, hx, hcx⟩ := List.mem_filterMap.mp hcondition
    obtain ⟨form, hform⟩ := hformed x hx
    rw [FilterSite.condition?_of_form hform] at hcx
    obtain ⟨f, -, rfl⟩ := List.mem_map.mp hx
    exact (h.within_of_form hform hdeclared
      (List.mem_append_right _ List.mem_cons_self)).1 condition hcx

/-- The joins of the branches keep to any scope with the end of the path. -/
theorem allWithin_branchJoins {d : Dialect} {p : Path} {branches : List NodeId} {js : List Join}
    (hjs : t.branchJoins d p branches = .ok js) (hparents : ∀ b ∈ branches, t.IsParent p.leaf b)
    (hleaf : ∃ info, g.info? (t.nodeAt p.leaf).table = some info)
    (hdeclared : t.DeclaredIn g branches) {scope : Scope}
    (hscope : (p.source p.leaf, .table (t.nodeAt p.leaf).table) ∈ scope) :
    Join.AllWithin g tables scope js ∧ js.map Join.entry = t.branchScope branches := by
  obtain ⟨above, habove, hmap⟩ := bind_eq_ok_iff.mp hjs
  have hjoin : ∀ x ∈ branches.zipIdx, ∀ j, t.branchJoin d p above x.1 x.2 = .ok j →
      (∀ c ∈ j.conditions, c.Within g tables (scope ++ [j.entry])) ∧
        j.entry = (.branch x.2, .table (t.nodeAt x.1).table) := by
    intro x hx j hj
    have hmem := List.fst_mem_of_mem_zipIdx hx
    exact h.within_branchJoin habove hj (hparents x.1 hmem) hleaf (hdeclared x.1 hmem) hscope
  constructor
  · refine Join.allWithin_of_forall fun j hj ↦ ?_
    obtain ⟨x, hx, hok⟩ := exists_of_mem_right_of_mapM_eq_ok hmap j hj
    exact (hjoin x hx j hok).1
  · rw [mapM_eq_ok_iff] at hmap
    rw [branchScope]
    clear hjs
    generalize branches.zipIdx = xs at hmap hjoin
    induction hmap with
    | nil => rfl
    | cons hok _ ih =>
      obtain ⟨hfirst, hrest⟩ := List.forall_mem_cons.mp hjoin
      rw [List.map_cons, List.map_cons, ih hrest, (hfirst _ hok).2]

/-- The condition on the start is about the identity of the root. -/
theorem within_startConditions {p : Path} {scope : Scope}
    (hroot : ∃ info, g.info? (t.nodeAt rootId).table = some info)
    (hscope : (p.source rootId, .table (t.nodeAt rootId).table) ∈ scope) :
    ∀ c ∈ t.startConditions p, c.Within g tables scope := by
  intro c hc ref href
  rw [startConditions] at hc
  split at hc
  · cases hc
  · rw [List.mem_singleton.mp hc] at href
    rw [List.mem_singleton.mp href]
    exact ⟨_, hscope, h.has_table hroot fun _ ↦ idColumn_mem_of_columnsOf⟩

/-- A branch is absent when its identity is null. -/
theorem within_absences {branches : List NodeId} {js : List Join}
    (hjs : js.map Join.entry = t.branchScope branches) (hdeclared : t.DeclaredIn g branches) :
    ∀ c ∈ Join.absences js, c.Within g tables (t.branchScope branches) := by
  intro c hc ref href
  obtain ⟨j, hj, rfl⟩ := List.mem_map.mp hc
  rw [List.mem_singleton.mp href]
  have hentry : j.entry ∈ t.branchScope branches := hjs ▸ List.mem_map_of_mem hj
  obtain ⟨x, hx, heq⟩ := List.mem_map.mp hentry
  refine ⟨j.relation, hentry, ?_⟩
  rw [← (Prod.mk.inj heq).2]
  exact h.has_table (hdeclared x.1 (List.fst_mem_of_mem_zipIdx hx))
    fun _ ↦ idColumn_mem_of_columnsOf

end Tree.Over

/-! ## The sources of a run -/

theorem Path.Places.map_source {p : Path} {k : ℕ} {ids : List NodeId} (h : p.Places k ids) :
    ids.map p.source = (List.range' k ids.length).map Source.step := by
  induction ids generalizing k with
  | nil => rfl
  | cons id ids ih =>
    obtain ⟨hid, hids⟩ := Path.Places.cons_iff.mp h
    rw [List.map_cons, hid, ih hids, List.length_cons, List.range'_succ, List.map_cons]

namespace Run

variable {t : Tree} {p : Path} {branches : List NodeId} {k k' : ℕ} {ms : List MembershipTable}
  {r : Run}

/-- Steps, membership tables and branches are numbered apart, and each of them in turn. -/
theorem nodup_scope (hplaces : p.Places k' r.ids) :
    ((r.scope t p branches k ms).map (·.1.name)).Nodup := by
  have hnames : (r.scope t p branches k ms).map (·.1.name) =
      ((r.scope t p branches k ms).map Prod.fst).map Source.name := by
    rw [List.map_map]
    rfl
  have hsteps : (t.stepScope p r.ids).map Prod.fst =
      (List.range' k' r.ids.length).map Source.step := by
    rw [← hplaces.map_source, Tree.stepScope, List.map_map]
    rfl
  have hmembers : (MembershipTable.scope k ms).map Prod.fst =
      (List.range' k ms.length).map Source.membership := by
    rw [MembershipTable.scope, ← List.zipIdx_map_snd, List.map_map, List.map_map]
    rfl
  have hbranches : (t.branchScope branches).map Prod.fst =
      (List.range' 0 branches.length).map Source.branch := by
    rw [Tree.branchScope, ← List.zipIdx_map_snd, List.map_map, List.map_map]
    rfl
  have hcounted : ∀ {mark : ℕ → Source}, Function.Injective mark → ∀ i n,
      ((List.range' i n).map mark).Nodup :=
    fun hmark i n ↦ List.Nodup.map hmark List.nodup_range'
  rw [hnames]
  -- a source has a name of its own, so it is enough that none is introduced twice
  refine List.Nodup.map Source.name_injective ?_
  rw [Run.scope, List.map_append, List.map_append, hsteps, hmembers, List.nodup_append,
    List.nodup_append]
  refine ⟨⟨hcounted (fun _ _ ↦ Source.step.inj) _ _, hcounted (fun _ _ ↦ Source.membership.inj) _ _,
    ?_⟩, ?_, ?_⟩
  · intro a ha b hb
    obtain ⟨_, -, rfl⟩ := List.mem_map.mp ha
    obtain ⟨_, -, rfl⟩ := List.mem_map.mp hb
    exact Source.noConfusion
  · split
    · rw [hbranches]
      exact hcounted (fun _ _ ↦ Source.branch.inj) _ _
    · exact List.nodup_nil
  · intro a ha b hb
    split at hb
    · rw [hbranches] at hb
      obtain ⟨_, -, rfl⟩ := List.mem_map.mp hb
      rcases List.mem_append.mp ha with ha | ha
      · obtain ⟨_, -, rfl⟩ := List.mem_map.mp ha
        exact Source.noConfusion
      · obtain ⟨_, -, rfl⟩ := List.mem_map.mp ha
        exact Source.noConfusion
    · cases hb

/-- What the steps of a run have is within the scope of its select. -/
theorem within_scope_of_step {g : Topology} {tables : List MembershipTable} {ref : ColumnRef}
    (h : ref.Within g tables (t.stepScope p r.ids)) :
    ref.Within g tables (r.scope t p branches k ms) :=
  h.mono fun _ he ↦ List.mem_append_left _ (List.mem_append_left _ he)

/-- A run of a path that has been cut is a stretch of it. -/
theorem exists_stretches (hnodup : p.all.Nodup) (hchain : p.all.IsChain t.IsParent)
    (hcut : ∀ nodes, t.segments p ≠ [nodes]) (hr : r ∈ Run.ofSegments true (t.segments p)) :
    ∃ k first rest, r.Stretches t p k first rest := by
  have hne := Run.ids_ne_nil_of_mem_ofSegments (Tree.ne_nil_of_mem_segments hcut) r hr
  obtain ⟨first, rest, hids⟩ := List.exists_cons_of_ne_nil hne
  obtain ⟨pre, post, hpath, hpre, hpost⟩ := Run.exists_append_of_mem hr
  rw [Run.flatMap_ids_ofSegments, hids] at hpath
  exact ⟨_, first, rest, stretches_of_append hnodup hchain hids hpath hpre hpost⟩

/-- The run of a path that has not been cut is all of it. -/
theorem stretches_whole (hnodup : p.all.Nodup) (hchain : p.all.IsChain t.IsParent) :
    (Run.whole p).Stretches t p 0 rootId p.nodes := by
  have hpath : p.all = [] ++ rootId :: p.nodes ++ [] := (List.append_nil _).symm
  exact stretches_of_append hnodup hchain rfl hpath (fun _ ↦ rfl) (fun _ ↦ rfl)

end Run

/-! ## One select -/

namespace SelectParts.Fit

variable {parts : SelectParts} {c : Compiler} {t : Tree} {p : Path} {branches : List NodeId}
  {before : List MembershipTable} {r : Run} {g : Topology} {tables : List MembershipTable} {k : ℕ}
  {first : NodeId} {rest : List NodeId}

/-- The joins of a select introduce the sources of its run one after the other, and each keeps to
those before it. -/
theorem allWithin_joins (fit : parts.Fit c t p branches before r) (h : t.Over g)
    (hr : r.Stretches t p k first rest) (hids : t.DeclaredIn g r.ids)
    (hbranches : t.DeclaredIn g branches) (hparents : ∀ b ∈ branches, t.IsParent p.leaf b)
    (hsub : parts.clauses.tables ⊆ tables) :
    Join.AllWithin g tables [(p.source first, .table (t.nodeAt first).table)]
        (parts.chain ++ parts.clauses.joins ++ parts.optional) ∧
      ∃ ms, parts.clauses.tables = before ++ ms ∧
        parts.clauses.Within g tables (t.stepScope p r.ids) before ∧
        (p.source first, .table (t.nodeAt first).table) ::
            (parts.chain ++ parts.clauses.joins ++ parts.optional).map Join.entry =
          r.scope t p branches before.length ms ∧
        parts.optional.map Join.entry = if r.ends then t.branchScope branches else [] := by
  have hsteps : t.stepScope p r.ids =
      (p.source first, .table (t.nodeAt first).table) :: t.stepScope p rest := by
    rw [Tree.stepScope, hr.ids]
    rfl
  have hstep : ∀ id ∈ r.ids, (p.source id, .table (t.nodeAt id).table) ∈ t.stepScope p r.ids :=
    fun id hid ↦ List.mem_map_of_mem hid
  -- the steps come first
  have hstepJoins : t.stepJoins p rest = .ok parts.chain := by
    have hchain := fit.chain
    rwa [hr.ids] at hchain
  have hchain : Join.AllWithin g tables [(p.source first, .table (t.nodeAt first).table)]
      parts.chain ∧ parts.chain.map Join.entry = t.stepScope p rest :=
    h.allWithin_stepJoins hstepJoins hr.chain (hr.ids ▸ hids) (List.mem_singleton.mpr rfl)
  -- then the membership tables of their filters
  obtain ⟨s, s', hwalk⟩ := fit.walked
  have hclauses := CompileM.within_foldlM_addFilters h hids hstep hwalk hsub
  obtain ⟨ms, htables, hmembers⟩ := hclauses.members
  -- and in the last run the branches
  have hoptional : Join.AllWithin g tables
      (t.stepScope p r.ids ++ parts.clauses.joins.map Join.entry) parts.optional ∧
        parts.optional.map Join.entry = if r.ends then t.branchScope branches else [] := by
    have hok := fit.optional
    split at hok
    · next hends =>
      have hleaf : p.leaf ∈ r.ids := by
        rw [hr.ends hends, hr.ids]
        exact List.getLastD_mem_cons
      rw [if_pos hends]
      exact h.allWithin_branchJoins hok hparents (hids _ hleaf) hbranches
        (List.mem_append_left _ (hstep _ hleaf))
    · next hends =>
      rw [← Except.ok.inj hok, if_neg hends]
      exact ⟨trivial, rfl⟩
  have hentered : (p.source first, .table (t.nodeAt first).table) ::
      parts.chain.map Join.entry = t.stepScope p r.ids := by
    rw [hchain.2, hsteps]
  refine ⟨?_, ms, htables, hclauses, ?_, hoptional.2⟩
  · rw [Join.allWithin_append, Join.allWithin_append]
    refine ⟨⟨hchain.1, ?_⟩, ?_⟩
    · rw [List.singleton_append, hentered]
      exact hclauses.joined
    · rw [List.map_append, ← List.append_assoc, List.singleton_append, hentered]
      exact hoptional.1
  · rw [List.map_append, List.map_append, hmembers, hoptional.2, Run.scope, ← hentered,
      List.cons_append, List.cons_append]

/-- **A select is well scoped**, if what it projects and what its rows are sorted by are columns of
its steps. -/
theorem wellScoped_select (fit : parts.Fit c t p branches before r) (h : t.Over g)
    (hr : r.Stretches t p k first rest) (hids : t.DeclaredIn g r.ids)
    (hbranches : t.DeclaredIn g branches) (hparents : ∀ b ∈ branches, t.IsParent p.leaf b)
    (hsub : parts.clauses.tables ⊆ tables) {projected : List Projected}
    (hprojected : ∀ q ∈ projected,
      (⟨p.source q.node, q.column⟩ : ColumnRef).Within g tables (t.stepScope p r.ids))
    {order : List SortColumn}
    (horder : ∀ o ∈ order, o.column.Within g tables (t.stepScope p r.ids)) :
    (parts.select t p projected r order).WellScoped g tables ∧
      ∃ ms ⊆ tables, (parts.select t p projected r order).scope =
        r.scope t p branches before.length ms := by
  obtain ⟨hjoined, ms, htables, hclauses, hentries, hoptional⟩ :=
    fit.allWithin_joins h hr hids hbranches hparents hsub
  have hfirst : (parts.select t p projected r order).source = p.source first ∧
      (parts.select t p projected r order).table = (t.nodeAt first).table := by
    obtain ⟨n, hn⟩ := fit.live first (by rw [hr.ids]; exact List.mem_cons_self)
    rw [select, hr.ids, List.headD_cons, Tree.tableOf_of_some hn, Tree.nodeAt_of_some hn]
    exact ⟨rfl, rfl⟩
  have hscope : (parts.select t p projected r order).scope =
      r.scope t p branches before.length ms := by
    rw [Select.scope, hfirst.1, hfirst.2]
    exact hentries
  have hstep : ∀ {ref : ColumnRef}, ref.Within g tables (t.stepScope p r.ids) →
      ref.Within g tables (parts.select t p projected r order).scope := by
    intro ref href
    rw [hscope]
    exact Run.within_scope_of_step href
  refine ⟨⟨?_, ?_, ?_, ?_, fun o ho ↦ hstep (horder o ho)⟩, ms, ?_, hscope⟩
  · rw [hscope]
    exact Run.nodup_scope (hr.ids ▸ hr.places)
  · rw [hfirst.1, hfirst.2]
    exact hjoined
  · intro q hq
    obtain ⟨x, hx, rfl⟩ := List.mem_map.mp hq
    exact hstep (hprojected x hx)
  -- a condition is about the start, a filter or the absence of a branch
  · intro condition hcondition
    rcases List.mem_append.mp hcondition with hcondition | hcondition
    · rcases List.mem_append.mp hcondition with hcondition | hcondition
      · split at hcondition
        · next hstarts =>
          have hroot : rootId ∈ r.ids := by
            rw [hr.ids, hr.starts hstarts]
            exact List.mem_cons_self
          have hentered : (p.source rootId, .table (t.nodeAt rootId).table) ∈
              t.stepScope p r.ids := List.mem_map_of_mem hroot
          exact fun ref href ↦ hstep (h.within_startConditions (hids rootId hroot) hentered
            condition hcondition ref href)
        · cases hcondition
      · obtain ⟨ms', htables', hmembers⟩ := hclauses.members
        obtain rfl : ms' = ms := List.append_cancel_left (htables'.symm.trans htables)
        rw [hscope, Run.scope, ← hmembers]
        exact (hclauses.filtered condition hcondition).mono (List.subset_append_left _ _)
    · rw [hscope, Run.scope]
      split at hoptional
      · next hends =>
        rw [if_pos hends]
        exact (h.within_absences hoptional hbranches condition hcondition).mono
          (List.subset_append_right _ _)
      · rw [List.map_eq_nil_iff.mp hoptional] at hcondition
        cases hcondition
  · exact fun m hm ↦ hsub (htables ▸ List.mem_append_right _ hm)

end SelectParts.Fit

namespace Tree.Over

variable {t : Tree} {g : Topology} (h : t.Over g) {tables : List MembershipTable} {p : Path}
  {ids : List NodeId} (hdeclared : t.DeclaredIn g ids)
include h hdeclared

/-- A column of a step is within the scope of the steps. -/
theorem within_stepScope {id : NodeId} {column : String} (hid : id ∈ ids)
    (hcolumn : ∀ columns, t.columnsOf (t.nodeAt id).table = .ok columns → column ∈ columns) :
    (⟨p.source id, column⟩ : ColumnRef).Within g tables (t.stepScope p ids) :=
  ⟨_, List.mem_map_of_mem hid, h.has_table (hdeclared id hid) hcolumn⟩

/-- What a run projects are columns of its steps, if what is needed of them is. -/
theorem within_of_mem_slots {r : Run} (hids : r.ids = ids) {needed : List (NodeId × String)}
    (hneeded : ∀ x ∈ needed, ∀ columns,
      t.columnsOf (t.nodeAt x.1).table = .ok columns → x.2 ∈ columns)
    {k : ℕ} {q : Projected} (hq : q ∈ Slot.nameAll k (r.slots t p needed)) :
    (⟨p.source q.node, q.column⟩ : ColumnRef).Within g tables (t.stepScope p ids) := by
  have hslot := Slot.mem_of_mem_nameAll hq
  have hnode : q.node ∈ ids := hids ▸ Run.node_mem_of_mem_slots hslot
  refine h.within_stepScope hdeclared hnode fun columns hok ↦ ?_
  rcases Run.mem_columnsAt_or_needed hslot with (hmem : q.column ∈ t.columnsAt q.node) | hmem
  · rwa [columnsAt_of_eq_ok hok] at hmem
  · exact hneeded _ hmem columns hok

/-- The column of a sort key is a column of its step. -/
theorem within_of_sortKeys {keys : List SortKey} {sorted : List NodeId}
    (hkeys : t.sortKeys sorted = .ok keys) {key : SortKey} (hkey : key ∈ keys)
    (hnode : key.node ∈ ids) :
    (⟨p.source key.node, key.column⟩ : ColumnRef).Within g tables (t.stepScope p ids) := by
  refine h.within_stepScope hdeclared hnode fun columns hok ↦ ?_
  obtain ⟨a, -, o, hsort⟩ := exists_sortKey_of_mem hkeys hkey
  obtain ⟨-, n, g', hn, hg', hresolves⟩ := resolves_of_sortKey hsort
  rw [topology, h.catalog] at hg'
  obtain rfl := Except.ok.inj hg'
  rw [nodeAt_of_some (liveNode_eq_ok_iff.mp hn)] at hok
  exact mem_columns_of_resolves h.catalog h.indexed hresolves hok

end Tree.Over

/-! ## Statements -/

/-- The selects in a query: its only one, or its derived tables. -/
def Query.selects : Query → List Select
  | .single s => [s]
  | .split s => s.tables

/-- The references of a statement to its derived tables. Rows are sorted by `keys`, and derived
tables are joined at `js`. -/
structure SplitSelect.WellScoped (t : Tree) (p : Path) (keys : List Tree.SortKey)
    (js : List CompileM.Joint) (s : SplitSelect) : Prop where
  /-- The names of the derived tables are different. -/
  distinct : ((List.range' 1 s.tables.length).map fun n ↦ (Source.segment n).name).Nodup
  /-- No alias is given twice. -/
  given : ((s.tables.flatMap (·.projections)).map (·.name)).Nodup
  /-- There is one further derived table for each joint. -/
  joined : s.links.length = js.length
  /-- A joint compares the columns that correlate the last step before it with the first after it.
  The derived table of either has been introduced. -/
  linked : ∀ (i : ℕ) l j, s.links[i]? = some l → js[i]? = some j →
    (∃ before after above below, (t.segments p)[i]? = some before ∧
      (t.segments p)[i + 1]? = some after ∧ before.getLast? = some j.left ∧
      after.head? = some j.right ∧ t.liveNode j.left = .ok above ∧
      t.liveNode j.right = .ok below ∧ t.correlation j.right above below = .ok j.columns) ∧
    l.left.source = .segment (i + 1) ∧ l.right.source = .segment (i + 2) ∧
    s.Resolves l.left ⟨p.source j.left, j.columns.above⟩ ∧
    s.Resolves l.right ⟨p.source j.right, j.columns.below⟩
  /-- Rows are sorted by the columns of the keys. -/
  sorted : List.Forall₂ (fun key o ↦ o.order = key.order ∧
    s.Resolves o.column ⟨p.source key.node, key.column⟩) keys s.order
  /-- The projected columns are those of shown steps, under the same alias. -/
  shown : ∀ q ∈ s.projections, q.name = q.column.column ∧ ∃ x ∈ t.shownSlots p.leaf p.all,
    s.Resolves q.column ⟨p.source x.node, x.column⟩

theorem CutPath.wellScoped {c : Compiler} {t : Tree} {p : Path} {branches : List NodeId} {k : ℕ}
    {keys : List Tree.SortKey} {js : List CompileM.Joint} {segments : List CompileM.Segment}
    {tables : List MembershipTable} (h : CutPath c t p branches k keys js segments tables) :
    (SplitSelect.ofSegments p.leaf segments js keys).WellScoped t p keys js where
  distinct := by
    have hinjective : Function.Injective fun n ↦ (Source.segment n).name :=
      fun _ _ heq ↦ Source.segment.inj (Source.name_injective heq)
    exact List.Nodup.map hinjective List.nodup_range'
  given := by
    rw [h.projections_tables, List.map_map]
    exact Slot.nodup_names _ _
  joined := by
    rw [SplitSelect.ofSegments, List.length_map, List.length_zip, List.length_drop, h.length_eq]
    omega
  linked := by
    intro i l j hl hj
    obtain ⟨before, after, hbefore, hafter, hleft, hright, -⟩ := h.exists_runs hj
    obtain ⟨above, below, habove, hbelow, hcorrelation⟩ :=
      joint_of_mem h.joints (List.mem_of_getElem? hj)
    obtain ⟨j', hj', hlink⟩ := h.resolves_link hl
    obtain rfl := Option.some.inj (hj.symm.trans hj')
    exact ⟨⟨before, after, above, below, hbefore, hafter, hleft, hright, habove, hbelow,
      hcorrelation⟩, hlink⟩
  sorted := h.resolves_order
  shown _ := h.resolves_shown

namespace Compiles

variable {c : Compiler} {t : Tree} {p : Path} {branches : List NodeId} {k : ℕ} {q : Query}
  {tables : List MembershipTable} {slots : List Slot} {g : Topology}

/-- Whatever it may be cut into, every select of a compiled path is well scoped, and its sources
are those of a run of steps of the path. -/
theorem wellScoped_selects (h : Compiles c t p branches k q tables slots) (hbuilt : t.Built)
    (hvalid : t.validate = .ok ()) (ht : t.Over g) {id : NodeId} (hp : p = t.pathTo id) :
    ∀ s ∈ q.selects, s.WellScoped g tables ∧
      ∃ r : Run, r.ids ⊆ p.all ∧ ∃ i, ∃ ms ⊆ tables, s.scope = r.scope t p branches i ms := by
  have hcompiles := h
  obtain ⟨hdeclared, hbranches⟩ := h.declared hbuilt hvalid ht.catalog hp
  have hchain := h.isChain_all hbuilt hp
  have hnodup := Tree.nodup_of_isChain hbuilt.rooted hchain
  have hparents : ∀ b ∈ branches, t.IsParent p.leaf b := by
    intro b hb
    obtain ⟨n, hn, hparent⟩ := h.branch b hb
    exact (Tree.isParent_of_some hn).mpr hparent
  cases h with
  | @single keys parts nodes sorted uncut shown fit =>
    intro s hs
    rw [List.mem_singleton.mp hs]
    have hprojected : ∀ q ∈ Slot.nameAll k (t.shownSlots p.leaf p.all),
        (⟨p.source q.node, q.column⟩ : ColumnRef).Within g parts.clauses.tables
          (t.stepScope p p.all) := by
      intro q hq
      have hslots : q ∈ Slot.nameAll k ((Run.whole p).slots t p []) := by
        rw [Run.slots, Slot.nameAll_append]
        exact List.mem_append_left _ hq
      exact ht.within_of_mem_slots hdeclared rfl (List.forall_mem_nil _) hslots
    have horder : ∀ o ∈ keys.map fun key ↦
        (⟨⟨p.source key.node, key.column⟩, key.order⟩ : SortColumn),
        o.column.Within g parts.clauses.tables (t.stepScope p p.all) := by
      intro o ho
      obtain ⟨key, hkey, rfl⟩ := List.mem_map.mp ho
      exact ht.within_of_sortKeys hdeclared sorted hkey
        (hcompiles.node_mem_of_sortKeys hbuilt hp sorted key hkey)
    obtain ⟨hscoped, ms, hms, hscope⟩ := fit.wellScoped_select ht
      (Run.stretches_whole hnodup hchain) hdeclared hbranches hparents (List.Subset.refl _)
      hprojected horder
    exact ⟨hscoped, Run.whole p, List.Subset.refl _, _, ms, hms, hscope⟩
  | @split keys js segments tables sorted cut joints derived =>
    have hcut := hcompiles.cutPath hbuilt ⟨g, ht.catalog, ht.indexed⟩ hp sorted cut joints derived
    intro s hs
    have htables : s ∈ (SplitSelect.ofSegments p.leaf segments js keys).tables := hs
    rw [SplitSelect.tables_ofSegments hcut.length_eq] at htables
    obtain ⟨segment, hsegment, rfl⟩ := List.mem_map.mp htables
    obtain ⟨r, hr, k', parts, before, rfl, fit, hloaded⟩ :=
      exists_of_mem_forall₂ derived.forall₂_loaded.flip hsegment
    obtain ⟨_, first, rest, hstretch⟩ := Run.exists_stretches hnodup hchain cut hr
    have hids : r.ids ⊆ p.all := by
      rw [← Run.flatMap_ids_ofSegments t p]
      exact fun x hx ↦ List.mem_flatMap.mpr ⟨r, hr, hx⟩
    have hrun : t.DeclaredIn g r.ids := fun x hx ↦ hdeclared x (hids hx)
    -- beside what is shown, a derived table projects what the joints and the keys need
    have hneeded : ∀ x ∈ CompileM.neededColumns js keys, ∀ columns,
        t.columnsOf (t.nodeAt x.1).table = .ok columns → x.2 ∈ columns := by
      intro x hx
      obtain ⟨n, hn, hmem⟩ := hcut.exists_node_of_needed hx
      rwa [Tree.nodeAt_of_some (Tree.liveNode_eq_ok_iff.mp hn)]
    have hprojected : ∀ q ∈ Slot.nameAll k' (t.shownSlots p.leaf r.ids) ++
          Slot.nameAll (k' + (t.shownSlots p.leaf r.ids).length)
            (t.helperSlots p.leaf (CompileM.neededColumns js keys) r.ids),
        (⟨p.source q.node, q.column⟩ : ColumnRef).Within g tables (t.stepScope p r.ids) := by
      intro q hq
      rw [← Slot.nameAll_append] at hq
      exact ht.within_of_mem_slots hrun rfl hneeded hq
    obtain ⟨hscoped, ms, hms, hscope⟩ := fit.wellScoped_select ht hstretch hrun hbranches hparents
      hloaded hprojected (List.forall_mem_nil _)
    exact ⟨hscoped, r, hids, _, ms, hms, hscope⟩

end Compiles

/-- **Statements are well scoped.** Over a checked tree, in every select of a statement of any mode
the sources have different names and every reference is to a column of a source that the select
has introduced by then. When the path has been cut, every reference to a derived table is to the
alias under which that table projects the intended column: that of a correlated step at a joint,
or of the step that rows are sorted by. None of these aliases is looked up in vain. -/
theorem wellScoped_statement {t : Tree} (hbuilt : t.Built) (hvalid : t.validate = .ok ())
    {g : Topology} (ht : t.Over g) {c : Compiler} {mode : Mode} {paths : List OptionalPath}
    (hpaths : CompileM.modePaths t mode = .ok paths) {op : OptionalPath} (hop : op ∈ paths)
    {s s' : CompileState} {st : Statement}
    (hst : (CompileM.statement c t mode op.path op.branches).Yields s st s') :
    (∀ select ∈ st.query.selects, select.WellScoped g st.tables) ∧
      ∀ q, st.query = .split q → ∃ keys js, t.sortKeys op.path.all = .ok keys ∧
        CompileM.joints t (t.segments op.path) = .ok js ∧ q.WellScoped t op.path keys js ∧
        ∀ s₁ segments tables s₂, (CompileM.segmentSelects c t op.path op.branches
            (CompileM.neededColumns js keys) true [] (t.segments op.path)).Yields s₁
            (segments, tables) s₂ →
          ∀ x ∈ CompileM.neededColumns js keys,
            (Projected.find? (segments.flatMap fun s ↦ s.shown ++ s.helpers) op.path.leaf
              x.1 x.2).isSome := by
  obtain ⟨-, -, slots, hcompiles, -⟩ := CompileM.yields_statement hst
  obtain ⟨id, hid⟩ := Tree.exists_pathTo_of_modePaths hpaths hop
  refine ⟨fun select hselect ↦
    (hcompiles.wellScoped_selects hbuilt hvalid ht hid select hselect).1, ?_⟩
  intro q hq
  rw [hq] at hcompiles
  have h := hcompiles
  have hindexed : ∃ g, t.catalog = some g ∧ g.Indexed := ⟨g, ht.catalog, ht.indexed⟩
  cases h with
  | @split keys js segments tables sorted cut joints derived =>
    have hcut := hcompiles.cutPath hbuilt hindexed hid sorted cut joints derived
    refine ⟨keys, js, sorted, joints, hcut.wellScoped, ?_⟩
    intro s₁ segments' tables' s₂ hsegments x hx
    -- the derived tables may be compiled from any state
    obtain ⟨hderived, -⟩ := CompileM.yields_segmentSelects hsegments
    have hcut' : CutPath c t op.path op.branches _ keys js segments' tables' :=
      { hcut with derived := hderived }
    exact hcut'.isSome_find? hx

/-- The two derived tables of the two edges in a row are well scoped. -/
theorem wellScoped_arrows : ∃ st s' q,
    (CompileM.statement inlineCompiler arrowTree .regular ⟨[1, 2, 3]⟩ []).Yields {} st s' ∧
      st.query = .split q ∧ (∀ select ∈ q.tables, select.WellScoped arrowGraph st.tables) ∧
      ∃ keys js, q.WellScoped arrowTree ⟨[1, 2, 3]⟩ keys js := by
  obtain ⟨st, s', hst, hsplit⟩ := CompileM.exists_yields (s := {})
    (m := CompileM.statement inlineCompiler arrowTree .regular ⟨[1, 2, 3]⟩ [])
    (P := fun st _ ↦ match st.query with
      | .split _ => true
      | .single _ => false) (by decide +kernel)
  have hpaths : CompileM.modePaths arrowTree .regular =
      .ok (arrowTree.regularPaths.map (⟨·, []⟩)) := rfl
  have hop : (⟨⟨[1, 2, 3]⟩, []⟩ : OptionalPath) ∈ arrowTree.regularPaths.map (⟨·, []⟩) := by decide
  obtain ⟨hselects, hsplits⟩ := wellScoped_statement built_arrowTree (by decide +kernel)
    ⟨plainOver_arrowTree.catalog, plainOver_arrowTree.indexed⟩ hpaths hop hst
  split at hsplit
  · next q hq =>
    obtain ⟨keys, js, -, -, hscoped, -⟩ := hsplits q hq
    rw [hq] at hselects
    exact ⟨st, s', q, hst, hq, hselects, keys, js, hscoped⟩
  · cases hsplit

end PathQuery
