import PathQuery.Proofs.Compile.Reference
import PathQuery.Proofs.Sql.Drafting

/-!
# The text of a compiled statement

The clauses of a statement are written and their operands bound in the order in which they are
compiled. Here this is compared with the statement as data: walking over the filters of a run keeps
the draft of its select in step with the clauses, so that each finished select adds its own text,
numbered on from the selects before it. The text of a statement is therefore that of its query, in
which placeholders count up, and its operands are those of the query.
-/

namespace PathQuery

open Fragment

/-- The second draft has these selects more than the first, each with its operands bound. -/
structure Draft.Adds (d : Dialect) (w : Draft) (qs : List Select) (w' : Draft) : Prop where
  /-- Their texts are numbered on from each other. -/
  selects : w'.selects = w.selects ++ textsFrom d w.operands.size (qs.map (Select.fragments d))
  /-- Their operands are bound one after the other. -/
  operands : w'.operands = w.operands ++ (qs.flatMap (Select.operandsIn d)).toArray

namespace Draft.Adds

variable {d : Dialect} {w w₁ w₂ : Draft} {qs qs' : List Select}

theorem nil (d : Dialect) (w : Draft) : w.Adds d [] w where
  selects := by simp [textsFrom]
  operands := by simp

theorem trans (h : w.Adds d qs w₁) (h' : w₁.Adds d qs' w₂) : w.Adds d (qs ++ qs') w₂ where
  selects := by
    have hsize : w₁.operands.size =
        w.operands.size + (Fragment.operands (qs.map (Select.fragments d)).flatten).length := by
      rw [h.operands, Array.size_append, List.size_toArray, ← List.flatMap_def, operands_flatMap]
      rfl
    rw [h'.selects, h.selects, List.map_append, textsFrom_append, hsize, List.append_assoc]
  operands := by
    rw [h'.operands, h.operands, List.flatMap_append, Array.append_assoc]
    simp

/-- A statement that is a single select is finished with the text of that select. -/
theorem closeSingle {q : Select} (h : Draft.Adds d {} [q] w) :
    (Draft.closeSingle w).2.text = (Query.single q).render d ∧
      (Draft.closeSingle w).2.operands.toList = (Query.single q).operands d := by
  constructor
  · rw [Draft.closeSingle, DraftM.modify_apply, h.selects]
    exact (render_eq_textFrom _).symm
  · rw [Draft.closeSingle, DraftM.modify_apply, h.operands]
    simp [Query.operands, Query.fragments, Select.operandsIn]

/-- A statement that joins derived tables is finished with the text of all of them. -/
theorem closeSplit {q : SplitSelect} (h : Draft.Adds d {} q.tables w) :
    (Draft.closeSplit d q.projections (q.links.map fun l ↦ (l.left, l.right)) q.order w).2.text =
        (Query.split q).render d ∧
      (Draft.closeSplit d q.projections (q.links.map fun l ↦ (l.left, l.right)) q.order
        w).2.operands.toList = (Query.split q).operands d := by
  have hselects : w.selects =
      textsFrom d 0 (q.first.fragments d :: q.links.map fun l ↦ l.select.fragments d) := by
    rw [h.selects, SplitSelect.tables, List.map_cons, List.map_map]
    rfl
  rw [Draft.closeSplit_apply q hselects]
  refine ⟨(render_eq_textFrom _).symm, ?_⟩
  rw [h.operands, SplitSelect.tables, List.flatMap_cons, List.flatMap_map, Query.operands,
    Query.fragments, q.operands_fragments]
  simp

end Draft.Adds

/-! ## Clauses without operands -/

/-- A join that compares two columns binds nothing. -/
theorem operands_join_same {d : Dialect} {j : Join} {l r : ColumnRef}
    (h : j.conditions = [.same l r]) : Fragment.operands (j.fragments d) = [] := by
  have hhead : Fragment.operands (.text ("\n" ++ j.kind.words) :: j.relation.fragments d) = [] := by
    cases j.relation <;> rfl
  rw [Join.fragments, operands_append, hhead, h]
  rfl

theorem joinOperands_of_same {d : Dialect} {js : List Join}
    (h : ∀ j ∈ js, ∃ l r, j.conditions = [.same l r]) : joinOperands d js = [] := by
  rw [joinOperands, ← List.flatMap_def, operands_flatMap, List.flatMap_eq_nil_iff]
  intro j hj
  obtain ⟨l, r, hsame⟩ := h j hj
  exact operands_join_same hsame

theorem conditionOperands_memberConditions (table : MembershipTable) (k : ℕ) :
    conditionOperands (FilterClauses.memberConditions table k) = [] := by
  rw [FilterClauses.memberConditions]
  split <;> rfl

/-- The joins of steps compare columns only. -/
theorem Tree.joinOperands_stepJoins {t : Tree} {p : Path} {ids : List NodeId} {js : List Join}
    (h : t.stepJoins p ids = .ok js) (d : Dialect) : joinOperands d js = [] := by
  refine joinOperands_of_same fun j hj ↦ ?_
  obtain ⟨table, l, r, -, hsame⟩ := Tree.exists_of_mem_stepJoins h hj
  exact ⟨l, r, hsame⟩

/-! ## Walking over filters -/

/-- What has been written of a select is what its clauses say, and its joins with membership tables
bind nothing. -/
structure FilterClauses.InStep (d : Dialect) (w : Draft) (steps branches : List Join)
    (start : List Condition) (fc : FilterClauses) (w' : Draft) : Prop where
  /-- Joins with membership tables bind nothing. -/
  free : joinOperands d fc.joins = []
  /-- What has been written is what the clauses say. -/
  written : w' = w.underWay d steps branches fc.joins (start ++ fc.conditions)

namespace CompileM

variable {c : Compiler} {t : Tree} {p : Path} {s s' : CompileState} {w : Draft}
  {steps branches : List Join} {start : List Condition} {fc fc' : FilterClauses}

theorem inStep_addFilter {table : Table} {source : Source} {f : Filter}
    (hfc : fc.InStep c.dialect w steps branches start s.draft)
    (h : (addFilter c t table source fc f).Yields s fc' s') :
    fc'.InStep c.dialect w steps branches start s'.draft := by
  obtain ⟨form, s₁, hlift, hform⟩ := yields_bind_iff.mp h
  obtain ⟨-, rfl⟩ := yields_lift_iff.mp hlift
  cases form with
  | always =>
    obtain ⟨rfl, rfl⟩ := yields_pure_iff.mp hform
    exact hfc
  | holds condition =>
    have hpure := yields_drafting_bind_iff.mp hform
    obtain ⟨rfl, rfl⟩ := yields_pure_iff.mp hpure
    refine ⟨hfc.free, ?_⟩
    rw [hfc.written, Draft.addCondition_apply, List.append_assoc]
    rfl
  | member column type without =>
    obtain ⟨name, s₂, hname, hdraft⟩ := yields_bind_iff.mp hform
    obtain ⟨rfl, rfl⟩ := yields_nextName hname
    have hpure := yields_drafting_bind_iff.mp hdraft
    obtain ⟨rfl, rfl⟩ := yields_pure_iff.mp hpure
    have hjoin : ∀ table k,
        joinOperands c.dialect [FilterClauses.memberJoin column table k] = [] := by
      refine fun table k ↦ joinOperands_of_same fun j hj ↦ ?_
      obtain rfl := List.mem_singleton.mp hj
      exact ⟨_, _, rfl⟩
    refine ⟨?_, ?_⟩
    · rw [FilterClauses.addMember, joinOperands_append, hfc.free, hjoin, List.append_nil]
    · dsimp only
      rw [hfc.written, Draft.addMember_apply (hjoin _ _) (conditionOperands_memberConditions _ _)
        hfc.free, List.append_assoc]
      rfl

theorem inStep_addFilters {id : NodeId}
    (hfc : fc.InStep c.dialect w steps branches start s.draft)
    (h : (addFilters c t p fc id).Yields s fc' s') :
    fc'.InStep c.dialect w steps branches start s'.draft := by
  obtain ⟨n, s₁, hlift, hfold⟩ := yields_bind_iff.mp h
  obtain ⟨-, rfl⟩ := yields_lift_iff.mp hlift
  clear h hlift
  generalize n.filters = fs at hfold
  induction fs generalizing fc s₁ with
  | nil =>
    obtain ⟨rfl, rfl⟩ := yields_foldlM_nil_iff.mp hfold
    exact hfc
  | cons f fs ih =>
    obtain ⟨fc₁, s₂, hstep, hrest⟩ := yields_foldlM_cons_iff.mp hfold
    exact ih _ (inStep_addFilter hfc hstep) hrest

/-- Every filter of a run keeps the draft in step. -/
theorem inStep_foldlM_addFilters {ids : List NodeId}
    (hfc : fc.InStep c.dialect w steps branches start s.draft)
    (h : (ids.foldlM (addFilters c t p) fc).Yields s fc' s') :
    fc'.InStep c.dialect w steps branches start s'.draft := by
  induction ids generalizing fc s with
  | nil =>
    obtain ⟨rfl, rfl⟩ := yields_foldlM_nil_iff.mp h
    exact hfc
  | cons id ids ih =>
    obtain ⟨fc₁, s₁, hstep, hrest⟩ := yields_foldlM_cons_iff.mp h
    exact ih (inStep_addFilters hfc hstep) hrest

/-! ## Selects -/

/-- A compiled select adds its own text and its own operands. -/
theorem adds_of_written {parts : SelectParts} {branches : List NodeId}
    {tables : List MembershipTable} {r : Run} (hfit : parts.Fit c t p branches tables r)
    {projected : List Projected} {order : List SortColumn} {w w' : Draft}
    (h : parts.Written c t p tables r (parts.select t p projected r order) w w') :
    w.Adds c.dialect [parts.select t p projected r order] w' := by
  obtain ⟨s, s', hopen, hwalk, rfl⟩ := h
  have hsteps := Tree.joinOperands_stepJoins hfit.chain c.dialect
  rw [Draft.openSelect_apply hsteps] at hopen
  have hstart : ({ tables } : FilterClauses).InStep c.dialect w parts.chain parts.optional
      (if r.starts then t.startConditions p else []) s.draft :=
    ⟨rfl, by rw [hopen, List.append_nil]⟩
  obtain ⟨hfree, hwritten⟩ := inStep_foldlM_addFilters hstart hwalk
  rw [hwritten, Draft.closeSelect_apply _ hsteps hfree rfl rfl]
  constructor
  · rfl
  · rw [List.flatMap_singleton]
    exact Draft.operands_underWay _ hsteps hfree rfl rfl

/-- The derived tables of a path add their texts one after the other. -/
theorem adds_segmentSelects {branches : List NodeId} {needed : List (NodeId × String)}
    {starts : Bool} {runs : List (List NodeId)} {segments : List Segment}
    {tables tables' : List MembershipTable}
    (h : (segmentSelects c t p branches needed starts tables runs).Yields s
      (segments, tables') s') :
    s.draft.Adds c.dialect (segments.map (·.select)) s'.draft := by
  induction runs generalizing starts tables segments s with
  | nil =>
    obtain ⟨heq, rfl⟩ := yields_pure_iff.mp h
    obtain ⟨rfl, rfl⟩ := Prod.mk.inj heq
    exact .nil _ _
  | cons segment rest ih =>
    obtain ⟨parts, later, s₁, -, hfit, rfl, -, hwritten, hlater⟩ :=
      exists_of_yields_segmentSelects_cons h
    exact (adds_of_written hfit hwritten).trans (ih hlater)

/-! ## Statements -/

variable {branches : List NodeId} {q : Query} {tables : List MembershipTable}

/-- What has been written of a statement is the text of its query, with its operands bound. -/
theorem draft_single (h : (single c t p branches).Yields s (q, tables) s') (hs : s.draft = {}) :
    s'.draft.text = q.render c.dialect ∧ s'.draft.operands.toList = q.operands c.dialect := by
  obtain ⟨keys, parts, s₁, -, -, hfit, rfl, -, rfl, _, rfl, rfl, hwritten⟩ :=
    exists_of_yields_single h
  have hadds := adds_of_written hfit hwritten
  rw [hs] at hadds
  exact hadds.closeSingle

theorem draft_split {seg : List NodeId} {segs : List (List NodeId)}
    (h : (split c t p (seg :: segs) branches).Yields s (q, tables) s') (hs : s.draft = {}) :
    s'.draft.text = q.render c.dialect ∧ s'.draft.operands.toList = q.operands c.dialect := by
  obtain ⟨keys, js, segments, s₁, -, hjoints, hsegments, _, rfl, rfl, rfl⟩ :=
    exists_of_yields_split h
  have hjs : segments.length = js.length + 1 := by
    rw [length_joints hjoints, ← (yields_segmentSelects hsegments).1.exists_fit.length_eq,
      length_ofSegments, List.length_cons]
  have htables :
      (SplitSelect.ofSegments p.leaf segments js keys).tables = segments.map (·.select) :=
    SplitSelect.tables_ofSegments hjs keys
  have hadds := adds_segmentSelects hsegments
  rw [hs, ← htables] at hadds
  exact hadds.closeSplit

theorem draft_body (h : (body c t p branches).Yields s (q, tables) s') (hs : s.draft = {}) :
    s'.draft.text = q.render c.dialect ∧ s'.draft.operands.toList = q.operands c.dialect := by
  rw [body] at h
  split at h
  case h_1 nodes huncut => exact draft_single h hs
  case h_2 hcut =>
    obtain ⟨seg, segs, heq⟩ := List.exists_cons_of_ne_nil (t.segments_ne_nil p)
    rw [heq] at h
    exact draft_split h hs

/-- **The text of a compiled statement is that of its query, in which placeholders count up, and the
operands that have been bound on the way are those of the query.** -/
theorem text_statement {mode : Mode} {st : Statement}
    (h : (statement c t mode p branches).Yields s st s') :
    st.sql = st.query.render st.dialect ∧ st.operands = st.query.operands st.dialect := by
  obtain ⟨q, tables, leaf, s₂, hbody, rfl, -⟩ := exists_body_of_statement h
  exact draft_body hbody rfl

/-- The statement of a body, with the text and the operands that its query has. -/
def bodyStatement (c : Compiler) (t : Tree) (mode : Mode) (p : Path) (branches : List NodeId)
    (leaf : Table) (query : Query) (tables : List MembershipTable) : Statement where
  mode := mode
  leafTable := leaf
  path := p
  branches := branches
  segments := t.segments p
  dialect := c.dialect
  query := query
  sql := query.render c.dialect
  operands := query.operands c.dialect
  tables := tables

/-- The statement for a path, with the text and the operands read off its query in the end. -/
def plainStatement (c : Compiler) (t : Tree) (mode : Mode) (p : Path) (branches : List NodeId) :
    CompileM Statement := do
  drafting (set ({} : Draft))
  let leaf ← t.liveNode p.leaf
  let (query, tables) ← tryCatch (body c t p branches) fun e ↦ throw (.path mode leaf.table e)
  let compiled := bodyStatement c t mode p branches leaf.table query tables
  modify fun s ↦ { s with journal := s.journal.push compiled }
  return compiled

/-- Reading the text and the operands off the query makes no difference. What is said of two runs of
the compiler can so be said of their queries. -/
theorem statement_eq_plainStatement (mode : Mode) :
    statement c t mode p branches = plainStatement c t mode p branches := by
  funext s
  change (statement c t mode p branches).runOn s = (plainStatement c t mode p branches).runOn s
  have hdraft : (drafting (set ({} : Draft))).runOn s = (.ok (), { s with draft := {} }) := rfl
  rw [statement, plainStatement, runOn_bind, runOn_bind, hdraft]
  dsimp only
  rw [runOn_bind, runOn_bind]
  cases hleaf : t.liveNode p.leaf with
  | error e => rfl
  | ok leaf =>
    have hlift : (liftM (Except.ok leaf : Except QueryError Node) : CompileM Node).runOn
        { s with draft := {} } = (.ok leaf, { s with draft := {} }) := rfl
    rw [hlift]
    dsimp only
    rw [runOn_bind, runOn_bind, runOn_tryCatch]
    rcases hbody : (body c t p branches).runOn { s with draft := {} } with ⟨e | ⟨q, tables⟩, s₂⟩
    · rfl
    · obtain ⟨htext, hoperands⟩ := draft_body hbody rfl
      have hread : ∀ leaf, bodyStatement c t mode p branches leaf q tables = {
          mode
          leafTable := leaf
          path := p
          branches
          segments := t.segments p
          dialect := c.dialect
          query := q
          sql := s₂.draft.text
          operands := s₂.draft.operands.toList
          tables } := fun leaf ↦ by rw [bodyStatement, htext, hoperands]
      dsimp only
      rw [runOn_bind, runOn_bind, hread]
      rfl

end CompileM

end PathQuery
