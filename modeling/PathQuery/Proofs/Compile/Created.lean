import PathQuery.Proofs.Compile.Scope
import PathQuery.Proofs.Graph.Creation

/-!
# Statements refer to columns that exist

Every column that a statement reads from a table of the graph is one that the table is created
with: the select is well scoped, and the source of the reference stands for the table of a step or
a branch. The text of a statement spells such a column as it is created, with one exception. A
derived table is indented line by line, and a line break inside a name is indented with the others,
so there the text names another column.
-/

namespace PathQuery

/-! ## References of a select -/

/-- Every reference in a select, clause by clause. -/
def Select.references (s : Select) : List ColumnRef :=
  s.projections.map (·.column) ++
    s.joins.flatMap (fun j ↦ j.conditions.flatMap Condition.columns) ++
    s.conditions.flatMap Condition.columns ++ s.order.map (·.column)

section References

variable {g : Topology} {tables : List MembershipTable}

/-- What a join compares is within the scope of all joins. -/
theorem Join.AllWithin.within_of_mem {scope : Scope} {js : List Join}
    (h : Join.AllWithin g tables scope js) {j : Join} (hj : j ∈ js) {c : Condition}
    (hc : c ∈ j.conditions) : c.Within g tables (scope ++ js.map Join.entry) := by
  obtain ⟨pre, post, rfl⟩ := List.append_of_mem hj
  obtain ⟨-, hjoin, -⟩ := Join.allWithin_append.mp h
  refine (hjoin c hc).mono ?_
  rw [List.map_append, List.map_cons, List.append_assoc]
  intro e he
  rcases List.mem_append.mp he with he | he
  · exact List.mem_append_left _ he
  · refine List.mem_append_right _ ?_
    rcases List.mem_append.mp he with he | he
    · exact List.mem_append_left _ he
    · rw [List.mem_singleton.mp he]
      exact List.mem_append_right _ List.mem_cons_self

namespace Select.WellScoped

variable {s : Select} (h : s.WellScoped g tables)
include h

/-- Every reference in a well-scoped select is within its scope. -/
theorem within_of_mem_references {ref : ColumnRef} (href : ref ∈ s.references) :
    ref.Within g tables s.scope := by
  rcases List.mem_append.mp href with href | href
  · rcases List.mem_append.mp href with href | href
    · rcases List.mem_append.mp href with href | href
      · obtain ⟨q, hq, rfl⟩ := List.mem_map.mp href
        exact h.projected q hq
      · obtain ⟨j, hj, href⟩ := List.mem_flatMap.mp href
        obtain ⟨c, hc, href⟩ := List.mem_flatMap.mp href
        exact h.joined.within_of_mem hj hc ref href
    · obtain ⟨c, hc, href⟩ := List.mem_flatMap.mp href
      exact h.filtered c hc ref href
  · obtain ⟨o, ho, rfl⟩ := List.mem_map.mp href
    exact h.sorted o ho

/-- A source stands for one relation, which has every column that is referred to. -/
theorem has_of_mem_scope {ref : ColumnRef} (href : ref ∈ s.references) {relation : Relation}
    (hentry : (ref.source, relation) ∈ s.scope) : relation.Has g tables ref.column := by
  obtain ⟨relation', hentry', hhas⟩ := h.within_of_mem_references href
  have hsame : (ref.source, relation) = (ref.source, relation') :=
    List.inj_on_of_nodup_map h.distinct hentry hentry' rfl
  rwa [(Prod.mk.inj hsame).2]

end Select.WellScoped

end References

/-- A table in the scope of a run is that of a step or of a branch. -/
theorem Run.table_of_mem_scope {t : Tree} {p : Path} {branches : List NodeId} {k : ℕ}
    {ms : List MembershipTable} {r : Run} {source : Source} {table : Table}
    (h : (source, .table table) ∈ r.scope t p branches k ms) :
    (∃ id ∈ r.ids, source = p.source id ∧ table = (t.nodeAt id).table) ∨
      ∃ (j : ℕ) (b : NodeId), branches[j]? = some b ∧ source = .branch j ∧
        table = (t.nodeAt b).table := by
  rcases List.mem_append.mp h with h | h
  · rcases List.mem_append.mp h with h | h
    · obtain ⟨id, hid, heq⟩ := List.mem_map.mp h
      obtain ⟨hsource, hrelation⟩ := Prod.mk.inj heq
      exact .inl ⟨id, hid, hsource.symm, (Relation.table.inj hrelation).symm⟩
    · obtain ⟨x, -, heq⟩ := List.mem_map.mp h
      cases (Prod.mk.inj heq).2
  · split at h
    · obtain ⟨x, hx, heq⟩ := List.mem_map.mp h
      obtain ⟨hsource, hrelation⟩ := Prod.mk.inj heq
      exact .inr ⟨x.2, x.1, List.mk_mem_zipIdx_iff_getElem?.mp hx, hsource.symm,
        (Relation.table.inj hrelation).symm⟩
    · cases h

/-! ## Spelling -/

/-- How the text of a query spells the names in its selects. -/
def Query.spelling (d : Dialect) : Query → Spelling
  | .single _ => d.spelling id
  | .split _ => d.spelling indentBreaks

theorem Query.selects_written (q : Query) (d : Dialect) :
    (q.written d).selects = q.selects.map (Select.respell (q.spelling d)) := by
  cases q with
  | single s => rfl
  | split s =>
    rw [written, selects, selects, SplitSelect.tables, SplitSelect.tables, List.map_cons,
      List.map_map, List.map_map]
    rfl

/-- The text of a query spells a column as it is, unless it breaks a line inside a derived table. -/
theorem ColumnRef.respell_eq_self_iff {q : Query} {d : Dialect} {ref : ColumnRef} :
    ref.respell (q.spelling d) = ref ↔ (∃ s, q = .single s) ∨ '\n' ∉ ref.column.toList := by
  cases q with
  | single s => exact ⟨fun _ ↦ .inl ⟨s, rfl⟩, fun _ ↦ rfl⟩
  | split s =>
    have hspelled : ref.respell ((Query.split s).spelling d) =
        ⟨ref.source, indentBreaks ref.column⟩ := rfl
    rw [hspelled, ← indentBreaks_eq_self_iff]
    constructor
    · intro h
      exact .inr (congrArg ColumnRef.column h)
    · rintro (⟨_, hsingle⟩ | h)
      · cases hsingle
      · rw [h]

/-! ## Statements -/

/-- **Statements refer to columns that tables are created with.** Over any topology, the columns
projected of a declared table, the columns shown of it and the columns it is created with are one
list, and the table is listed once and created once, after its schema. Every column that a statement
of any mode reads from a table of the graph is created with the table of its step or branch, and the
text spells it so exactly when it does not break a line inside a derived table. -/
theorem created_statement {g : Topology} (hg : g.Indexed) (c : Compiler) :
    (∀ table info, g.info? table = some info →
      g.tableList.count table = 1 ∧
      g.columns? table = some (g.createdColumns c.dialect table) ∧
      Command.physicalColumns g table = g.createdColumns c.dialect table ∧
      g.createTable c.dialect table ∈ g.ddl c.dialect ∧
      (g.TakenBy c.dialect → (g.ddl c.dialect).count (g.createTable c.dialect table) = 1) ∧
      (c.dialect.engine = .postgres → ∃ before after,
        g.ddl c.dialect = before ++ g.createTable c.dialect table :: after ∧
          Topology.createSchema table.schema ∈ before)) ∧
    ∀ {t : Tree}, t.Built → t.validate = .ok () → t.catalog = some g → ∀ {mode : Mode}
      {paths : List OptionalPath}, CompileM.modePaths t mode = .ok paths → ∀ {op : OptionalPath},
      op ∈ paths → ∀ {s s' : CompileState} {st : Statement},
      (CompileM.statement c t mode op.path op.branches).Yields s st s' →
      (st.query.written c.dialect).selects =
          st.query.selects.map (Select.respell (st.query.spelling c.dialect)) ∧
        ∀ select ∈ st.query.selects, ∀ ref ∈ select.references, ∀ table,
          (ref.source, .table table) ∈ select.scope →
          ((∃ id ∈ op.path.all, ref.source = op.path.source id ∧ table = (t.nodeAt id).table) ∨
            ∃ (j : ℕ) (b : NodeId), op.branches[j]? = some b ∧ ref.source = .branch j ∧
              table = (t.nodeAt b).table) ∧
          g.createTable c.dialect table ∈ g.ddl c.dialect ∧
          ref.column ∈ g.createdColumns c.dialect table ∧
          (ref.respell (st.query.spelling c.dialect) = ref ↔
            (∃ s, st.query = .single s) ∨ '\n' ∉ ref.column.toList) := by
  have hcreated : ∀ table ∈ g.tableList, g.createTable c.dialect table ∈ g.ddl c.dialect :=
    fun table htable ↦ List.mem_append_right _ (List.mem_map_of_mem htable)
  constructor
  · intro table info hinfo
    have hlisted : table ∈ g.tableList := Topology.mem_tableList_iff.mpr ⟨info, hinfo⟩
    exact ⟨List.count_eq_one_of_mem hg.nodup_tableList hlisted,
      Topology.columns?_eq_createdColumns hg c.dialect hinfo,
      g.physicalColumns_eq c.dialect table, hcreated table hlisted,
      fun htaken ↦ Topology.count_createTable hg htaken hlisted,
      fun hd ↦ g.exists_ddl_eq_append hd hlisted⟩
  · intro t hbuilt hvalid hcatalog mode paths hpaths op hop s s' st hst
    refine ⟨st.query.selects_written c.dialect, ?_⟩
    intro select hselect ref href table hentry
    obtain ⟨-, -, slots, hcompiles, -⟩ := CompileM.yields_statement hst
    obtain ⟨id, hid⟩ := Tree.exists_pathTo_of_modePaths hpaths hop
    -- selects are well scoped, and a scope has one relation for a source
    obtain ⟨hscoped, r, hids, k, ms, -, hscope⟩ :=
      hcompiles.wellScoped_selects hbuilt hvalid ⟨hcatalog, hg⟩ hid select hselect
    obtain ⟨columns, hcolumns, hcolumn⟩ := hscoped.has_of_mem_scope href hentry
    obtain ⟨info, hinfo⟩ : ∃ info, g.info? table = some info := by
      rw [Topology.columns?, Topology.properties?, Option.map_map] at hcolumns
      obtain ⟨info, hinfo, -⟩ := Option.map_eq_some_iff.mp hcolumns
      exact ⟨info, hinfo⟩
    have hlisted : table ∈ g.tableList := Topology.mem_tableList_iff.mpr ⟨info, hinfo⟩
    rw [Topology.columns?_eq_createdColumns hg c.dialect hinfo, Option.some.injEq] at hcolumns
    refine ⟨?_, hcreated table hlisted, hcolumns ▸ hcolumn, ColumnRef.respell_eq_self_iff⟩
    rw [hscope] at hentry
    rcases Run.table_of_mem_scope hentry with ⟨x, hx, hstep⟩ | hbranch
    · exact .inl ⟨x, hids hx, hstep⟩
    · exact .inr hbranch

/-! ### A property with a line break

Two edges in a row, whose property has a line break in its name. The path over them is cut, and the
property is projected by the derived table of the second edge.
-/

/-- Vertices and edges between them; the name of the property of an edge breaks a line. -/
def brokenArrows : Declarations :=
  [("s", some {
    vertices := [("a", none)]
    edges := [("e", some {
      outs := ["a"]
      ins := ["a"]
      properties := [{ name := "x\ny", type := .string }] })] })]

/-- The topology of these arrows. -/
def brokenGraph : Topology where
  publicSchema := "s"
  declarations := brokenArrows
  tables := match brokenArrows.index with
    | .ok tables => tables
    | .error _ => []

/-- Two edges in a row. -/
def brokenTree : Tree :=
  let root := Tree.ofRoot (some brokenGraph) { table := ⟨"s", "V_a"⟩ }
  let first := (root.addChild? 0 { table := ⟨"s", "E_e"⟩, element := .edge }).getD root
  let second := (first.addChild? 1 { table := ⟨"s", "V_a"⟩ }).getD first
  (second.addChild? 2 { table := ⟨"s", "E_e"⟩, element := .edge }).getD second

theorem built_brokenTree : brokenTree.Built := by
  unfold brokenTree
  exact (((Tree.Built.root _ _).addChild _ _).addChild _ _).addChild _ _

/-- The property of the second edge. -/
def brokenRef : ColumnRef := ⟨.step 3, "x\ny"⟩

/-- The second edge is created with its property, but the text of the statement reads a column of
another name from it. -/
theorem created_brokenTree : ∃ st s',
    (CompileM.statement inlineCompiler brokenTree .regular ⟨[1, 2, 3]⟩ []).Yields {} st s' ∧
      ∃ select ∈ st.query.selects, brokenRef ∈ select.references ∧
        brokenRef.column ∈ brokenGraph.createdColumns inlineCompiler.dialect ⟨"s", "E_e"⟩ ∧
        brokenRef.respell (st.query.spelling inlineCompiler.dialect) ≠ brokenRef := by
  obtain ⟨st, s', hst, hP⟩ := CompileM.exists_yields (s := {})
    (m := CompileM.statement inlineCompiler brokenTree .regular ⟨[1, 2, 3]⟩ [])
    (P := fun st _ ↦ (match st.query with
        | .split _ => true
        | .single _ => false) &&
      st.query.selects.any fun select ↦ select.references.contains brokenRef &&
        select.scope.contains (.step 3, .table ⟨"s", "E_e"⟩)) (by decide +kernel)
  obtain ⟨hsplit, hany⟩ := Bool.and_eq_true_iff.mp hP
  obtain ⟨select, hselect, hfound⟩ := List.any_eq_true.mp hany
  obtain ⟨href, hentry⟩ := Bool.and_eq_true_iff.mp hfound
  have href : brokenRef ∈ select.references := List.contains_iff_mem.mp href
  have hpaths : CompileM.modePaths brokenTree .regular =
      .ok (brokenTree.regularPaths.map (⟨·, []⟩)) := rfl
  have hop : (⟨⟨[1, 2, 3]⟩, []⟩ : OptionalPath) ∈ brokenTree.regularPaths.map (⟨·, []⟩) := by
    decide
  obtain ⟨-, hreferences⟩ := (created_statement (g := brokenGraph) ⟨brokenArrows, rfl⟩
    inlineCompiler).2 built_brokenTree (by decide +kernel) rfl hpaths hop hst
  obtain ⟨-, -, hcolumn, hspelled⟩ := hreferences select hselect brokenRef href _
    (List.contains_iff_mem.mp hentry)
  refine ⟨st, s', hst, select, hselect, href, hcolumn, fun hsame ↦ ?_⟩
  rcases hspelled.mp hsame with ⟨s, hs⟩ | hbreak
  · rw [hs] at hsplit
    cases hsplit
  · exact hbreak (by decide)

end PathQuery
