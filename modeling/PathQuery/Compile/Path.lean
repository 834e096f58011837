import PathQuery.Compile.Basic
import PathQuery.Sql.Draft

/-!
# Paths as queries

The steps of a path are joined top down from the root, each to the step above it, and only the
projected step and the labeled ones are projected. The filters of all steps are conditions on the
joined row. For an optional path the first step of every branch is joined as well, filters
included, and the rows for which some branch has a partner are dropped. A path with repeated
tables becomes one derived table for every segment; these project, under hidden aliases, whatever
else the joints between them and the sort clause need.

Each clause is written as soon as it is compiled, and with it the operands in it are bound. The
answers are the same clauses as data.
-/

namespace PathQuery

/-- What changes while statements are compiled. -/
structure CompileState where
  /-- The aliases given so far. -/
  registry : Registry := {}
  /-- How many temporary tables have been named. -/
  temporaries : Nat := 0
  /-- The statement under way. -/
  draft : Draft := {}
  /-- The statements compiled so far. -/
  journal : Array Statement := #[]
  deriving Inhabited

/-- A step of compiling: it may fail, and keeps what it has registered when it does. -/
abbrev CompileM := ExceptT QueryError (StateM CompileState)

/-- Why a column is projected. -/
inductive Role where
  /-- It belongs to the projected step. -/
  | result
  /-- It belongs to a labeled step. -/
  | labeled
  /-- The statement itself needs it. -/
  | helper
  deriving DecidableEq, Repr

/-- A column of a step that a statement projects. -/
structure Projected where
  /-- The step. -/
  node : NodeId
  /-- Why it is projected. -/
  role : Role
  /-- The column. -/
  column : String
  /-- The alias. -/
  name : String
  deriving DecidableEq, Repr

/-- The labels under which a step's columns are registered. -/
def Role.labels (r : Role) (n : Node) : String :=
  match r with
  | .result => ""
  | .labeled => joinLabels n.labels
  | .helper => hiddenLabels

namespace CompileM

/-- A step of writing the statement under way. -/
def drafting (m : DraftM Unit) : CompileM Unit := modify fun s ↦ { s with draft := (m s.draft).2 }

/-- Gives an alias to a column of a step. -/
def project (id : NodeId) (n : Node) (role : Role) (column : String) : CompileM Projected := do
  let s ← get
  let (name, registry) := s.registry.register ⟨role.labels n, n.table, column⟩
  set { s with registry }
  return ⟨id, role, column, name⟩

/-- Gives aliases to all columns of a step. -/
def projectNode (t : Tree) (id : NodeId) (n : Node) (role : Role) : CompileM (List Projected) := do
  let columns ← t.columnsOf n.table
  columns.mapM (project id n role)

/-- Gives aliases to the columns of the projected step and of the labeled ones, in path order. -/
def projectSteps (t : Tree) (leaf : NodeId) (ids : List NodeId) : CompileM (List Projected) := do
  let parts ← ids.mapM fun id ↦ do
    let n ← t.liveNode id
    let result ← if id = leaf then projectNode t id n .result else pure []
    let labeled ← if n.isLabeled then projectNode t id n .labeled else pure []
    return result ++ labeled
  return parts.flatten

end CompileM

/-- The alias under which a column of a step is projected: that of a labeled column before that of
the projected step before a helper, and the last one when it is projected twice. -/
def Projected.find? (ps : List Projected) (leaf id : NodeId) (column : String) : Option String :=
  let under (role : Role) : Option String :=
    (ps.reverse.find? fun p ↦ p.node = id ∧ p.role = role ∧ p.column = column).map (·.name)
  (under .labeled).orElse fun _ ↦
    (if id = leaf then under .result else none).orElse fun _ ↦ under .helper

/-! ## Sources and clauses -/

/-- The source of a step of a path. -/
def Path.source (p : Path) (id : NodeId) : Source := .step (p.all.idxOf id)

/-- The projection of a column by its alias. -/
def Projected.projection (p : Path) (c : Projected) : Projection :=
  ⟨⟨p.source c.node, c.column⟩, c.name⟩

namespace Tree

/-- The join of a step with the one above it. -/
def stepJoin (t : Tree) (p : Path) (id : NodeId) : Except QueryError Join := do
  let n ← t.liveNode id
  let parent := n.parent.getD rootId
  let c ← t.correlation id (← t.liveNode parent) n
  .ok {
    kind := .left
    relation := .table n.table
    source := p.source id
    conditions := [.same ⟨p.source parent, c.above⟩ ⟨p.source id, c.below⟩] }

/-- The joins of some steps, each with the step above it. -/
def stepJoins (t : Tree) (p : Path) (ids : List NodeId) : Except QueryError (List Join) :=
  ids.mapM (t.stepJoin p)

/-- The join of the `j`-th optional branch, which starts at the projected step `leaf`. -/
def branchJoin (t : Tree) (d : Dialect) (p : Path) (above : Node) (id : NodeId) (j : Nat) :
    Except QueryError Join := do
  match t.node? id with
  | none => .error (.violation (.notBranch id p.leaf))
  | some n =>
    if n.parent ≠ some p.leaf then .error (.violation (.notBranch id p.leaf))
    else
      let c ← t.correlation id above n
      let forms ← n.filters.mapM (Filter.form d t.topology false n.table (.branch j))
      .ok {
        kind := .left
        relation := .table n.table
        source := .branch j
        conditions := .same ⟨p.source p.leaf, c.above⟩ ⟨.branch j, c.below⟩ ::
          forms.filterMap FilterForm.condition? }

/-- The joins of the optional branches of a path. -/
def branchJoins (t : Tree) (d : Dialect) (p : Path) (branches : List NodeId) :
    Except QueryError (List Join) := do
  let above ← t.liveNode p.leaf
  branches.zipIdx.mapM fun (id, j) ↦ t.branchJoin d p above id j

/-- The condition on the identity a traversal starts from. -/
def startConditions (t : Tree) (p : Path) : List Condition :=
  if t.start.isNull then [] else [.compare ⟨p.source rootId, idColumn⟩ .eq t.start]

end Tree

/-- The conditions, joins and membership tables of the filters compiled so far. -/
structure FilterClauses where
  /-- The conditions. -/
  conditions : List Condition := []
  /-- The joins with membership tables. -/
  joins : List Join := []
  /-- The membership tables of the whole statement. -/
  tables : List MembershipTable := []
  deriving Inhabited

namespace FilterClauses

/-- Adds a condition. -/
def addCondition (fc : FilterClauses) (c : Condition) : FilterClauses :=
  { fc with conditions := fc.conditions ++ [c] }

/-- The join of a column with the membership table that is the `k`-th of a statement. -/
def memberJoin (column : ColumnRef) (table : MembershipTable) (k : Nat) : Join where
  kind := if table.without then .left else .inner
  relation := .temporary table.name
  source := .membership k
  conditions := [.same column ⟨.membership k, table.column⟩]

/-- The conditions that come with the `k`-th membership table. Rows that must match none of its
values are those that the join leaves without a partner. -/
def memberConditions (table : MembershipTable) (k : Nat) : List Condition :=
  if table.without then [.isNull ⟨.membership k, table.column⟩] else []

/-- Adds a membership table and the join with it. -/
def addMember (fc : FilterClauses) (column : ColumnRef) (table : MembershipTable) :
    FilterClauses where
  conditions := fc.conditions ++ memberConditions table fc.tables.length
  joins := fc.joins ++ [memberJoin column table fc.tables.length]
  tables := fc.tables ++ [table]

end FilterClauses

namespace CompileM

/-- The next temporary table name for a filter key. -/
def nextName (c : Compiler) (key : String) : CompileM String := do
  let s ← get
  set { s with temporaries := s.temporaries + 1 }
  return c.temporaryName key s.temporaries

/-- Adds a filter of a step to the clauses. -/
def addFilter (c : Compiler) (t : Tree) (table : Table) (source : Source) (fc : FilterClauses)
    (f : Filter) : CompileM FilterClauses := do
  match ← f.form c.dialect t.topology true table source with
  | .always => return fc
  | .holds condition =>
    drafting (Draft.addCondition c.dialect condition)
    return fc.addCondition condition
  | .member column type without =>
    let name ← nextName c f.key
    let table : MembershipTable := {
      name
      column := membershipColumn without
      columnType := c.dialect.columnType type
      values := distinctOperands f.values
      without }
    let k := fc.tables.length
    drafting (Draft.addMember c.dialect (FilterClauses.memberJoin column table k)
      (FilterClauses.memberConditions table k))
    return fc.addMember column table

/-- Adds the filters of a step to the clauses. -/
def addFilters (c : Compiler) (t : Tree) (p : Path) (fc : FilterClauses) (id : NodeId) :
    CompileM FilterClauses := do
  let n ← t.liveNode id
  n.filters.foldlM (addFilter c t n.table (p.source id)) fc

/-! ## One select -/

/-- The select of a run of steps of a path, and the membership tables of the statement so far.
The first step of the run is the table it starts from. -/
def select (c : Compiler) (t : Tree) (p : Path) (projected : List Projected) (ids : List NodeId)
    (branches : List NodeId) (tables : List MembershipTable) (starts ends : Bool)
    (order : List SortColumn) : CompileM (Select × List MembershipTable) := do
  let first := ids.headD rootId
  let chain ← t.stepJoins p (ids.drop 1)
  let optional ← if ends then t.branchJoins c.dialect p branches else pure []
  let start := if starts then t.startConditions p else []
  drafting (Draft.openSelect c.dialect chain optional start)
  let clauses ← ids.foldlM (addFilters c t p) { tables }
  let query : Select := {
    projections := projected.map (Projected.projection p)
    table := t.tableOf first
    source := p.source first
    joins := chain ++ clauses.joins ++ optional
    conditions := start ++ clauses.conditions ++ Join.absences optional
    order }
  drafting (Draft.closeSelect c.dialect query.projections query.table query.source order)
  return (query, clauses.tables)

/-- A path without repeated tables. -/
def single (c : Compiler) (t : Tree) (p : Path) (branches : List NodeId) :
    CompileM (Query × List MembershipTable) := do
  let keys ← t.sortKeys p.all
  let projected ← projectSteps t p.leaf p.all
  let order := keys.map fun k ↦ ⟨⟨p.source k.node, k.column⟩, k.order⟩
  let (query, tables) ← select c t p projected p.all branches [] true true order
  drafting Draft.closeSingle
  return (.single query, tables)

/-! ## Derived tables -/

/-- A joint between two segments: the last step of one and the first of the next. -/
structure Joint where
  /-- The last step of the segment before. -/
  left : NodeId
  /-- The first step of the segment after. -/
  right : NodeId
  /-- The columns that correlate them. -/
  columns : Correlation

/-- The joints between neighbouring segments. -/
def joints (t : Tree) : List (List NodeId) → Except QueryError (List Joint)
  | before :: after :: rest => do
    let left := before.getLastD rootId
    let right := after.headD rootId
    let columns ← t.correlation right (← t.liveNode left) (← t.liveNode right)
    .ok (⟨left, right, columns⟩ :: (← joints t (after :: rest)))
  | _ => .ok []

/-- The columns that the joints and the sort keys need, step by step. -/
def neededColumns (js : List Joint) (keys : List Tree.SortKey) : List (NodeId × String) :=
  js.flatMap (fun j ↦ [(j.left, j.columns.above), (j.right, j.columns.below)]) ++
    keys.map fun k ↦ (k.node, k.column)

/-- The needed columns of a step that nothing else projects, each once. -/
def helperColumns (t : Tree) (leaf : NodeId) (needed : List (NodeId × String)) (id : NodeId) :
    List String :=
  if id = leaf || ((t.node? id).map (·.isLabeled)).getD false then []
  else Topology.firstOccurrences [] ((needed.filter (·.1 = id)).map (·.2))

/-- Gives aliases to the helper columns of some steps. -/
def projectHelpers (t : Tree) (leaf : NodeId) (needed : List (NodeId × String))
    (ids : List NodeId) : CompileM (List Projected) := do
  let parts ← ids.mapM fun id ↦ do
    let n ← t.liveNode id
    (helperColumns t leaf needed id).mapM (project id n .helper)
  return parts.flatten

/-- A derived table under way: its select, what it projects, and what of that the statement
projects. -/
structure Segment where
  /-- The select. -/
  select : Select
  /-- The steps it joins. -/
  nodes : List NodeId
  /-- The columns the statement projects. -/
  shown : List Projected
  /-- The columns that only the statement itself needs. -/
  helpers : List Projected

/-- The derived tables of the segments, in order. -/
def segmentSelects (c : Compiler) (t : Tree) (p : Path) (branches : List NodeId)
    (needed : List (NodeId × String)) :
    Bool → List MembershipTable → List (List NodeId) →
      CompileM (List Segment × List MembershipTable)
  | _, tables, [] => return ([], tables)
  | starts, tables, segment :: rest => do
    let ids := if starts then rootId :: segment else segment
    let shown ← projectSteps t p.leaf ids
    let helpers ← projectHelpers t p.leaf needed ids
    let (query, tables) ←
      select c t p (shown ++ helpers) ids branches tables starts rest.isEmpty []
    let (others, tables) ← segmentSelects c t p branches needed false tables rest
    return (⟨query, ids, shown, helpers⟩ :: others, tables)

/-- The number of the derived table that joins a step. -/
def segmentOf (segments : List Segment) (id : NodeId) : Nat :=
  segments.findIdx (·.nodes.contains id) + 1

/-- The reference of the statement to a column of a step. -/
def outerRef (segments : List Segment) (leaf id : NodeId) (column : String) : ColumnRef :=
  let projected := segments.flatMap fun s ↦ s.shown ++ s.helpers
  ⟨.segment (segmentOf segments id), (Projected.find? projected leaf id column).getD ""⟩

/-- The columns the statement projects again from its derived tables. -/
def outerProjections (segments : List Segment) : List Projection :=
  (segments.zipIdx 1).flatMap fun (s, n) ↦ s.shown.map fun q ↦ ⟨⟨.segment n, q.name⟩, q.name⟩

/-- A path with repeated tables. -/
def split (c : Compiler) (t : Tree) (p : Path) (runs : List (List NodeId))
    (branches : List NodeId) : CompileM (Query × List MembershipTable) := do
  let keys ← t.sortKeys p.all
  let js ← joints t runs
  let (segments, tables) ← segmentSelects c t p branches (neededColumns js keys) true [] runs
  let ref := outerRef segments p.leaf
  let links := (segments.drop 1).zip js |>.map fun (s, j) ↦
    (⟨s.select, ref j.left j.columns.above, ref j.right j.columns.below⟩ : Link)
  let query : SplitSelect := {
    projections := outerProjections segments
    first := ((segments.head?).map (·.select)).getD default
    links
    order := keys.map fun k ↦ ⟨ref k.node k.column, k.order⟩ }
  drafting (Draft.closeSplit c.dialect query.projections (links.map fun l ↦ (l.left, l.right))
    query.order)
  return (.split query, tables)

end CompileM

end PathQuery
