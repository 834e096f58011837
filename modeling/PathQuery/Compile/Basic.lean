import PathQuery.Query.Error
import PathQuery.Sql.Column
import PathQuery.Sql.Fingerprint
import PathQuery.Sql.Membership
import PathQuery.Sql.Select

/-!
# What compiling is about

Compiling a path asks the topology for columns, correlates each step with the one above it and
gives aliases to what it projects. Aliases come from a registry that outlives the statement, and
temporary tables are named by counting, so these two are the state of the compiler. What has been
registered stays registered when compiling fails later.

A filter of a step becomes a condition on its row, or a join with a membership table when its list
is too long to be written inline. A label filter is decided without looking at the row.

What a path compiles to is its text with the operands to bind, as they have been written while it
was compiled. A statement keeps its body as data as well, together with what it was compiled for.
-/

namespace PathQuery

/-- A compiler: a dialect and a way to name temporary tables by key and number. -/
structure Compiler where
  /-- The dialect. -/
  dialect : Dialect
  /-- The name of the `n`-th temporary table, for a filter key. -/
  temporaryName : String → Nat → String := PathQuery.temporaryName

/-- The columns of a table in the order they are projected: the identity, the columns of the
properties, and for an edge the foreign keys. -/
def Topology.columns? (c : Topology) (t : Table) : Option (List String) :=
  (c.properties? t).map fun properties ↦
    idColumn :: properties.flatMap Property.columns ++
      (if t.isEdge then (c.foreignKeys t).map (·.column) else [])

namespace Tree

/-- The topology of a tree; without one nothing can be compiled. -/
def topology (t : Tree) : Except QueryError Topology :=
  match t.catalog with
  | some c => .ok c
  | none => .error .absent

/-- A live step of a tree. -/
def liveNode (t : Tree) (id : NodeId) : Except QueryError Node :=
  match t.node? id with
  | some n => .ok n
  | none => .error .absent

/-- The columns of a table in the order they are projected. -/
def columnsOf (t : Tree) (table : Table) : Except QueryError (List String) := do
  match (← t.topology).columns? table with
  | some columns => .ok columns
  | none => .error (.violation (.undeclaredTable table))

/-! ## Correlation -/

end Tree

/-- The columns on which a step is joined to the one above it. -/
structure Correlation where
  /-- The column of the step above. -/
  above : String
  /-- The column of the step itself. -/
  below : String
  deriving DecidableEq, Repr

namespace Tree

/-- The edge and the foreign key that correlate a step with the one above it. A vertex meets its
edge at the foreign key of the side the step leaves from; an edge meets a vertex at the foreign
key of the far end, or of the named end when the step asks for an end of the edge. -/
def correlate (id : NodeId) (above below : Node) :
    Except QueryError (Table × String × Correlation) :=
  match above.table.kind, below.table.kind with
  | .vertex, .edge =>
    let side : Direction := if below.direction = .inward then .inward else .outward
    let key := above.table.foreignKeyColumn side
    .ok (below.table, key, ⟨idColumn, key⟩)
  | .edge, .vertex =>
    let side := if below.step = .edgeVertex then below.direction else below.direction.opposite
    if side = .both then .error (.violation (.bothJoined id))
    else
      let key := below.table.foreignKeyColumn side
      .ok (above.table, key, ⟨key, idColumn⟩)
  | aboveKind, belowKind => .error (.violation (.cannotFollow belowKind aboveKind))

/-- The columns that correlate a step with the one above it, which the edge must have. -/
def correlation (t : Tree) (id : NodeId) (above below : Node) : Except QueryError Correlation := do
  let (edge, key, columns) ← correlate id above below
  if ((← t.topology).resolveColumn? edge key).isSome then .ok columns
  else .error (.violation (.missingColumn edge key))

/-- The columns that correlate a step with its parent. -/
def parentCorrelation (t : Tree) (id : NodeId) : Except QueryError Correlation := do
  let n ← t.liveNode id
  match n.parent with
  | some p => t.correlation id (← t.liveNode p) n
  | none => .error .absent

/-! ## Sort terms -/

/-- A column of a step that rows are sorted by. -/
structure SortKey where
  /-- The step. -/
  node : NodeId
  /-- The column. -/
  column : String
  /-- The direction. -/
  order : SortOrder
  deriving DecidableEq, Repr

/-- The step a sort term of step `id` refers to. -/
def sortNode (t : Tree) (id : NodeId) (o : SortTerm) : Except QueryError NodeId :=
  match o.target with
  | .step => .ok id
  | .labeled =>
    match t.findLabeled id o.label with
    | some target => .ok target
    | none => .error (.violation (.unknownLabel o.label))
  | .other code => .error (.unsupported (.sortTarget code))

/-- The column a key names: the reserved key of the identity stands for its column. -/
def keyColumn (key : String) : String := if key = idKey then idColumn else key

/-- The column a sort term refers to. -/
def sortKey (t : Tree) (id : NodeId) (o : SortTerm) : Except QueryError SortKey := do
  let node ← t.sortNode id o
  let table := (← t.liveNode node).table
  if (← t.topology).hasProperty table (keyColumn o.key) then .ok ⟨node, keyColumn o.key, o.order⟩
  else .error (.violation (.unsortable table o.key))

/-- The columns that the sort terms of some steps refer to, in order. -/
def sortKeys (t : Tree) (ids : List NodeId) : Except QueryError (List SortKey) := do
  let keys ← ids.mapM fun id ↦ do (← t.liveNode id).orderings.mapM (t.sortKey id)
  .ok keys.flatten

end Tree

/-! ## Filters as conditions -/

/-- What a filter becomes in a statement. -/
inductive FilterForm where
  /-- Every row passes. -/
  | always
  /-- The rows that meet a condition pass. -/
  | holds (c : Condition)
  /-- The rows whose column is in a membership table pass, or those whose column is not. -/
  | member (column : ColumnRef) (type : PropertyType) (without : Bool)
  deriving Repr, Inhabited

/-- The pattern of a text comparison. -/
def Predicate.pattern (p : Predicate) (t : Text) : Text :=
  let any : Text := "%"
  match p with
  | .startsWith => escapePattern t ++ any
  | .endsWith => any ++ escapePattern t
  | _ => any ++ escapePattern t ++ any

namespace Filter

/-- The operand of a text comparison, which is a string. -/
def textOperand (f : Filter) : Except QueryError Text :=
  match f.value with
  | .str s => .ok s
  | .raw t => .ok t
  | v => .error (.unsupported (.needsString f.predicate f.key v.typeName))

/-- The column a filter is about and its type. The identity and the foreign keys are long
integers. -/
def column (catalog : Except QueryError Topology) (table : Table) (f : Filter) :
    Except QueryError (String × PropertyType) := do
  if f.key = idKey then .ok (idColumn, .long)
  else match (← catalog).resolveColumn? table f.key with
    | some ⟨property, ""⟩ => .ok (f.key, (property.map (·.type)).getD .long)
    | _ => .error (.violation (.missingProperty table f.key))

/-- Whether a list is loaded into a table rather than written inline. -/
def isBulk (d : Dialect) (f : Filter) : Bool := d.bulk && (f.values.length : Int) > d.threshold

/-- What a filter becomes on a column. -/
def formOn (d : Dialect) (allowBulk : Bool) (f : Filter) (ref : ColumnRef) (type : PropertyType) :
    Except QueryError FilterForm :=
  match f.predicate with
  | .within =>
    if allowBulk && f.isBulk d then .ok (.member ref type false)
    else .ok (.holds (.among ref false f.values))
  | .without =>
    if f.values.isEmpty then .ok .always
    else if allowBulk && f.isBulk d then .ok (.member ref type true)
    else .ok (.holds (.among ref true f.values))
  | .startsWith | .endsWith | .contains => do
    .ok (.holds (.like ref false (f.predicate.pattern (← f.textOperand))))
  | .notContains => do .ok (.holds (.like ref true (f.predicate.pattern (← f.textOperand))))
  | p =>
    match p.comparison? with
    | some op => .ok (.holds (.compare ref op f.value))
    | none => .error (.unsupported (.predicate p))

/-- What a filter of a step on `table` becomes, where the step's rows are those of `source`. -/
def form (d : Dialect) (catalog : Except QueryError Topology) (allowBulk : Bool) (table : Table)
    (source : Source) (f : Filter) : Except QueryError FilterForm := do
  if f.key = labelKey then .ok (if f.matchesTable table then .always else .holds .never)
  else
    let (column, type) ← f.column catalog table
    f.formOn d allowBulk ⟨source, column⟩ type

end Filter

/-- The condition of a filter that is written inline. -/
def FilterForm.condition? : FilterForm → Option Condition
  | .holds c => some c
  | _ => none

/-! ## Compiled statements -/

/-- A compiled statement. -/
structure Statement where
  /-- The mode it belongs to. -/
  mode : Mode
  /-- The table of the projected step. -/
  leafTable : Table
  /-- The path it projects the end of. -/
  path : Path
  /-- The optional branches that must be absent. -/
  branches : List NodeId := []
  /-- The segments of the path. -/
  segments : List (List NodeId)
  /-- The dialect it is written in. -/
  dialect : Dialect
  /-- Its body. -/
  query : Query
  /-- Its text. -/
  sql : String
  /-- The operands to bind, in the order in which they were bound. -/
  operands : List Value
  /-- The temporary tables it joins, in order. -/
  tables : List MembershipTable
  deriving Inhabited

/-- The fingerprint of a statement's text. -/
def Statement.fingerprint (s : Statement) : String := PathQuery.fingerprint s.sql

end PathQuery
