import PathQuery.Query.Filter

/-!
# Statements as data

A compiled statement is a value before it is a text. A select reads one table, joins others to it
and keeps the rows that meet its conditions. A path without repeated tables is one select; a path
with repeats is a row of selects, each a derived table, that are joined where the path was cut.
-/

namespace PathQuery

/-- A row source within a select, told apart by its role. -/
inductive Source where
  /-- The `i`-th step of the path, the root being the first. -/
  | step (i : Nat)
  /-- The `j`-th optional branch. -/
  | branch (j : Nat)
  /-- The `k`-th membership table. -/
  | membership (k : Nat)
  /-- The `n`-th derived table, counted from one. -/
  | segment (n : Nat)
  deriving DecidableEq, Repr, Inhabited

/-- The name of a source in the text of a statement. -/
def Source.name : Source → String
  | .step i => "t" ++ toString i
  | .branch j => "o" ++ toString j
  | .membership k => "m" ++ toString k
  | .segment n => "a" ++ toString n

/-- A column of a source. -/
structure ColumnRef where
  /-- The source. -/
  source : Source
  /-- The column. -/
  column : String
  deriving DecidableEq, Repr, Inhabited

/-- A condition on a row. -/
inductive Condition where
  /-- Two columns are equal. -/
  | same (left right : ColumnRef)
  /-- A column compares with an operand. -/
  | compare (column : ColumnRef) (comparison : Comparison) (operand : Value)
  /-- A column is one of a list of operands, or none of them. -/
  | among (column : ColumnRef) (negated : Bool) (operands : List Value)
  /-- A column matches a pattern, or does not. -/
  | like (column : ColumnRef) (negated : Bool) (pattern : Text)
  /-- A column is null. -/
  | isNull (column : ColumnRef)
  /-- No row meets it. -/
  | never
  deriving Repr, Inhabited

/-- How a join treats a row without a partner. -/
inductive JoinKind where
  /-- The row stays, with nulls for the partner. -/
  | left
  /-- The row is dropped. -/
  | inner
  deriving DecidableEq, Repr, Inhabited

/-- What a join reads. -/
inductive Relation where
  /-- A table of the graph. -/
  | table (t : Table)
  /-- A temporary table. -/
  | temporary (name : String)
  deriving DecidableEq, Repr, Inhabited

/-- A join. -/
structure Join where
  /-- What happens to a row without a partner. -/
  kind : JoinKind
  /-- What is joined. -/
  relation : Relation
  /-- The source it becomes. -/
  source : Source
  /-- The conditions a pair of rows meets. -/
  conditions : List Condition
  deriving Repr, Inhabited

/-- The conditions that no branch has a partner. -/
def Join.absences (joins : List Join) : List Condition :=
  joins.map fun j ↦ .isNull ⟨j.source, idColumn⟩

/-- A projected column and the alias it gets. -/
structure Projection where
  /-- The column. -/
  column : ColumnRef
  /-- The alias. -/
  name : String
  deriving DecidableEq, Repr, Inhabited

/-- A column and the direction in which rows are sorted by it. -/
structure SortColumn where
  /-- The column. -/
  column : ColumnRef
  /-- The direction. -/
  order : SortOrder
  deriving DecidableEq, Repr, Inhabited

/-- A select. -/
structure Select where
  /-- The projected columns. -/
  projections : List Projection
  /-- The table it starts from. -/
  table : Table
  /-- The source that table becomes. -/
  source : Source
  /-- The joins, in order. -/
  joins : List Join
  /-- The conditions on a row. -/
  conditions : List Condition
  /-- The columns rows are sorted by. -/
  order : List SortColumn := []
  deriving Repr, Inhabited

/-- A further derived table and the columns by which it is joined to the one before. -/
structure Link where
  /-- The derived table. -/
  select : Select
  /-- The column of the derived table before. -/
  left : ColumnRef
  /-- The column of this one. -/
  right : ColumnRef
  deriving Repr, Inhabited

/-- A row of derived tables, joined one to the next. -/
structure SplitSelect where
  /-- The projected columns. -/
  projections : List Projection
  /-- The first derived table. -/
  first : Select
  /-- The others. -/
  links : List Link
  /-- The columns rows are sorted by. -/
  order : List SortColumn := []
  deriving Repr, Inhabited

/-- The body of a statement. -/
inductive Query where
  /-- One select. -/
  | single (s : Select)
  /-- Several, as derived tables. -/
  | split (s : SplitSelect)
  deriving Repr, Inhabited

/-! ## Patterns -/

/-- Escapes the characters that mean something in a pattern. -/
def escapePattern (t : Text) : Text :=
  ⟨t.bytes.flatMap fun b ↦ if b = 0x5C || b = 0x25 || b = 0x5F then [0x5C, b] else [b]⟩

end PathQuery
