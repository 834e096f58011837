import PathQuery.Sql.Dialect
import PathQuery.Sql.Select

/-!
# Statements as text

The clauses of a statement are made of fragments: fixed text, names and operands. A name is written
between quotes and an operand as a placeholder, so no operand ever becomes text.
-/

namespace PathQuery

/-- A piece of a statement's text. -/
inductive Fragment where
  /-- Fixed text. -/
  | text (s : String)
  /-- A name, written between quotes. -/
  | name (identifier : String)
  /-- An operand, written as a placeholder. -/
  | operand (v : Value)
  deriving Repr, Inhabited

/-- Indents every line but the first. -/
def indentBreaks (s : String) : String :=
  String.ofList (s.toList.flatMap fun c ↦ if c = '\n' then ['\n', '\t'] else [c])

/-- Indents every line. -/
def indent (s : String) : String := "\t" ++ indentBreaks s

namespace Fragment

/-- Lists of fragments with a text between them. -/
def separated (sep : String) : List (List Fragment) → List Fragment
  | [] => []
  | [fs] => fs
  | fs :: rest => fs ++ .text sep :: separated sep rest

end Fragment

open Fragment

/-- A column of a source. -/
def ColumnRef.fragments (c : ColumnRef) : List Fragment :=
  [.text (c.source.name ++ "."), .name c.column]

/-- A list of operands; an empty one is written as a null, which no row is equal to. -/
def operandList (vs : List Value) : List Fragment :=
  if vs.isEmpty then [.text "NULL"] else separated ", " (vs.map fun v ↦ [.operand v])

/-- A condition. -/
def Condition.fragments : Condition → List Fragment
  | .same l r => l.fragments ++ .text " = " :: r.fragments
  | .compare c op v => c.fragments ++ [.text (" " ++ op.symbol ++ " "), .operand v]
  | .among c negated vs =>
    c.fragments ++ .text (if negated then " NOT IN (" else " IN (") :: operandList vs ++ [.text ")"]
  | .like c negated pattern =>
    c.fragments ++ [.text (if negated then " NOT LIKE " else " LIKE "), .operand (.ofText pattern),
      .text " ESCAPE '\\'"]
  | .isNull c => c.fragments ++ [.text " IS NULL"]
  | .never => [.text "1 = 0"]

/-- Conditions that are all to hold. -/
def Condition.allFragments (cs : List Condition) : List Fragment :=
  separated " AND " (cs.map Condition.fragments)

/-- A qualified table name. -/
def Table.fragments (d : Dialect) (t : Table) : List Fragment :=
  [.name (d.tablePart t.schema), .text ".", .name (d.tablePart t.name)]

/-- What a join reads. -/
def Relation.fragments (d : Dialect) : Relation → List Fragment
  | .table t => t.fragments d
  | .temporary n => [.name n]

/-- The words of a join. -/
def JoinKind.words : JoinKind → String
  | .left => "LEFT JOIN "
  | .inner => "INNER JOIN "

/-- A join, on a line of its own. -/
def Join.fragments (d : Dialect) (j : Join) : List Fragment :=
  .text ("\n" ++ j.kind.words) :: j.relation.fragments d ++
    .text (" AS " ++ j.source.name ++ " ON ") :: Condition.allFragments j.conditions

/-- A projected column. -/
def Projection.fragments (p : Projection) : List Fragment :=
  p.column.fragments ++ [.text " AS ", .name p.name]

/-- A column that rows are sorted by. -/
def SortColumn.fragments (t : SortColumn) : List Fragment :=
  t.column.fragments ++ [.text (" " ++ t.order.word)]

end PathQuery
