import PathQuery.Sql.Fragment

/-!
# Statements under way

A statement is written clause by clause, in the order in which its parts are compiled: the joins of
a select before its conditions, and a joined branch before the condition on where the path starts.
An operand is bound when the clause that holds it is written, under the next placeholder. Only then
are the clauses of a select put together, and the selects into the statement, in an order of their
own; so nothing here arranges that the placeholders of the finished text count up.
-/

namespace PathQuery

/-- A statement under way. -/
structure Draft where
  /-- The operands bound so far. -/
  operands : Array Value := #[]
  /-- The joins of the steps of the select under way. -/
  stepJoins : List String := []
  /-- Its joins of optional branches. -/
  branchJoins : List String := []
  /-- Its joins with membership tables. -/
  memberJoins : List String := []
  /-- Its conditions on where the path starts and on the steps. -/
  conditions : List String := []
  /-- Its conditions that no branch has a partner. -/
  absences : List String := []
  /-- The selects that are finished. -/
  selects : List String := []
  /-- The finished text. -/
  text : String := ""
  deriving Inhabited

/-- A step of writing. -/
abbrev DraftM := StateM Draft

/-! ## Putting texts together -/

/-- The text of a sort clause, absent without columns. -/
def orderText (order : List String) : String :=
  if order.isEmpty then "" else "\nORDER BY " ++ ", ".intercalate order

/-- The text of a select; each join brings the line break before it. -/
def selectText (projections : List String) (table : String)
    (joins conditions order : List String) : String :=
  "SELECT\n\t" ++ ",\n\t".intercalate projections ++ "\nFROM " ++ table ++ String.join joins ++
    (if conditions.isEmpty then "" else "\nWHERE " ++ " AND ".intercalate conditions) ++
    orderText order

/-- The text of a further derived table, which is joined on a condition. -/
def linkText (name select condition : String) : String :=
  "\nINNER JOIN (\n" ++ indent select ++ "\n) " ++ name ++ " ON " ++ condition

/-- The text of a statement that joins derived tables, each but the first on a condition. -/
def splitText (projections selects conditions order : List String) : String :=
  let links := (selects.drop 1).zip conditions |>.zipIdx 2
  "SELECT\n\t" ++ ",\n\t".intercalate projections ++ "\nFROM (\n" ++ indent (selects.headD "") ++
    "\n) " ++ (Source.segment 1).name ++
    String.join (links.map fun ((select, condition), n) ↦
      linkText (Source.segment n).name select condition) ++
    orderText order

/-! ## Writing -/

/-- Binds an operand and answers its placeholder. -/
def bindOperand (d : Dialect) (v : Value) : DraftM String := do
  let s ← get
  set { s with operands := s.operands.push v }
  return d.placeholder ((s.operands.size + 1 : Nat) : Int)

/-- Writes a fragment. -/
def Fragment.write (d : Dialect) : Fragment → DraftM String
  | .text s => return s
  | .name n => return quoteIdentifier n
  | .operand v => bindOperand d v

/-- Writes a clause. -/
def writeClause (d : Dialect) : List Fragment → DraftM String
  | [] => return ""
  | f :: fs => do
    let piece ← f.write d
    return piece ++ (← writeClause d fs)

/-- Writes clauses one after the other. -/
def writeClauses (d : Dialect) : List (List Fragment) → DraftM (List String)
  | [] => return []
  | fs :: rest => do
    let clause ← writeClause d fs
    return clause :: (← writeClauses d rest)

namespace Draft

/-- Starts a select with the joins of its steps, those of its branches, which are to have no
partner, and the conditions on where the path starts. -/
def openSelect (d : Dialect) (steps branches : List Join) (start : List Condition) :
    DraftM Unit := do
  let stepJoins ← writeClauses d (steps.map (Join.fragments d))
  let branchJoins ← writeClauses d (branches.map (Join.fragments d))
  let absences ← writeClauses d ((Join.absences branches).map Condition.fragments)
  let conditions ← writeClauses d (start.map Condition.fragments)
  modify fun s ↦ { s with stepJoins, branchJoins, memberJoins := [], conditions, absences }

/-- Adds a condition on a step to the select under way. -/
def addCondition (d : Dialect) (c : Condition) : DraftM Unit := do
  let condition ← writeClause d c.fragments
  modify fun s ↦ { s with conditions := s.conditions ++ [condition] }

/-- Adds the join with a membership table and the conditions that come with it. -/
def addMember (d : Dialect) (j : Join) (cs : List Condition) : DraftM Unit := do
  let join ← writeClause d (j.fragments d)
  let conditions ← writeClauses d (cs.map Condition.fragments)
  modify fun s ↦ { s with
    memberJoins := s.memberJoins ++ [join]
    conditions := s.conditions ++ conditions }

/-- Finishes the select under way. -/
def closeSelect (d : Dialect) (projections : List Projection) (table : Table) (source : Source)
    (order : List SortColumn) : DraftM Unit := do
  let projections ← writeClauses d (projections.map Projection.fragments)
  let table ← writeClause d (table.fragments d ++ [.text (" AS " ++ source.name)])
  let order ← writeClauses d (order.map SortColumn.fragments)
  modify fun s ↦
    let joins := s.stepJoins ++ s.memberJoins ++ s.branchJoins
    let select := selectText projections table joins (s.conditions ++ s.absences) order
    { s with selects := s.selects ++ [select] }

/-- Finishes a statement that is a single select. -/
def closeSingle : DraftM Unit :=
  modify fun s ↦ { s with text := s.selects.headD "" }

/-- Finishes a statement that joins derived tables, neighbours on a pair of columns. -/
def closeSplit (d : Dialect) (projections : List Projection)
    (joints : List (ColumnRef × ColumnRef)) (order : List SortColumn) : DraftM Unit := do
  let projections ← writeClauses d (projections.map Projection.fragments)
  let conditions ← writeClauses d (joints.map fun (l, r) ↦ (Condition.same l r).fragments)
  let order ← writeClauses d (order.map SortColumn.fragments)
  modify fun s ↦ { s with text := splitText projections s.selects conditions order }

end Draft

end PathQuery
