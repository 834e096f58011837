import PathQuery.Compile.Basic
import PathQuery.Value.Json

/-!
# Listings of statements

The statements of a plan are listed as a script of SQL, each behind comments that name the plan,
the mode and the table, the temporary tables it needs and its operands. The script is a sequence of
writes, so that a destination that takes only some of them has taken a prefix of the script.
-/

namespace PathQuery.Command

/-- A temporary table that a statement needs. -/
structure ListedTable where
  /-- Its name. -/
  name : String
  /-- Its column. -/
  column : String
  /-- The type of the column. -/
  type : String
  /-- How many values it holds. -/
  values : Int
  /-- Whether its values are excluded. -/
  without : Bool := false
  deriving DecidableEq, Repr

/-- A statement as it is listed. -/
structure ListedStatement where
  /-- The word for its mode. -/
  mode : String
  /-- The table of the projected step. -/
  leaf : String
  /-- Its text. -/
  sql : String
  /-- The operands to bind. -/
  operands : List Value := []
  /-- How many segments its path has. -/
  segments : Int
  /-- The temporary tables it needs. -/
  tables : List ListedTable := []
  /-- The fingerprint of its text. -/
  fingerprint : String

/-- The statements of a plan. -/
structure ListedPlan where
  /-- The name of the plan. -/
  name : String
  /-- Where it was read from. -/
  source : String
  /-- Its statements. -/
  statements : List ListedStatement := []

/-- A temporary table as it is listed. -/
def ListedTable.ofTable (t : MembershipTable) : ListedTable where
  name := t.name
  column := t.column
  type := t.columnType
  values := t.values.length
  without := t.without

/-- A compiled statement as it is listed. -/
def ListedStatement.ofStatement (s : Statement) : ListedStatement where
  mode := s.mode.word
  leaf := s.leafTable.render
  sql := s.sql
  operands := s.operands
  segments := s.segments.length
  tables := s.tables.map ListedTable.ofTable
  fingerprint := s.fingerprint

/-! ## The script -/

/-- The comment on a temporary table. -/
def ListedTable.comment (t : ListedTable) : Text :=
  "-- needs temp table " ++ t.name ++ "(" ++ t.column ++ " " ++ t.type ++ ") with " ++
    toString t.values ++ " values\n"

/-- The comment on the operands, if there are any. -/
def operandComment (operands : List Value) : List Text :=
  if operands.isEmpty then []
  else [("-- args: " : Text) ++ (Value.list operands).render ++ "\n"]

/-- The writes of the statement at a position of a plan. -/
def ListedStatement.writes (plan : String) (s : ListedStatement) (position : Nat) : List Text :=
  let heading : Text := "-- " ++ plan ++ " #" ++ toString (position + 1) ++ " " ++ s.mode ++ " -> " ++
    s.leaf ++ " [" ++ s.fingerprint ++ "]\n"
  heading :: s.tables.map ListedTable.comment ++ operandComment s.operands ++
    [((s.sql ++ ";\n\n" : String) : Text)]

/-- The writes of a script. -/
def scriptWrites (plans : List ListedPlan) : List Text :=
  plans.flatMap fun p ↦ p.statements.zipIdx.flatMap fun (s, i) ↦ s.writes p.name i

/-- The text of a script. -/
def scriptText (plans : List ListedPlan) : Text := Text.join (scriptWrites plans)

/-- Writes as many parts as a destination takes. Answers what it took, and whether there was more
to write. -/
def writeWithin (room : Option Nat) (parts : List Text) : Text × Bool :=
  match room with
  | none => (Text.join parts, false)
  | some n => (Text.join (parts.take n), decide (n < parts.length))

/-! ## Documents -/

/-- A member of an object, unless there is nothing to tell. -/
def memberIf (told : Bool) (key : String) (j : Json) : List (String × Json) :=
  if told then [(key, j)] else []

/-- An array, or null when it is empty. -/
def arrayOrNull : List Json → Json
  | [] => .null
  | items => .array items

/-- A temporary table as a document. -/
def ListedTable.toJson (t : ListedTable) : Json :=
  .object ([("name", .string t.name), ("column", .string t.column), ("type", .string t.type),
    ("values", .int t.values)] ++ memberIf t.without "without" (.bool true))

/-- A statement as a document. -/
def ListedStatement.toJson (s : ListedStatement) : Except UnwritableValue Json := do
  let operands ← Value.listToJson s.operands
  return .object (
    [("mode", .string s.mode), ("leaf", .string s.leaf), ("sql", .string s.sql)] ++
    memberIf (!operands.isEmpty) "args" (.array operands) ++ [("segments", .int s.segments)] ++
    memberIf (!s.tables.isEmpty) "bulk" (.array (s.tables.map ListedTable.toJson)) ++
    [("fingerprint", .string s.fingerprint)])

/-- The statements of a plan as a document. -/
def ListedPlan.toJson (p : ListedPlan) : Except UnwritableValue Json := do
  return .object [("name", .string p.name), ("source", .string p.source),
    ("statements", arrayOrNull (← p.statements.mapM ListedStatement.toJson))]

end PathQuery.Command
