import PathQuery.Graph.Topology

/-!
# Dialects

The two databases differ in how they number placeholders, in the types of their columns and in
where temporary tables live. Both write an identifier between double quotes and a quote inside it
twice, so that any name can be quoted.
-/

namespace PathQuery

/-- A database engine. -/
inductive Engine where
  | sqlite
  | postgres
  deriving DecidableEq, Repr, Inhabited

/-- An engine and the choices made for it. -/
structure Dialect where
  /-- The engine. -/
  engine : Engine
  /-- The schema of unqualified names. -/
  publicSchema : String
  /-- The longest list of operands that is written inline. -/
  threshold : Int
  /-- Whether longer lists are loaded into a temporary table. -/
  bulk : Bool
  deriving DecidableEq, Repr, Inhabited

/-- The length of an inline list when none is chosen. -/
def Dialect.defaultThreshold : Int := 1000

/-- The name of an engine. -/
def Engine.name : Engine → String
  | .sqlite => "sqlite"
  | .postgres => "postgres"

/-- The engine of a name, in any letter case. -/
def Engine.ofName? (name : String) : Option Engine :=
  match lowerCase name with
  | "" | "sqlite" | "sqlite3" => some .sqlite
  | "postgres" | "postgresql" | "pgx" => some .postgres
  | _ => none

/-- The name of the driver that talks to an engine. -/
def Engine.driver : Engine → String
  | .sqlite => "sqlite"
  | .postgres => "pgx"

/-- The schema of unqualified names when none is chosen. -/
def Engine.publicSchema : Engine → String
  | .sqlite => "main"
  | .postgres => "public"

namespace Dialect

/-- The dialect of a name; choices that are left out take their defaults. -/
def ofName? (name publicSchema : String) (threshold : Int) (bulk : Bool) : Option Dialect :=
  (Engine.ofName? name).map fun engine ↦
    { engine, bulk
      publicSchema := if publicSchema = "" then engine.publicSchema else publicSchema
      threshold := if threshold ≤ 0 then defaultThreshold else threshold }

/-- The wording of a refusal. -/
def unknownMessage (name : String) : String := "unknown dialect " ++ quoted name

end Dialect

/-! ## Identifiers -/

/-- Writes every quote twice. -/
def doubleQuotes : List Char → List Char
  | [] => []
  | c :: cs => if c = '"' then '"' :: '"' :: doubleQuotes cs else c :: doubleQuotes cs

/-- An identifier between double quotes. -/
def quoteIdentifier (name : String) : String :=
  String.ofList ('"' :: doubleQuotes name.toList ++ ['"'])

namespace Dialect

/-- A part of a table name as the engine takes it. PostgreSQL has no NUL in identifiers, so it is
left out there. -/
def tablePart (d : Dialect) (name : String) : String :=
  match d.engine with
  | .sqlite => name
  | .postgres => String.ofList (name.toList.filter (· ≠ Char.ofNat 0))

theorem tablePart_of_notMem (d : Dialect) {name : String} (h : Char.ofNat 0 ∉ name.toList) :
    d.tablePart name = name := by
  rw [tablePart]
  split
  · rfl
  · rw [List.filter_eq_self.mpr fun c hc ↦ by simpa using ne_of_mem_of_not_mem hc h,
      String.ofList_toList]

/-- A qualified table name. -/
def quoteTable (d : Dialect) (t : Table) : String :=
  quoteIdentifier (d.tablePart t.schema) ++ "." ++ quoteIdentifier (d.tablePart t.name)

/-- The `n`-th placeholder, counted from one. -/
def placeholder (d : Dialect) (n : Int) : String :=
  match d.engine with
  | .sqlite => "?"
  | .postgres => "$" ++ toString n

/-- The type of the columns of a property. -/
def columnType (d : Dialect) (type : PropertyType) : String :=
  match d.engine with
  | .sqlite =>
    match type with
    | .integer | .long | .boolean | .duration | .period => "INTEGER"
    | .double => "REAL"
    | _ => "TEXT"
  | .postgres =>
    match type with
    | .integer | .period => "INTEGER"
    | .long | .duration => "BIGINT"
    | .double => "DOUBLE PRECISION"
    | .boolean => "BOOLEAN"
    | .json => "JSONB"
    | .zonedDatetime => "TIMESTAMP"
    | _ => "TEXT"

end Dialect

/-! ## Creating tables -/

namespace Topology

/-- The type of a postfix column. -/
def postfixType (d : Dialect) (pf : String) : String :=
  d.columnType (if pf = PropertyType.zonePostfix then .string else .long)

/-- The columns of a table with their types: the identity, the columns of the properties, the
foreign keys. -/
def columnTypes (t : Topology) (d : Dialect) (table : Table) : List (String × String) :=
  (idColumn, d.columnType .long ++ " PRIMARY KEY") ::
    ((t.properties? table).getD []).flatMap (fun p ↦
      (p.name, d.columnType p.type) ::
        p.type.postfixes.map fun pf ↦ (p.name ++ pf, postfixType d pf)) ++
    (t.foreignKeys table).map fun key ↦ (key.column, d.columnType .long)

/-- The statement that creates a table. -/
def createTable (t : Topology) (d : Dialect) (table : Table) : String :=
  let columns := (t.columnTypes d table).map fun (name, type) ↦ quoteIdentifier name ++ " " ++ type
  "CREATE TABLE " ++ d.quoteTable table ++ " (\n\t" ++ String.intercalate ",\n\t" columns ++ "\n)"

/-- The elements of a list without those that came before. -/
def firstOccurrences {α : Type} [BEq α] : List α → List α → List α
  | _, [] => []
  | seen, a :: as => if seen.contains a then firstOccurrences seen as
      else a :: firstOccurrences (a :: seen) as

theorem mem_firstOccurrences {α : Type} [BEq α] [LawfulBEq α] {a : α} {seen as : List α}
    (h : a ∈ as) (hseen : a ∉ seen) : a ∈ firstOccurrences seen as := by
  induction as generalizing seen with
  | nil => cases h
  | cons b as ih =>
    rw [firstOccurrences]
    rcases List.mem_cons.mp h with rfl | h
    · rw [if_neg (by simpa using hseen)]
      exact List.mem_cons_self
    · split
      · exact ih h hseen
      · by_cases hab : a = b
        · rw [hab]
          exact List.mem_cons_self
        · exact List.mem_cons_of_mem _ (ih h (by simp [hab, hseen]))

theorem mem_of_mem_firstOccurrences {α : Type} [BEq α] {a : α} {seen as : List α}
    (h : a ∈ firstOccurrences seen as) : a ∈ as := by
  induction as generalizing seen with
  | nil => cases h
  | cons b as ih =>
    rw [firstOccurrences] at h
    split at h
    · exact List.mem_cons_of_mem _ (ih h)
    · rcases List.mem_cons.mp h with rfl | h
      · exact List.mem_cons_self
      · exact List.mem_cons_of_mem _ (ih h)

/-- The statements that create every table, after the schemas they live in where the engine has
schemas. -/
def ddl (t : Topology) (d : Dialect) : List String :=
  let tables := t.tableList
  let schemas := match d.engine with
    | .sqlite => []
    | .postgres => firstOccurrences [] (tables.map Table.schema)
  schemas.map (fun s ↦ "CREATE SCHEMA IF NOT EXISTS " ++ quoteIdentifier s) ++
    tables.map (t.createTable d)

end Topology

end PathQuery
