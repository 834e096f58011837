import PathQuery.Traversal.Session

/-!
# Loading temporary tables

The tables a statement joins against are created and loaded before it is prepared. An engine that
takes rows in statements gets them in batches, inside one transaction, so that a table is loaded
with every value or with none; the other engine copies them over its own protocol, which only its
own connections speak.
-/

namespace PathQuery

namespace Dialect

/-- The statement that creates a temporary table. -/
def createTemporary (t : MembershipTable) : String :=
  "CREATE TEMP TABLE " ++ quoteIdentifier t.name ++ " (" ++ quoteIdentifier t.column ++ " " ++
    t.columnType ++ ")"

/-- The statement that drops a temporary table. -/
def dropTemporary (d : Dialect) (name : String) : String :=
  match d.engine with
  | .sqlite => "DROP TABLE IF EXISTS temp." ++ quoteIdentifier name
  | .postgres => "DROP TABLE IF EXISTS " ++ quoteIdentifier name

/-- The statement that inserts `n` rows. -/
def insertRows (t : MembershipTable) (n : Nat) : String :=
  "INSERT INTO " ++ quoteIdentifier t.name ++ " (" ++ quoteIdentifier t.column ++ ") VALUES " ++
    String.intercalate "," (List.replicate n "(?)")

end Dialect

/-- The most rows one statement inserts. -/
def insertLimit : Nat := 500

/-- Cuts a list into batches of at most `insertLimit` values. -/
def insertBatches {α : Type} (vs : List α) : List (List α) :=
  match vs with
  | [] => []
  | v :: rest => (v :: rest).take insertLimit :: insertBatches ((v :: rest).drop insertLimit)
termination_by vs.length
decreasing_by
  simp only [List.length_drop, List.length_cons, insertLimit]
  omega

namespace SessionM

/-- Inserts batches in order, up to the first that is refused. -/
def insertAll (ch : Channel) (t : MembershipTable) : List (List Value) → SessionM (Option String)
  | [] => pure none
  | b :: bs => do
    match ← call ch (.exec (Dialect.insertRows t b.length) b) with
    | some e => pure (some e)
    | none => insertAll ch t bs

/-- Loads a temporary table inside a transaction. -/
def insertValues (ch : Channel) (t : MembershipTable) : SessionM (Option ExecutionError) := do
  match ← call ch .begin with
  | some e => return some (.transaction e)
  | none =>
    match ← insertAll ch t (insertBatches t.values) with
    | some e =>
      let _ ← call ch .rollback
      return some (.load t.name e)
    | none =>
      match ← call ch .commit with
      | some e => return some (.transaction e)
      | none => return none

/-- Loads a temporary table. -/
def loadValues (d : Dialect) (ch : Channel) (t : MembershipTable) :
    SessionM (Option ExecutionError) :=
  match d.engine with
  | .sqlite => insertValues ch t
  | .postgres => pure (some .noBulkCopy)

/-- Creates and loads the temporary tables of a statement, up to the first that fails. Answers the
names of those that were created. -/
def loadTables (d : Dialect) (ch : Channel) (s : Statement) :
    List MembershipTable → SessionM (Option ExecutionError × List String)
  | [] => pure (none, [])
  | t :: ts => do
    match ← call ch (.exec (Dialect.createTemporary t) []) with
    | some e => return (some (.create t.name e), [])
    | none =>
      match ← loadValues d ch t with
      | some e => return (some e, [t.name])
      | none =>
        notify (.loaded s.mode s.fingerprint t.name t.values.length)
        let (e, names) ← loadTables d ch s ts
        return (e, t.name :: names)

/-- Drops temporary tables, whatever fails, and answers the first failure. They are dropped even if
the context has been canceled. -/
def dropTables (d : Dialect) (ch : Channel) : List String → SessionM (Option String)
  | [] => pure none
  | name :: names => do
    let first ← call ch.detached (.exec (d.dropTemporary name) [])
    let later ← dropTables d ch names
    return first <|> later

end SessionM

end PathQuery
