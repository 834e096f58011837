import PathQuery.Value.Basic

/-!
# Databases

A database answers calls, one after the other, and any of them may fail. What it answers is given
by a script: the result sets of the queries, in order, and the failures, by the kind of call and
its number among the calls of that kind. The state of a database has the calls it has answered so
far; how many calls of a kind there were, and which result set is next, is read off them.

A call is made on a connection, or on the pool that the connections are taken from, and under a
context. Nothing that takes a context is done any more under one that has been canceled. A
connection that has been taken is in use until it is given back, which cannot fail but for one that
is not in use.
-/

namespace PathQuery

/-- A kind of call. -/
inductive CallKind where
  | connect
  | acquire
  | ping
  | exec
  | begin
  | commit
  | rollback
  | prepare
  | query
  | fetch
  | closeRows
  | closeStatement
  | release
  deriving DecidableEq, Repr

/-- A call on a database. -/
inductive Call where
  /-- Connects to a data source. -/
  | connect (source : String)
  /-- Takes a connection from the pool. -/
  | acquire
  /-- Checks the connection. -/
  | ping
  /-- Runs a statement that returns no rows. -/
  | exec (sql : String) (operands : List Value)
  /-- Begins a transaction. -/
  | begin
  /-- Ends a transaction and keeps its effects. -/
  | commit
  /-- Ends a transaction and drops its effects. -/
  | rollback
  /-- Prepares a statement. -/
  | prepare (sql : String)
  /-- Runs the prepared statement. -/
  | query (operands : List Value)
  /-- Asks for the next row. -/
  | fetch
  /-- Closes the rows of a query. -/
  | closeRows
  /-- Closes the prepared statement. -/
  | closeStatement
  /-- Gives the connection back to the pool. -/
  | release
  deriving Repr

/-- The kind of a call. -/
def Call.kind : Call → CallKind
  | .connect _ => .connect
  | .acquire => .acquire
  | .ping => .ping
  | .exec .. => .exec
  | .begin => .begin
  | .commit => .commit
  | .rollback => .rollback
  | .prepare _ => .prepare
  | .query _ => .query
  | .fetch => .fetch
  | .closeRows => .closeRows
  | .closeStatement => .closeStatement
  | .release => .release

/-- Whether a call takes a context. -/
def Call.takesContext : Call → Bool
  | .connect _ | .acquire | .ping | .exec .. | .begin | .prepare _ | .query _ => true
  | .commit | .rollback | .fetch | .closeRows | .closeStatement | .release => false

/-- The context of a call. -/
inductive CallContext where
  /-- That of the caller, and whether it has been canceled by now. -/
  | given (canceled : Bool)
  /-- That of the caller without its cancellation. -/
  | detached
  deriving DecidableEq, Repr

/-- The way a call takes. -/
structure Channel where
  /-- The number of the connection it is made on; the pool takes the others. -/
  connection : Option Nat := none
  /-- The context it is made under, if it takes one. -/
  context : CallContext := .given false
  deriving DecidableEq, Repr, Inhabited

/-- The same connection, with a context that is not canceled with that of the caller. -/
def Channel.detached (ch : Channel) : Channel := { ch with context := .detached }

/-- A call and its outcome. -/
structure CallRecord where
  /-- The call. -/
  call : Call
  /-- The way it took. -/
  channel : Channel
  /-- What the database said if it failed. -/
  failure : Option String := none
  deriving Repr

/-- The rows a query returns. -/
structure ResultSet where
  /-- The names of the columns; without them, those the query gives its columns. -/
  columns : Option (List String) := none
  /-- The rows. -/
  rows : List (List Value) := []
  deriving Repr, Inhabited

/-- What a database answers. -/
structure Script where
  /-- The result sets of the queries, in order; there are no rows once they are used up. -/
  results : List ResultSet := []
  /-- What the `n`-th call of a kind, counted from one, fails with. -/
  failure? : CallKind → Nat → Option String := fun _ _ ↦ none

instance : Inhabited Script := ⟨{}⟩

/-- A database with the calls it has answered. -/
structure Database where
  /-- What it answers. -/
  script : Script
  /-- The data source. -/
  source : String
  /-- Whether there is a connection to it. -/
  connected : Bool := false
  /-- The connections that are in use. -/
  lent : List Nat := []
  /-- The calls so far, in order. -/
  history : Array CallRecord := #[]
  deriving Inhabited

namespace Database

/-- How many calls of a kind there have been. -/
def count (db : Database) (kind : CallKind) : Nat :=
  db.history.foldl (fun n r ↦ if r.call.kind = kind then n + 1 else n) 0

/-- What a call fails with under a context that has been canceled. -/
def canceledWords : String := "context canceled"

/-- Answers a call: what it fails with, if it does, and the database after it. -/
def call (db : Database) (ch : Channel) (c : Call) : Option String × Database :=
  let failure :=
    if c.takesContext && ch.context = .given true then some canceledWords
    else db.script.failure? c.kind (db.count c.kind + 1)
  (failure, { db with history := db.history.push { call := c, channel := ch, failure } })

/-- Connects unless there is a connection. -/
def connect (db : Database) (context : CallContext) : Option String × Database :=
  if db.connected then (none, db)
  else match db.call { context } (.connect db.source) with
    | (none, db) => (none, { db with connected := true })
    | (some e, db) => (some e, db)

/-- Takes a connection from the pool, which connects if need be. -/
def acquire (db : Database) (context : CallContext) : Except String Nat × Database :=
  match db.connect context with
  | (some e, db) => (.error e, db)
  | (none, db) =>
    let k := db.count .acquire + 1
    let channel : Channel := { connection := some k, context }
    (.ok k, { db with
      lent := k :: db.lent
      history := db.history.push { call := .acquire, channel } })

/-- Gives a connection back to the pool. -/
def release (db : Database) (ch : Channel) (k : Nat) : Option String × Database :=
  let failure := if k ∈ db.lent then none else some "sql: connection is already closed"
  (failure, { db with
    lent := db.lent.erase k
    history := db.history.push { call := .release, channel := ch, failure } })

/-- The result set of the next query. -/
def nextResult (db : Database) : ResultSet := db.script.results.getD (db.count .query) {}

end Database

/-! ## The columns of a query -/

/-- The alias at the end of a projected column. -/
def columnAlias (part : String) : String :=
  let name := (part.splitOn " AS \"").getLastD ""
  String.ofList (if name.toList.getLast? = some '"' then name.toList.dropLast else name.toList)

/-- The names a query gives its columns. -/
def queryColumns (sql : String) : List String :=
  let body := "SELECT\n\t".intercalate ((sql.splitOn "SELECT\n\t").drop 1)
  let projection := (body.splitOn "\nFROM ").headD ""
  (projection.splitOn ",\n\t").map columnAlias

namespace ResultSet

/-- The names of the columns of a query's result. -/
def names (r : ResultSet) (sql : String) : List String := r.columns.getD (queryColumns sql)

/-- A row with as many cells as there are columns: missing ones are null. -/
def fitRow (width : Nat) (row : List Value) : List Value :=
  row.take width ++ List.replicate (width - row.length) .null

end ResultSet

end PathQuery
