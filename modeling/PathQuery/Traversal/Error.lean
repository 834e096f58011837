import PathQuery.Database.Basic
import PathQuery.Element.Basic

/-!
# Why a traversal stops

A traversal stops early when one of its statements cannot be compiled, when the database refuses a
call, when a row cannot be read, and when it is canceled or closed.
-/

namespace PathQuery

/-- Why a statement could not be run. -/
inductive ExecutionError where
  /-- A temporary table could not be created. -/
  | create (table message : String)
  /-- A temporary table could not be loaded. -/
  | load (table message : String)
  /-- The transaction that loads a temporary table could not be begun or ended. -/
  | transaction (message : String)
  /-- The connection has no bulk copy. -/
  | noBulkCopy
  /-- The statement could not be prepared. -/
  | prepare (message : String)
  /-- The statement could not be started. -/
  | query (message : String)
  /-- A result column has a name that is no alias. -/
  | unknownColumn (name : String)
  deriving DecidableEq, Repr

/-- The wording of the error. -/
def ExecutionError.message : ExecutionError → String
  | .create table message => "create temp table " ++ table ++ ": " ++ message
  | .load table message => "load temp table " ++ table ++ ": " ++ message
  | .transaction message => message
  | .noBulkCopy => "bulk copy needs a pgx connection, got *sqlite.conn"
  | .prepare message => "prepare: " ++ message
  | .query message => "query: " ++ message
  | .unknownColumn name => RowReader.unknownAlias name

/-- Why a traversal stopped before its end. -/
inductive TraversalError where
  /-- A tree cannot be compiled. -/
  | invalidTree (index : Nat) (e : QueryError)
  /-- A path that compiled before does not. -/
  | compile (e : QueryError)
  /-- There was no connection. -/
  | noConnection (message : String)
  /-- The traversal was canceled before it had a connection. -/
  | canceledStart
  /-- The traversal was canceled. -/
  | canceled
  /-- The traversal was closed. -/
  | closed
  /-- A statement could not be run. -/
  | execution (mode : Mode) (fingerprint : String) (e : ExecutionError)
  /-- The database failed while rows were fetched or a statement was closed. -/
  | database (message : String)
  /-- A row could not be read. -/
  | row (e : RowError)

namespace TraversalError

/-- The wording of a cancellation. -/
def cancelWord : String := Database.canceledWords

/-- The wording of the error. -/
def message : TraversalError → Text
  | .invalidTree index e => "tree " ++ toString index ++ ": " ++ e.message
  | .compile e => e.message
  | .noConnection message => "acquire connection: " ++ message
  | .canceledStart => "acquire connection: " ++ cancelWord
  | .canceled => cancelWord
  | .closed => "iterator closed"
  | .execution mode fingerprint e =>
    "execute " ++ mode.word ++ " statement " ++ fingerprint ++ ": " ++ e.message
  | .database message => message
  | .row e => e.message

/-- The fault of the query behind the error, if there is one. -/
def queryError? : TraversalError → Option QueryError
  | .invalidTree _ e => some e
  | .compile e => some e
  | _ => none

end TraversalError

end PathQuery
