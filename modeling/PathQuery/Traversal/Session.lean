import PathQuery.Compile.Tree
import PathQuery.Database.Basic
import PathQuery.Log.Basic
import PathQuery.Traversal.Error

/-!
# Sessions

A session is what the steps of a traversal share: the database, the state of the compiler, the gauge
of open statements and the notices of what happened. The log of a traversal and its other counters
are both read off the notices.
-/

namespace PathQuery

/-- Something a traversal did. -/
inductive Notice where
  /-- A statement was compiled. -/
  | compiled (s : Statement)
  /-- Every tree compiles, and there is a connection. -/
  | started (trees : Nat)
  /-- A temporary table was loaded. -/
  | loaded (mode : Mode) (fingerprint table : String) (values : Nat)
  /-- A statement returns rows. -/
  | executed (mode : Mode) (fingerprint : String) (operands : Nat)
  /-- A statement could not be run. -/
  | rejected (mode : Mode)
  /-- Rows were read. -/
  | decoded (mode : Mode) (rows : Nat)
  /-- A mode was left for the next, or for none. -/
  | left (next : Option Mode)
  /-- The traversal failed. -/
  | failed (e : TraversalError)
  /-- Cleaning up after a failure failed as well. -/
  | unclean (message : String)
  /-- The connection could not be given back. -/
  | unreleased (message : String)
  /-- The traversal came to its end. -/
  | finished

namespace Notice

/-- The component that reports a notice. -/
def component (name : String) : String × Value := ("component", .str name)

/-- An entry of the traversal. -/
def entry (level : LogLevel) (message : String) (fields : List (String × Value)) : LogEntry :=
  { level, message, fields := component "materialize" :: fields }

/-- What is logged for a notice. -/
def logEntry? : Notice → Option LogEntry
  | .compiled s => some {
      level := .debug
      message := "compiled statement"
      fields := [component "sqlgen", ("mode", .str s.mode.word), ("leaf", .str s.leafTable.render),
        ("segments", .int .word s.segments.length), ("bulk", .int .word s.tables.length),
        ("fingerprint", .str s.fingerprint)] }
  | .started trees => some (entry .debug "iteration started" [("trees", .int .word trees)])
  | .loaded mode fingerprint table values => some (entry .info "bulk membership table loaded"
      [("mode", .str mode.word), ("fingerprint", .str fingerprint), ("table", .str table),
        ("values", .int .word values)])
  | .executed mode fingerprint operands => some (entry .debug "statement executed"
      [("mode", .str mode.word), ("fingerprint", .str fingerprint), ("args", .int .word operands)])
  | .rejected _ => none
  | .decoded .. => none
  | .left next => some (entry .debug "state advanced"
      [("state", .str ((next.map Mode.word).getD "done"))])
  | .failed e => some (entry .error "iteration failed" [("error", .ofText e.message)])
  | .unclean message => some (entry .warning "cleanup after failure" [("error", .str message)])
  | .unreleased message =>
    some (entry .warning "failed to release connection" [("error", .str message)])
  | .finished => some (entry .debug "iteration finished" [])

end Notice

/-- What the steps of a traversal share. -/
structure Session where
  /-- The database. -/
  database : Database
  /-- The state of the compiler. -/
  compiling : CompileState := {}
  /-- The gauge of open statements: those that were prepared, less those that were closed. -/
  openStatements : Int := 0
  /-- What has happened so far. -/
  notices : Array Notice := #[]
  deriving Inhabited

/-- A step on a session. -/
abbrev SessionM := StateM Session

namespace SessionM

/-- Calls the database: what the call fails with, if it does. -/
def call (ch : Channel) (c : Call) : SessionM (Option String) := fun s ↦
  let (failure, database) := s.database.call ch c
  (failure, { s with database })

/-- Takes a connection, by its number. -/
def acquire (context : CallContext) : SessionM (Except String Nat) := fun s ↦
  let (answer, database) := s.database.acquire context
  (answer, { s with database })

/-- Gives a connection back. -/
def release (ch : Channel) (k : Nat) : SessionM (Option String) := fun s ↦
  let (failure, database) := s.database.release ch k
  (failure, { s with database })

/-- Moves the gauge of open statements. -/
def gauge (change : Int) : SessionM Unit := fun s ↦
  ((), { s with openStatements := s.openStatements + change })

/-- Prepares a statement, which is open then. -/
def prepare (ch : Channel) (sql : String) : SessionM (Option String) := do
  let failure ← call ch (.prepare sql)
  if failure.isNone then gauge 1
  return failure

/-- Closes a statement, which is not open any more even if that fails. -/
def closeStatement (ch : Channel) : SessionM (Option String) := do
  let failure ← call ch .closeStatement
  gauge (-1)
  return failure

/-- Reports a notice. -/
def notify (n : Notice) : SessionM Unit := fun s ↦ ((), { s with notices := s.notices.push n })

/-- Gives back the connection of a channel, if it has one. If that fails it is noticed, and nothing
else. -/
def giveBack (ch : Channel) : SessionM Unit :=
  match ch.connection with
  | none => pure ()
  | some k => do
    match ← release ch k with
    | some message => notify (.unreleased message)
    | none => pure ()

/-- Compiles, and reports every statement. -/
def compile {α : Type} (m : CompileM α) : SessionM (Except QueryError α) := fun s ↦
  let (result, state) := m.runOn { s.compiling with journal := #[] }
  (result, { s with
    compiling := { state with journal := #[] }
    notices := s.notices ++ state.journal.map Notice.compiled })

/-- Compiles every statement of a tree, to see whether they compile. The aliases they are given
are forgotten. -/
def check (c : Compiler) (t : Tree) : SessionM (Except QueryError Unit) := do
  let registry := (← get).compiling.registry
  modify fun s ↦ { s with compiling := { s.compiling with registry := {} } }
  let result ← compile (CompileM.allStatements c t)
  modify fun s ↦ { s with compiling := { s.compiling with registry } }
  return result.map fun _ ↦ ()

/-- Checks trees in order, and reports the first that does not compile. -/
def checkAll (c : Compiler) : Nat → List Tree → SessionM (Option TraversalError)
  | _, [] => pure none
  | i, t :: ts => do
    match ← check c t with
    | .error e => pure (some (.invalidTree i e))
    | .ok () => checkAll c (i + 1) ts

/-- Forgets every alias. -/
def forgetAliases : SessionM Unit :=
  modify fun s ↦ { s with compiling := { s.compiling with registry := {} } }

end SessionM

/-! ## Counters -/

namespace Session

/-- The sum over the notices. -/
def total (s : Session) (f : Notice → Nat) : Nat := s.notices.foldl (fun n x ↦ n + f x) 0

/-- How many statements of a mode were compiled. -/
def compiledCount (s : Session) (mode : Mode) : Nat := s.total fun
  | .compiled st => if st.mode = mode then 1 else 0
  | _ => 0

/-- How many statements of a mode returned rows. -/
def executedCount (s : Session) (mode : Mode) : Nat := s.total fun
  | .executed m _ _ => if m = mode then 1 else 0
  | _ => 0

/-- How many statements of a mode could not be run. -/
def rejectedCount (s : Session) (mode : Mode) : Nat := s.total fun
  | .rejected m => if m = mode then 1 else 0
  | _ => 0

/-- How many rows of a mode were read. -/
def decodedCount (s : Session) (mode : Mode) : Nat := s.total fun
  | .decoded m n => if m = mode then n else 0
  | _ => 0

/-- How many values were loaded into temporary tables. -/
def loadedCount (s : Session) : Nat := s.total fun
  | .loaded _ _ _ n => n
  | _ => 0

/-- The counters of a mode by name. -/
def modeCounters (s : Session) (mode : Mode) : List (String × Int) := [
  ("compiled_" ++ mode.word, s.compiledCount mode), ("ok_" ++ mode.word, s.executedCount mode),
  ("error_" ++ mode.word, s.rejectedCount mode), ("rows_" ++ mode.word, s.decodedCount mode)]

/-- The counters that are not zero, by name. -/
def counters (s : Session) : List (String × Int) :=
  let all := [("bulk_values", (s.loadedCount : Int)), ("open_statements", s.openStatements)] ++
    Mode.known.flatMap s.modeCounters
  all.filter (·.2 ≠ 0)

end Session

end PathQuery
