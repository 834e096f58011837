import PathQuery.Traversal.Loading

/-!
# Traversals

A traversal runs the statements of its trees one after the other and yields their results: the
regular paths of every tree first, then the optional ones, then the emitting ones. It keeps the
stage it is in, how many trees it has taken in it, and the statements of the last of them that are
still to be run. Rows are read in batches, and at most one statement is open at a time, with its
temporary tables; both are given up before the next statement is compiled, and whenever the
traversal stops. All of this happens on one connection, which is taken at the start and given back
at the end.

A traversal moves in steps. A step either yields a buffered result, or reads a batch of the open
statement, or opens a statement, or goes on to the next tree that has some, so that what is left to
be done becomes less with every step.
-/

namespace PathQuery

/-- Where a traversal is: in one of three modes, or at the end of them. -/
inductive Stage where
  | regular
  | optional
  | emit
  | done
  deriving DecidableEq, Repr, Inhabited

namespace Stage

/-- The mode of a stage, if it is not the end. -/
def mode? : Stage → Option Mode
  | .regular => some .regular
  | .optional => some .optional
  | .emit => some .emit
  | .done => none

/-- The stage after a stage. -/
def next : Stage → Stage
  | .regular => .optional
  | .optional => .emit
  | .emit | .done => .done

/-- How many stages there are from a stage to the end. -/
def left : Stage → Nat
  | .regular => 3
  | .optional => 2
  | .emit => 1
  | .done => 0

end Stage

/-- A statement that is compiled when its turn comes. -/
structure Job where
  /-- The tree. -/
  tree : Tree
  /-- The mode. -/
  mode : Mode
  /-- The path, with its branches. -/
  path : OptionalPath

/-- The statements of a tree in a mode. -/
def Tree.jobs (t : Tree) (mode : Mode) : List Job :=
  match CompileM.modePaths t mode with
  | .ok paths => paths.map (.mk t mode)
  | .error _ => []

/-- The rows of an open statement. -/
structure RowStream where
  /-- What the cells stand for. -/
  reader : RowReader
  /-- The rows that have not been fetched. -/
  pending : List (List Value)

/-- What has to be given up when a statement is done with. -/
structure Holdings where
  /-- The temporary tables that were created. -/
  temporaries : List String := []
  /-- Whether the prepared statement is open. -/
  statement : Bool := false
  /-- Whether its rows are open. -/
  rows : Bool := false
  deriving DecidableEq, Repr, Inhabited

/-- Gives up what is held, whatever fails, and answers the first failure. -/
def Holdings.release (d : Dialect) (ch : Channel) (h : Holdings) : SessionM (Option String) := do
  let rows ← if h.rows then SessionM.call ch .closeRows else pure none
  let statement ← if h.statement then SessionM.closeStatement ch else pure none
  let tables ← SessionM.dropTables d ch h.temporaries
  return rows <|> statement <|> tables

/-- The rows that are read at a time when no number is given. -/
def defaultBatchSize : Nat := 500

/-- A traversal under way. -/
structure Traversal where
  /-- The compiler. -/
  compiler : Compiler
  /-- The trees. -/
  trees : List Tree
  /-- One less than the rows that are read at a time. -/
  extraRows : Nat := defaultBatchSize - 1
  /-- The session. -/
  session : Session
  /-- Whether the traversal has started. -/
  started : Bool := false
  /-- Whether it has been closed. -/
  closed : Bool := false
  /-- Whether it has been canceled. -/
  canceled : Bool := false
  /-- The connection it holds. -/
  connection : Option Nat := none
  /-- Why it stopped, if something went wrong. -/
  failure : Option TraversalError := none
  /-- The stage it is in. -/
  stage : Stage := .regular
  /-- How many of the trees it has taken in this stage. -/
  root : Nat := 0
  /-- The statements of the last of them that are still to be run. -/
  queue : List Job := []
  /-- What the open statement holds. -/
  holdings : Holdings := {}
  /-- The rows of the open statement. -/
  stream : Option RowStream := none
  /-- The results that have been read and not been yielded. -/
  buffer : List Result := []

namespace Traversal

/-- A traversal of trees that reads so many rows at a time. -/
def ofTrees (c : Compiler) (trees : List Tree) (batch : Int) (session : Session) : Traversal :=
  { compiler := c, trees, session
    extraRows := (if 0 < batch then batch.toNat else defaultBatchSize) - 1 }

/-- Lets the session take a step. -/
def perform {α : Type} (t : Traversal) (m : SessionM α) : α × Traversal :=
  let (a, session) := m.run t.session
  (a, { t with session })

/-- The way its calls take: they are made on its connection and under its own context. -/
def channel (t : Traversal) : Channel where
  connection := t.connection
  context := .given t.canceled

/-! ## Stopping -/

/-- Gives up the open statement, and answers the first failure. -/
def closeStatement (t : Traversal) : Option String × Traversal :=
  let (failure, t) := t.perform (t.holdings.release t.compiler.dialect t.channel)
  (failure, { t with holdings := {}, stream := none })

/-- Gives the connection back, if one is held. -/
def release (t : Traversal) : Traversal :=
  { (t.perform (SessionM.giveBack t.channel)).2 with connection := none }

/-- Stops for a reason. -/
def fail (t : Traversal) (e : TraversalError) : Traversal :=
  let t := { t with failure := some e }
  let (_, t) := t.perform (SessionM.notify (.failed e))
  let (unclean, t) := t.closeStatement
  let (_, t) := t.perform (match unclean with
    | some message => SessionM.notify (.unclean message)
    | none => pure ())
  { t with queue := [], buffer := [], stage := .done }.release

/-- Stops at the end. -/
def finish (t : Traversal) : Traversal :=
  (t.release.perform (SessionM.notify .finished)).2

/-- Stops before the end, and answers what could not be given up. -/
def close (t : Traversal) : Option String × Traversal :=
  if t.closed then (none, t)
  else
    let unfinished := t.started && t.stage ≠ .done
    let (failure, t) := t.closeStatement
    let t := t.release
    let reason := if unfinished && t.failure.isNone then some .closed else t.failure
    (failure, { t with
      closed := true
      queue := []
      buffer := []
      stage := .done
      failure := reason })

/-- Cancels the traversal. Open rows are closed at once, and nothing is said if that fails. -/
def cancel (t : Traversal) : Traversal :=
  if t.holdings.rows && !t.canceled then
    let (_, t) := t.perform (SessionM.call t.channel .closeRows)
    { t with canceled := true, holdings := { t.holdings with rows := false } }
  else { t with canceled := true }

/-! ## Starting -/

/-- Checks that every statement compiles, then takes a connection. -/
def start (t : Traversal) : Except TraversalError Unit × Traversal :=
  let (invalid, t) := ({ t with started := true }).perform (SessionM.checkAll t.compiler 0 t.trees)
  match invalid with
  | some e => (.error e, t)
  | none =>
    if t.canceled then (.error .canceledStart, t)
    else
      let (answer, t) := t.perform (SessionM.acquire (.given t.canceled))
      match answer with
      | .error message => (.error (.noConnection message), t)
      | .ok k =>
        let (_, t) := t.perform (SessionM.notify (.started t.trees.length))
        (.ok (), { t with connection := some k })

/-! ## Going on to the next tree -/

/-- Leaves the stage for the next one. Aliases do not outlive a stage. -/
def leaveStage (t : Traversal) : Traversal :=
  let (_, t) := t.perform SessionM.forgetAliases
  let t := { t with stage := t.stage.next, root := 0 }
  (t.perform (SessionM.notify (.left t.stage.mode?))).2

/-- Takes the next tree of the stage. -/
def takeTree (t : Traversal) (tree : Tree) (mode : Mode) : Traversal :=
  { t with root := t.root + 1, queue := tree.jobs mode }

/-- How often a traversal can still take a tree or leave a stage. -/
def turnsLeft (t : Traversal) : Nat :=
  t.stage.left * (t.trees.length + 1) + (t.trees.length - t.root)

theorem turnsLeft_leaveStage {t : Traversal} {mode : Mode} (hmode : t.stage.mode? = some mode) :
    t.leaveStage.turnsLeft < t.turnsLeft := by
  have hleft : t.leaveStage.turnsLeft =
      t.stage.next.left * (t.trees.length + 1) + t.trees.length := rfl
  have hnext : t.stage.left = t.stage.next.left + 1 := by
    cases hstage : t.stage with
    | done => rw [hstage] at hmode; cases hmode
    | _ => rfl
  rw [hleft, turnsLeft, hnext, Nat.add_mul]
  omega

theorem turnsLeft_takeTree {t : Traversal} {tree : Tree} {mode : Mode}
    (htree : t.trees[t.root]? = some tree) : (t.takeTree tree mode).turnsLeft < t.turnsLeft := by
  obtain ⟨hroot, -⟩ := List.getElem?_eq_some_iff.mp htree
  have htaken : (t.takeTree tree mode).turnsLeft =
      t.stage.left * (t.trees.length + 1) + (t.trees.length - (t.root + 1)) := rfl
  rw [htaken, turnsLeft]
  omega

/-- Goes on to the next tree that has statements in the stage, and to the next stage when no tree
is left. Answers whether there is a statement to run. -/
def turn (t : Traversal) : Bool × Traversal :=
  match _hmode : t.stage.mode? with
  | none => (false, t)
  | some mode =>
    match _htree : t.trees[t.root]? with
    | none => turn t.leaveStage
    | some tree =>
      if (tree.jobs mode).isEmpty then turn (t.takeTree tree mode)
      else (true, t.takeTree tree mode)
termination_by t.turnsLeft
decreasing_by
  · exact turnsLeft_leaveStage _hmode
  · exact turnsLeft_takeTree _htree

/-! ## Opening a statement -/

/-- Prepares and starts a statement whose temporary tables are loaded. -/
def startQuery (ch : Channel) (tree : Tree) (s : Statement) (held : Holdings) :
    SessionM (Except ExecutionError RowStream × Holdings) := do
  match ← SessionM.prepare ch s.sql with
  | some e => return (.error (.prepare e), held)
  | none =>
    let held := { held with statement := true }
    let result := (← get).database.nextResult
    match ← SessionM.call ch (.query s.operands) with
    | some e => return (.error (.query e), held)
    | none =>
      let held := { held with rows := true }
      let names := result.names s.sql
      let registry := (← get).compiling.registry
      match RowReader.ofNames (tree.catalog.getD (.empty "")) registry s.mode names with
      | .error name => return (.error (.unknownColumn name), held)
      | .ok reader =>
        SessionM.notify (.executed s.mode s.fingerprint s.operands.length)
        return (.ok ⟨reader, result.rows.map (ResultSet.fitRow names.length)⟩, held)

/-- Runs a compiled statement: loads its temporary tables and starts its query. -/
def runStatement (d : Dialect) (ch : Channel) (tree : Tree) (s : Statement) :
    SessionM (Except TraversalError RowStream × Holdings) := do
  let (failure, temporaries) ← SessionM.loadTables d ch s s.tables
  let (outcome, held) ← match failure with
    | some e => pure (.error e, { temporaries })
    | none => startQuery ch tree s { temporaries }
  match outcome with
  | .ok stream => return (.ok stream, held)
  | .error e =>
    SessionM.notify (.rejected s.mode)
    return (.error (.execution s.mode s.fingerprint e), held)

/-- Compiles the statement of a path and runs it. -/
def openStatement (c : Compiler) (ch : Channel) (tree : Tree) (mode : Mode) (p : OptionalPath) :
    SessionM (Except TraversalError RowStream × Holdings) := do
  match ← SessionM.compile (CompileM.statement c tree mode p.path p.branches) with
  | .error e => return (.error (.compile e), {})
  | .ok s => runStatement c.dialect ch tree s

/-! ## Reading rows -/

/-- What became of a batch of rows. -/
inductive BatchEnd where
  /-- The batch is full; these rows are left. -/
  | full (pending : List (List Value))
  /-- There are no more rows, and the database has closed them. -/
  | exhausted
  /-- A row could not be fetched, or the rows not be closed at their end. -/
  | fetch (message : String)
  /-- A row could not be read. -/
  | unreadable (e : RowError)

/-- Reads at most `n` rows, and answers the results among them, whether the rows are still open
and how the batch ended. A failed fetch closes the rows, as does their end. -/
def readBatch (ch : Channel) (reader : RowReader) :
    Nat → List (List Value) → SessionM (List Result × Bool × BatchEnd)
  | 0, rows => pure ([], true, .full rows)
  | n + 1, rows => do
    match ← SessionM.call ch .fetch, rows with
    | some e, _ =>
      let _ ← SessionM.call ch .closeRows
      return ([], false, .fetch e)
    | none, [] =>
      match ← SessionM.call ch .closeRows with
      | some e => return ([], false, .fetch e)
      | none => return ([], false, .exhausted)
    | none, row :: rows =>
      match reader.read row with
      | .error e => return ([], true, .unreadable e)
      | .ok found =>
        let (results, isOpen, ended) ← readBatch ch reader n rows
        return (found.toList ++ results, isOpen, ended)

/-- Reads a batch of the open statement, which is given up once there are no more rows. -/
def fill (t : Traversal) (stream : RowStream) : Except TraversalError Unit × Traversal :=
  let ((results, isOpen, ended), t) :=
    t.perform (readBatch t.channel stream.reader (t.extraRows + 1) stream.pending)
  let t := { t with buffer := results, holdings := { t.holdings with rows := isOpen } }
  let (outcome, t) : Except TraversalError Unit × Traversal := match ended with
    | .full pending => (.ok (), { t with stream := some { stream with pending } })
    | .exhausted =>
      match t.closeStatement with
      | (some message, t) => (.error (.database message), t)
      | (none, t) => (.ok (), t)
    | .fetch message => (.error (.database message), t)
    | .unreadable e => (.error (.row e), t)
  let (_, t) := t.perform (SessionM.notify (.decoded stream.reader.mode results.length))
  (outcome, t)

/-! ## Steps -/

/-- What a step comes to. -/
inductive Progress where
  /-- It yields a result. -/
  | yields (r : Result) (t : Traversal)
  /-- It yields nothing yet. -/
  | moves (t : Traversal)
  /-- There is nothing more to yield. -/
  | stops (t : Traversal)

/-- Goes on after a step that may have failed. -/
def settle (outcome : Except TraversalError Unit × Traversal) : Progress :=
  match outcome with
  | (.ok (), t) => .moves t
  | (.error e, t) => .stops (t.fail e)

/-- Opens the statement of a job. -/
def openJob (t : Traversal) (job : Job) : Progress :=
  let ((outcome, holdings), t) :=
    t.perform (openStatement t.compiler t.channel job.tree job.mode job.path)
  let t := { t with holdings }
  match outcome with
  | .ok stream => .moves { t with stream := some stream }
  | .error e => .stops (t.fail e)

/-- One step of a traversal that has started. -/
def step (t : Traversal) : Progress :=
  match t.buffer with
  | r :: rest => .yields r { t with buffer := rest }
  | [] =>
    if t.canceled then .stops (t.fail .canceled)
    else match t.stream with
      | some stream => settle (t.fill stream)
      | none =>
        match t.queue with
        | job :: rest => { t with queue := rest }.openJob job
        | [] =>
          match t.turn with
          | (true, t) => .moves t
          | (false, t) => .stops t.finish

/-- The rows still to be read from the open statement, counting their end. -/
def pendingRows (t : Traversal) : Nat :=
  match t.stream with
  | some stream => stream.pending.length + 1
  | none => 0

end Traversal

end PathQuery
