import PathQuery.Command.Plans
import PathQuery.Database.Source
import PathQuery.Traversal.Next

/-!
# Running plans

Plans are run one after the other over one connection to the database. The first that fails ends
the command, unless it had met its limit by then.
-/

namespace PathQuery.Command

/-! ## Results -/

/-- The ends of an edge as the members of an object. -/
def endsMember (key : String) (ends : List (Table × Int)) : List (String × Json) :=
  let sorted := ends.mergeSort fun a b ↦ decide (a.1.render ≤ b.1.render)
  memberIf (!ends.isEmpty) key (.object (sorted.map fun (t, id) ↦ (t.render, .int id)))

/-- An element as a document; its properties come by name. -/
def elementJson (e : Element) : Except UnwritableValue Json := do
  let properties ← Value.fieldsToJson (e.properties.mergeSort fun a b ↦ decide (a.1 ≤ b.1))
  return .object ([("table", .string e.table.render), ("id", .int e.id)] ++
    memberIf (!properties.isEmpty) "properties" (.object properties) ++
    endsMember "out" e.outs ++ endsMember "in" e.ins)

/-- The elements of a label as a member of an object. -/
def labeledJson (label : String) (elements : List Element) :
    Except UnwritableValue (String × Json) := do
  return (label, .array (← elements.mapM elementJson))

/-- A result as a document; its labels come by name. -/
def resultJson (r : Result) : Except UnwritableValue Json := do
  let element ← elementJson r.element
  let labeled ← (r.labeled.mergeSort fun a b ↦ decide (a.1 ≤ b.1)).mapM fun (label, elements) ↦
    labeledJson label elements
  return .object ([("mode", .string r.mode.word), ("element", element)] ++
    memberIf (!labeled.isEmpty) "labeled" (.object labeled))

/-- The results of a plan. -/
structure PlanResults where
  /-- The plan. -/
  plan : Plan
  /-- Its results. -/
  results : List Result
  /-- Whether it was stopped at the limit. -/
  truncated : Bool

namespace PlanResults

/-- The results of a plan as a document. -/
def toJson (p : PlanResults) : Except UnwritableValue Json := do
  return .object ([("name", .string p.plan.name), ("source", .string p.plan.source),
    ("results", arrayOrNull (← p.results.mapM resultJson))] ++
    memberIf p.truncated "truncated" (.bool true))

/-- The row of a result in a table. -/
def row (total : Nat) (r : Result) (position : Nat) : List Text :=
  [Text.ofString (Terminal.rowNumber (position + 1 : Nat) total), Text.ofString r.element.render,
    r.element.renderProperties, Text.ofString (renderLabels r.mode.word r.labeled)]

/-- The results of a plan as a table. -/
def table (p : PlanResults) : Terminal.Table :=
  p.results.zipIdx.foldl (fun t (r, i) ↦ t.addRow (row p.results.length r i))
    { columns := Terminal.resultLayout, width := defaultWidth }

/-- The results of a plan for people. -/
def render (limit : Int) (p : PlanResults) : Text :=
  let count := Terminal.count p.results.length "result" "results"
  let stopped := if p.truncated then
      "  stopped after " ++ toString limit ++ " results (--limit)\n"
    else ""
  let body : Text := if p.results.isEmpty then Text.ofString "  no results\n"
    else p.table.render ++ Text.ofString ("\n" ++ stopped)
  Text.ofString (p.plan.name ++ " " ++ count ++ "\n") ++ body

end PlanResults

/-! ## The database -/

/-- Connects to a database and checks the connection. -/
def openDatabase (fs : FileSystem) (e : Engine) (db : Database) : Option String × Database :=
  match e with
  | .postgres => (some (serverRefusal fs db.source).message, db)
  | .sqlite =>
    match db.connect (.given false) with
    | (some failure, db) => (some failure, db)
    | (none, db) => db.call {} .ping

/-- What helps against a database that cannot be reached. -/
def sourceSuggestion : String := "Check database.dsn in config.toml or pass --db"

/-- The database of a command, connected. -/
def loadDatabase (s : Setting) (c : Context) (e : Environment) : CommandM Database := do
  let scene ← get
  let (failure, db) := openDatabase scene.world.files e.dialect.engine
    { script := s.script, source := c.config.source, history := scene.world.history }
  set { scene with world := { scene.world with history := db.history } }
  match failure with
  | none => return db
  | some message =>
    throw ⟨.databaseError, Text.ofString ("connect to " ++ e.dialect.engine.name ++ ": " ++ message),
      sourceSuggestion⟩

/-! ## Running -/

/-- The kind of failure of a traversal: that of the query, unless the database is to blame. -/
def FailureCode.ofTraversal (e : TraversalError) : FailureCode :=
  match e.queryError?.map FailureCode.ofQuery with
  | some .internalError | none => .databaseError
  | some code => code

/-- The most results of a plan, if there is a limit. -/
def limitOf (n : Int) : Option Nat := if 0 < n then some n.toNat else none

/-- Runs the trees of a plan on a database, up to the limit. -/
def traverse (c : Context) (e : Environment) (w : Words) (trees : List Tree) (db : Database) :
    CommandM ((List Result × Bool) × Option TraversalError × Option String × Database) := do
  let scene ← get
  let batch := if 0 < w.number "batch-size" then w.number "batch-size" else c.config.batchSize
  let t := Traversal.ofTrees { dialect := e.dialect } trees batch
    { database := db, compiling := { temporaries := scene.world.temporaries } }
  let (found, t) := t.collect (limitOf (w.number "limit"))
  let (unclean, t) := t.close
  let session := t.session
  set { scene with world := { scene.world with
    history := session.database.history
    temporaries := session.compiling.temporaries } }
  CommandM.log c.logger (session.notices.toList.filterMap Notice.logEntry?)
  return (found, t.failure, unclean, session.database)

/-- The entry about a plan that could not be cleaned up after. -/
def uncleanEntry (p : Plan) (message : String) : LogEntry where
  level := .warning
  message := "cleanup after run failed"
  fields := [("error", .str message), ("plan", .str p.name)]

/-- Runs a plan. -/
def runPlan (c : Context) (e : Environment) (w : Words) (db : Database) (p : Plan) :
    CommandM (PlanResults × List Warning × Database) := do
  let trees ← buildPlan e p
  if !w.isOn "json" then CommandM.note (Text.ofString ("Running " ++ p.name ++ "...\n"))
  let ((results, truncated), failure, unclean, db) ← traverse c e w trees db
  match failure with
  | some fault =>
    if !truncated then CommandM.fail (.ofTraversal fault) (aboutPlan p fault.message)
  | none => pure ()
  CommandM.log c.logger (unclean.toList.map (uncleanEntry p))
  return ({ plan := p, results, truncated }, treeWarnings p trees, db)

/-- Runs plans in order. -/
def runPlans (c : Context) (e : Environment) (w : Words) (db : Database) :
    List Plan → CommandM (List (PlanResults × List Warning))
  | [] => pure []
  | p :: ps => do
    let (first, warnings, db) ← runPlan c e w db p
    return (first, warnings) :: (← runPlans c e w db ps)

/-- Runs plans against the database. -/
def run (s : Setting) (c : Context) (w : Words) : CommandM Answer := do
  let e ← loadEnvironment c.config
  let plans ← loadPlans w.arguments
  let db ← loadDatabase s c e
  let found ← runPlans c e w db plans
  let results := found.map (·.1)
  return {
    data := do
      let plans ← results.mapM PlanResults.toJson
      return .object [("plans", arrayOrNull plans)]
    warnings := found.flatMap (·.2)
    count := some (Terminal.total (results.map (·.results.length)))
    text := Text.join (results.map (PlanResults.render (w.number "limit")))
    warnsBeside := true }

end PathQuery.Command
