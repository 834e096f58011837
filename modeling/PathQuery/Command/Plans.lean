import PathQuery.Command.World
import PathQuery.Compile.Plans
import PathQuery.Terminal.Table

/-!
# Commands that do not touch the database

Plans are compiled into a script of SQL, explained in a report, or shown as trees; the topology is
shown as a table of its tables or as the statements that create them. A report shows how a plan
compiles: its trees, its statements with their operands and temporary tables, and the aliases of
the columns. It is written in markdown.
-/

namespace PathQuery.Command

/-- The width of a terminal that is not known. -/
def defaultWidth : Int := 120

/-! ## Warnings -/

/-- Why a tree of a plan will not yield what is likely expected. -/
def treeWarning? (p : Plan) (t : Tree) : Option WarningKind :=
  if t.rootInvalid then some .rootPruned
  else if t.regularPaths.isEmpty && t.emitPaths.isEmpty then some (.noPaths p.depth)
  else none

/-- The warnings about the trees of a plan. -/
def treeWarnings (p : Plan) (trees : List Tree) : List Warning :=
  trees.zipIdx.filterMap fun (t, i) ↦ (treeWarning? p t).map fun kind ↦ ⟨p.name, i, kind⟩

/-! ## Parts of a report -/

/-- A text in a fence of a language. -/
def fenced (language : String) (body : Text) : Text :=
  Text.ofString ("```" ++ language ++ "\n") ++ body ++ "```\n\n"

/-- The section of a tree. -/
def treeSection (t : Tree) (position : Nat) : Text :=
  Text.ofString ("## Root " ++ toString (position + 1) ++ "\n\n") ++ fenced "text" t.render

/-- The list of the operands of a statement. -/
def operandSection (operands : List Value) : Text :=
  if operands.isEmpty then ⟨[]⟩
  else
    let item (v : Value) (i : Nat) : Text :=
      Text.ofString (toString (i + 1) ++ ". `") ++ v.render ++ "`\n"
    ("Arguments:\n\n" : Text) ++ Text.join (operands.zipIdx.map fun (v, i) ↦ item v i) ++ "\n"

/-- The list of the temporary tables of a statement. -/
def tableSection (tables : List ListedTable) : Text :=
  if tables.isEmpty then ⟨[]⟩
  else
    let item (t : ListedTable) : String :=
      "- temp table `" ++ t.name ++ "` (" ++ t.type ++ ", " ++ toString t.values ++ " values, " ++
        (if t.without then "without" else "within") ++ ")\n"
    Text.ofString (String.join (tables.map item) ++ "\n")

/-- The section of a statement. -/
def statementSection (s : ListedStatement) (position : Nat) : Text :=
  let heading := "### " ++ toString (position + 1) ++ ". " ++ s.mode ++ " -> " ++ s.leaf ++ "\n\n"
  let split := if s.segments > 1 then
      "Split into " ++ toString s.segments ++ " segments because a table repeats on the path.\n\n"
    else ""
  Text.ofString (heading ++ split) ++ fenced "sql" (s.sql ++ "\n" : String) ++
    operandSection s.operands ++ tableSection s.tables

/-- The table of the aliases, if there are any. -/
def aliasSection (r : Registry) : String :=
  if r.columns.isEmpty then ""
  else
    let row (c : Column) (i : Nat) : String :=
      "| " ++ aliasName i ++ " | " ++ c.table.render ++ " | " ++ c.name ++ " | " ++
        (if c.isHidden then "(join key)" else c.labels) ++ " |\n"
    "## Column aliases\n\n| alias | table | column | labels |\n|---|---|---|---|\n" ++
      String.join (r.columns.toList.zipIdx.map fun (c, i) ↦ row c i) ++ "\n"

/-! ## Reports -/

/-- The statements of a compiled plan with the aliases of their columns. -/
def statementReport (p : CompiledPlan) : Text :=
  if p.statements.isEmpty then "No statements.\n\n"
  else
    let listed := p.statements.map ListedStatement.ofStatement
    ("## Statements\n\n" : Text) ++
      Text.join (listed.zipIdx.map fun (s, i) ↦ statementSection s i) ++ aliasSection p.registry

/-- The report on a compiled plan. -/
def planReport (p : CompiledPlan) : Text :=
  let source := if p.plan.source = "" then "" else "Source: `" ++ p.plan.source ++ "`\n\n"
  let warnings := (treeWarnings p.plan p.trees).map fun w ↦
    "> " ++ Terminal.warning w.message ++ "\n\n"
  Text.ofString ("# " ++ p.plan.name ++ "\n\n" ++ source ++ String.join warnings) ++
    Text.join (p.trees.zipIdx.map fun (t, i) ↦ treeSection t i) ++ statementReport p

/-! ## Compiling -/

/-- The kind of failure of a plan that does not compile. -/
def FailureCode.ofPlan : PlanFault → FailureCode
  | .build _ => .planInvalid
  | .query e => .ofQuery e

/-- Compiles plans, and logs every statement. -/
def compilePlans (c : Context) (e : Environment) (mode : Option Mode) (plans : List Plan) :
    CommandM (List CompiledPlan) := do
  let scene ← get
  let (result, state) := Plan.compileAll { dialect := e.dialect } e.topology mode plans
    { temporaries := scene.world.temporaries }
  set { scene with world := { scene.world with temporaries := state.temporaries } }
  CommandM.log c.logger (state.journal.toList.filterMap fun s ↦ Notice.logEntry? (.compiled s))
  CommandM.orFail result fun (p, fault) ↦
    { code := .ofPlan fault, message := aboutPlan p (Text.ofString fault.message) }

/-- The statements of a compiled plan as they are listed. -/
def ListedPlan.ofCompiled (p : CompiledPlan) : ListedPlan where
  name := p.plan.name
  source := p.plan.source
  statements := p.statements.map ListedStatement.ofStatement

/-- Writes a script to a file, in place of what the file held. -/
def writeScript (fs : FileSystem) (path : String) (plans : List ListedPlan) :
    Except String Unit × FileSystem :=
  match AtomicFile.create fs path 0 with
  | (.error e, fs) => (.error e.message, fs)
  | (.ok f, fs) =>
    match AtomicFile.writeParts fs f (scriptWrites plans) with
    | (.error e, fs) => (.error ("write " ++ path ++ ": " ++ e.message), fs)
    | (.ok (), fs) =>
      match AtomicFile.commit fs f with
      | (.error e, _, fs) => (.error e.message, fs)
      | (.ok (), _, fs) => (.ok (), fs)

/-- The warnings about compiled plans. -/
def planWarnings (plans : List CompiledPlan) : List Warning :=
  plans.flatMap fun p ↦ treeWarnings p.plan p.trees

/-- Compiles plans into a script, which is printed or written to a file. -/
def compile (c : Context) (w : Words) : CommandM Answer := do
  let e ← loadEnvironment c.config
  let plans ← loadPlans w.arguments
  let compiled ← compilePlans c e (w.modes "mode") plans
  let listed := compiled.map ListedPlan.ofCompiled
  let count := Terminal.total (listed.map (·.statements.length))
  let out := w.text "out"
  if out ≠ "" then
    CommandM.orFail (← CommandM.onFiles (writeScript · out listed)) fun message ↦
      { code := .fileWriteError, message := Text.ofString message }
  let text : Text := if out = "" then scriptText listed
    else Terminal.success ("Wrote " ++ toString count ++ " statements to " ++ out) ++ "\n"
  return {
    data := do
      let plans ← listed.mapM ListedPlan.toJson
      return .object (memberIf (out ≠ "") "out" (.string out) ++ [("plans", arrayOrNull plans)])
    warnings := planWarnings compiled
    count := some count
    text
    warnsBeside := true }

/-- Explains how plans compile. -/
def explain (c : Context) (w : Words) : CommandM Answer := do
  let e ← loadEnvironment c.config
  let plans ← loadPlans w.arguments
  let compiled ← compilePlans c e none plans
  let report := Text.join (compiled.map planReport)
  return {
    data := .ok (.object [("markdown", .string report.scrub)])
    warnings := planWarnings compiled
    count := some compiled.length
    text := report }

/-! ## Trees -/

/-- The tree of a root of a plan. -/
structure ShownTree where
  /-- The name of the plan. -/
  plan : String
  /-- The number of the root. -/
  root : Nat
  /-- The tree. -/
  tree : Tree

namespace ShownTree

/-- A tree as a document. -/
def toJson (s : ShownTree) : Json :=
  .object ([("plan", .string s.plan), ("root", .int s.root), ("nodes", .int s.tree.size),
    ("depth", .int s.tree.depth), ("paths", .int s.tree.regularPaths.length)] ++
    memberIf s.tree.rootInvalid "root_pruned" (.bool true) ++
    [("dump", .string s.tree.render.scrub)])

/-- A tree for people. -/
def render (s : ShownTree) : Text :=
  Text.ofString ("# " ++ s.plan ++ " root " ++ toString s.root ++ " (" ++ toString s.tree.size ++
    " nodes, " ++ toString s.tree.regularPaths.length ++ " paths)\n") ++ s.tree.render ++ "\n"

end ShownTree

/-- The trees of a plan. -/
def buildPlan (e : Environment) (p : Plan) : CommandM (List Tree) :=
  CommandM.orFail (p.build e.topology) fun fault ↦
    { code := .planInvalid, message := aboutPlan p (Text.ofString fault.message) }

/-- The trees of a plan as they are shown. -/
def shownTrees (e : Environment) (p : Plan) : CommandM (List ShownTree) := do
  let trees ← buildPlan e p
  return trees.zipIdx.map fun (t, i) ↦ ⟨p.name, i + 1, t⟩

/-- Shows the trees of plans. -/
def tree (c : Context) (w : Words) : CommandM Answer := do
  let e ← loadEnvironment c.config
  let plans ← loadPlans w.arguments
  let shown := (← plans.mapM (shownTrees e)).flatten
  return {
    data := .ok (.object [("trees", arrayOrNull (shown.map ShownTree.toJson))])
    count := some shown.length
    text := Text.join (shown.map ShownTree.render) }

/-! ## The topology -/

/-- The physical columns of a table. -/
def physicalColumns (t : Topology) (table : Table) : List String :=
  idColumn :: ((t.properties? table).getD []).flatMap Property.columns ++
    (t.foreignKeys table).map (·.column)

/-- Shows the tables of the topology. -/
def schema (c : Context) : CommandM Answer := do
  let e ← loadEnvironment c.config
  let tables := e.topology.tableList.map fun t ↦ (t, physicalColumns e.topology t)
  let shown := tables.foldl
    (fun (shown : Terminal.Table) (t, columns) ↦
      shown.addRow [Text.ofString t.render, Text.ofString (String.intercalate ", " columns)])
    { columns := Terminal.schemaLayout, width := defaultWidth }
  let document (t : Table) (columns : List String) : Json := .object [("table", .string t.render),
    ("kind", .string t.kind.word), ("columns", .array (columns.map .string))]
  let heading := "Topology " ++ Terminal.count tables.length "table" "tables" ++ "\n"
  return {
    data := .ok (.object [("public_schema", .string e.topology.publicSchema),
      ("tables", arrayOrNull (tables.map fun (t, columns) ↦ document t columns))])
    count := some tables.length
    text := Text.ofString heading ++ shown.render ++ "\n" }

/-- Shows the statements that create the tables of the topology. -/
def schemaDdl (c : Context) : CommandM Answer := do
  let e ← loadEnvironment c.config
  let statements := e.topology.ddl e.dialect
  return {
    data := .ok (.object [("dialect", .string e.dialect.engine.name),
      ("statements", arrayOrNull (statements.map .string))])
    count := some statements.length
    text := Text.ofString (String.join (statements.map (· ++ ";\n\n"))) }

end PathQuery.Command
