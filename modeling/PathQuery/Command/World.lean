import PathQuery.Command.Answer
import PathQuery.Command.Version
import PathQuery.Config.Basic
import PathQuery.Files.Sources
import PathQuery.Traversal.Session

/-!
# What commands work on

A command reads and writes files, calls the database and names temporary tables, and what it does
to them is there for the next run of the program. What it writes beside its answer is kept in
order. A command that fails stops there and leaves everything as it is at that point.
-/

namespace PathQuery.Command

/-- What a run of the program finds around it and does not change. -/
structure Setting where
  /-- The home directory of the user, empty if it is not known. -/
  home : String := ""
  /-- What the database answers. -/
  script : Script := {}
  /-- What the build of the program recorded. -/
  build : Build := {}
  /-- What was stamped on the program. -/
  stamp : Stamp := {}
  /-- What the program runs on. -/
  platform : Platform := {}

/-- What runs of the program share and change. -/
structure World where
  /-- The files. -/
  files : FileSystem := {}
  /-- The calls on the database so far. -/
  history : Array CallRecord := #[]
  /-- How many temporary tables have been named. -/
  temporaries : Nat := 0
  deriving Inhabited

/-- The state of a command: the world, and what has been written beside the answer. -/
structure Scene where
  /-- The world. -/
  world : World
  /-- What has been written beside the answer. -/
  notes : Text := ⟨[]⟩

/-- A step of a command. -/
abbrev CommandM := ExceptT Failure (StateM Scene)

namespace CommandM

/-- Stops with a failure that nothing is known to help against. -/
def fail {α : Type} (code : FailureCode) (message : Text) : CommandM α := throw { code, message }

/-- Goes on with a value, or stops with a failure. -/
def orFail {α ε : Type} (result : Except ε α) (failure : ε → Failure) : CommandM α :=
  match result with
  | .ok a => pure a
  | .error e => throw (failure e)

/-- Writes beside the answer. -/
def note (t : Text) : CommandM Unit := modify fun s ↦ { s with notes := s.notes ++ t }

/-- Writes log entries beside the answer. -/
def log (l : Logger) (entries : List LogEntry) : CommandM Unit := note (l.write entries)

/-- The files. -/
def files : CommandM FileSystem := return (← get).world.files

/-- Does something to the files. -/
def onFiles {α : Type} (f : FileSystem → α × FileSystem) : CommandM α := do
  let s ← get
  let (a, files) := f s.world.files
  set { s with world := { s.world with files } }
  return a

end CommandM

/-! ## The configuration of a command -/

/-- What the configuration provides to a command. -/
structure Context where
  /-- The configuration. -/
  config : Config
  /-- The logger. -/
  logger : Logger

/-- The path of the configuration file that the words name, or else of the user's. -/
def configPath (s : Setting) (named : String) : String :=
  if trimBlanks named = "" then Config.defaultPath s.home else named

/-- A value that flags override unless they leave it empty. -/
def override (given value : String) : String := if given = "" then value else given

/-- The configuration with what the words override. -/
def overrideConfig (w : Words) (c : Config) : Config :=
  { c with
    schema := override (w.text "schema") c.schema
    source := override (w.text "db") c.source
    dialect := override (w.text "dialect") c.dialect
    logLevel := override (w.text "log-level") c.logLevel
    metricsAddress := override (w.text "metrics-addr") c.metricsAddress }

/-- Loads the configuration of a command. -/
def loadConfig (s : Setting) (w : Words) (fs : FileSystem) : Except Text Config := do
  let c ← (Config.loadOrDefault fs (configPath s (w.text "config"))).mapError fun e ↦
    Text.ofString e.message
  let c := overrideConfig w c
  c.validate.mapError fun e ↦ Text.ofString ("invalid flags: " ++ e.message)
  return c

/-- What helps against a configuration that cannot be used. -/
def configSuggestion : String :=
  "Run 'sqlgraph config show' to inspect the effective configuration"

/-- What the configuration provides to a command. -/
def loadContext (s : Setting) (w : Words) : CommandM Context := do
  let config ← CommandM.orFail (loadConfig s w (← CommandM.files))
    (⟨.configInvalid, ·, configSuggestion⟩)
  let logger ← CommandM.orFail (Logger.ofNames config.logLevel config.logFormat) fun e ↦
    { code := .configInvalid, message := Text.ofString e.message }
  return { config, logger }

/-! ## The topology and the plans -/

/-- What commands on plans need: the topology and the dialect. -/
structure Environment where
  /-- The topology. -/
  topology : Topology
  /-- The dialect. -/
  dialect : Dialect

/-- What helps against a topology that cannot be used. -/
def schemaSuggestion : String := "Check the schema path in config.toml or pass --schema"

/-- Loads the topology, and makes the dialect. The public schema is that of the topology unless the
configuration names one. -/
def loadEnvironment (c : Config) : CommandM Environment := do
  let topology ← CommandM.orFail (Topology.load (← CommandM.files) c.schema) fun e ↦
    ⟨.schemaInvalid, e.message, schemaSuggestion⟩
  let publicSchema := override c.publicSchema topology.publicSchema
  match Dialect.ofName? c.dialect publicSchema c.threshold c.bulk with
  | some dialect => return { topology, dialect }
  | none => CommandM.fail .configInvalid (Text.ofString (Dialect.unknownMessage c.dialect))

/-- The plans of a file, which has to be there. -/
def loadPlanFile (path : String) : CommandM (List Plan) := do
  let fs ← CommandM.files
  let _ ← CommandM.orFail (fs.stat path) fun e ↦
    { code := .planNotFound, message := Text.ofString e.message }
  CommandM.orFail (Plan.load fs path) fun e ↦ { code := .planInvalid, message := e.message }

/-- The plans of files, in order. -/
def loadPlans (paths : List String) : CommandM (List Plan) := do
  return (← paths.mapM loadPlanFile).flatten

/-- A message about a plan. -/
def aboutPlan (p : Plan) (message : Text) : Text :=
  Text.ofString ("plan " ++ p.name ++ ": ") ++ message

end PathQuery.Command
