import PathQuery.Files.Atomic
import PathQuery.Sql.Dialect
import PathQuery.Toml.Document

/-!
# Configuration

The configuration is read from a TOML file over the defaults: a key that the file does not give
keeps its default. It is written back whole. The path of the topology is told from the directory
of the file it was read from.
-/

namespace PathQuery

/-- The configuration. -/
structure Config where
  /-- The path of the topology file. -/
  schema : String := "topology.yaml"
  /-- The data source. -/
  source : String := "graph.db"
  /-- The name of the dialect. -/
  dialect : String := "sqlite"
  /-- The schema of unqualified references. -/
  publicSchema : String := ""
  /-- The longest list of operands that is written inline. -/
  threshold : Int := 1000
  /-- Whether longer lists are loaded into temporary tables. -/
  bulk : Bool := true
  /-- The rows that are read at a time. -/
  batchSize : Int := 500
  /-- The least severity that is logged. -/
  logLevel : String := "info"
  /-- How log entries are written. -/
  logFormat : String := "text"
  /-- The address at which counters are served. -/
  metricsAddress : String := ""
  /-- The accent colour. -/
  accent : String := ""
  /-- The theme of rendered code. -/
  codeTheme : String := ""
  deriving DecidableEq, Repr, Inhabited

/-- Why a configuration cannot be used, read or written. -/
inductive ConfigError where
  /-- The dialect is not known. -/
  | dialect (name : String)
  /-- The threshold is negative. -/
  | threshold (n : Int)
  /-- The batch size is negative. -/
  | batchSize (n : Int)
  /-- The log format is not known. -/
  | logFormat (name : String)
  /-- The file could not be read. -/
  | unreadable (path : String) (fault : FileFault)
  /-- The file is no TOML, or a key has a value of the wrong type. -/
  | malformed (path : String)
  /-- The file holds a configuration that cannot be used. -/
  | invalid (path : String) (e : ConfigError)
  /-- There is no path to write to. -/
  | blankPath
  /-- The file could not be written. -/
  | unwritable (path : String) (e : AtomicError)
  /-- It is not known whether there is a file. -/
  | unknown (fault : FileFault)
  deriving DecidableEq, Repr

/-- The wording of the error. -/
def ConfigError.message : ConfigError → String
  | .dialect name => "dialect.name: unknown dialect " ++ quoted name
  | .threshold n => "dialect.inline_list_threshold must not be negative, got " ++ toString n
  | .batchSize n => "materialize.batch_size must not be negative, got " ++ toString n
  | .logFormat name => "log.format: expected text or json, got " ++ quoted name
  | .unreadable path fault => "failed to parse config " ++ path ++ ": " ++ fault.message
  | .malformed path => "failed to parse config " ++ path ++ ": toml: malformed document"
  | .invalid path e => "invalid config " ++ path ++ ": " ++ e.message
  | .blankPath => "config path is required"
  | .unwritable path e => "write config " ++ path ++ ": " ++ e.message
  | .unknown fault => fault.message

namespace Config

/-- Checks the values that a slip could break silently. -/
def validate (c : Config) : Except ConfigError Unit := do
  if (Engine.ofName? c.dialect).isNone then throw (.dialect c.dialect)
  if c.threshold < 0 then throw (.threshold c.threshold)
  if c.batchSize < 0 then throw (.batchSize c.batchSize)
  if !(["", "text", "json"].contains (lowerCase c.logFormat)) then throw (.logFormat c.logFormat)

/-! ## Reading -/

/-- Gives a string to a field. -/
def setString (field : String → Config) : Toml.Item → Option Config
  | .string s => some (field s)
  | _ => none

/-- Gives an integer to a field. -/
def setInteger (field : Int → Config) : Toml.Item → Option Config
  | .integer n => some (field n)
  | _ => none

/-- Gives a truth value to a field. -/
def setBool (field : Bool → Config) : Toml.Item → Option Config
  | .bool b => some (field b)
  | _ => none

/-- A way to give an item to the field of a key. -/
abbrev Setter := Config → Toml.Item → Option Config

/-- The setter of a key: that of the key as it is written, or else of one that differs from it in
letter case only. -/
def setterOf (setters : List (String × Setter)) (key : String) : Option Setter :=
  ((setters.find? (·.1 == key)) <|> setters.find? (eqFold ·.1 key)).map (·.2)

/-- Gives the entries of a table to the fields of their keys. Keys that are not known are
skipped. -/
def setEntries (setters : List (String × Setter)) (c : Config) (t : Toml.Table) : Option Config :=
  t.foldlM (fun c (key, item) ↦ match setterOf setters key with
    | some setter => setter c item
    | none => some c) c

/-- Gives the entries of an item, which has to be a table. -/
def inTable (setters : List (String × Setter)) : Setter := fun c item ↦
  match item with
  | .table t => setEntries setters c t
  | _ => none

/-- The keys of the configuration. -/
def setters : List (String × Setter) := [
  ("schema", fun c ↦ setString ({ c with schema := · })),
  ("database", inTable [("dsn", fun c ↦ setString ({ c with source := · }))]),
  ("dialect", inTable [
    ("name", fun c ↦ setString ({ c with dialect := · })),
    ("public_schema", fun c ↦ setString ({ c with publicSchema := · })),
    ("inline_list_threshold", fun c ↦ setInteger ({ c with threshold := · })),
    ("bulk_membership", fun c ↦ setBool ({ c with bulk := · }))]),
  ("materialize", inTable [("batch_size", fun c ↦ setInteger ({ c with batchSize := · }))]),
  ("log", inTable [
    ("level", fun c ↦ setString ({ c with logLevel := · })),
    ("format", fun c ↦ setString ({ c with logFormat := · }))]),
  ("metrics", inTable [("addr", fun c ↦ setString ({ c with metricsAddress := · }))]),
  ("ui", inTable [
    ("accent", fun c ↦ setString ({ c with accent := · })),
    ("code_theme", fun c ↦ setString ({ c with codeTheme := · }))])]

/-- The configuration of a text. -/
def parse? (text : String) : Option Config := do
  setEntries setters {} (← Toml.parse text)

/-- The path of the topology as it is told from the directory of the configuration file. -/
def resolveSchema (path schema : String) : String :=
  if schema ≠ "" && !PathName.isAbsolute schema then
    PathName.join [PathName.directory path, schema]
  else schema

/-- The configuration of a file. -/
def load (fs : FileSystem) (path : String) : Except ConfigError Config := do
  let text ← (fs.read path).mapError (.unreadable path)
  match parse? text with
  | none => throw (.malformed path)
  | some c =>
    let c := { c with schema := resolveSchema path c.schema }
    c.validate.mapError (.invalid path)
    return c

/-- The configuration of a file, or the default one if there is no file. -/
def loadOrDefault (fs : FileSystem) (path : String) : Except ConfigError Config :=
  match fs.lookup path with
  | .error .missing => .ok {}
  | _ => load fs path

/-- The path of the configuration file of a user whose home directory is known, or of one whose
home directory is not. -/
def defaultPath (home : String) : String :=
  if home = "" then PathName.join [".", "config.toml"]
  else PathName.join [home, ".config", "sqlgraph", "config.toml"]

/-! ## Writing -/

/-- A character of a string. -/
def escapeChar (c : Char) : List Char :=
  match c with
  | '"' => ['\\', '"']
  | '\\' => ['\\', '\\']
  | '\n' => ['\\', 'n']
  | '\t' => ['\\', 't']
  | '\r' => ['\\', 'r']
  | c =>
    if c.toNat = 8 then ['\\', 'b']
    else if c.toNat = 12 then ['\\', 'f']
    else if c.toNat < 0x20 || c.toNat = 0x7F then '\\' :: 'u' :: hexDigits 4 c.toNat
    else [c]

/-- A string between quotes. -/
def writeString (s : String) : String :=
  String.ofList ('"' :: s.toList.flatMap escapeChar ++ ['"'])

/-- The assignments below a header. -/
def writeSection (name : String) (entries : List (String × String)) : String :=
  "\n[" ++ name ++ "]\n" ++ String.join (entries.map fun (k, v) ↦ "  " ++ k ++ " = " ++ v ++ "\n")

/-- What a written configuration starts with. -/
def preamble : String :=
  "# sqlgraph configuration\n" ++
  "#\n" ++
  "# dialect.name: sqlite or postgres\n" ++
  "# log.level:    debug, info, warn, error\n" ++
  "# metrics.addr: listen address for /metrics, empty to disable\n\n"

/-- A configuration as TOML. -/
def render (c : Config) : String :=
  "schema = " ++ writeString c.schema ++ "\n" ++
  writeSection "database" [("dsn", writeString c.source)] ++
  writeSection "dialect" [
    ("name", writeString c.dialect),
    ("public_schema", writeString c.publicSchema),
    ("inline_list_threshold", toString c.threshold),
    ("bulk_membership", if c.bulk then "true" else "false")] ++
  writeSection "materialize" [("batch_size", toString c.batchSize)] ++
  writeSection "log" [("level", writeString c.logLevel), ("format", writeString c.logFormat)] ++
  writeSection "metrics" [("addr", writeString c.metricsAddress)] ++
  writeSection "ui" [("accent", writeString c.accent), ("code_theme", writeString c.codeTheme)]

/-- Writes a configuration that can be used, in place of what the file held. -/
def save (fs : FileSystem) (path : String) (c : Config) : Except ConfigError Unit × FileSystem :=
  if trimBlanks path = "" then (.error .blankPath, fs)
  else match c.validate with
    | .error e => (.error e, fs)
    | .ok () =>
      let refused (e : AtomicError) : Except ConfigError Unit := .error (.unwritable path e)
      match AtomicFile.create fs path fileMode with
      | (.error e, fs) => (refused e, fs)
      | (.ok f, fs) =>
        match AtomicFile.writeParts fs f [preamble, c.render] with
        | (.error e, fs) => (refused e, fs)
        | (.ok (), fs) =>
          match AtomicFile.commit fs f with
          | (.error e, _, fs) => (refused e, fs)
          | (.ok (), _, fs) => (.ok (), fs)

/-- Writes the default configuration unless there is something at the path, and answers whether
it did. -/
def createDefault (fs : FileSystem) (path : String) : Except ConfigError Bool × FileSystem :=
  match fs.stat path with
  | .ok _ => (.ok false, fs)
  | .error fault =>
    if fault.cause ≠ .missing then (.error (.unknown fault), fs)
    else match save fs path {} with
      | (.ok (), fs) => (.ok true, fs)
      | (.error e, fs) => (.error e, fs)

end Config

end PathQuery
