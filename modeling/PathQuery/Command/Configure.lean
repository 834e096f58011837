import PathQuery.Command.World

/-!
# Commands on the configuration

The configuration is shown, written for the first time, and edited: fields are set to what the
flags say, or cleared. Editing reads the file, changes the fields and writes all of it back. Flags
override nothing here.
-/

namespace PathQuery.Command

/-- The configuration of a file, and whether the file is there. -/
structure ConfigFile where
  /-- The path of the file. -/
  path : String
  /-- Whether it is there. -/
  found : Bool
  /-- What it holds, or the defaults. -/
  config : Config
  deriving DecidableEq, Repr

/-- The path of the configuration file of a command on it. -/
def configFilePath (s : Setting) (w : Words) : String := configPath s (trimBlanks (w.text "config"))

/-- Looks at a configuration file. -/
def ConfigFile.load (fs : FileSystem) (path : String) : Except String ConfigFile := do
  let found ← match fs.stat path with
    | .ok _ => .ok true
    | .error fault => if fault.cause = .missing then .ok false else .error fault.message
  let config ← (Config.loadOrDefault fs path).mapError ConfigError.message
  return { path, found, config }

/-- The configuration file of a command on it. -/
def loadConfigFile (s : Setting) (w : Words) : CommandM ConfigFile := do
  CommandM.orFail (ConfigFile.load (← CommandM.files) (configFilePath s w)) fun message ↦
    { code := .configInvalid, message := Text.ofString message }

/-! ## Showing -/

/-- A configuration file as the members of a document. -/
def ConfigFile.members (f : ConfigFile) : List (String × Json) :=
  let c := f.config
  [("config_path", .string f.path),
    ("database", .object [("dsn", .string c.source)]),
    ("dialect", .object [("bulk_membership", .bool c.bulk),
      ("inline_list_threshold", .int c.threshold), ("name", .string c.dialect),
      ("public_schema", .string c.publicSchema)]),
    ("exists", .bool f.found),
    ("log", .object [("format", .string c.logFormat), ("level", .string c.logLevel)]),
    ("materialize", .object [("batch_size", .int c.batchSize)]),
    ("metrics", .object [("addr", .string c.metricsAddress)]),
    ("schema", .string c.schema),
    ("ui", .object [("accent", .string (trimBlanks c.accent)),
      ("code_theme", .string (trimBlanks c.codeTheme))])]

/-- A line of a field. -/
def fieldLine (key value : String) : String := key ++ ": " ++ value ++ "\n"

/-- A line of a field that has a value. -/
def fieldLineIf (key value : String) : String := if value = "" then "" else fieldLine key value

/-- A configuration file for people. -/
def ConfigFile.render (f : ConfigFile) : String :=
  let c := f.config
  fieldLine "config" f.path ++
  (if f.found then "" else
    "(file does not exist; showing defaults. Run 'sqlgraph config init' to create it.)\n") ++
  fieldLine "schema" c.schema ++
  fieldLine "database.dsn" c.source ++
  fieldLine "dialect.name" c.dialect ++
  fieldLineIf "dialect.public_schema" c.publicSchema ++
  fieldLine "dialect.inline_list_threshold" (toString c.threshold) ++
  fieldLine "dialect.bulk_membership" (if c.bulk then "true" else "false") ++
  fieldLine "materialize.batch_size" (toString c.batchSize) ++
  fieldLine "log.level" c.logLevel ++
  fieldLine "log.format" c.logFormat ++
  fieldLineIf "metrics.addr" c.metricsAddress ++
  fieldLineIf "ui.accent" (trimBlanks c.accent) ++
  fieldLineIf "ui.code_theme" (trimBlanks c.codeTheme)

/-- Shows the configuration. -/
def showConfig (s : Setting) (w : Words) : CommandM Answer := do
  let f ← loadConfigFile s w
  return { data := .ok (.object f.members), text := f.render }

/-! ## Writing for the first time -/

/-- Writes the default configuration unless there is a file. -/
def initConfig (s : Setting) (w : Words) : CommandM Answer := do
  let path := configFilePath s w
  match (← CommandM.files).stat path with
  | .error fault =>
    if fault.cause ≠ .missing then CommandM.fail .fileReadError (Text.ofString fault.message)
  | .ok _ => pure ()
  let created ← CommandM.orFail (← CommandM.onFiles (Config.createDefault · path)) fun e ↦
    { code := .fileWriteError, message := Text.ofString e.message }
  let line := if created then Terminal.success ("Created config: " ++ path)
    else "Config already exists: " ++ path
  return {
    data := .ok (.object [("config_path", .string path), ("created", .bool created)])
    text := Text.ofString (line ++ "\n") }

/-! ## Editing -/

/-- A field that can be edited: the flag that names it, its key, and how it is given a value. -/
structure EditableField where
  /-- The flag that names it. -/
  flag : String
  /-- Its key. -/
  key : String
  /-- The configuration with a value for it. -/
  put : Config → String → Config

/-- The fields that can be set. -/
def settableFields : List EditableField := [
  ⟨"schema-path", "schema", fun c v ↦ { c with schema := v }⟩,
  ⟨"dsn", "database.dsn", fun c v ↦ { c with source := v }⟩,
  ⟨"dialect-name", "dialect.name", fun c v ↦ { c with dialect := v }⟩,
  ⟨"metrics-addr", "metrics.addr", fun c v ↦ { c with metricsAddress := v }⟩,
  ⟨"ui-accent", "ui.accent", fun c v ↦ { c with accent := v }⟩,
  ⟨"ui-code-theme", "ui.code_theme", fun c v ↦ { c with codeTheme := v }⟩]

/-- The fields that can be cleared. -/
def clearableFields : List EditableField :=
  settableFields.filter fun f ↦ ["metrics.addr", "ui.accent", "ui.code_theme"].contains f.key

/-- Sets the fields whose flags are given, in order. Answers the configuration and the keys of the
fields, or the flag that has no value. -/
def setFields (w : Words) (c : Config) : List EditableField → Except String (Config × List String)
  | [] => .ok (c, [])
  | f :: fields =>
    if w.isGiven f.flag then
      let value := trimBlanks (w.text f.flag)
      if value = "" then .error f.flag
      else do
        let (c, keys) ← setFields w (f.put c value) fields
        return (c, f.key :: keys)
    else setFields w c fields

/-- Clears the fields whose flags are on. Answers the configuration and the keys of the fields. -/
def clearFields (w : Words) (c : Config) (fields : List EditableField) : Config × List String :=
  let cleared := fields.filter fun f ↦ w.isOn f.flag
  (cleared.foldl (fun c f ↦ f.put c "") c, cleared.map (·.key))

/-- Writes an edited configuration. -/
def saveConfigFile (f : ConfigFile) (keys : List String) (verb : String) : CommandM Answer := do
  let saved ← CommandM.onFiles (Config.save · f.path f.config)
  let _ ← CommandM.orFail saved fun e ↦
    { code := .fileWriteError, message := Text.ofString e.message }
  return {
    data := .ok (.object (("changed", .array (keys.map .string)) :: f.members))
    text := Text.ofString (fieldLine "Updated config" f.path ++
      fieldLine verb (String.intercalate ", " keys)) }

/-- What is said when no field is named to be set. -/
def nothingToSet : String :=
  "no fields provided; set at least one " ++
    String.intercalate "/" (settableFields.map fun f ↦ "--" ++ f.flag)

/-- The names of the dialects. -/
def dialectNames : String := String.intercalate ", " ([Engine.sqlite, .postgres].map Engine.name)

/-- Sets fields of the configuration. -/
def setConfig (s : Setting) (w : Words) : CommandM Answer := do
  let f ← loadConfigFile s w
  let (config, keys) ← CommandM.orFail (setFields w f.config settableFields) fun flag ↦
    { code := .invalidInput, message := Text.ofString (flag ++ " cannot be empty") }
  if keys.isEmpty then CommandM.fail .missingArgument nothingToSet
  CommandM.orFail config.validate fun e ↦
    ⟨.invalidInput, Text.ofString e.message, "Supported dialects: " ++ dialectNames⟩
  saveConfigFile { f with config, found := true } keys "changed"

/-- Clears fields of the configuration. -/
def unsetConfig (s : Setting) (w : Words) : CommandM Answer := do
  let f ← loadConfigFile s w
  if !f.found then
    throw ⟨.fileNotFound, Text.ofString ("config file not found: " ++ f.path),
      "Run 'sqlgraph config init' first"⟩
  let (config, keys) := clearFields w f.config clearableFields
  if keys.isEmpty then
    CommandM.fail .missingArgument "no fields selected; pass one or more unset flags"
  saveConfigFile { f with config } keys "cleared"

end PathQuery.Command
