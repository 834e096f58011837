import PathQuery.Command.Answer

/-!
# Versions

What the program knows of itself: what its build recorded, and what was stamped on it for a
release. What the build recorded counts first.
-/

namespace PathQuery.Command

/-- What a build recorded. -/
structure Build where
  /-- The version of the toolchain. -/
  toolchain : String := ""
  /-- The path of the module. -/
  modulePath : String := ""
  /-- The version of the module. -/
  version : String := ""
  /-- The versions of the modules it depends on, by path; the last counts. -/
  dependencies : List (String × String) := []
  /-- Further settings by key; the last counts. -/
  settings : List (String × String) := []
  deriving DecidableEq, Repr, Inhabited

/-- What was stamped on a release. -/
structure Stamp where
  /-- The version. -/
  version : String := ""
  /-- The commit. -/
  commit : String := ""
  /-- The time of the commit. -/
  date : String := ""
  deriving DecidableEq, Repr, Inhabited

/-- What the program runs on. -/
structure Platform where
  /-- The version of the toolchain. -/
  toolchain : String := "unknown"
  /-- The operating system. -/
  system : String := "unknown"
  /-- The architecture. -/
  architecture : String := "unknown"
  deriving DecidableEq, Repr, Inhabited

/-- What the program knows of the driver of an engine. -/
structure DriverVersion where
  /-- The engine. -/
  engine : Engine
  /-- The module of the driver. -/
  modulePath : String
  /-- Its version, empty if it is not known. -/
  version : String
  deriving DecidableEq, Repr

/-- What the program knows of itself. -/
structure VersionInfo where
  /-- The version. -/
  version : String
  /-- The path of the module. -/
  modulePath : String
  /-- The commit, empty if it is not known. -/
  commit : String
  /-- The time of the commit. -/
  commitTime : String
  /-- Whether the sources differed from the commit. -/
  modified : Bool
  /-- What it runs on. -/
  platform : Platform
  /-- The drivers. -/
  drivers : List DriverVersion
  deriving DecidableEq, Repr

/-- The path of the module when the build recorded none. -/
def defaultModule : String := "github.com/aidanlsb/sqlgraph"

/-- The module of the driver of an engine. -/
def driverModule : Engine → String
  | .sqlite => "modernc.org/sqlite"
  | .postgres => "github.com/jackc/pgx/v5"

/-- The first text that is not empty. -/
def firstNonEmpty (first second : String) : String := if first = "" then second else first

/-- The version of a build that is no release. -/
def developmentVersion : String := "devel"

/-- A version, or the word for a build that has none. -/
def normalVersion (version : String) : String :=
  if version = "" || version = "(devel)" then developmentVersion else version

/-- The last value of a key, empty if there is none. -/
def lastValue (entries : List (String × String)) (key : String) : String :=
  ((entries.reverse.find? (·.1 == key)).map (·.2)).getD ""

namespace VersionInfo

/-- What a build, a stamp and a platform tell. -/
def ofBuild (build : Build) (stamp : Stamp) (platform : Platform) : VersionInfo :=
  let setting := lastValue build.settings
  let built := normalVersion build.version
  { version := if built = developmentVersion then normalVersion stamp.version else built
    modulePath := firstNonEmpty build.modulePath defaultModule
    commit := firstNonEmpty (setting "vcs.revision") stamp.commit
    commitTime := firstNonEmpty (setting "vcs.time") stamp.date
    modified := eqFold (setting "vcs.modified") "true"
    platform := {
      toolchain := firstNonEmpty build.toolchain platform.toolchain
      system := firstNonEmpty (setting "GOOS") platform.system
      architecture := firstNonEmpty (setting "GOARCH") platform.architecture }
    drivers := [Engine.sqlite, Engine.postgres].map fun engine ↦
      ⟨engine, driverModule engine, lastValue build.dependencies (driverModule engine)⟩ }

/-- A driver as a document. -/
def driverJson (d : DriverVersion) : Json :=
  .object ([("dialect", .string d.engine.name), ("module", .string d.modulePath)] ++
    memberIf (d.version ≠ "") "version" (.string d.version))

/-- A version as a document. -/
def toJson (v : VersionInfo) : Json :=
  .object ([("version", .string v.version), ("module_path", .string v.modulePath)] ++
    memberIf (v.commit ≠ "") "commit" (.string v.commit) ++
    memberIf (v.commitTime ≠ "") "commit_time" (.string v.commitTime) ++
    [("modified", .bool v.modified), ("go_version", .string v.platform.toolchain),
      ("goos", .string v.platform.system), ("goarch", .string v.platform.architecture),
      ("drivers", .array (v.drivers.map driverJson))])

/-- The width of the names of the engines. -/
def engineWidth : Nat := 8

/-- The line of a driver. -/
def driverLine (d : DriverVersion) : String :=
  let name := d.engine.name ++ ":"
  "driver " ++ name ++ Terminal.blanks (engineWidth - name.length) ++ " " ++ d.modulePath ++ " " ++
    firstNonEmpty d.version "unknown" ++ "\n"

/-- A version for people. -/
def render (v : VersionInfo) : String :=
  programName ++ " " ++ v.version ++ " (" ++ v.platform.system ++ "/" ++ v.platform.architecture ++
    ", " ++ v.platform.toolchain ++ ")\n" ++
  "module: " ++ v.modulePath ++ "\n" ++
  (if v.commit = "" then ""
    else "commit: " ++ v.commit ++ (if v.modified then " (modified)" else "") ++ " " ++
      v.commitTime ++ "\n") ++
  String.join (v.drivers.map driverLine)

/-- The answer of the command that shows the version. -/
def answer (v : VersionInfo) : Answer := { data := .ok v.toJson, text := v.render }

end VersionInfo

end PathQuery.Command
