import PathQuery.Files.Basic
import PathQuery.Graph.TopologyFile
import PathQuery.Plan.Reading

/-!
# Reading topologies and plans from files

A plan file holds YAML, unless its extension says that it is a notebook. Plans without a name are
called after the file, with a number where there are several.
-/

namespace PathQuery

/-- Why a file could not be used. -/
inductive SourceError where
  /-- It could not be read. -/
  | unreadable (what path : String) (fault : FileFault)
  /-- It declares no topology. -/
  | topology (path : String) (e : Topology.ReadError)
  /-- It holds no plans. -/
  | plan (path : String) (e : PlanError)

/-- The wording of the error. -/
def SourceError.message : SourceError → Text
  | .unreadable what path fault => "failed to read " ++ what ++ " " ++ path ++ ": " ++ fault.message
  | .topology path e => Text.ofString ("failed to parse topology file " ++ path ++ ": ") ++ e.message
  | .plan path e => Text.ofString (path ++ ": ") ++ e.message

/-- Reads a file for a purpose. -/
def FileSystem.readSource (fs : FileSystem) (what path : String) : Except SourceError String :=
  (fs.read path).mapError (.unreadable what path)

/-- The topology of a file. -/
def Topology.load (fs : FileSystem) (path : String) : Except SourceError Topology := do
  let text ← fs.readSource "topology file" path
  (Topology.parse text).mapError (.topology path)

namespace Plan

/-- Names a plan that has no name. -/
def nameIfNone (p : Plan) (name : String) : Plan := if p.name = "" then { p with name } else p

/-- The plans of a YAML file. -/
def loadYaml (fs : FileSystem) (path : String) : Except SourceError (List Plan) := do
  let text ← fs.readSource "plan" path
  let plans ← (Plan.parse text).mapError (.plan path)
  let stem := PathName.stem path
  return plans.zipIdx.map fun (p, i) ↦
    ({ p with source := path }).nameIfNone
      (if plans.length > 1 then stem ++ "-" ++ toString (i + 1) else stem)

/-- The plans of a notebook. -/
def loadNotebook (fs : FileSystem) (path : String) : Except SourceError (List Plan) := do
  let text ← fs.readSource "notebook" path
  let plans ← (Plan.parseNotebook text).mapError (.plan path)
  let stem := PathName.stem path
  return plans.zipIdx.map fun (p, i) ↦
    ({ p with source := path ++ "#" ++ toString (i + 1) }).nameIfNone
      (stem ++ "-" ++ toString (i + 1))

/-- The extensions of notebooks. -/
def notebookExtensions : List String := [".md", ".markdown"]

/-- The plans of a file. -/
def load (fs : FileSystem) (path : String) : Except SourceError (List Plan) :=
  if notebookExtensions.contains (lowerCase (PathName.extension path)) then loadNotebook fs path
  else loadYaml fs path

end Plan

end PathQuery
