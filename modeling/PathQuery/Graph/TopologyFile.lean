import PathQuery.Graph.Topology
import PathQuery.Yaml.Decode

/-!
# Topology files

A topology is written as a YAML document: the public schema, and for every schema its vertex and
edge labels. Fields that are not known are passed over, and only the first document of a text
counts.
-/

namespace PathQuery

namespace Topology

/-- Why a text is no topology. -/
inductive ReadError where
  /-- It is not a document of the right shape. -/
  | yaml (e : Yaml.Error)
  /-- Its declarations do not fit each other. -/
  | topology (e : Topology.Error)

/-- The wording of the error. -/
def ReadError.message : ReadError → Text
  | .yaml e => e.message
  | .topology e => e.message

end Topology

namespace TopologyFile

open Yaml Yaml.DecodeM

/-- What a document says before it is indexed. -/
structure Contents where
  /-- The public schema, empty when it is not named. -/
  publicSchema : String := ""
  /-- The declarations. -/
  declarations : Declarations := []
  deriving Inhabited

/-- A property. -/
def property (fuel : Nat) : Target Property :=
  record {
    type := "schema.Property"
    strict := false
    field := fun
    | "name" => string.field (·.name) ({ · with name := · })
    | "type" => string.field (·.type.name) fun p name ↦ { p with type := .ofName name }
    | _ => none } fuel

/-- The properties of a label. A property that says nothing about its type has an empty one. -/
def properties (fuel : Nat) : Target (List Property) := list (property fuel) ⟨"", .ofName ""⟩

/-- A vertex label. -/
def vertex (fuel : Nat) : Target VertexLabel :=
  record {
    type := "schema.VertexDefinition"
    strict := false
    field := fun
    | "properties" => (properties fuel).field (·.properties) ({ · with properties := · })
    | _ => none } fuel

/-- An edge label. -/
def edge (fuel : Nat) : Target EdgeLabel :=
  record {
    type := "schema.EdgeDefinition"
    strict := false
    field := fun
    | "out" => (list string "").field (·.outs) ({ · with outs := · })
    | "in" => (list string "").field (·.ins) ({ · with ins := · })
    | "properties" => (properties fuel).field (·.properties) ({ · with properties := · })
    | _ => none } fuel

/-- A schema. -/
def schema (fuel : Nat) : Target SchemaLabels :=
  record {
    type := "schema.SchemaDefinition"
    strict := false
    field := fun
    | "vertices" => (table (vertex fuel) {} fuel).field (·.vertices) ({ · with vertices := · })
    | "edges" => (table (edge fuel) {} fuel).field (·.edges) ({ · with edges := · })
    | _ => none } fuel

/-- A topology. -/
def topology (fuel : Nat) : Target Contents :=
  record {
    type := "schema.Topology"
    strict := false
    field := fun
    | "public_schema" => string.field (·.publicSchema) ({ · with publicSchema := · })
    | "schemas" =>
      (table (schema fuel) {} fuel).field (·.declarations) ({ · with declarations := · })
    | _ => none } fuel

/-- What a text says. A text without a document says nothing. -/
def contents (text : String) : Except Yaml.Error Contents :=
  let d := Documents.ofText text
  match d.roots with
  | root :: _ => DecodeM.run (topology (nestingBound text)) {} d.nodes root
  | [] => if d.complete then .ok {} else .error .malformed

end TopologyFile

/-- The topology a text declares. -/
def Topology.parse (text : String) : Except Topology.ReadError Topology := do
  let c ← (TopologyFile.contents text).mapError .yaml
  (Topology.ofDeclarations c.publicSchema c.declarations).mapError .topology

end PathQuery
