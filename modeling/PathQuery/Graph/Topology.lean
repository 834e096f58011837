import PathQuery.Graph.Property
import PathQuery.Graph.Table

/-!
# Topologies

A topology declares the labels of a graph, schema by schema: the properties of each, and for an
edge the vertices it connects. Declarations are indexed into tables, whose columns are the
identity, the columns of the properties, and the foreign keys. Every declaration indexes all of
them anew, vertices before edges, and a declaration that does not fit the others leaves the index
as it was.
-/

namespace PathQuery

/-- An edge column that refers to a vertex table. -/
structure ForeignKey where
  /-- The column. -/
  column : String
  /-- The table it refers to. -/
  vertex : Table
  /-- The side of the edge the vertex stands on. -/
  direction : Direction
  deriving DecidableEq, Repr, Inhabited

/-- A declared vertex label. -/
structure VertexLabel where
  /-- The properties, in column order. -/
  properties : List Property := []
  deriving Inhabited

/-- A declared edge label. The vertices it connects are named by label, qualified or not. -/
structure EdgeLabel where
  /-- The vertices it may start from. -/
  outs : List String := []
  /-- The vertices it may lead to. -/
  ins : List String := []
  /-- The properties, in column order. -/
  properties : List Property := []
  deriving Inhabited

/-- The labels of one schema. A label without a definition of its own has no properties. -/
structure SchemaLabels where
  /-- The vertex labels. -/
  vertices : List (String × Option VertexLabel) := []
  /-- The edge labels. -/
  edges : List (String × Option EdgeLabel) := []
  deriving Inhabited

/-- What a column stands for: a property, or the identity or a foreign key when there is none. -/
structure ColumnMeaning where
  /-- The property the column belongs to. -/
  property : Option Property := none
  /-- The postfix of the column, empty for a base column. -/
  ending : String := ""
  deriving DecidableEq, Repr, Inhabited

/-- An indexed table. -/
structure TableInfo where
  /-- The properties, in column order. -/
  properties : List Property
  /-- The foreign keys, in column order. -/
  foreignKeys : List ForeignKey := []
  /-- What each column stands for. -/
  columns : List (String × ColumnMeaning)
  deriving Inhabited

/-- The definition under a key. -/
def lookupKey {α β : Type} [BEq α] (key : α) (entries : List (α × β)) : Option β :=
  (entries.find? (·.1 == key)).map (·.2)

/-- The entries with one put under a key, in place of the one already there. -/
def putKey {α β : Type} [BEq α] (key : α) (value : β) : List (α × β) → List (α × β)
  | [] => [(key, value)]
  | (k, v) :: rest => if k == key then (key, value) :: rest else (k, v) :: putKey key value rest

namespace Topology

/-- Why declarations cannot be indexed, or a reference names no declared table. -/
inductive Error where
  /-- A property has no name. -/
  | namelessProperty (table : Table)
  /-- A property has a type that is not known. -/
  | unknownType (table : Table) (property : Property)
  /-- A property has the name of the identity column. -/
  | reservedName (table : Table)
  /-- Two properties have one name. -/
  | duplicateProperty (table : Table) (name : String)
  /-- An edge refers to a vertex that is not declared. -/
  | unknownVertex (edge vertex : Table)
  /-- Two columns of an edge have one name. -/
  | duplicateColumn (edge : Table) (column : String)
  /-- A reference is no table name. -/
  | badReference (e : Table.RefError)
  /-- A reference names no declared table. -/
  | unknownTable (ref : String)
  deriving DecidableEq, Repr

/-- The wording of the error. -/
def Error.message : Error → String
  | .namelessProperty t => t.render ++ ": property with empty name"
  | .unknownType t p =>
    t.render ++ "." ++ p.name ++ ": unknown property type " ++ quoted p.type.name
  | .reservedName t => t.render ++ ": property name " ++ quoted idColumn ++ " is reserved"
  | .duplicateProperty t name => t.render ++ ": duplicate property " ++ quoted name
  | .unknownVertex e v => "edge " ++ e.render ++ " references unknown vertex " ++ v.render
  | .duplicateColumn e column => "edge " ++ e.render ++ ": duplicate column " ++ quoted column
  | .badReference e => e.message
  | .unknownTable ref => "unknown table " ++ ref

end Topology

/-! ## Indexing -/

namespace TableInfo

/-- Adds the columns of a property. -/
def addProperty (t : Table) (columns : List (String × ColumnMeaning)) (p : Property) :
    Except Topology.Error (List (String × ColumnMeaning)) :=
  if p.name = "" then .error (.namelessProperty t)
  else if !p.type.valid then .error (.unknownType t p)
  else if p.name = idColumn then .error (.reservedName t)
  else if (lookupKey p.name columns).isSome then .error (.duplicateProperty t p.name)
  else
    let columns := putKey p.name ⟨some p, ""⟩ columns
    .ok (p.type.postfixes.foldl (fun cs pf ↦ putKey (p.name ++ pf) ⟨some p, pf⟩ cs) columns)

/-- Indexes the properties of a table. -/
def ofProperties (t : Table) (properties : List Property) : Except Topology.Error TableInfo := do
  let columns ← properties.foldlM (addProperty t) [(idColumn, {})]
  .ok { properties, columns }

/-- Adds a foreign key to an edge table. -/
def addForeignKey (edge : Table) (info : TableInfo) (vertex : Table) (d : Direction) :
    Except Topology.Error TableInfo :=
  let key : ForeignKey := ⟨vertex.foreignKeyColumn d, vertex, d⟩
  if (lookupKey key.column info.columns).isSome then .error (.duplicateColumn edge key.column)
  else .ok { info with
    foreignKeys := info.foreignKeys ++ [key]
    columns := putKey key.column {} info.columns }

end TableInfo

/-- Declared labels by schema. A schema may be listed without any definition. -/
abbrev Declarations := List (String × Option SchemaLabels)

/-- Indexed tables. -/
abbrev TableIndex := List (Table × TableInfo)

namespace Declarations

/-- The vertex table a label refers to from within a schema. -/
def vertexTable (ref defaultSchema : String) : Table :=
  match Table.splitLast ref with
  | (some schema, label) => .vertex schema label
  | (none, label) => .vertex defaultSchema label

/-- Every declared vertex label with its schema. -/
def vertexLabels (d : Declarations) : List (Table × VertexLabel) :=
  d.flatMap fun (schema, labels) ↦
    ((labels.getD {}).vertices).map fun (label, v) ↦ (.vertex schema label, v.getD {})

/-- Every declared edge label with its schema. -/
def edgeLabels (d : Declarations) : List (String × String × EdgeLabel) :=
  d.flatMap fun (schema, labels) ↦
    ((labels.getD {}).edges).map fun (label, e) ↦ (schema, label, e.getD {})

/-- Adds a vertex table to an index. -/
def indexVertex (index : TableIndex) (entry : Table × VertexLabel) :
    Except Topology.Error TableIndex := do
  let info ← TableInfo.ofProperties entry.1 entry.2.properties
  .ok (putKey entry.1 info index)

/-- Adds the foreign keys of one side of an edge. -/
def indexSide (index : TableIndex) (schema : String) (edge : Table) (d : Direction)
    (info : TableInfo) (refs : List String) : Except Topology.Error TableInfo :=
  refs.foldlM (fun info ref ↦
    let vertex := vertexTable ref schema
    if (lookupKey vertex index).isSome then info.addForeignKey edge vertex d
    else .error (.unknownVertex edge vertex)) info

/-- Adds an edge table to an index that holds every vertex table. -/
def indexEdge (index : TableIndex) (entry : String × String × EdgeLabel) :
    Except Topology.Error TableIndex := do
  let (schema, label, e) := entry
  let edge := Table.edge schema label
  let info ← TableInfo.ofProperties edge e.properties
  let info ← indexSide index schema edge .outward info e.outs
  let info ← indexSide index schema edge .inward info e.ins
  .ok (putKey edge info index)

/-- Indexes every declaration, vertices first. -/
def index (d : Declarations) : Except Topology.Error TableIndex := do
  let vertices ← d.vertexLabels.foldlM indexVertex []
  d.edgeLabels.foldlM indexEdge vertices

end Declarations

/-! ## Topologies -/

/-- A graph schema: what has been declared, and the tables of the last declarations that could be
indexed. -/
structure Topology where
  /-- The schema of unqualified references. -/
  publicSchema : String
  /-- What has been declared. -/
  declarations : Declarations := []
  /-- The indexed tables. -/
  tables : TableIndex := []
  deriving Inhabited

namespace Topology

/-- The public schema when none is named. -/
def defaultPublicSchema : String := "public"

/-- A topology without declarations. -/
def empty (publicSchema : String) : Topology :=
  { publicSchema := if publicSchema = "" then defaultPublicSchema else publicSchema }

/-- The topology of a set of declarations. -/
def ofDeclarations (publicSchema : String) (d : Declarations) : Except Error Topology := do
  let tables ← d.index
  .ok { empty publicSchema with declarations := d, tables }

/-- A declaration has no effect on a schema that is listed without a definition. -/
inductive DeclareOutcome where
  /-- The topology after the declaration. -/
  | declared (t : Topology)
  /-- The declaration does not fit the others. It stays on record, and the index is unchanged. -/
  | refused (t : Topology) (e : Error)
  /-- The schema is listed without a definition to add to. -/
  | undefinedSchema

/-- Indexes the topology after its declarations have changed. -/
def reindex (t : Topology) : DeclareOutcome :=
  match t.declarations.index with
  | .ok tables => .declared { t with tables }
  | .error e => .refused t e

/-- Changes the labels of a schema, which is listed if it was not. -/
def declare (t : Topology) (schema : String) (change : SchemaLabels → SchemaLabels) :
    DeclareOutcome :=
  match lookupKey schema t.declarations with
  | some none => .undefinedSchema
  | some (some labels) =>
    reindex { t with declarations := putKey schema (some (change labels)) t.declarations }
  | none => reindex { t with declarations := t.declarations ++ [(schema, some (change {}))] }

/-- Declares a vertex label. -/
def addVertex (t : Topology) (schema label : String) (properties : List Property) :
    DeclareOutcome :=
  t.declare schema fun labels ↦
    { labels with vertices := putKey label (some ⟨properties⟩) labels.vertices }

/-- The qualified label by which an edge refers to a vertex table. -/
def endpointLabel (v : Table) : String := v.schema ++ "." ++ v.label

/-- Declares an edge label between vertex tables. -/
def addEdge (t : Topology) (schema label : String) (outs ins : List Table)
    (properties : List Property) : DeclareOutcome :=
  let e : EdgeLabel := ⟨outs.map endpointLabel, ins.map endpointLabel, properties⟩
  t.declare schema fun labels ↦ { labels with edges := putKey label (some e) labels.edges }

/-! ## Questions -/

/-- The indexed table. -/
def info? (t : Topology) (table : Table) : Option TableInfo := lookupKey table t.tables

/-- The properties of a table, in column order. -/
def properties? (t : Topology) (table : Table) : Option (List Property) :=
  (t.info? table).map (·.properties)

/-- Whether a column is the base column of a property, the identity or a foreign key. -/
def hasProperty (t : Topology) (table : Table) (key : String) : Bool :=
  match (t.info? table).bind (lookupKey key ·.columns) with
  | some meaning => meaning.ending = ""
  | none => false

/-- The foreign keys of a table, in column order. -/
def foreignKeys (t : Topology) (table : Table) : List ForeignKey :=
  ((t.info? table).map (·.foreignKeys)).getD []

/-- What a column of a table stands for. -/
def resolveColumn? (t : Topology) (table : Table) (column : String) : Option ColumnMeaning :=
  (t.info? table).bind (lookupKey column ·.columns)

/-- Whether a table is declared. -/
def hasTable (t : Topology) (table : Table) : Bool := (t.info? table).isSome

/-- Every declared table, by schema and name. -/
def tableList (t : Topology) : List Table :=
  (t.tables.map (·.1)).mergeSort fun a b ↦ !b.before a

/-- The declared table of a reference. A reference without a lead-in is a label, of a vertex
first. -/
def resolve (t : Topology) (ref : String) : Except Error Table :=
  match Table.parse ref t.publicSchema with
  | .ok table => if t.hasTable table then .ok table else .error (.unknownTable table.render)
  | .error e =>
    let segment := (Table.splitLast (trimBlanks ref)).2
    match Table.parse (vertexMark ++ segment) t.publicSchema with
    | .error _ => .error (.badReference e)
    | .ok raw =>
      let schema := match Table.splitLast ref with
        | (some schema, _) => trimBlanks schema
        | (none, _) => raw.schema
      match [Table.vertex schema raw.label, Table.edge schema raw.label].find? t.hasTable with
      | some table => .ok table
      | none => .error (.unknownTable (trimBlanks ref))

end Topology

end PathQuery
