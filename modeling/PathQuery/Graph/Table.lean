import PathQuery.Text.Blank
import PathQuery.Text.Quoted

/-!
# Element tables

Every label of the graph has a table of its own. The table's name says what it stores: a vertex
label is led in by `V_` and an edge label by `E_`. An edge table has a column for every vertex
table it may connect, named after the vertex and the side of the edge it stands on.
-/

namespace PathQuery

/-- What a table stores. -/
inductive ElementKind where
  /-- Vertices. -/
  | vertex
  /-- Edges. -/
  | edge
  /-- Neither: the table is not part of a graph. -/
  | unknown
  deriving DecidableEq, Repr

/-- The word for a kind. -/
def ElementKind.word : ElementKind → String
  | .vertex => "vertex"
  | .edge => "edge"
  | .unknown => "unknown"

/-- The kind of a code. -/
def ElementKind.ofCode (n : Int) : ElementKind :=
  if n = 1 then .vertex else if n = 2 then .edge else .unknown

/-- The lead-in of a vertex table's name. -/
def vertexMark : String := "V_"

/-- The lead-in of an edge table's name. -/
def edgeMark : String := "E_"

/-- The column that identifies an element, present on every table. -/
def idColumn : String := "ID"

/-- A table of the graph. -/
structure Table where
  /-- The schema it lives in. -/
  schema : String
  /-- Its name within the schema. -/
  name : String
  deriving DecidableEq, Repr, Inhabited, BEq, Hashable

namespace Table

/-- The table of a vertex label. -/
def vertex (schema label : String) : Table := ⟨schema, vertexMark ++ label⟩

/-- The table of an edge label. -/
def edge (schema label : String) : Table := ⟨schema, edgeMark ++ label⟩

/-- The kind a name spells, with the label behind the lead-in. -/
def classify : List Char → ElementKind × List Char
  | 'V' :: '_' :: label => (.vertex, label)
  | 'E' :: '_' :: label => (.edge, label)
  | name => (.unknown, name)

/-- What the table stores. -/
def kind (t : Table) : ElementKind := (classify t.name.toList).1

/-- The label behind the lead-in. -/
def label (t : Table) : String := String.ofList (classify t.name.toList).2

/-- Whether the table stores vertices. -/
def isVertex (t : Table) : Bool := t.kind = .vertex

/-- Whether the table stores edges. -/
def isEdge (t : Table) : Bool := t.kind = .edge

/-- The qualified name. -/
def render (t : Table) : String := t.schema ++ "." ++ t.name

/-- Whether neither part is set. -/
def isUnset (t : Table) : Bool := t.schema.isEmpty && t.name.isEmpty

/-- The order of listings: by schema, then by name. -/
def before (a b : Table) : Bool := if a.schema = b.schema then a.name < b.name else a.schema < b.schema

/-! ## References -/

/-- Splits a reference at its last point; without one the first part is absent. -/
def splitLast (ref : String) : Option String × String :=
  let cs := ref.toList
  if cs.contains '.' then
    let tail := (cs.reverse.takeWhile (· ≠ '.')).reverse
    (some (String.ofList (cs.take (cs.length - tail.length - 1))), String.ofList tail)
  else (none, ref)

/-- Why a reference names no table. -/
inductive RefError where
  /-- It is empty. -/
  | empty
  /-- A part of it is empty. -/
  | invalid (ref : String)
  /-- The name has no lead-in. -/
  | unmarked (ref : String)
  deriving DecidableEq, Repr

/-- The wording of the error. -/
def RefError.message : RefError → String
  | .empty => "empty table name"
  | .invalid ref => "invalid table name " ++ quoted ref
  | .unmarked ref =>
    "table " ++ quoted ref ++ " has neither " ++ vertexMark ++ " nor " ++ edgeMark ++ " prefix"

/-- Reads a reference; an unqualified name is looked for in the default schema. -/
def parse (ref defaultSchema : String) : Except RefError Table :=
  let ref := trimBlanks ref
  if ref = "" then .error .empty
  else
    let t : Table := match splitLast ref with
      | (some schema, name) => ⟨schema, name⟩
      | (none, name) => ⟨defaultSchema, name⟩
    if t.schema = "" || t.name = "" then .error (.invalid ref)
    else if t.kind = .unknown then .error (.unmarked ref)
    else .ok t

end Table

/-! ## Directions -/

/-- The direction of a traversal step. -/
inductive Direction where
  /-- Along the edge. -/
  | outward
  /-- Against the edge. -/
  | inward
  /-- Either way. -/
  | both
  /-- A code that stands for no direction. -/
  | other (code : Int)
  deriving DecidableEq, Repr, Inhabited

namespace Direction

/-- The direction of a code. -/
def ofCode (n : Int) : Direction :=
  if n = 0 then .outward else if n = 1 then .inward else if n = 2 then .both else .other n

/-- The code of a direction. -/
def code : Direction → Int
  | .outward => 0
  | .inward => 1
  | .both => 2
  | .other n => n

/-- The word for a direction. -/
def word : Direction → String
  | .outward => "OUT"
  | .inward => "IN"
  | .both => "BOTH"
  | .other n => "Direction(" ++ toString n ++ ")"

/-- The ending of the foreign-key columns of a direction. -/
def columnEnding : Direction → String
  | .outward => "__O"
  | .inward => "__I"
  | _ => ""

/-- The direction seen from the other end. -/
def opposite : Direction → Direction
  | .outward => .inward
  | .inward => .outward
  | d => d

/-- Reads a direction in any letter case, padded or not; an empty one leads out. -/
def parse? (s : String) : Option Direction :=
  match lowerCase (trimBlanks s) with
  | "" | "out" => some .outward
  | "in" => some .inward
  | "both" => some .both
  | _ => none

/-- The wording of a refusal. -/
def unknownMessage (s : String) : String := "unknown direction " ++ quoted s

end Direction

/-- The edge column that refers to a vertex table on one side. -/
def Table.foreignKeyColumn (vertex : Table) (d : Direction) : String :=
  vertex.schema ++ "." ++ vertex.label ++ d.columnEnding

end PathQuery
