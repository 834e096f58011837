import PathQuery.Graph.Property
import PathQuery.Query.Error
import PathQuery.Sql.Column

/-!
# Elements and the rows they are read from

A result row stands for one element, the projected one, and for the elements of the labeled steps
on the way to it. An edge knows the identities of the vertices it connects.

A row is read back into elements with the help of the logical columns its cells stand for. The
columns of one occurrence of a table make up a group: the same logical column comes again when a
table is projected again, and its `n`-th occurrence belongs to the `n`-th group. A group without
an identity is no element, and a row without a projected element is no result.
-/

namespace PathQuery

/-- A vertex or an edge. -/
structure Element where
  /-- Its table. -/
  table : Table
  /-- Its identity. -/
  id : Int
  /-- The properties that have a value. -/
  properties : List (String × Value) := []
  /-- The vertices an edge starts from, by table. -/
  outs : List (Table × Int) := []
  /-- The vertices an edge leads to, by table. -/
  ins : List (Table × Int) := []
  deriving Repr, Inhabited

/-- One result. -/
structure Result where
  /-- The mode of the statement that found it. -/
  mode : Mode
  /-- The projected element. -/
  element : Element
  /-- The elements of the labeled steps, by label. -/
  labeled : List (String × List Element) := []
  deriving Repr, Inhabited

namespace Result

/-- The labels that have an element, in order. -/
def labels (r : Result) : List String :=
  (r.labeled.map (·.1)).mergeSort fun a b ↦ decide (a ≤ b)

/-- The elements with a label, in path order. -/
def labeledWith (r : Result) (label : String) : List Element := (lookupKey label r.labeled).getD []

/-- The first element with a label. -/
def select? (r : Result) (label : String) : Option Element := (r.labeledWith label).head?

/-- A result with a further element under a label. -/
def addLabeled (r : Result) (e : Element) (label : String) : Result :=
  { r with labeled := putKey label (r.labeledWith label ++ [e]) r.labeled }

end Result

/-! ## Elements for people -/

namespace Element

/-- A table's name and an identity. -/
def showId (t : Table) (id : Int) : String := t.name ++ ":" ++ toString id

/-- An element by its identity, an edge with its ends. -/
def render (e : Element) : String :=
  let self := showId e.table e.id
  match e.table.isEdge, e.outs, e.ins with
  | true, (out, outId) :: _, (into, intoId) :: _ =>
    self ++ " (" ++ showId out outId ++ " -> " ++ showId into intoId ++ ")"
  | _, _, _ => self

/-- The properties of an element, by name. -/
def renderProperties (e : Element) : Text :=
  let named := (e.properties.filter fun (_, v) ↦ !v.isNull).mergeSort
    fun a b ↦ decide (a.1 ≤ b.1)
  Text.intercalate " " (named.map fun (k, v) ↦ Text.ofString (k ++ "=") ++ v.render)

end Element

/-- The labeled elements of a result found in a mode of this name, and the mode if it is not the
regular one. -/
def renderLabels (mode : String) (labeled : List (String × List Element)) : String :=
  let shown := labeled.flatMap fun (label, elements) ↦
    elements.map fun e ↦ label ++ "=" ++ Element.showId e.table e.id
  let sorted := shown.mergeSort fun a b ↦ decide (a ≤ b)
  String.intercalate " " (if mode = Mode.regular.word then sorted else sorted ++ ["(" ++ mode ++ ")"])

/-! ## Rows -/

/-- Why a cell is no identity. -/
inductive IdentityError where
  /-- Cells of its type are none. -/
  | unusable (typeName : String)
  /-- Its text is no integer. -/
  | number (e : NumberError)

/-- The wording of the error. -/
def IdentityError.message : IdentityError → Text
  | .unusable typeName => "cannot use " ++ typeName ++ " as an identity"
  | .number e => e.message

/-- Why a row cannot be read. -/
inductive RowError where
  /-- The identity of an element is none. -/
  | identity (table : Table) (e : IdentityError)
  /-- A property has no value. -/
  | property (table : Table) (name : String) (e : DecodeError)
  /-- A foreign key is no identity. -/
  | endpoint (table : Table) (column : String) (e : IdentityError)
  /-- There are fewer cells than columns. -/
  | short

/-- The wording of the error. -/
def RowError.message : RowError → Text
  | .identity t e => Text.ofString (t.render ++ " identity: ") ++ e.message
  | .property t name e => Text.ofString (t.render ++ "." ++ name ++ ": ") ++ e.message
  | .endpoint t column e => Text.ofString (t.render ++ "." ++ column ++ ": ") ++ e.message
  | .short => "row is shorter than its columns"

/-- A cell as an identity. -/
def Value.toIdentity : Value → Except IdentityError Int
  | .int .uint64 n => .error (.unusable (Value.int .uint64 n).typeName)
  | .int _ n => .ok n
  | .double x => .ok x.truncate
  | .str s => (NumberForm.integer.read (readInt ·.toList) s).mapError .number
  | .raw t => (NumberForm.integer.read (readInt ·.toList) t).mapError .number
  | v => .error (.unusable v.typeName)

/-- A cell with a byte string taken for text. -/
def Value.asCell : Value → Value
  | .bytes t => .ofText t
  | v => v

/-- The cells of one occurrence of a table in a row. -/
structure RowGroup where
  /-- What tells the group from the others of its row. -/
  key : String
  /-- The labels of its step. -/
  labels : String
  /-- Its table. -/
  table : Table
  /-- The cells, by column. -/
  cells : List (String × Value) := []
  deriving Inhabited

namespace RowGroup

/-- The cell of a column, null when there is none. -/
def cell (g : RowGroup) (column : String) : Value := (lookupKey column g.cells).getD .null

/-- The value of a property, unless its base column is not among the cells. -/
def propertyValue (g : RowGroup) (p : Property) : Except RowError Value :=
  match lookupKey p.name g.cells with
  | none => .ok .null
  | some base =>
    (p.type.decode base (p.type.postfixes.map fun pf ↦ g.cell (p.name ++ pf))).mapError
      (.property g.table p.name)

/-- Adds the value of a property to an element. -/
def addProperty (g : RowGroup) (e : Element) (p : Property) : Except RowError Element := do
  let v ← g.propertyValue p
  return if v.isNull then e else { e with properties := putKey p.name v e.properties }

/-- Adds the vertex of a foreign key to an edge. -/
def addEndpoint (g : RowGroup) (e : Element) (key : ForeignKey) : Except RowError Element :=
  match g.cell key.column with
  | .null => .ok e
  | v => do
    let id ← v.toIdentity.mapError (.endpoint g.table key.column)
    return if key.direction = .outward then { e with outs := putKey key.vertex id e.outs }
      else { e with ins := putKey key.vertex id e.ins }

/-- The element of a group, unless its identity is null. -/
def element? (t : Topology) (g : RowGroup) : Except RowError (Option Element) :=
  match g.cell idColumn with
  | .null => .ok none
  | raw => do
    let id ← raw.toIdentity.mapError (.identity g.table)
    let e ← ((t.properties? g.table).getD []).foldlM g.addProperty { table := g.table, id }
    let keys := if g.table.isEdge then t.foreignKeys g.table else []
    return some (← keys.foldlM g.addEndpoint e)

end RowGroup

/-- What the cells of a row stand for. -/
structure RowReader where
  /-- The topology. -/
  topology : Topology
  /-- The mode of the statement. -/
  mode : Mode
  /-- The logical columns of the cells. -/
  columns : List Column

namespace RowReader

/-- The reader of result columns with these names; the first name that is no alias is returned
otherwise. -/
def ofNames (t : Topology) (r : Registry) (mode : Mode) (names : List String) :
    Except String RowReader := do
  let columns ← names.mapM fun name ↦ match r.column? name with
    | some c => .ok c
    | none => .error name
  return ⟨t, mode, columns⟩

/-- The wording of the refusal of a column name. -/
def unknownAlias (name : String) : String :=
  "result column " ++ quoted name ++ " has no registered alias"

/-- What tells the group of the `n`-th occurrence of a column from the other groups. -/
def groupKey (c : Column) (n : Nat) : String :=
  c.labels ++ "\x00" ++ c.table.render ++ "\x00" ++ toString n

/-- Puts a cell into the group of a key, which is opened if there is none. -/
def putCell (key : String) (c : Column) (v : Value) : List RowGroup → List RowGroup
  | [] => [⟨key, c.labels, c.table, [(c.name, v)]⟩]
  | g :: rest =>
    if g.key == key then { g with cells := putKey c.name v g.cells } :: rest
    else g :: putCell key c v rest

/-- Puts the cells of a row into groups. `seen` holds the identities of the columns before. -/
def collect : List String → List RowGroup → List Column → List Value →
    Except RowError (List RowGroup)
  | _, groups, [], _ => .ok groups
  | seen, groups, c :: cs, vs =>
    if c.isHidden then collect seen groups cs vs.tail
    else match vs with
      | [] => .error .short
      | v :: vs =>
        collect (c.key :: seen) (putCell (groupKey c (seen.count c.key)) c v.asCell groups) cs vs

/-- Adds the element of a group to what has been read of a row: the projected element, of which
the first counts, and the labeled elements. -/
def addElement (read : Option Element × Result) (g : RowGroup) (e : Element) :
    Option Element × Result :=
  if g.labels = "" then (read.1 <|> some e, read.2)
  else
    let labels := (Column.mk g.labels g.table "").labelSet
    (read.1, labels.foldl (fun r l ↦ r.addLabeled e l) read.2)

/-- Reads a row. There is no result if the identity of the projected element is null. -/
def read (r : RowReader) (row : List Value) : Except RowError (Option Result) := do
  let groups ← collect [] [] r.columns row
  let start : Option Element × Result := (none, { mode := r.mode, element := default })
  let (projected, result) ← groups.foldlM (fun read g ↦ do
    match ← g.element? r.topology with
    | some e => return addElement read g e
    | none => return read) start
  return projected.map fun element ↦ { result with element }

end RowReader

end PathQuery
