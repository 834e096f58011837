import PathQuery.Toml.Syntax

/-!
# TOML documents

The statements of a text are carried out one after the other on a tree of tables. A key may be
given a value once. A table that only came about on the way to another one, or through dotted
keys, may still be opened by a header of its own, and a value that is an array may be replaced.
-/

namespace PathQuery.Toml

/-- A document, or a part of one. -/
inductive Item where
  | string (s : String)
  | integer (n : Int)
  | float (x : Double)
  | bool (b : Bool)
  | datetime (text : String)
  | array (items : List Item)
  | table (entries : List (String × Item))
  /-- The tables of an array that headers opened, in order. -/
  | tables (rows : List (List (String × Item)))
  deriving Inhabited

/-- The entries of a table. -/
abbrev Table := List (String × Item)

namespace Table

/-- The item of a key. -/
def get? (t : Table) (key : String) : Option Item := (t.find? (·.1 == key)).map (·.2)

/-- The table with an item put under a key. -/
def put (t : Table) (key : String) (item : Item) : Table :=
  if t.any (·.1 == key) then t.map fun (k, v) ↦ (k, if k == key then item else v)
  else t ++ [(key, item)]

/-- Changes the table that a path leads to. Of an array of tables, the last is meant. -/
def updateAt (f : Table → Option Table) : List String → Table → Option Table
  | [], t => f t
  | key :: path, t =>
    match t.get? key with
    | some (.table inner) => do return t.put key (.table (← updateAt f path inner))
    | some (.tables rows) => do
      match rows.getLast? with
      | some last => return t.put key (.tables (rows.dropLast ++ [← updateAt f path last]))
      | none => none
    | _ => none

/-- The table that a path leads to. -/
def tableAt? : List String → Table → Option Table
  | [], t => some t
  | key :: path, t =>
    match t.get? key with
    | some (.table inner) => tableAt? path inner
    | some (.tables rows) => rows.getLast?.bind (tableAt? path)
    | _ => none

end Table

/-- The document under construction. -/
structure Builder where
  /-- The document so far. -/
  root : Table := []
  /-- The tables that came about without a header of their own. -/
  implicits : List (List String) := []
  /-- The keys whose value is an array. -/
  arrays : List (List String) := []
  /-- The table that was opened last. -/
  context : List String := []

/-- A step of building; it may fail. -/
abbrev BuildM := StateT Builder Option

namespace BuildM

/-- Takes a table for one that came about without a header. -/
def addImplicit (path : List String) : BuildM Unit :=
  modify fun b ↦ { b with implicits := path :: b.implicits }

/-- Takes a table for one that has its header. -/
def removeImplicit (path : List String) : BuildM Unit :=
  modify fun b ↦ { b with implicits := b.implicits.filter (· ≠ path) }

/-- Remembers whether the value of a key is an array. -/
def markArray (path : List String) (isArray : Bool) : BuildM Unit :=
  modify fun b ↦
    let others := b.arrays.filter (· ≠ path)
    { b with arrays := if isArray then path :: others else others }

/-- Changes the document. -/
def change (f : Table → Option Table) : BuildM Unit := do
  let b ← get
  set { b with root := ← f b.root }

/-- Puts an item under a key of the table that a path leads to. -/
def putAt (context : List String) (key : String) (item : Item) : BuildM Unit :=
  change (Table.updateAt (fun t ↦ some (Table.put t key item)) context)

/-- The item under a key of the table that a path leads to; the path has to lead to one. -/
def itemAt (context : List String) (key : String) : BuildM (Option Item) := do
  let t ← Table.tableAt? context (← get).root
  return Table.get? t key

/-- Gives a value to a key of a table. -/
def setValue (context : List String) (key : String) (item : Item) : BuildM Unit := do
  let path := context ++ [key]
  let present := (← itemAt context key).isSome
  let b ← get
  if present && !b.arrays.contains path then
    if b.implicits.contains path then removeImplicit path else failure
  else
    if present then removeImplicit path
    putAt context key item

/-- Makes the tables on the way to a key that are missing. -/
def makeWay (above : List String) : List String → BuildM Unit
  | [] => pure ()
  | key :: rest => do
    let path := above ++ [key]
    match ← itemAt above key with
    | none =>
      addImplicit path
      putAt above key (.table [])
    | some (.table _) => pure ()
    | some (.tables _) => pure ()
    | some _ => failure
    makeWay path rest

/-- Adds a table to an array of tables. -/
def addRow (path : List String) : BuildM Unit := do
  let above := path.dropLast
  let key := path.getLastD ""
  match ← itemAt above key with
  | none => putAt above key (.tables [[]])
  | some (.tables rows) => putAt above key (.tables (rows ++ [[]]))
  | some _ => failure

/-- Opens a table, or a further one of an array. -/
def openTable (path : List String) (isArray : Bool) : BuildM Unit := do
  makeWay [] path.dropLast
  if isArray then addRow path
  else setValue path.dropLast (path.getLastD "") (.table [])
  modify fun b ↦ { b with context := path }

/-- Opens the tables that a dotted key leads through, below a table. -/
def openWay (context : List String) : List String → BuildM (List String)
  | [] => pure context
  | key :: rest => do
    let path := context ++ [key]
    addImplicit path
    openTable path false
    openWay path rest

mutual

/-- Builds a value that is to be given to a key of a table. A table on one line is built in place,
and is a further one of an array when it is an item of one. -/
def build (context : List String) (key : String) (inArray : Bool) : Literal → BuildM Item
  | .string s => pure (.string s)
  | .integer n => pure (.integer n)
  | .float x => pure (.float x)
  | .bool b => pure (.bool b)
  | .datetime text => pure (.datetime text)
  | .array items => do
    markArray (context ++ [key]) true
    return .array (← buildItems context key items)
  | .inlineTable assignments => do
    let path := context ++ [key]
    addImplicit path
    openTable path inArray
    return .table (← buildAssignments path [] assignments)

/-- Builds the items of an array. -/
def buildItems (context : List String) (key : String) : List Literal → BuildM (List Item)
  | [] => pure []
  | item :: items => do
    let first ← build context key true item
    return first :: (← buildItems context key items)

/-- Carries out the assignments of a table on one line, onto the entries built before. -/
def buildAssignments (path : List String) (entries : Table) :
    List (List String × Literal) → BuildM Table
  | [] => pure entries
  | (key, value) :: rest => do
    let context ← openWay path key.dropLast
    let last := key.getLastD ""
    let item ← build context last false value
    setValue context last item
    markArray (context ++ [last]) (match value with
      | .array _ => true
      | _ => false)
    buildAssignments path (Table.put entries last item) rest

end

/-- Carries out a statement. -/
def perform : Statement → BuildM Unit
  | .header key isArray => do
    openTable key isArray
    markArray key false
  | .assign key value => do
    let outer := (← get).context
    let context ← openWay outer key.dropLast
    let last := key.getLastD ""
    let item ← build context last false value
    setValue context last item
    markArray (context ++ [last]) (match value with
      | .array _ => true
      | _ => false)
    modify fun b ↦ { b with context := outer }

end BuildM

/-- The document of a text, unless the text is refused. -/
def parse (text : String) : Option Table := do
  let statements ← statements text
  let (_, b) ← (statements.forM BuildM.perform).run {}
  return b.root

end PathQuery.Toml
