import PathQuery.Graph.Table

/-!
# Logical columns and their aliases

A statement projects columns under short aliases, `alias1`, `alias2` and so on, and a registry
remembers which logical column each stands for, so that a result row can be read back. A logical
column is a column of a table together with the labels of the step it was projected for; a column
may be projected several times and has a list of aliases then. The registry is the list of the
columns in the order of their aliases, and all its answers are read off that list.
-/

namespace PathQuery

/-- The identity of a projected column. -/
structure Column where
  /-- The labels of its step, joined by points; empty for the projected element itself. -/
  labels : String
  /-- The table. -/
  table : Table
  /-- The column of the table. -/
  name : String
  deriving DecidableEq, Repr, Inhabited

/-- The labels of a helper column, which is projected for the statement's own use only. -/
def hiddenLabels : String := "~"

/-- Joins a set of labels, in order, by points. -/
def joinLabels (labels : List String) : String :=
  String.intercalate "." (labels.mergeSort fun a b ↦ decide (a ≤ b))

namespace Column

/-- The rendering of a column's identity. -/
def key (c : Column) : String :=
  let key := c.table.render ++ "." ++ c.name
  if c.labels = "" then key else c.labels ++ "." ++ key

/-- Whether the column belongs to a labeled step. -/
def isLabeled (c : Column) : Bool := c.labels ≠ "" && c.labels ≠ hiddenLabels

/-- Whether the column is a helper. -/
def isHidden (c : Column) : Bool := c.labels = hiddenLabels

/-- The labels of the column's step. -/
def labelSet (c : Column) : List String :=
  if c.isLabeled then (c.labels.toList.splitOn '.').map String.ofList else []

end Column

/-- The alias at a position. -/
def aliasName (i : Nat) : String := "alias" ++ toString (i + 1)

/-- The columns that have been given an alias, in the order of their aliases. -/
structure Registry where
  /-- The columns. -/
  columns : Array Column := #[]
  deriving Inhabited

namespace Registry

/-- How many aliases are in use. -/
def size (r : Registry) : Nat := r.columns.size

/-- Gives a column a fresh alias. -/
def register (r : Registry) (c : Column) : String × Registry :=
  (aliasName r.size, ⟨r.columns.push c⟩)

/-- Every alias, in order. -/
def names (r : Registry) : List String := (List.range r.size).map aliasName

/-- The aliases of the columns with the identity of `c`, in order. -/
def aliases (r : Registry) (c : Column) : List String :=
  (r.columns.toList.zipIdx.filter (·.1.key == c.key)).map fun (_, i) ↦ aliasName i

/-- The most recent alias of a column. -/
def last? (r : Registry) (c : Column) : Option String := (r.aliases c).getLast?

/-- The column of an alias. -/
def column? (r : Registry) (name : String) : Option Column :=
  (r.columns.toList.zipIdx.find? (fun (_, i) ↦ aliasName i == name)).map (·.1)

end Registry

end PathQuery
