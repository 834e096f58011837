import PathQuery.Query.Tree.Basic

/-!
# Paths

Each statement projects the last step of one path. A regular path leads to a leaf; an emit path
leads to a step that is projected without being a leaf; an optional path leads to a step below
which optional branches start, and stands for the elements that have none of them. A path that
visits a table twice is cut into segments that do not.
-/

namespace PathQuery

/-- The steps from below the root down to the projected one; none projects the root. -/
structure Path where
  /-- The steps below the root, top down. -/
  nodes : List NodeId
  deriving DecidableEq, Repr, Inhabited

/-- The position of the root. -/
def rootId : NodeId := 0

namespace Path

/-- The projected step. -/
def leaf (p : Path) : NodeId := p.nodes.getLastD rootId

/-- The root and the steps below it. -/
def all (p : Path) : List NodeId := rootId :: p.nodes

end Path

/-- A path and the optional branches that start at its end. -/
structure OptionalPath where
  /-- The path. -/
  path : Path
  /-- The first steps of the branches. -/
  branches : List NodeId
  deriving DecidableEq, Repr

namespace Tree

/-- The path to a step of the arena. -/
def pathTo (t : Tree) (id : NodeId) : Path := ⟨(t.ancestors id).reverse.filter (· ≠ rootId)⟩

/-- One path for every leaf, in leaf order. -/
def regularPaths (t : Tree) : List Path :=
  if t.rootInvalid then [] else t.leaves.map t.pathTo

/-- The live optional steps below a step. -/
def optionalChildren (t : Tree) (id : NodeId) : List NodeId :=
  (t.children id).filter fun c ↦ ((t.node? c).map (·.isOptional)).getD false

/-- The path to every live step with optional steps below it, breadth first. -/
def optionalPaths (t : Tree) : List OptionalPath :=
  if t.rootInvalid then []
  else t.walk.filterMap fun id ↦
    let branches := t.optionalChildren id
    if branches.isEmpty then none else some ⟨t.pathTo id, branches⟩

/-- The path to every live emitting step that is no leaf, breadth first. -/
def emitPaths (t : Tree) : List Path :=
  if t.rootInvalid then []
  else ((t.walkNodes.filter fun (id, n) ↦ n.emits && !t.isLeaf id).map (·.1)).map t.pathTo

/-- The table of a step of the arena. -/
def tableOf (t : Tree) (id : NodeId) : Table := (t.nodes[id]?.map (·.table)).getD default

/-- The tables of a path's steps, the root left out. -/
def pathTables (t : Tree) (p : Path) : List Table := p.nodes.map t.tableOf

/-- Cuts a list of steps: `current` is the run under way and `done` the runs before it, both in
reverse. A run ends before the first step whose table it has met already. -/
def cutRuns (table : NodeId → Table) :
    List (List NodeId) → List NodeId → List NodeId → List (List NodeId)
  | done, current, [] => (current.reverse :: done).reverse
  | done, current, id :: rest =>
    if (current.map table).contains (table id) then
      cutRuns table (current.reverse :: done) [id] rest
    else cutRuns table done (id :: current) rest

/-- The runs of a path's steps in which no table repeats, each as long as can be. -/
def segments (t : Tree) (p : Path) : List (List NodeId) := cutRuns t.tableOf [] [] p.nodes

/-- Whether a table repeats among a path's steps. -/
def hasDuplicateTables (t : Tree) (p : Path) : Bool := (t.segments p).length > 1

end Tree

end PathQuery
