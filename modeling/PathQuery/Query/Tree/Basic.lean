import PathQuery.Query.Filter

/-!
# Traversal trees

A traversal is a tree of steps, each bound to one table. The steps live in an arena: a step's
identifier is its position there, a child is appended after its parent, and removing a step only
marks it, so identifiers never change. The leaves are kept as a list of their own, in the order in
which they became leaves, because that order is the order of the results.
-/

namespace PathQuery

/-- The position of a step in the arena. -/
abbrev NodeId := Nat

/-- The kind of traversal step that produced a node. -/
inductive StepKind where
  /-- Starts from every element of a table. -/
  | graph
  /-- Moves from a vertex over its edges, or along an edge. -/
  | vertex
  /-- Moves from an edge to one of its ends. -/
  | edgeVertex
  /-- A code that stands for no kind. -/
  | other (code : Int)
  deriving DecidableEq, Repr, Inhabited

namespace StepKind

/-- The kind of a code. -/
def ofCode (n : Int) : StepKind :=
  if n = 0 then .graph else if n = 1 then .vertex else if n = 2 then .edgeVertex else .other n

/-- The word for a kind. -/
def word : StepKind → String
  | .graph => "graph"
  | .vertex => "vertex"
  | .edgeVertex => "edgeVertex"
  | .other _ => "unknown"

end StepKind

/-- The kind of element a step asks for. -/
inductive StepElement where
  | vertex
  | edge
  /-- A code that stands for no kind. -/
  | other (code : Int)
  deriving DecidableEq, Repr, Inhabited

namespace StepElement

/-- The element of a code. -/
def ofCode (n : Int) : StepElement :=
  if n = 0 then .vertex else if n = 1 then .edge else .other n

/-- Whether a table stores what the step asks for. -/
def admits (e : StepElement) (t : Table) : Bool :=
  match e with
  | .vertex => t.isVertex
  | .edge => t.isEdge
  | .other _ => false

end StepElement

/-- A step of the traversal bound to a table. -/
structure Node where
  /-- The table. -/
  table : Table
  /-- How many steps lie above. -/
  depth : Nat := 0
  /-- The direction of the step. -/
  direction : Direction
  /-- The kind of step. -/
  step : StepKind
  /-- The filters, in order. -/
  filters : List Filter := []
  /-- The sort terms, in order. -/
  orderings : List SortTerm := []
  /-- The labels, in order and without repeats. -/
  labels : List String := []
  /-- Whether elements without this step are projected by a statement of their own. -/
  isOptional : Bool := false
  /-- Whether the step is projected even when it is not a leaf. -/
  emits : Bool := false
  /-- The step above, none for the root. -/
  parent : Option NodeId := none
  /-- The steps below, removed ones included, in the order they were added. -/
  children : List NodeId := []
  /-- Whether the step has been removed. -/
  removed : Bool := false
  deriving Inhabited

namespace Node

/-- Whether the step carries a label. -/
def hasLabel (n : Node) (label : String) : Bool := n.labels.contains label

/-- Whether the step carries any label. -/
def isLabeled (n : Node) : Bool := !n.labels.isEmpty

end Node

/-- Labels in order and without repeats. -/
def sortLabels (labels : List String) : List String :=
  (labels.mergeSort fun a b ↦ decide (a ≤ b)).eraseReps

/-- A traversal. -/
structure Tree where
  /-- The topology the steps are checked against, if there is one. -/
  catalog : Option Topology
  /-- The arena; the root comes first. -/
  nodes : Array Node
  /-- The leaves, in the order they became leaves. -/
  leaves : List NodeId
  /-- The identity the traversal starts from, null for every element. -/
  start : Value := .null
  /-- Whether the root has been found to match nothing. -/
  rootInvalid : Bool := false
  deriving Inhabited

/-- The first step of a traversal. -/
structure RootSpec where
  /-- The table. -/
  table : Table
  /-- The kind of step. -/
  step : StepKind := .graph
  /-- The direction. -/
  direction : Direction := .outward
  /-- The identity to start from; a graph step starts from every element and takes none. -/
  start : Value := .null
  /-- The filters. -/
  filters : List Filter := []
  /-- The sort terms. -/
  orderings : List SortTerm := []
  /-- The labels, in any order. -/
  labels : List String := []

/-- A step below another. -/
structure StepSpec where
  /-- The table. -/
  table : Table
  /-- The direction. -/
  direction : Direction := .outward
  /-- The kind of element asked for. -/
  element : StepElement := .vertex
  /-- Whether the step moves from an edge to one of its ends. -/
  edgeVertex : Bool := false
  /-- The filters. -/
  filters : List Filter := []
  /-- The sort terms. -/
  orderings : List SortTerm := []
  /-- The labels, in any order. -/
  labels : List String := []
  /-- Whether the step is optional. -/
  isOptional : Bool := false
  /-- Whether the step is projected even when it is not a leaf. -/
  emits : Bool := false

namespace Tree

/-! ## Building -/

/-- The traversal that consists of its root. -/
def ofRoot (catalog : Option Topology) (spec : RootSpec) : Tree where
  catalog := catalog
  nodes := #[{
    table := spec.table
    direction := spec.direction
    step := spec.step
    filters := spec.filters
    orderings := spec.orderings
    labels := sortLabels spec.labels }]
  leaves := [0]
  start := if spec.step = .graph then .null else spec.start

/-- The node of a step below `parent`. It keeps its filters and sort terms only when its table
stores what it asks for. -/
def childNode (parent : NodeId) (above : Node) (spec : StepSpec) : Node :=
  let kept := spec.element.admits spec.table
  { table := spec.table
    depth := above.depth + 1
    direction := spec.direction
    step := if spec.edgeVertex then .edgeVertex else .vertex
    filters := if kept then spec.filters else []
    orderings := if kept then spec.orderings else []
    labels := sortLabels spec.labels
    isOptional := spec.isOptional
    emits := spec.emits
    parent := some parent }

/-- Adds a step below `parent`, which must be in the arena. Its identifier is the size of the
arena before. -/
def addChild? (t : Tree) (parent : NodeId) (spec : StepSpec) : Option Tree :=
  t.nodes[parent]?.map fun above ↦
    let id := t.nodes.size
    let nodes := t.nodes.modify parent fun n ↦ { n with children := n.children ++ [id] }
    { t with
      nodes := nodes.push (childNode parent above spec)
      leaves := t.leaves.filter (· ≠ parent) ++ [id] }

/-! ## Looking -/

/-- A step that has not been removed. -/
def node? (t : Tree) (id : NodeId) : Option Node :=
  t.nodes[id]?.filter (!·.removed)

/-- Whether a step is in the arena and has not been removed. -/
def isLive (t : Tree) (id : NodeId) : Bool := (t.node? id).isSome

/-- The steps below a live step that have not been removed. -/
def children (t : Tree) (id : NodeId) : List NodeId :=
  match t.node? id with
  | some n => n.children.filter t.isLive
  | none => []

/-- Whether a step is a leaf. -/
def isLeaf (t : Tree) (id : NodeId) : Bool := t.leaves.contains id

/-- The live steps at and below a generation of steps, generation by generation. -/
def generations (t : Tree) : Nat → List NodeId → List NodeId
  | 0, _ => []
  | fuel + 1, ids =>
    let live := ids.filter t.isLive
    if live.isEmpty then []
    else live ++ t.generations fuel (live.flatMap fun id ↦ ((t.node? id).map (·.children)).getD [])

/-- The live steps, breadth first. -/
def walk (t : Tree) : List NodeId := t.generations t.nodes.size [0]

/-- The live steps and their identifiers, breadth first. -/
def walkNodes (t : Tree) : List (NodeId × Node) :=
  t.walk.filterMap fun id ↦ (t.node? id).map (id, ·)

/-- The greatest depth of a live step. -/
def depth (t : Tree) : Nat := (t.walkNodes.map (·.2.depth)).foldl max 0

/-- How many steps are live. -/
def size (t : Tree) : Nat := t.walk.length

/-- The live steps that carry a label, breadth first. -/
def labeledSteps (t : Tree) : List NodeId :=
  (t.walkNodes.filter (·.2.isLabeled)).map (·.1)

/-- A step and the steps above it, bottom up, at most `fuel` of them. -/
def chain (t : Tree) : Nat → NodeId → List NodeId
  | 0, _ => []
  | fuel + 1, id =>
    id :: match t.nodes[id]?.bind (·.parent) with
      | some parent => t.chain fuel parent
      | none => []

/-- A step of the arena and the steps above it, bottom up. A parent comes before its children in
the arena, so a chain is no longer than the position it starts from. -/
def ancestors (t : Tree) (id : NodeId) : List NodeId := t.chain (id + 1) id

/-- The closest step at or above a step of the arena that carries a label. -/
def findLabeled (t : Tree) (id : NodeId) (label : String) : Option NodeId :=
  (t.ancestors id).find? fun a ↦ (t.nodes[a]?.map (·.hasLabel label)).getD false

/-! ## The tree for people -/

/-- A sort term inside a listing. -/
def renderSortTerm (o : SortTerm) : String :=
  " order(" ++ (if o.target = .labeled then o.label ++ "." else "") ++ o.key ++ " " ++
    o.order.word ++ ")"

/-- One line for a step. -/
def renderNode (t : Tree) (id : NodeId) (n : Node) : Text :=
  let head := String.join (List.replicate n.depth "    ") ++ n.table.render ++ " depth=" ++
    toString n.depth ++ " " ++ n.step.word ++
    (if n.parent.isSome || n.direction ≠ .outward then " " ++ n.direction.word else "") ++
    (if n.isLabeled then " labels=[" ++ String.intercalate " " n.labels ++ "]" else "")
  let filters := n.filters.map fun f ↦ (" [" : Text) ++ f.render ++ "]"
  let tail := String.join (n.orderings.map renderSortTerm) ++
    (if n.isOptional then " optional" else "") ++ (if n.emits then " emit" else "") ++
    (if t.isLeaf id then " *" else "") ++ "\n"
  (head : Text) ++ Text.join filters ++ tail

/-- The lines of a live step and of the steps below it, depth first. -/
def renderFrom (t : Tree) : Nat → NodeId → Text
  | 0, _ => ""
  | fuel + 1, id =>
    match t.node? id with
    | none => ""
    | some n => t.renderNode id n ++ Text.join (n.children.map (t.renderFrom fuel))

/-- The live steps, one a line, indented by depth. -/
def render (t : Tree) : Text := t.renderFrom t.nodes.size 0

end Tree

end PathQuery
