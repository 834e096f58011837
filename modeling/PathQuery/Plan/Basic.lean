import PathQuery.Query.Error
import PathQuery.Query.Tree.Prune

/-!
# Plans

A plan describes a traversal step by step, in the words of a user: tables by reference, directions
and comparisons by name. Against a topology it is built into one tree for every root. A tree has
its filters decided and is pruned to the plan's depth, or to its own when the plan names none.
-/

namespace PathQuery

/-- A filter of a plan. -/
structure PlanFilter where
  /-- The property, or a reserved key. -/
  key : String := ""
  /-- The comparison, equality when it is empty. -/
  predicate : String := ""
  /-- The operand. -/
  value : Value := .null
  /-- The operands. -/
  values : List Value := []
  deriving Inhabited

/-- A sort term of a plan. -/
structure PlanOrder where
  /-- The property. -/
  key : String := ""
  /-- The label of the step it belongs to, empty for the step itself. -/
  label : String := ""
  /-- The direction, ascending when it is empty. -/
  order : String := ""
  deriving Inhabited

/-- A step of a plan and the steps below it. -/
structure PlanStep where
  /-- The table, by reference. -/
  table : String := ""
  /-- The direction. -/
  direction : String := ""
  /-- The kind of element. -/
  element : String := ""
  /-- The identity to start from. -/
  start : Value := .null
  /-- The labels. -/
  labels : List String := []
  /-- The filters. -/
  filters : List PlanFilter := []
  /-- The sort terms. -/
  orders : List PlanOrder := []
  /-- Whether the step moves from an edge to one of its ends. -/
  edgeVertex : Bool := false
  /-- Whether the step is optional. -/
  isOptional : Bool := false
  /-- Whether the step is projected even when it is not a leaf. -/
  emits : Bool := false
  /-- The steps below. -/
  steps : List PlanStep := []
  deriving Inhabited

/-- A plan. -/
structure Plan where
  /-- The name. -/
  name : String := ""
  /-- The depth that every kept branch reaches; zero stands for that of the tree. -/
  depth : Int := 0
  /-- The roots. -/
  roots : List PlanStep := []
  /-- Where the plan was read from. -/
  source : String := ""
  deriving Inhabited

/-- Why a step cannot be built. -/
inductive StepError where
  /-- Its table cannot be resolved. -/
  | table (e : Topology.Error)
  /-- Its direction is not known. -/
  | direction (word : String)
  /-- Its kind of element is not known. -/
  | element (word : String)
  /-- A comparison or sort direction is not known. -/
  | unsupported (u : Unsupported)
  /-- It takes an identity to start from, but is no root. -/
  | startBelowRoot
  /-- The fault of a step below a root, which is named. -/
  | within (step : String) (e : StepError)
  deriving DecidableEq, Repr

/-- The wording of the error. -/
def StepError.message : StepError → String
  | .table e => e.message
  | .direction word => Direction.unknownMessage word
  | .element word => "unknown element kind " ++ quoted word
  | .unsupported u => (QueryError.unsupported u).message
  | .startBelowRoot => "only roots take a start id"
  | .within step e => "step " ++ step ++ ": " ++ e.message

/-- Why a plan cannot be built: the fault of a root. -/
structure BuildError where
  /-- The position of the root. -/
  root : Nat
  /-- What is wrong with it or a step below. -/
  fault : StepError
  deriving DecidableEq, Repr

/-- The wording of the error. -/
def BuildError.message (e : BuildError) : String :=
  "invalid plan: root " ++ toString e.root ++ ": " ++ e.fault.message

/-! ## Operands -/

/-- An integer operand in 64 signed bits; any other operand is taken as it is. -/
def Value.widen : Value → Value
  | .int .word n => .int .int64 n
  | .int .uint64 n => .int .int64 (wrap64 n)
  | v => v

namespace PlanFilter

/-- The filter of a tree. A comparison with a list takes the single operand as well. -/
def build (f : PlanFilter) : Except StepError Filter := do
  let predicate ← if f.predicate = "" then pure .eq
    else match Predicate.ofWord? f.predicate with
      | some p => pure p
      | none => .error (.unsupported (.predicateWord f.predicate))
  if predicate.isMembership then
    let extra := if f.value.isNull then [] else [f.value.widen]
    .ok { key := f.key, predicate, values := f.values.map Value.widen ++ extra }
  else .ok { key := f.key, predicate, value := f.value.widen }

end PlanFilter

namespace PlanOrder

/-- The sort term of a tree. -/
def build (o : PlanOrder) : Except StepError SortTerm := do
  let order ← match SortOrder.ofWord? o.order with
    | some order => pure order
    | none => .error (.unsupported (.orderWord o.order))
  if o.label = "" then .ok { target := .step, key := o.key, order }
  else .ok { target := .labeled, key := o.key, label := o.label, order }

end PlanOrder

/-! ## Steps -/

namespace PlanStep

/-- The direction of a step. -/
def readDirection (s : PlanStep) : Except StepError Direction :=
  match Direction.parse? s.direction with
  | some d => .ok d
  | none => .error (.direction s.direction)

/-- The kind of element of a step, by default that of its table. -/
def readElement (s : PlanStep) (table : Table) : Except StepError StepElement :=
  match lowerCase s.element with
  | "" => .ok (if table.isEdge then .edge else .vertex)
  | "vertex" => .ok .vertex
  | "edge" => .ok .edge
  | _ => .error (.element s.element)

/-- The first step of a tree. -/
def rootSpec (t : Topology) (s : PlanStep) : Except StepError RootSpec := do
  let table ← (t.resolve s.table).mapError .table
  let direction ← s.readDirection
  let filters ← s.filters.mapM PlanFilter.build
  let orderings ← s.orders.mapM PlanOrder.build
  .ok {
    table, direction, filters, orderings
    step := if s.start.isNull then .graph else .vertex
    start := s.start.widen
    labels := s.labels }

/-- A step below another. Faults name the step, except that a table which cannot be resolved names
itself. -/
def stepSpec (t : Topology) (s : PlanStep) : Except StepError StepSpec := do
  let named {α : Type} (r : Except StepError α) : Except StepError α := r.mapError (.within s.table)
  if !s.start.isNull then named (.error .startBelowRoot)
  let table ← (t.resolve s.table).mapError .table
  let direction ← named s.readDirection
  let element ← named (s.readElement table)
  let filters ← named (s.filters.mapM PlanFilter.build)
  let orderings ← named (s.orders.mapM PlanOrder.build)
  .ok {
    table, direction, element, filters, orderings
    edgeVertex := s.edgeVertex
    labels := s.labels
    isOptional := s.isOptional
    emits := s.emits }

mutual

/-- Adds a step and the steps below it under a step of a tree. -/
def addTo (topology : Topology) (tree : Tree) (parent : NodeId) : PlanStep → Except StepError Tree
  | ⟨table, direction, element, start, labels, filters, orders, edgeVertex, isOptional, emits,
      steps⟩ => do
    let spec ← stepSpec topology ⟨table, direction, element, start, labels, filters, orders,
      edgeVertex, isOptional, emits, []⟩
    let id := tree.nodes.size
    addAllTo topology ((tree.addChild? parent spec).getD tree) id steps

/-- Adds steps and the steps below them under a step of a tree. -/
def addAllTo (topology : Topology) (tree : Tree) (parent : NodeId) :
    List PlanStep → Except StepError Tree
  | [] => .ok tree
  | s :: rest => do addAllTo topology (← s.addTo topology tree parent) parent rest

end

/-- The tree of a root, before pruning. -/
def tree (t : Topology) (s : PlanStep) : Except StepError Tree := do
  addAllTo t (Tree.ofRoot (some t) (← s.rootSpec t)) rootId s.steps

end PlanStep

namespace Plan

/-- Decides the filters of a tree and prunes it to the plan's depth. -/
def prune (p : Plan) (t : Tree) : Tree :=
  let t := t.pruneByFilters
  t.prune (if p.depth = 0 then t.depth else p.depth)

/-- The pruned tree of a root. -/
def buildRoot (p : Plan) (t : Topology) (root : PlanStep × Nat) : Except BuildError Tree :=
  ((root.1.tree t).mapError (⟨root.2, ·⟩)).map p.prune

/-- The pruned trees of a plan, one for every root. -/
def build (p : Plan) (t : Topology) : Except BuildError (List Tree) :=
  p.roots.zipIdx.mapM (p.buildRoot t)

end Plan

end PathQuery
