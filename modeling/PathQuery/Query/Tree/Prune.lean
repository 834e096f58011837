import PathQuery.Query.Tree.Path

/-!
# Pruning

Two passes make a traversal smaller. One keeps the branches that reach a depth. The other decides
what can be decided from the schema alone: label filters are evaluated and dropped, and a step
that can match nothing is removed together with the steps above it that are left without children.
Steps that emit stand on their own and stop that cascade.
-/

namespace PathQuery

namespace Tree

/-! ## Removing -/

/-- A step and the steps below it that are reached over steps not yet removed. -/
def subtree (t : Tree) : Nat → List NodeId → List NodeId
  | 0, _ => []
  | fuel + 1, ids =>
    if ids.isEmpty then []
    else ids ++ t.subtree fuel (ids.flatMap fun id ↦
      ((t.nodes[id]?.map (·.children)).getD []).filter t.isLive)

/-- Removes a step and everything below it. -/
def markRemoved (t : Tree) (id : NodeId) : Tree :=
  let gone := t.subtree t.nodes.size [id]
  { t with
    nodes := t.nodes.mapIdx fun i n ↦ if gone.contains i then { n with removed := true } else n
    leaves := t.leaves.filter fun l ↦ !gone.contains l }

/-- Removes a step and, upwards, every step below the root that this leaves without children,
unless it emits. The root is never removed. -/
def removeUp (t : Tree) : Nat → NodeId → Tree
  | 0, _ => t
  | fuel + 1, id =>
    if id = rootId then t
    else
      let parent := t.nodes[id]?.bind (·.parent)
      let t := t.markRemoved id
      match parent with
      | none => t
      | some p =>
        let stands := ((t.nodes[p]?.map (·.emits)).getD false)
        if p = rootId || stands || !(t.children p).isEmpty then t else t.removeUp fuel p

/-- Removes a step with the steps above it that are left childless. -/
def remove (t : Tree) (id : NodeId) : Tree := t.removeUp (id + 1) id

/-! ## Pruning to a depth -/

/-- Removes a step that is neither optional nor emitting, lies above the depth and has no live
children. -/
def pruneStep (maxDepth : Int) (t : Tree) (id : NodeId) : Tree :=
  match t.node? id with
  | none => t
  | some n =>
    if n.isOptional || n.emits then t
    else if (n.depth : Int) < maxDepth && (t.children id).isEmpty then t.markRemoved id
    else t

/-- Keeps the branches that reach a depth; the leaves become the childless steps at it. Steps are
looked at bottom up, so that a removal is seen by the step above. -/
def prune (t : Tree) (maxDepth : Int) : Tree :=
  let order := t.walk
  let t := (order.drop 1).reverse.foldl (pruneStep maxDepth) t
  { t with leaves := order.filter fun id ↦
      match t.node? id with
      | some n => (n.depth : Int) = maxDepth && (t.children id).isEmpty
      | none => false }

/-! ## Pruning by filters -/

/-- What the schema says about a filter of a step. -/
inductive FilterFate where
  /-- The filter needs data. -/
  | keep
  /-- The filter holds of every element. -/
  | drop
  /-- The filter holds of no element; whether it stays on record is told apart. -/
  | fail (kept : Bool)
  deriving DecidableEq, Repr

/-- What the schema says about a filter of a step on a table. -/
def filterFate (catalog : Option Topology) (table : Table) (f : Filter) : FilterFate :=
  if f.key = labelKey then
    if f.predicate = .within && f.values.isEmpty then .fail false
    else if f.matchesTable table then .drop
    else .fail false
  else if f.predicate = .within && f.values.isEmpty then .fail true
  else if f.predicate = .without && f.values.isEmpty then .drop
  else if !f.isReserved && catalog.any (fun c ↦ !c.hasProperty table f.key) then .fail true
  else .keep

/-- Whether a step can still match something. -/
def isMatchable (catalog : Option Topology) (n : Node) : Bool :=
  n.filters.all fun f ↦ match filterFate catalog n.table f with
    | .fail _ => false
    | _ => true

/-- The filters of a step that stay on record. -/
def keptFilters (catalog : Option Topology) (n : Node) : List Filter :=
  n.filters.filter fun f ↦ match filterFate catalog n.table f with
    | .keep | .fail true => true
    | _ => false

/-- Replaces the filters of a step. -/
def setFilters (t : Tree) (id : NodeId) (filters : List Filter) : Tree :=
  { t with nodes := t.nodes.modify id fun n ↦ { n with filters := filters } }

/-- Decides the filters of a step and removes it when it can match nothing. The root stays, marked
and without filters. -/
def resolveStep (t : Tree) (id : NodeId) : Tree :=
  match t.node? id with
  | none => t
  | some n =>
    let resolved := t.setFilters id (keptFilters t.catalog n)
    if isMatchable t.catalog n then resolved
    else if id = rootId then { t.setFilters id [] with rootInvalid := true }
    else resolved.remove id

/-- Decides every filter that the schema decides, step by step, breadth first. -/
def pruneByFilters (t : Tree) : Tree := t.walk.foldl resolveStep t

end Tree

end PathQuery
