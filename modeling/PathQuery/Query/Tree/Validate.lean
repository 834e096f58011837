import PathQuery.Query.Error

/-!
# Checking a tree

A tree is checked step by step, breadth first, and the first fault found is reported. Checking
needs no data and, apart from the tables, no topology.
-/

namespace PathQuery

namespace Tree

/-- The first fault among the elements of a list. -/
def firstFault {α : Type} (check : α → Option QueryError) : List α → Option QueryError
  | [] => none
  | a :: as => (check a).orElse fun _ ↦ firstFault check as

/-- The fault of a step's table. -/
def tableFault (t : Tree) (id : NodeId) (n : Node) : Option QueryError :=
  if n.table.kind = .unknown then some (.violation (.notElementTable id n.table))
  else if t.catalog.any (fun c ↦ (c.properties? n.table).isNone) then
    some (.violation (.undeclaredStep id n.table))
  else none

/-- The fault of a step's place below another. -/
def placeFault (t : Tree) (id : NodeId) (n : Node) : Option QueryError :=
  n.parent.bind fun p ↦
    if n.direction = .both then some (.violation (.bothBelowRoot id n.table))
    else
      let above := t.tableOf p
      if above.kind = n.table.kind then some (.violation (.sameKind id above n.table)) else none

/-- The fault of a label. -/
def labelFault (id : NodeId) (label : String) : Option QueryError :=
  if label = "" || label.toList.contains '.' then some (.violation (.badLabel id label)) else none

/-- The fault of a filter. -/
def filterFault (id : NodeId) (f : Filter) : Option QueryError :=
  if !f.predicate.valid then some (.unsupported (.predicateAt id f.key f.predicate))
  else if f.key = "" then some (.violation (.namelessFilter id))
  else if !f.isMembership && f.value.isNull then
    some (.unsupported (.noOperand id f.predicate f.key))
  else none

/-- The fault of a sort term. -/
def orderingFault (t : Tree) (id : NodeId) (o : SortTerm) : Option QueryError :=
  let target : Option QueryError := match o.target with
    | .step => none
    | .labeled =>
      if (t.findLabeled id o.label).isNone then some (.violation (.unknownLabelAt id o.label))
      else none
    | .other code => some (.unsupported (.sortTargetAt id code))
  target.orElse fun _ ↦ match o.order with
    | .other code => some (.unsupported (.sortOrderAt id code))
    | _ => none

/-- The first fault of a step. -/
def nodeFault (t : Tree) (id : NodeId) (n : Node) : Option QueryError :=
  (t.tableFault id n).orElse fun _ ↦
  (t.placeFault id n).orElse fun _ ↦
  (firstFault (labelFault id) n.labels).orElse fun _ ↦
  (firstFault (filterFault id) n.filters).orElse fun _ ↦
  firstFault (t.orderingFault id) n.orderings

/-- The first fault of the live steps. -/
def fault? (t : Tree) : Option QueryError :=
  firstFault (fun (id, n) ↦ t.nodeFault id n) t.walkNodes

/-- Checks a tree. -/
def validate (t : Tree) : Except QueryError Unit :=
  match t.fault? with
  | some e => .error e
  | none => .ok ()

end Tree

end PathQuery
