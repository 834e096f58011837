import PathQuery.Query.Tree.Path

/-!
# What can be wrong with a query

A query is refused for its shape or for a comparison that has no form in SQL. Both kinds are found
either when a tree is checked or when a path is compiled; the second names the path. Asking for a
step that is not there, or for a statement without a topology, is not a fault of the query but of
the caller, and is kept apart.
-/

namespace PathQuery

/-- The materialization mode a statement belongs to. -/
inductive Mode where
  | regular
  | optional
  | emit
  /-- A code that stands for no mode. -/
  | other (code : Int)
  deriving DecidableEq, Repr, Inhabited

namespace Mode

/-- The modes, in the order in which statements are compiled and run. -/
def known : List Mode := [.regular, .optional, .emit]

/-- The mode of a code. -/
def ofCode (n : Int) : Mode :=
  if n = 0 then .regular else if n = 1 then .optional else if n = 2 then .emit else .other n

/-- The code of a mode. -/
def code : Mode → Int
  | .regular => 0
  | .optional => 1
  | .emit => 2
  | .other n => n

/-- The word for a mode. -/
def word : Mode → String
  | .regular => "regular"
  | .optional => "optional"
  | .emit => "emit"
  | .other n => "Mode(" ++ toString n ++ ")"

/-- Reads a choice of modes, in any letter case: one mode, or all of them. -/
def parse? (s : String) : Option (Option Mode) :=
  match lowerCase s with
  | "regular" => some (some .regular)
  | "optional" => some (some .optional)
  | "emit" => some (some .emit)
  | "" | "all" => some none
  | _ => none

/-- The wording of a refusal. -/
def unknownMessage (s : String) : String := "unknown mode " ++ quoted s

end Mode

/-- A shape that cannot be compiled. -/
inductive Violation where
  /-- A step's table stores neither vertices nor edges. -/
  | notElementTable (id : NodeId) (table : Table)
  /-- A step's table is not declared. -/
  | undeclaredStep (id : NodeId) (table : Table)
  /-- A step below the root goes both ways. -/
  | bothBelowRoot (id : NodeId) (table : Table)
  /-- A step follows one of its own kind. -/
  | sameKind (id : NodeId) (above below : Table)
  /-- A label is empty or holds a point. -/
  | badLabel (id : NodeId) (label : String)
  /-- A filter has no key. -/
  | namelessFilter (id : NodeId)
  /-- A sort term refers to a label that no step above carries. -/
  | unknownLabelAt (id : NodeId) (label : String)
  /-- A table is not declared. -/
  | undeclaredTable (table : Table)
  /-- A step that goes both ways cannot be joined. -/
  | bothJoined (id : NodeId)
  /-- A step cannot follow the one above it. -/
  | cannotFollow (below above : ElementKind)
  /-- An edge table lacks the column that would join it. -/
  | missingColumn (edge : Table) (column : String)
  /-- A branch does not start at the projected step. -/
  | notBranch (id leaf : NodeId)
  /-- A filter names no property of its table. -/
  | missingProperty (table : Table) (key : String)
  /-- A sort term refers to a label that no step above carries. -/
  | unknownLabel (label : String)
  /-- A sort term names no property of its table. -/
  | unsortable (table : Table) (key : String)
  deriving DecidableEq, Repr

/-- The wording of a violation. -/
def Violation.message : Violation → String
  | .notElementTable id t =>
    "node " ++ toString id ++ ": table " ++ t.render ++ " is neither a vertex nor an edge table"
  | .undeclaredStep id t => "node " ++ toString id ++ ": unknown table " ++ t.render
  | .bothBelowRoot id t =>
    "node " ++ toString id ++ " (" ++ t.render ++ "): direction BOTH below the root"
  | .sameKind id above below =>
    "node " ++ toString id ++ ": " ++ below.kind.word ++ " step follows " ++ above.kind.word ++
      " step (" ++ above.render ++ " -> " ++ below.render ++ ")"
  | .badLabel id label => "node " ++ toString id ++ ": invalid label " ++ quoted label
  | .namelessFilter id => "node " ++ toString id ++ ": filter without key"
  | .unknownLabelAt id label =>
    "node " ++ toString id ++ ": ordering references unknown label " ++ quoted label
  | .undeclaredTable t => "unknown table " ++ t.render
  | .bothJoined id => "node " ++ toString id ++ ": direction BOTH cannot be joined"
  | .cannotFollow below above => below.word ++ " step cannot follow " ++ above.word ++ " step"
  | .missingColumn edge column => "edge " ++ edge.render ++ " has no column " ++ quoted column
  | .notBranch id leaf =>
    "node " ++ toString id ++ " is not an optional child of " ++ toString leaf
  | .missingProperty t key => t.render ++ " has no property " ++ quoted key
  | .unknownLabel label => "ordering references unknown label " ++ quoted label
  | .unsortable t key => "cannot order " ++ t.render ++ " by unknown property " ++ quoted key

/-- A comparison or sort term that has no form in SQL. -/
inductive Unsupported where
  /-- A filter's comparison is not known. -/
  | predicateAt (id : NodeId) (key : String) (predicate : Predicate)
  /-- A filter has no operand. -/
  | noOperand (id : NodeId) (predicate : Predicate) (key : String)
  /-- A sort term's target is not known. -/
  | sortTargetAt (id : NodeId) (code : Int)
  /-- A sort direction is not known. -/
  | sortOrderAt (id : NodeId) (code : Int)
  /-- A text comparison has an operand that is no string. -/
  | needsString (predicate : Predicate) (key typeName : String)
  /-- A comparison is not known. -/
  | predicate (predicate : Predicate)
  /-- A sort term's target is not known. -/
  | sortTarget (code : Int)
  /-- A word names no comparison. -/
  | predicateWord (word : String)
  /-- A word names no sort direction. -/
  | orderWord (word : String)
  deriving DecidableEq, Repr

/-- The wording of an unsupported comparison. -/
def Unsupported.message : Unsupported → String
  | .predicateAt id key p =>
    "node " ++ toString id ++ ": filter on " ++ quoted key ++ " uses " ++ p.word
  | .noOperand id p key =>
    "node " ++ toString id ++ ": " ++ p.word ++ " filter on " ++ quoted key ++ " has no value"
  | .sortTargetAt id code => "node " ++ toString id ++ ": ordering kind " ++ toString code
  | .sortOrderAt id code => "node " ++ toString id ++ ": order " ++ toString code
  | .needsString p key typeName =>
    p.word ++ " on " ++ quoted key ++ " needs a string, got " ++ typeName
  | .predicate p => p.word
  | .sortTarget code => "ordering kind " ++ toString code
  | .predicateWord word => quoted word
  | .orderWord word => "order " ++ quoted word

/-- Why a query is refused. -/
inductive QueryError where
  /-- Its shape cannot be compiled. -/
  | violation (v : Violation)
  /-- It has no form in SQL. -/
  | unsupported (u : Unsupported)
  /-- A path of it cannot be compiled. -/
  | path (mode : Mode) (leaf : Table) (e : QueryError)
  /-- The mode is not known. -/
  | unknownMode (code : Int)
  /-- A step that is not there, or a topology, was asked for. -/
  | absent
  deriving DecidableEq, Repr

namespace QueryError

/-- The wording of the error. -/
def message : QueryError → String
  | .violation v => "structural violation: " ++ v.message
  | .unsupported u => "unsupported predicate: " ++ u.message
  | .path mode leaf e =>
    "compile " ++ mode.word ++ " path to " ++ leaf.render ++ ": " ++ e.message
  | .unknownMode code => "unknown mode " ++ toString code
  | .absent => "no such step or topology"

/-- Whether the query's shape is at fault. -/
def isViolation : QueryError → Bool
  | .violation _ => true
  | .path _ _ e => e.isViolation
  | _ => false

/-- Whether a comparison without a form in SQL is at fault. -/
def isUnsupported : QueryError → Bool
  | .unsupported _ => true
  | .path _ _ e => e.isUnsupported
  | _ => false

/-- Whether the caller is at fault. -/
def isAbsent : QueryError → Bool
  | .absent => true
  | .path _ _ e => e.isAbsent
  | _ => false

end QueryError

end PathQuery
