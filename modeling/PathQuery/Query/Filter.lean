import PathQuery.Graph.Topology

/-!
# Filters and orderings

A filter compares a property of an element with an operand, or with a list of them. Two keys are
reserved: `~id` is the identity, and `~label` is the label of the element's table, which needs no
data to be decided.
-/

namespace PathQuery

/-- A comparison of a column with one operand. -/
inductive Comparison where
  | eq
  | neq
  | lt
  | lte
  | gt
  | gte
  deriving DecidableEq, Repr, Inhabited

/-- The SQL operator of a comparison. -/
def Comparison.symbol : Comparison → String
  | .eq => "="
  | .neq => "<>"
  | .lt => "<"
  | .lte => "<="
  | .gt => ">"
  | .gte => ">="

/-- What a filter asks of a property. -/
inductive Predicate where
  | eq
  | neq
  | lt
  | lte
  | gt
  | gte
  | within
  | without
  | startsWith
  | endsWith
  | contains
  | notContains
  /-- A code that stands for no comparison. -/
  | other (code : Int)
  deriving DecidableEq, Repr, Inhabited

namespace Predicate

/-- The comparisons, in the order of their codes. -/
def known : List Predicate :=
  [.eq, .neq, .lt, .lte, .gt, .gte, .within, .without, .startsWith, .endsWith, .contains,
   .notContains]

/-- The comparison of a code. -/
def ofCode (n : Int) : Predicate :=
  if n < 0 then .other n else known.getD n.toNat (.other n)

/-- The word for a comparison. -/
def word : Predicate → String
  | .eq => "eq"
  | .neq => "neq"
  | .lt => "lt"
  | .lte => "lte"
  | .gt => "gt"
  | .gte => "gte"
  | .within => "within"
  | .without => "without"
  | .startsWith => "startsWith"
  | .endsWith => "endsWith"
  | .contains => "contains"
  | .notContains => "notContains"
  | .other n => "PredicateKind(" ++ toString n ++ ")"

/-- The code of a comparison. -/
def code : Predicate → Int
  | .other n => n
  | p => known.idxOf p

/-- Whether the comparison is known. -/
def valid : Predicate → Bool
  | .other _ => false
  | _ => true

/-- The comparison of a word, up to case folding. -/
def ofWord? (s : String) : Option Predicate := known.find? fun p ↦ eqFold p.word s

/-- Whether the comparison takes a list of operands. -/
def isMembership : Predicate → Bool
  | .within | .without => true
  | _ => false

/-- The comparison with one operand that a predicate asks for. -/
def comparison? : Predicate → Option Comparison
  | .eq => some .eq
  | .neq => some .neq
  | .lt => some .lt
  | .lte => some .lte
  | .gt => some .gt
  | .gte => some .gte
  | _ => none

/-- The SQL operator of a predicate; one that is not a comparison has that of equality. -/
def operator (p : Predicate) : String := (p.comparison?.getD .eq).symbol

end Predicate

/-- The reserved key of the label. -/
def labelKey : String := "~label"

/-- The reserved key of the identity. -/
def idKey : String := "~id"

/-- A comparison of a property with operands. -/
structure Filter where
  /-- The property, or a reserved key. -/
  key : String
  /-- The comparison. -/
  predicate : Predicate
  /-- The operand of a comparison with one. -/
  value : Value := .null
  /-- The operands of a comparison with a list. -/
  values : List Value := []
  deriving Repr, Inhabited

/-- The names a label filter may use for a table, the label first. -/
def Table.labelNames (t : Table) : List String :=
  [t.label, t.schema ++ "." ++ t.label, t.name, t.render]

namespace Filter

/-- Whether the filter takes a list of operands. -/
def isMembership (f : Filter) : Bool := f.predicate.isMembership

/-- Whether the key is reserved. -/
def isReserved (f : Filter) : Bool := f.key = labelKey || f.key = idKey

/-- The filter for people. -/
def render (f : Filter) : Text :=
  (f.key ++ " " ++ f.predicate.word ++ " " : String) ++
    (if f.isMembership then Value.list f.values else f.value).render

/-- Whether an operand is one of a table's names. -/
def names (t : Table) (v : Value) : Bool :=
  t.labelNames.any fun n ↦ decide ((n : Text) = v.render)

/-- Decides a label filter for a table. -/
def matchesTable (f : Filter) (t : Table) : Bool :=
  let label : Text := t.label
  let operand := f.value.render
  match f.predicate with
  | .eq => names t f.value
  | .neq => !names t f.value
  | .within => f.values.any (names t)
  | .without => !f.values.any (names t)
  | .lt => label.lt operand
  | .lte => !operand.lt label
  | .gt => operand.lt label
  | .gte => !label.lt operand
  | .startsWith => label.startsWith operand
  | .endsWith => label.endsWith operand
  | .contains => label.contains operand
  | .notContains => !label.contains operand
  | .other _ => false

end Filter

/-! ## Orderings -/

/-- A sort direction. -/
inductive SortOrder where
  | ascending
  | descending
  /-- A code that stands for no direction. -/
  | other (code : Int)
  deriving DecidableEq, Repr, Inhabited

namespace SortOrder

/-- The direction of a code. -/
def ofCode (n : Int) : SortOrder :=
  if n = 0 then .ascending else if n = 1 then .descending else .other n

/-- The code of a direction. -/
def code : SortOrder → Int
  | .ascending => 0
  | .descending => 1
  | .other n => n

/-- The SQL word for a direction. -/
def word : SortOrder → String
  | .descending => "DESC"
  | _ => "ASC"

/-- The direction of a word, in any letter case; an empty one ascends. -/
def ofWord? (s : String) : Option SortOrder :=
  match lowerCase s with
  | "" | "asc" | "incr" => some .ascending
  | "desc" | "decr" => some .descending
  | _ => none

end SortOrder

/-- What an ordering refers to. -/
inductive SortTarget where
  /-- The step itself. -/
  | step
  /-- The closest step above that carries a label. -/
  | labeled
  /-- A code that stands for no target. -/
  | other (code : Int)
  deriving DecidableEq, Repr, Inhabited

/-- The target of a code. -/
def SortTarget.ofCode (n : Int) : SortTarget :=
  if n = 0 then .step else if n = 1 then .labeled else .other n

/-- A sort term. -/
structure SortTerm where
  /-- Which step it refers to. -/
  target : SortTarget := .step
  /-- The property. -/
  key : String
  /-- The label of the step, when it refers to a labeled one. -/
  label : String := ""
  /-- The direction. -/
  order : SortOrder
  deriving DecidableEq, Repr, Inhabited

end PathQuery
