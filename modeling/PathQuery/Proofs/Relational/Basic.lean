import Mathlib.Data.Multiset.Bind
import PathQuery.Proofs.Graph.Columns
import PathQuery.Proofs.Sql.Numbering

/-!
# What a query answers

The meaning of a query is a bag of rows. Conditions are decided in three-valued logic, because a
comparison with null is neither true nor false; a row is kept when its conditions are true, and a
left join fills in nulls for a row without a partner. How two values compare is left to the
database, apart from null, which compares with nothing.

A query is evaluated *as written*. Its text spells the parts of a table name as the dialect takes
them, and in a derived table a line break is followed by an indentation, also inside a name. A
name without line breaks and NULs is written as it is, which is the only fact about spelling that
the meaning of a statement rests on.
-/

namespace PathQuery

/-! ## Three-valued logic -/

/-- What a condition comes to on a row. -/
inductive Truth where
  | yes
  | no
  | unknown
  deriving DecidableEq, Repr

namespace Truth

/-- Negation. -/
def not : Truth → Truth
  | yes => no
  | no => yes
  | unknown => unknown

/-- Conjunction. -/
def and : Truth → Truth → Truth
  | no, _ => no
  | _, no => no
  | yes, yes => yes
  | _, _ => unknown

/-- Disjunction. -/
def or : Truth → Truth → Truth
  | yes, _ => yes
  | _, yes => yes
  | no, no => no
  | _, _ => unknown

/-- A conjunction of any number of conditions. -/
def all (ts : List Truth) : Truth := ts.foldr and yes

/-- A disjunction of any number of conditions. -/
def any (ts : List Truth) : Truth := ts.foldr or no

/-- The truth value of a decided condition. -/
def ofBool (b : Bool) : Truth := if b then yes else no

theorem and_eq_yes_iff {a b : Truth} : a.and b = yes ↔ a = yes ∧ b = yes := by
  cases a <;> cases b <;> simp [and]

theorem all_eq_yes_iff {ts : List Truth} : all ts = yes ↔ ∀ t ∈ ts, t = yes := by
  induction ts with
  | nil => simp [all]
  | cons t ts ih =>
    rw [all, List.foldr_cons, and_eq_yes_iff, ← all, ih, List.forall_mem_cons]

theorem not_eq_yes_iff {t : Truth} : t.not = yes ↔ t = no := by
  cases t <;> simp [not]

theorem or_eq_yes_iff {a b : Truth} : a.or b = yes ↔ a = yes ∨ b = yes := by
  cases a <;> cases b <;> simp [or]

theorem or_eq_no_iff {a b : Truth} : a.or b = no ↔ a = no ∧ b = no := by
  cases a <;> cases b <;> simp [or]

theorem any_eq_yes_iff {ts : List Truth} : any ts = yes ↔ yes ∈ ts := by
  induction ts with
  | nil => simp [any]
  | cons t ts ih => rw [any, List.foldr_cons, or_eq_yes_iff, ← any, ih, List.mem_cons, eq_comm]

theorem any_eq_no_iff {ts : List Truth} : any ts = no ↔ ∀ t ∈ ts, t = no := by
  induction ts with
  | nil => simp [any]
  | cons t ts ih => rw [any, List.foldr_cons, or_eq_no_iff, ← any, ih, List.forall_mem_cons]

@[simp] theorem ofBool_eq_yes_iff {b : Bool} : ofBool b = yes ↔ b = true := by
  cases b <;> simp [ofBool]

end Truth

/-! ## Rows -/

/-- A row of a table: a value for every column. -/
abbrev Row := String → Value

/-- The row that stands for a missing partner. -/
def nullRow : Row := fun _ ↦ .null

/-- A row of a join: a row for every source. -/
abbrev JoinedRow := Source → Row

/-- A database: the rows of its tables, and how it compares values. -/
structure RowStore where
  /-- The rows of a table of the graph. -/
  rows : Table → Multiset Row
  /-- The rows of a temporary table. -/
  temporaries : String → Multiset Row
  /-- A comparison of two values. -/
  compare : Comparison → Value → Value → Truth
  /-- A comparison of a value with a pattern. -/
  like : Value → Text → Truth
  /-- Nothing compares with null. -/
  compare_null_left : ∀ op v, compare op .null v = .unknown
  /-- Null compares with nothing. -/
  compare_null_right : ∀ op v, compare op v .null = .unknown
  /-- Null has no pattern. -/
  like_null : ∀ pattern, like .null pattern = .unknown

namespace RowStore

/-- The rows of what a join reads. -/
def relation (db : RowStore) : Relation → Multiset Row
  | .table t => db.rows t
  | .temporary name => db.temporaries name

/-- Whether a value is one of a list. -/
def isAmong (db : RowStore) (v : Value) (vs : List Value) : Truth :=
  .any (vs.map (db.compare .eq v))

theorem isAmong_eq_yes_iff {db : RowStore} {v : Value} {vs : List Value} :
    db.isAmong v vs = .yes ↔ ∃ w ∈ vs, db.compare .eq v w = .yes := by
  rw [isAmong, Truth.any_eq_yes_iff, List.mem_map]

theorem isAmong_eq_no_iff {db : RowStore} {v : Value} {vs : List Value} :
    db.isAmong v vs = .no ↔ ∀ w ∈ vs, db.compare .eq v w = .no := by
  rw [isAmong, Truth.any_eq_no_iff, List.forall_mem_map]

/-- Every element has an identity. -/
def Identified (db : RowStore) : Prop := ∀ table, ∀ r ∈ db.rows table, ¬(r idColumn).isNull

end RowStore

/-! ## Conditions -/

/-- The value of a column. -/
def ColumnRef.value (e : JoinedRow) (c : ColumnRef) : Value := e c.source c.column

/-- What a condition comes to. A list without operands is written as a null. -/
def Condition.truth (db : RowStore) (e : JoinedRow) : Condition → Truth
  | .same l r => db.compare .eq (l.value e) (r.value e)
  | .compare c op v => db.compare op (c.value e) v
  | .among c negated vs =>
    let found := db.isAmong (c.value e) (if vs.isEmpty then [.null] else vs)
    if negated then found.not else found
  | .like c negated pattern =>
    let found := db.like (c.value e) pattern
    if negated then found.not else found
  | .isNull c => .ofBool (c.value e).isNull
  | .never => .no

/-- Whether a row meets all of some conditions. -/
def Condition.allHold (db : RowStore) (cs : List Condition) (e : JoinedRow) : Prop :=
  Truth.all (cs.map (Condition.truth db e)) = .yes

instance (db : RowStore) (cs : List Condition) : DecidablePred (Condition.allHold db cs) :=
  fun _ ↦ inferInstanceAs (Decidable (_ = _))

theorem Condition.allHold_iff {db : RowStore} {cs : List Condition} {e : JoinedRow} :
    Condition.allHold db cs e ↔ ∀ c ∈ cs, c.truth db e = .yes := by
  rw [allHold, Truth.all_eq_yes_iff, List.forall_mem_map]

@[simp] theorem Condition.allHold_append {db : RowStore} {cs cs' : List Condition} {e : JoinedRow} :
    Condition.allHold db (cs ++ cs') e ↔
      Condition.allHold db cs e ∧ Condition.allHold db cs' e := by
  simp only [allHold_iff, List.forall_mem_append]

/-! ## Selects -/

namespace Join

/-- The partners of a row. -/
def partners (db : RowStore) (j : Join) (e : JoinedRow) : Multiset Row :=
  (db.relation j.relation).filter fun r ↦
    Condition.allHold db j.conditions (Function.update e j.source r)

end Join

/-- Partners, or nulls in their place. -/
def orNull (rs : Multiset Row) : Multiset Row := if rs.card = 0 then {nullRow} else rs

/-- A row together with each of its partners. -/
def Join.extend (db : RowStore) (j : Join) (e : JoinedRow) : Multiset JoinedRow :=
  let partners := match j.kind with
    | .inner => j.partners db e
    | .left => orNull (j.partners db e)
  partners.map (Function.update e j.source)

/-- The row of a join that has read nothing yet. -/
def JoinedRow.blank : JoinedRow := fun _ ↦ nullRow

/-- The projected columns of a row, under their aliases. -/
def Projection.cells (ps : List Projection) (e : JoinedRow) : List (String × Value) :=
  ps.map fun p ↦ (p.name, p.column.value e)

/-- The rows of some joins, one after the other. -/
def Join.extendAll (db : RowStore) (js : List Join) (es : Multiset JoinedRow) :
    Multiset JoinedRow :=
  js.foldl (fun es j ↦ es.bind (j.extend db)) es

namespace Select

/-- The joined rows that a select keeps. -/
def kept (db : RowStore) (s : Select) : Multiset JoinedRow :=
  (Join.extendAll db s.joins
    ((db.rows s.table).map (Function.update JoinedRow.blank s.source))).filter
    (Condition.allHold db s.conditions)

/-- The answer to a select. -/
def eval (db : RowStore) (s : Select) : Multiset (List (String × Value)) :=
  (s.kept db).map (Projection.cells s.projections)

end Select

/-! ## Derived tables -/

/-- The row of a derived table. -/
def derivedRow (cells : List (String × Value)) : Row := fun name ↦ (lookupKey name cells).getD .null

/-- A row together with each of its partners in the `n`-th derived table. -/
def Link.extend (db : RowStore) (n : ℕ) (l : Link) (e : JoinedRow) : Multiset JoinedRow :=
  ((l.select.eval db).map fun cells ↦ Function.update e (.segment n) (derivedRow cells)).filter
    fun e ↦ (Condition.same l.left l.right).truth db e = .yes

/-- The rows of some derived tables, one after the other, the first being the `n`-th. -/
def Link.extendAll (db : RowStore) (n : ℕ) (ls : List Link) (es : Multiset JoinedRow) :
    Multiset JoinedRow :=
  (ls.zipIdx n).foldl (fun es (l, n) ↦ es.bind (l.extend db n)) es

/-- The answer to a statement that joins derived tables. -/
def SplitSelect.eval (db : RowStore) (s : SplitSelect) : Multiset (List (String × Value)) :=
  (Link.extendAll db 2 s.links ((s.first.eval db).map fun cells ↦
    Function.update JoinedRow.blank (.segment 1) (derivedRow cells))).map
    (Projection.cells s.projections)

/-- The answer to a query. -/
def Query.eval (db : RowStore) : Query → Multiset (List (String × Value))
  | .single s => s.eval db
  | .split s => s.eval db

end PathQuery
