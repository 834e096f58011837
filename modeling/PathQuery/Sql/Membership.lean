import PathQuery.Sql.Dialect
import PathQuery.Text.Quoted
import PathQuery.Text.Slug

/-!
# Membership tables

A list of operands that is too long to be written inline is loaded into a temporary table, and the
statement joins against that. The table holds each operand once: a repeated one would join its
rows twice. Its name is made of the filter's key and a number that no other table has.
-/

namespace PathQuery

/-- A temporary table that has to be loaded before its statement runs. -/
structure MembershipTable where
  /-- Its name. -/
  name : String
  /-- Its only column. -/
  column : String
  /-- The type of that column. -/
  columnType : String
  /-- What it holds. -/
  values : List Value
  /-- Whether rows are to match none of the values. -/
  without : Bool
  deriving Repr, Inhabited

/-- The column of a membership table. -/
def membershipColumn (without : Bool) : String := if without then "without" else "within"

/-- What makes two operands the same: their types and their renderings. -/
def Value.identity (v : Value) : Text :=
  Text.ofString v.typeName ++ ⟨[0]⟩ ++ v.render

/-- The operands that are not among the identities `seen` and not repeated. -/
def distinctFrom : List Text → List Value → List Value
  | _, [] => []
  | seen, v :: vs =>
    if seen.contains v.identity then distinctFrom seen vs
    else v :: distinctFrom (v.identity :: seen) vs

/-- The first occurrences of the operands of a list, in order. -/
def distinctOperands (vs : List Value) : List Value := distinctFrom [] vs

/-! ## Names -/

/-- The first eight bytes of the `n`-th number drawn from the byte stream 0, 1, …, 255, 0, …, of
which each number takes sixteen. The version of the numbering scheme is set in the seventh byte. -/
def drawnBytes (n : Nat) : List Nat :=
  (List.range 8).map fun i ↦
    let b := (16 * n + i) % 256
    if i = 6 then b % 16 + 0x40 else b

/-- The digits that tell the `n`-th temporary table from the others. -/
def drawnDigits (n : Nat) : String := String.ofList ((drawnBytes n).flatMap (hexDigits 2))

/-- The lead-in of the name of every temporary table. -/
def temporaryMark : String := "V_BULK_"

/-- The name of the `n`-th temporary table, made for a filter on `key`. -/
def temporaryName (key : String) (n : Nat) : String :=
  let word := String.ofList ((slug key).toList.map fun c ↦ if c = '-' then '_' else c)
  temporaryMark ++ (if word = "" then "key" else word) ++ "_" ++ drawnDigits n

end PathQuery
