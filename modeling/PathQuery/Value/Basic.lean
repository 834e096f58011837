import PathQuery.Number.Notation
import PathQuery.Time.Moment

/-!
# Values

Operands of a query and cells of a result row are values of one type. Integers and floating-point
numbers keep the width they came with, because a value's type takes part in comparing operands and
in messages, and a string that is not well-formed text is kept apart from one that is.
-/

namespace PathQuery

/-- The width of an integer. -/
inductive IntWidth where
  /-- A signed integer of 64 bits. -/
  | int64
  /-- A signed integer of the machine's width. -/
  | word
  /-- A signed integer of 32 bits. -/
  | int32
  /-- A natural number of 64 bits. -/
  | uint64
  deriving DecidableEq, Repr

/-- An amount of calendar time. -/
structure Period where
  /-- Years. -/
  years : Int
  /-- Months. -/
  months : Int
  /-- Days. -/
  days : Int
  deriving DecidableEq, Repr

/-- An operand of a query or a cell of a row. -/
inductive Value where
  /-- No value. -/
  | null
  /-- A truth value. -/
  | bool (b : Bool)
  /-- An integer of some width. -/
  | int (width : IntWidth) (n : Int)
  /-- A 64-bit floating-point number. -/
  | double (x : Double)
  /-- A 32-bit floating-point number. -/
  | single (x : Single)
  /-- A string. -/
  | str (s : String)
  /-- A string with stray bytes. -/
  | raw (t : Text)
  /-- A byte string. -/
  | bytes (t : Text)
  /-- An instant told in a zone. -/
  | moment (m : Moment)
  /-- A span in nanoseconds. -/
  | span (n : Int)
  /-- An amount of calendar time. -/
  | period (p : Period)
  /-- A JSON document. -/
  | json (t : Text)
  /-- A list of values. -/
  | list (vs : List Value)
  /-- A mapping from strings, in order of its keys. -/
  | record (fields : List (String × Value))
  /-- A mapping from values. -/
  | table (entries : List (Value × Value))
  deriving Repr, Inhabited

/-- A period in years, months and days. -/
def Period.render (p : Period) : String :=
  "P" ++ toString p.years ++ "Y" ++ toString p.months ++ "M" ++ toString p.days ++ "D"

/-- An integer wrapped into 64 signed bits. -/
def wrap64 (n : Int) : Int := n.bmod (Nat.pow 2 64)

namespace Value

/-- The string value of a text. -/
def ofText (t : Text) : Value :=
  match t.toString? with
  | some s => .str s
  | none => .raw t

/-- Whether there is no value. -/
def isNull : Value → Bool
  | .null => true
  | _ => false

theorem isNull_iff {v : Value} : v.isNull ↔ v = .null := by
  cases v <;> simp [isNull]

/-- The name of a value's type, by which messages and the identity of operands tell types apart. -/
def typeName : Value → String
  | .null => "<nil>"
  | .bool _ => "bool"
  | .int .int64 _ => "int64"
  | .int .word _ => "int"
  | .int .int32 _ => "int32"
  | .int .uint64 _ => "uint64"
  | .double _ => "float64"
  | .single _ => "float32"
  | .str _ | .raw _ => "string"
  | .bytes _ => "[]uint8"
  | .moment _ => "time.Time"
  | .span _ => "time.Duration"
  | .period _ => "schema.Period"
  | .json _ => "jsontext.Value"
  | .list _ => "[]interface \x7b\x7d"
  | .record _ => "map[string]interface \x7b\x7d"
  | .table _ => "map[interface \x7b\x7d]interface \x7b\x7d"

/-- Bytes as a list of their numbers. -/
def renderBytes (t : Text) : String :=
  "[" ++ String.intercalate " " (t.bytes.map fun b ↦ toString b.toNat) ++ "]"

mutual

/-- A value for people. -/
def render : Value → Text
  | .null => "<nil>"
  | .bool b => if b then "true" else "false"
  | .int _ n => toString n
  | .double x => x.render
  | .single x => x.render
  | .str s => s
  | .raw t => t
  | .bytes t => renderBytes t
  | .moment m => m.render
  | .span n => Span.render n
  | .period p => p.render
  | .json t => t
  | .list vs => ("[" : Text) ++ Text.intercalate " " (renderList vs) ++ "]"
  | .record fields => ("map[" : Text) ++ Text.intercalate " " (renderFields fields) ++ "]"
  | .table entries => ("map[" : Text) ++ Text.intercalate " " (renderEntries entries) ++ "]"

/-- The values of a list for people. -/
def renderList : List Value → List Text
  | [] => []
  | v :: vs => v.render :: renderList vs

/-- The fields of a mapping for people. -/
def renderFields : List (String × Value) → List Text
  | [] => []
  | (k, v) :: fields => (((k ++ ":" : String) : Text) ++ v.render) :: renderFields fields

/-- The entries of a mapping for people. -/
def renderEntries : List (Value × Value) → List Text
  | [] => []
  | (k, v) :: entries => (k.render ++ ":" ++ v.render) :: renderEntries entries

end

/-- The text a value stands for: a string is its own text, anything else is rendered. -/
def text : Value → Text
  | .bytes t => t
  | v => v.render

end Value

end PathQuery
