import PathQuery.Json.Reading
import PathQuery.Value.Basic

/-!
# Values in JSON documents

Every value has a place in a JSON document but for a few: a number that is not finite, a stored
document that is none, a moment outside the years a timestamp can tell, and a mapping whose keys
are no strings. Text is scrubbed of
stray bytes, and a byte string is written in base 64.
-/

namespace PathQuery

/-! ## Base 64 -/

/-- The digit of value `n < 64`. -/
def base64Digit (n : Nat) : Char :=
  if n < 26 then Char.ofNat (n + 65)
  else if n < 52 then Char.ofNat (n + 71)
  else if n < 62 then Char.ofNat (n - 4)
  else if n = 62 then '+' else '/'

/-- Three bytes in four digits; the last digits of an incomplete group are filled up. -/
def base64 : List UInt8 → List Char
  | [] => []
  | [a] =>
    let n := a.toNat * 16
    [base64Digit (n / 64), base64Digit (n % 64), '=', '=']
  | [a, b] =>
    let n := (a.toNat * 256 + b.toNat) * 4
    [base64Digit (n / 4096), base64Digit (n / 64 % 64), base64Digit (n % 64), '=']
  | a :: b :: c :: rest =>
    let n := (a.toNat * 256 + b.toNat) * 256 + c.toNat
    base64Digit (n / 262144) :: base64Digit (n / 4096 % 64) :: base64Digit (n / 64 % 64) ::
      base64Digit (n % 64) :: base64 rest

/-! ## Values -/

/-- Why a value has no place in a JSON document. -/
inductive UnwritableValue where
  /-- A number is not finite. -/
  | notFinite (text : String)
  /-- A stored document is none. -/
  | badDocument (e : JsonError)
  /-- A stored document has a stray byte outside its strings. -/
  | strayByte (b : UInt8) (context : String)
  /-- A timestamp has four digits for the year. -/
  | yearRange
  /-- A type has no form in a document. -/
  | noForm (typeName : String)
  deriving DecidableEq, Repr

/-- The wording of the error. -/
def UnwritableValue.message : UnwritableValue → String
  | .notFinite text => "json: unsupported value: " ++ text
  | .badDocument e => "json: error calling MarshalJSON for type *jsontext.Value: " ++ e.message
  | .strayByte b context =>
    "json: error calling MarshalJSON for type *jsontext.Value: invalid character '\\x" ++
      String.ofList (hexDigits 2 b.toNat) ++ "' " ++ context
  | .yearRange =>
    "json: error calling MarshalJSON for type *time.Time: year outside of range [0,9999]"
  | .noForm typeName => "json: unsupported type: " ++ typeName

/-- A number of which a text is known for people and for documents. -/
def BinaryValue.toJson (v : BinaryValue) (plain document : String) :
    Except UnwritableValue Json :=
  match v with
  | .finite .. => .ok (.number document)
  | _ => .error (.notFinite plain)

/-- A stored document. -/
def Text.toJson (t : Text) : Except UnwritableValue Json :=
  match Json.parse t.scrub with
  | .ok j => .ok j
  | .error e =>
    let strays := t.glyphs.filterMap fun
      | .stray b => some b
      | .char _ => none
    match e, strays with
    | .invalidChar '\uFFFD' context, b :: _ => .error (.strayByte b context)
    | e, _ => .error (.badDocument e)

namespace Value

mutual

/-- A value as a document. -/
def toJson : Value → Except UnwritableValue Json
  | .null => .ok .null
  | .bool b => .ok (.bool b)
  | .int _ n => .ok (.int n)
  | .double x => x.value.toJson x.render x.renderJson
  | .single x => x.value.toJson x.render x.renderJson
  | .str s => .ok (.string s)
  | .raw t => .ok (.string t.scrub)
  | .bytes t => .ok (.string (String.ofList (base64 t.bytes)))
  | .moment m =>
    let year := m.civil.year
    if 0 ≤ year && year ≤ 9999 then .ok (.string m.timestamp) else .error .yearRange
  | .span n => .ok (.int n)
  | .period p => .ok (.object
      [("years", .int p.years), ("months", .int p.months), ("days", .int p.days)])
  | .json t => t.toJson
  | .list vs => do return .array (← listToJson vs)
  | .record fields => do return .object (← fieldsToJson fields)
  | .table entries => .error (.noForm (Value.table entries).typeName)

/-- The values of a list as documents. -/
def listToJson : List Value → Except UnwritableValue (List Json)
  | [] => .ok []
  | v :: vs => do return (← v.toJson) :: (← listToJson vs)

/-- The fields of a mapping as the members of an object. -/
def fieldsToJson : List (String × Value) → Except UnwritableValue (List (String × Json))
  | [] => .ok []
  | (k, v) :: fields => do return (k, ← v.toJson) :: (← fieldsToJson fields)

end

end Value

end PathQuery
