import PathQuery.Number.Reading
import PathQuery.Time.Reading
import PathQuery.Value.Basic

/-!
# Properties

A property is a named, typed column of an element table. Zoned times, spans and periods need more
than one column: the base column carries the property's name, and each further column appends a
postfix to it. Decoding folds the cells of these columns back into one value.
-/

namespace PathQuery

/-- The declared type of a property. -/
inductive PropertyType where
  | string
  | integer
  | long
  | double
  | boolean
  | json
  | zonedDatetime
  | duration
  | period
  /-- A type that no property may have. -/
  | unknown (name : String)
  deriving DecidableEq, Repr, Inhabited

namespace PropertyType

/-- The types a property may have. -/
def known : List PropertyType :=
  [.string, .integer, .long, .double, .boolean, .json, .zonedDatetime, .duration, .period]

/-- The type of a name. -/
def ofName : String → PropertyType
  | "string" => .string
  | "integer" => .integer
  | "long" => .long
  | "double" => .double
  | "boolean" => .boolean
  | "json" => .json
  | "zoned_datetime" => .zonedDatetime
  | "duration" => .duration
  | "period" => .period
  | name => .unknown name

/-- The name of a type. -/
def name : PropertyType → String
  | .string => "string"
  | .integer => "integer"
  | .long => "long"
  | .double => "double"
  | .boolean => "boolean"
  | .json => "json"
  | .zonedDatetime => "zoned_datetime"
  | .duration => "duration"
  | .period => "period"
  | .unknown name => name

/-- Whether a property may have the type. -/
def valid : PropertyType → Bool
  | .unknown _ => false
  | _ => true

/-- The postfix of the column that holds a zone. -/
def zonePostfix : String := "~~~zonedId"

/-- The postfix of the column that holds nanoseconds. -/
def nanosPostfix : String := "~~~nanos"

/-- The postfix of the column that holds months. -/
def monthsPostfix : String := "~~~months"

/-- The postfix of the column that holds days. -/
def daysPostfix : String := "~~~days"

/-- The postfixes of the further columns a type occupies, in column order. -/
def postfixes : PropertyType → List String
  | .zonedDatetime => [zonePostfix]
  | .duration => [nanosPostfix]
  | .period => [monthsPostfix, daysPostfix]
  | _ => []

end PropertyType

/-- A named, typed property. -/
structure Property where
  /-- The name, which is also its base column. -/
  name : String
  /-- The type. -/
  type : PropertyType
  deriving DecidableEq, Repr, Inhabited

/-- The columns of a property: the base column, then every postfix column. -/
def Property.columns (p : Property) : List String :=
  p.name :: p.type.postfixes.map (p.name ++ ·)

/-! ## Decoding -/

/-- What a cell was to be converted to. -/
inductive CellForm where
  | integer
  | double
  | boolean
  deriving DecidableEq, Repr

/-- The name of a form. -/
def CellForm.name : CellForm → String
  | .integer => "integer"
  | .double => "double"
  | .boolean => "boolean"

/-- Why cells do not decode to a value of a property type. -/
inductive DecodeError where
  /-- The number of postfix cells is not the type's. -/
  | partCount (type : PropertyType) (got : Nat)
  /-- A cell of this type has no conversion. -/
  | unconvertible (typeName : String) (form : CellForm)
  /-- A text could not be read. -/
  | number (e : NumberError)
  /-- The zone is not known. -/
  | zone (name : Text) (e : Zone.NameError)
  /-- The local time could not be read. -/
  | time (text : Text) (e : TimeError)
  /-- No property may have the type. -/
  | unknownType (name : String)

/-- The wording of the error. -/
def DecodeError.message : DecodeError → Text
  | .partCount type got =>
    type.name ++ " property needs " ++ toString type.postfixes.length ++
      " postfix values, got " ++ toString got
  | .unconvertible typeName form => "cannot convert " ++ typeName ++ " to " ++ form.name
  | .number e => e.message
  | .zone name e => (("invalid zone id " ++ name.quoted ++ ": " : String) : Text) ++ e.message
  | .time text e => "invalid local datetime " ++ text.quoted ++ ": " ++ e.message
  | .unknownType name => "unknown property type " ++ quoted name

namespace Value

/-- Reads a text as a 64-bit integer. -/
def readInteger (t : Text) : Except DecodeError Int :=
  (NumberForm.integer.read (readInt ·.toList) t).mapError .number

/-- A cell as a 64-bit integer. -/
def toInteger : Value → Except DecodeError Int
  | .int .uint64 n => .error (.unconvertible (Value.int .uint64 n).typeName .integer)
  | .int _ n => .ok n
  | .double x => .ok x.truncate
  | .bytes t => readInteger t
  | .str s => readInteger s
  | .raw t => readInteger t
  | v => .error (.unconvertible v.typeName .integer)

/-- Reads a text as a floating-point number. -/
def readFloat (t : Text) : Except DecodeError Double :=
  (NumberForm.double.read (readDouble ·.toList) t).mapError .number

/-- A cell as a floating-point number. -/
def toDouble : Value → Except DecodeError Double
  | .double x => .ok x
  | .single x => .ok x.toDouble
  | .int .int64 n => .ok (.ofInt n)
  | .bytes t => readFloat t
  | .str s => readFloat s
  | .raw t => readFloat t
  | v => .error (.unconvertible v.typeName .double)

/-- Reads a text as a truth value. -/
def readTruth (t : Text) : Except DecodeError Bool :=
  (NumberForm.boolean.read readBool t).mapError .number

/-- A cell as a truth value. -/
def toBool : Value → Except DecodeError Bool
  | .bool b => .ok b
  | .int .int64 n => .ok (n ≠ 0)
  | .bytes t => readTruth t
  | .str s => readTruth s
  | .raw t => readTruth t
  | v => .error (.unconvertible v.typeName .boolean)

/-- A cell that may be empty as a 64-bit integer, an empty one being zero. -/
def toIntegerOrZero : Value → Except DecodeError Int
  | .null => .ok 0
  | v => v.toInteger

end Value

/-- The moment at which a zone's clocks show the stored local time; no zone is universal time. -/
def decodeZoned (base zone : Value) : Except DecodeError Moment := do
  let zone ← match zone with
    | .null => pure .utc
    | v => (Zone.ofName v.text).mapError (.zone v.text)
  match base with
  | .moment m => .ok (.ofCivil m.civil zone)
  | v => (TimeLayout.localTime.read zone v.text).mapError (.time v.text)

namespace PropertyType

/-- Folds a non-empty base cell and its postfix cells, whose number is right, into one value. -/
def decodeParts (type : PropertyType) (base : Value) (parts : List Value) :
    Except DecodeError Value :=
  match type with
  | .string => .ok (.ofText base.text)
  | .integer | .long => (.int .int64 ·) <$> base.toInteger
  | .double => .double <$> base.toDouble
  | .boolean => .bool <$> base.toBool
  | .json => .ok (.json base.text)
  | .zonedDatetime => .moment <$> decodeZoned base (parts.headD .null)
  | .duration => do
    let seconds ← base.toInteger
    let nanos ← (parts.headD .null).toIntegerOrZero
    .ok (.span (wrap64 (seconds * 1000000000 + nanos)))
  | .period => do
    let years ← base.toInteger
    let months ← (parts.headD .null).toIntegerOrZero
    let days ← ((parts.drop 1).headD .null).toIntegerOrZero
    .ok (.period ⟨years, months, days⟩)
  | .unknown name => .error (.unknownType name)

/-- Folds a base cell and its postfix cells into one value. An empty base cell has no value. -/
def decode (type : PropertyType) (base : Value) (parts : List Value) : Except DecodeError Value :=
  match base with
  | .null => .ok .null
  | base =>
    if parts.length = type.postfixes.length then type.decodeParts base parts
    else .error (.partCount type parts.length)

end PropertyType

end PathQuery
