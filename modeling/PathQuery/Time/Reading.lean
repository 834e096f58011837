import PathQuery.Text.Quoted
import PathQuery.Time.Moment

/-!
# Reading times

A layout is a list of fields and the literal text between them. Reading follows the layout from
left to right and stops at the first field that does not fit, so an error names that field and
what stood in its place. A fraction may follow the seconds with a point or a comma and any number
of digits, of which nine count.
-/

namespace PathQuery

/-- A part of a layout. -/
inductive TimeField where
  /-- Literal text. -/
  | literal (text : String)
  /-- A year of four digits. -/
  | year
  /-- A month, of two digits when padded. -/
  | month (padded : Bool)
  /-- A day, of two digits when padded. -/
  | day (padded : Bool)
  /-- An hour of one or two digits. -/
  | hour
  /-- A minute, of two digits when padded. -/
  | minute (padded : Bool)
  /-- A second, of two digits when padded. -/
  | second (padded : Bool)
  /-- An optional fraction of a second. -/
  | fraction
  /-- An offset from universal time, or `Z`. -/
  | offset
  deriving DecidableEq, Repr

namespace TimeField

/-- The reference spelling of a field, by which errors name it. -/
def spelling : TimeField → String
  | .literal text => text
  | .year => "2006"
  | .month padded => if padded then "01" else "1"
  | .day padded => if padded then "02" else "2"
  | .hour => "15"
  | .minute padded => if padded then "04" else "4"
  | .second padded => if padded then "05" else "5"
  | .fraction => ".999999999"
  | .offset => "Z07:00"

end TimeField

/-- A layout of fields. -/
abbrev TimeLayout := List TimeField

namespace TimeLayout

/-- The layout of a stored local time. -/
def localTime : TimeLayout :=
  [.year, .literal "-", .month true, .literal "-", .day true, .literal "T", .hour, .literal ":",
   .minute true, .literal ":", .second true, .fraction]

/-- The layout of a timestamp of the internet profile. -/
def internet : TimeLayout := localTime ++ [.offset]

/-- The reference spelling of a layout. -/
def spelling (l : TimeLayout) : String := String.join (l.map TimeField.spelling)

end TimeLayout

/-- Why a text is no time of a layout. -/
inductive TimeFault where
  /-- A field does not fit what stands in its place. -/
  | mismatch (rest : List UInt8) (field : String)
  /-- A field is out of its range. -/
  | outOfRange (field : String)
  /-- Text is left over after the last field. -/
  | extra (rest : List UInt8)

/-- A text that is no time of a layout. -/
structure TimeError where
  /-- The layout. -/
  layout : String
  /-- The text. -/
  text : Text
  /-- Why it was refused. -/
  fault : TimeFault

namespace TimeError

/-- A byte between double quotes; every byte outside printable ASCII is written by its number. -/
def quoteByte (b : UInt8) : List Char :=
  if b < 0x20 || 0x80 ≤ b then '\\' :: 'x' :: hexDigits 2 b.toNat
  else
    let c := Char.ofNat b.toNat
    if c = '"' || c = '\\' then ['\\', c] else [c]

/-- Bytes between double quotes. -/
def quoteBytes (bs : List UInt8) : String := String.ofList ('"' :: bs.flatMap quoteByte ++ ['"'])

/-- The wording of the error. -/
def message (e : TimeError) : String :=
  "parsing time " ++ quoteBytes e.text.bytes ++ match e.fault with
    | .mismatch rest field =>
      " as " ++ quoted e.layout ++ ": cannot parse " ++ quoteBytes rest ++ " as " ++ quoted field
    | .outOfRange field => ": " ++ field ++ " out of range"
    | .extra rest => ": extra text: " ++ quoteBytes rest

end TimeError

/-- What has been read so far. -/
structure TimeParts where
  /-- The civil time. -/
  civil : CivilTime := { year := 0, month := 1, day := 1 }
  /-- The zone, when the text names one. -/
  zone : Option Zone := none

namespace TimeParts

/-- The value of a digit byte. -/
def digit? (b : UInt8) : Option Nat := if 48 ≤ b && b ≤ 57 then some (b.toNat - 48) else none

/-- Reads a number of one or two digits, exactly two when `padded`. -/
def number (padded : Bool) : List UInt8 → Option (Nat × List UInt8)
  | [] => none
  | a :: rest =>
    match digit? a, rest.head?.bind digit? with
    | some x, some y => some (x * 10 + y, rest.drop 1)
    | some x, none => if padded then none else some (x, rest)
    | none, _ => none

/-- Reads four digits. -/
def fourDigits : List UInt8 → Option (Nat × List UInt8)
  | a :: b :: c :: d :: rest =>
    match digit? a, digit? b, digit? c, digit? d with
    | some w, some x, some y, some z => some (w * 1000 + x * 100 + y * 10 + z, rest)
    | _, _, _, _ => none
  | _ => none

/-- The nanoseconds of a run of decimals. -/
def nanosOf (digits : List UInt8) : Nat :=
  let kept := digits.take 9
  kept.foldl (fun acc b ↦ acc * 10 + (b.toNat - 48)) 0 * Nat.pow 10 (9 - kept.length)

/-- Reads an optional fraction. -/
def readFraction : List UInt8 → Option Nat × List UInt8
  | mark :: rest =>
    let digits := rest.takeWhile fun b ↦ (digit? b).isSome
    if (mark = 0x2E || mark = 0x2C) && !digits.isEmpty then
      (some (nanosOf digits), rest.drop digits.length)
    else (none, mark :: rest)
  | [] => (none, [])

/-- Reads literal text. A blank of a layout stands for any number of them, and for none at the end
of the text. -/
def readLiteral : List UInt8 → List UInt8 → Except (List UInt8) (List UInt8)
  | [], value => .ok value
  | l :: ls, value =>
    match value with
    | v :: vs =>
      if v ≠ l then .error value
      else if l = 0x20 then readLiteral (ls.dropWhile (· = 0x20)) (vs.dropWhile (· = 0x20))
      else readLiteral ls vs
    | [] => if l = 0x20 then readLiteral ls [] else .error []
termination_by l => l.length
decreasing_by
  · have := (List.dropWhile_suffix (l := ls) (· = 0x20)).length_le
    grind
  · grind
  · grind

/-- Reads a numeric offset `±hh:mm`. -/
def readOffset (value : List UInt8) : Except TimeFault (Int × List UInt8) :=
  let bad : TimeFault := .mismatch value TimeField.offset.spelling
  match value with
  | sign :: a :: b :: colon :: c :: d :: rest =>
    match number true [a, b], number true [c, d] with
    | some (h, _), some (m, _) =>
      if colon ≠ 0x3A then .error bad
      else if 24 < h then .error (.outOfRange "time zone offset hour")
      else if 60 < m then .error (.outOfRange "time zone offset minute")
      else if sign = 0x2B then .ok ((h * 3600 + m * 60 : Nat), rest)
      else if sign = 0x2D then .ok (-(h * 3600 + m * 60 : Nat), rest)
      else .error bad
    | _, _ => .error bad
  | _ => .error bad

/-- Reads a bounded number. -/
def readBounded (field : TimeField) (padded : Bool) (name : String) (least limit : Nat)
    (value : List UInt8) : Except TimeFault (Nat × List UInt8) :=
  match number padded value with
  | none => .error (.mismatch value field.spelling)
  | some (n, rest) =>
    if least ≤ n && n < limit then .ok (n, rest) else .error (.outOfRange name)

/-- Reads one field. -/
def readField (p : TimeParts) (field : TimeField) (value : List UInt8) :
    Except TimeFault (TimeParts × List UInt8) :=
  match field with
  | .literal text =>
    match readLiteral text.toUTF8.toList value with
    | .ok rest => .ok (p, rest)
    | .error rest => .error (.mismatch rest text)
  | .year =>
    match fourDigits value with
    | some (n, rest) => .ok ({ p with civil := { p.civil with year := n } }, rest)
    | none => .error (.mismatch value field.spelling)
  | .month padded => do
    let (n, rest) ← readBounded field padded "month" 1 13 value
    .ok ({ p with civil := { p.civil with month := n } }, rest)
  | .day padded => do
    let (n, rest) ← readBounded field padded "day" 0 100 value
    .ok ({ p with civil := { p.civil with day := n } }, rest)
  | .hour => do
    let (n, rest) ← readBounded field false "hour" 0 24 value
    .ok ({ p with civil := { p.civil with hour := n } }, rest)
  | .minute padded => do
    let (n, rest) ← readBounded field padded "minute" 0 60 value
    .ok ({ p with civil := { p.civil with minute := n } }, rest)
  | .second padded => do
    let (n, rest) ← readBounded field padded "second" 0 60 value
    .ok ({ p with civil := { p.civil with second := n } }, rest)
  | .fraction =>
    let (nanos, rest) := readFraction value
    .ok ({ p with civil := { p.civil with nanos := nanos.getD p.civil.nanos } }, rest)
  | .offset =>
    match value with
    | 0x5A :: rest => .ok ({ p with zone := some .utc }, rest)
    | _ => do
      let (offset, rest) ← readOffset value
      .ok ({ p with zone := some (if offset = 0 then .utc else .fixed offset) }, rest)

/-- Reads the fields of a layout in turn. -/
def readFields (p : TimeParts) : List TimeField → List UInt8 → Except TimeFault TimeParts
  | [], [] => .ok p
  | [], rest => .error (.extra rest)
  | field :: fields, value => do
    let (p, rest) ← p.readField field value
    p.readFields fields rest

end TimeParts

/-- Reads a time of a layout; without an offset of its own it is told in `zone`. -/
def TimeLayout.read (layout : TimeLayout) (zone : Zone) (t : Text) : Except TimeError Moment :=
  match TimeParts.readFields {} layout t.bytes with
  | .error fault => .error ⟨layout.spelling, t, fault⟩
  | .ok p =>
    if p.civil.dayExists then
      match p.zone with
      | none => .ok (.ofCivil p.civil zone)
      | some z => .ok (.ofCivil p.civil z)
    else .error ⟨layout.spelling, t, .outOfRange "day"⟩

end PathQuery
