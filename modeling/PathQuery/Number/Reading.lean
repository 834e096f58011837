import PathQuery.Number.Binary
import PathQuery.Text.Quoted

/-!
# Reading numbers and truth values

Stored text is read as a number by fixed grammars: signed decimal integers of 64 bits, decimal and
hexadecimal floating-point literals whose digits may be separated by underscores, and a short list
of truth values. A text is refused either because it is not in the grammar or because its value
does not fit.
-/

namespace PathQuery

/-- What a text was to be read as. -/
inductive NumberForm where
  /-- A signed 64-bit integer. -/
  | integer
  /-- An integer without a sign. -/
  | natural
  /-- A 64-bit floating-point number. -/
  | double
  /-- A truth value. -/
  | boolean
  deriving DecidableEq, Repr

/-- Why a text was refused. -/
inductive NumberFault where
  /-- It is not in the grammar. -/
  | malformed
  /-- Its value does not fit. -/
  | outOfRange
  deriving DecidableEq, Repr

/-- A text that could not be read. -/
structure NumberError where
  /-- What it was to be read as. -/
  form : NumberForm
  /-- The text. -/
  text : Text
  /-- Why it was refused. -/
  fault : NumberFault
  deriving DecidableEq, Repr

/-- The name of the reader of a form. -/
def NumberForm.reader : NumberForm → String
  | .integer => "ParseInt"
  | .natural => "ParseUint"
  | .double => "ParseFloat"
  | .boolean => "ParseBool"

/-- The wording of a refusal. -/
def NumberFault.message : NumberFault → String
  | .malformed => "invalid syntax"
  | .outOfRange => "value out of range"

/-- The wording of the error. -/
def NumberError.message (e : NumberError) : String :=
  "strconv." ++ e.form.reader ++ ": parsing " ++ e.text.quoted ++ ": " ++ e.fault.message

/-! ## Integers -/

/-- The value of a decimal digit. -/
def digitValue? (c : Char) : Option Nat :=
  if c.isDigit then some (c.toNat - 48) else none

/-- Reads decimal digits onto an accumulator. The reader stops at the first digit that takes the
value past so many bits, before it looks at what follows. -/
def readDigitsWithin (bits acc : Nat) : List Char → Except NumberFault Nat
  | [] => .ok acc
  | c :: rest =>
    match digitValue? c with
    | none => .error .malformed
    | some d =>
      let next := acc * 10 + d
      if next < Nat.pow 2 bits then readDigitsWithin bits next rest else .error .outOfRange

/-- Reads decimal digits onto an accumulator of 64 bits. -/
def readDigits (acc : Nat) (cs : List Char) : Except NumberFault Nat := readDigitsWithin 64 acc cs

/-- Reads an integer of so many bits that has no sign. -/
def readNatural (bits : Nat) (cs : List Char) : Except NumberFault Nat :=
  if cs.isEmpty then .error .malformed else readDigitsWithin bits 0 cs

/-- Splits off a sign; the flag tells whether it is a minus. -/
def splitSign : List Char → Bool × List Char
  | '-' :: rest => (true, rest)
  | '+' :: rest => (false, rest)
  | cs => (false, cs)

/-- Reads a signed decimal integer of so many bits and one more. -/
def readIntWithin (bits : Nat) (cs : List Char) : Except NumberFault Int := do
  let (negative, digits) := splitSign cs
  let n ← readNatural (bits + 1) digits
  if negative then
    if n ≤ Nat.pow 2 bits then .ok (-n) else .error .outOfRange
  else if n < Nat.pow 2 bits then .ok n else .error .outOfRange

/-- Reads a signed decimal integer of 64 bits. -/
def readInt (cs : List Char) : Except NumberFault Int := readIntWithin 63 cs

/-! ## Floating-point literals -/

/-- The value of a hexadecimal digit. -/
def hexValue? (c : Char) : Option Nat :=
  if c.isDigit then some (c.toNat - 48)
  else if 'a' ≤ c && c ≤ 'f' then some (c.toNat - 87)
  else if 'A' ≤ c && c ≤ 'F' then some (c.toNat - 55)
  else none

/-- The digits of a literal up to its exponent. -/
structure Mantissa where
  /-- The digits as a number, without the point. -/
  number : Nat := 0
  /-- How many digits stand after the point. -/
  afterPoint : Nat := 0
  /-- Whether a point was met. -/
  sawPoint : Bool := false
  /-- Whether a digit was met. -/
  sawDigit : Bool := false

/-- Reads the digits of a mantissa, skipping underscores, up to the first character that cannot
continue it. -/
def Mantissa.scan (base : Nat) (m : Mantissa) : List Char → Mantissa × List Char
  | [] => (m, [])
  | c :: rest =>
    if c = '_' then m.scan base rest
    else if c = '.' then
      if m.sawPoint then (m, c :: rest) else { m with sawPoint := true }.scan base rest
    else match (if base = 16 then hexValue? c else digitValue? c) with
      | none => (m, c :: rest)
      | some d =>
        { m with number := m.number * base + d
                 afterPoint := if m.sawPoint then m.afterPoint + 1 else m.afterPoint
                 sawDigit := true }.scan base rest

/-- Reads the digits of an exponent, skipping underscores; past `10000` they no longer count. -/
def scanExponent (acc : Nat) : List Char → Nat × List Char
  | [] => (acc, [])
  | c :: rest =>
    if c = '_' then scanExponent acc rest
    else match digitValue? c with
      | none => (acc, c :: rest)
      | some d => scanExponent (if acc < 10000 then acc * 10 + d else acc) rest

/-- Reads an exponent after its mark: an optional sign and at least one digit. -/
def readExponent (cs : List Char) : Option (Int × List Char) :=
  let (negative, digits) := splitSign cs
  match digits with
  | c :: _ =>
    if c.isDigit then
      let (e, rest) := scanExponent 0 digits
      some (if negative then -e else e, rest)
    else none
  | [] => none

/-- The state of the underscore rule: what the last character was. -/
inductive SeparatorState where
  /-- The start of the literal. -/
  | start
  /-- A digit, or the mark of a base. -/
  | digit
  /-- An underscore. -/
  | underscore
  /-- Anything else. -/
  | other
  deriving DecidableEq

/-- Underscores stand between digits; one may also follow the mark of a base. -/
def separatorsOk (hex : Bool) : SeparatorState → List Char → Bool
  | st, [] => st != .underscore
  | st, c :: rest =>
    if c.isDigit || (hex && (hexValue? c).isSome) then separatorsOk hex .digit rest
    else if c = '_' then st == .digit && separatorsOk hex .underscore rest
    else st != .underscore && separatorsOk hex .other rest

/-- The underscore rule for a whole literal. -/
def separatorsOkIn (cs : List Char) : Bool :=
  match (splitSign cs).2 with
  | '0' :: c :: rest =>
    if c.toLower ∈ ['b', 'o', 'x'] then separatorsOk (c.toLower = 'x') .digit rest
    else separatorsOk false .start ('0' :: c :: rest)
  | rest => separatorsOk false .start rest

/-- The number nearest to `n * base ^ e`, or a refusal when it is past every finite number. -/
def scaledDouble (negative : Bool) (n base : Nat) (e : Int) : Except NumberFault Double :=
  let x := Double.ofRatio negative (n * Nat.pow base e.toNat) (Nat.pow base (-e).toNat)
  match x.value with
  | .infinite _ => .error .outOfRange
  | _ => .ok x

/-- Reads a numeric floating-point literal. -/
def readNumeral (cs : List Char) : Except NumberFault Double :=
  let (negative, body) := splitSign cs
  let (hex, body) : Bool × List Char := match body with
    | '0' :: x :: c :: rest => if x.toLower = 'x' then (true, c :: rest) else (false, body)
    | _ => (false, body)
  let (m, rest) := Mantissa.scan (if hex then 16 else 10) {} body
  if !m.sawDigit then .error .malformed
  else
    let exponent? : Option (Int × List Char) := match rest with
      | c :: after =>
        if c.toLower = (if hex then 'p' else 'e') then readExponent after
        else if hex then none else some (0, rest)
      | [] => if hex then none else some (0, [])
    match exponent? with
    | some (e, []) =>
      if cs.contains '_' && !separatorsOkIn cs then .error .malformed
      else if m.number = 0 then .ok (.ofRatio negative 0 1)
      else if hex then
        let e := e - 4 * m.afterPoint
        if e > 2000 then .error .outOfRange
        else if e + Nat.log2 m.number < -2000 then .ok (.ofRatio negative 0 1)
        else scaledDouble negative m.number 2 e
      else
        let e := e - m.afterPoint
        let point := e + (Nat.toDigits 10 m.number).length
        if point > 310 then .error .outOfRange
        else if point < -330 then .ok (.ofRatio negative 0 1)
        else scaledDouble negative m.number 10 e
    | _ => .error .malformed

/-- Reads a floating-point literal: a number, an infinity or not-a-number, in any letter case. -/
def readDouble (cs : List Char) : Except NumberFault Double :=
  let (negative, body) := splitSign cs
  let name := String.ofList (body.map Char.toLower)
  if name = "inf" || name = "infinity" then .ok (.infinity negative)
  else if String.ofList (cs.map Char.toLower) = "nan" then .ok .nan
  else readNumeral cs

/-! ## Truth values -/

/-- Reads a truth value. -/
def readBool (s : String) : Except NumberFault Bool :=
  if s ∈ ["1", "t", "T", "true", "TRUE", "True"] then .ok true
  else if s ∈ ["0", "f", "F", "false", "FALSE", "False"] then .ok false
  else .error .malformed

/-! ## Reading stored text -/

/-- Applies a reader to a text; one with stray bytes is in no grammar. -/
def NumberForm.read {α : Type} (form : NumberForm) (reader : String → Except NumberFault α)
    (t : Text) : Except NumberError α :=
  match t.toString? with
  | none => .error ⟨form, t, .malformed⟩
  | some s => (reader s).mapError (⟨form, t, ·⟩)

end PathQuery
