import PathQuery.Number.Reading
import PathQuery.Time.Reading
import PathQuery.Value.Basic

/-!
# What a plain scalar stands for

An unquoted scalar is a null, a truth value, a number or a time when it is spelled like one, and a
string otherwise. A tag may demand one of these; a scalar that is not spelled accordingly is
refused. Under any other tag a scalar is the string that is written.
-/

namespace PathQuery.Yaml

/-- The tag of strings. -/
def strTag : String := "!!str"

/-- The tag of nulls. -/
def nullTag : String := "!!null"

/-- The tag of sequences. -/
def seqTag : String := "!!seq"

/-- The tag of mappings. -/
def mapTag : String := "!!map"

/-- The tag of the key that merges mappings. -/
def mergeTag : String := "!!merge"

/-- The tag of binary data. -/
def binaryTag : String := "!!binary"

/-- The key that merges mappings. -/
def mergeKey : String := "<<"

/-! ## Numbers -/

/-- The value of a digit of a base. -/
def baseDigit? (base : Nat) (c : Char) : Option Nat := (hexValue? c).filter (· < base)

/-- Reads digits of a base. -/
def readBase (base : Nat) (cs : List Char) : Option Nat :=
  if cs.isEmpty then none
  else (cs.mapM (baseDigit? base)).map fun ds ↦ ds.foldl (fun n d ↦ n * base + d) 0

/-- Reads a natural number whose base is marked by its first characters. -/
def readMarked : List Char → Option Nat
  | '0' :: m :: rest =>
    match m.toLower with
    | 'x' => readBase 16 rest
    | 'b' => readBase 2 rest
    | 'o' => readBase 8 rest
    | _ => readBase 8 (m :: rest)
  | cs => readBase 10 cs

/-- The integer of a sign and a magnitude, if it fits 64 signed bits. -/
def signed? (negative : Bool) (n : Nat) : Option Int :=
  if negative then (if n ≤ Nat.pow 2 63 then some (-n) else none)
  else if n < Nat.pow 2 63 then some n else none

/-- Reads an integer with a reader for its magnitude. -/
def readSigned (magnitude : List Char → Option Nat) (cs : List Char) : Option Int := do
  let (negative, digits) := splitSign cs
  signed? negative (← magnitude digits)

/-- The value of a natural number of 64 bits. -/
def naturalValue (n : Nat) : Option Value := if n < Nat.pow 2 64 then some (.int .uint64 n) else none

/-- Reads an integer. A sign may also stand behind the mark of a binary or octal number. -/
def readInteger (cs : List Char) : Option Value :=
  let word (n : Int) : Value := .int .word n
  let afterMark (base : Nat) : Option Value :=
    ((readSigned (readBase base) (cs.drop 2)).map word).orElse fun _ ↦
      (readBase base (cs.drop 2)).bind naturalValue
  ((readSigned readMarked cs).map word).orElse fun _ ↦
    ((readMarked cs).bind naturalValue).orElse fun _ ↦
      match cs with
      | '0' :: 'b' :: _ => afterMark 2
      | '0' :: 'o' :: _ => afterMark 8
      | _ => none

/-- Whether a text is a decimal number: digits with at most one point among them, and an optional
exponent. -/
def isDecimal (cs : List Char) : Bool :=
  let body := (splitSign cs).2
  let whole := body.takeWhile Char.isDigit
  let rest := body.dropWhile Char.isDigit
  let (fraction, rest) : Option (List Char) × List Char := match rest with
    | '.' :: more => (some (more.takeWhile Char.isDigit), more.dropWhile Char.isDigit)
    | _ => (none, rest)
  let mantissa := !whole.isEmpty || (fraction.map (!·.isEmpty)).getD false
  mantissa && match rest with
    | [] => true
    | e :: more =>
      let digits := (splitSign more).2
      e.toLower = 'e' && !digits.isEmpty && digits.all Char.isDigit

/-- The layouts of times. -/
def timeLayouts : List TimeLayout :=
  let date : TimeLayout := [.year, .literal "-", .month false, .literal "-", .day false]
  let clock : TimeLayout :=
    [.hour, .literal ":", .minute false, .literal ":", .second false, .fraction]
  [date ++ [.literal "T"] ++ clock ++ [.offset], date ++ [.literal "t"] ++ clock ++ [.offset],
   date ++ [.literal " "] ++ clock, date]

/-- Reads a time, which starts with a year of four digits and a dash. -/
def readTime (s : String) : Option Moment :=
  let cs := s.toList
  if (cs.takeWhile Char.isDigit).length = 4 && cs[4]? = some '-' then
    timeLayouts.findSome? fun l ↦ (l.read .utc s).toOption
  else none

/-! ## Resolution -/

/-- The scalars that stand for fixed values. -/
def fixedScalar? (s : String) : Option (String × Value) :=
  if s ∈ ["true", "True", "TRUE"] then some ("!!bool", .bool true)
  else if s ∈ ["false", "False", "FALSE"] then some ("!!bool", .bool false)
  else if s ∈ ["", "~", "null", "Null", "NULL"] then some (nullTag, .null)
  else if s ∈ [".nan", ".NaN", ".NAN"] then some ("!!float", .double .nan)
  else if s ∈ [".inf", ".Inf", ".INF", "+.inf", "+.Inf", "+.INF"] then
    some ("!!float", .double (.infinity false))
  else if s ∈ ["-.inf", "-.Inf", "-.INF"] then some ("!!float", .double (.infinity true))
  else none

/-- Reads a scalar that starts like a number. -/
def numberLike? (timeAllowed : Bool) (s : String) : Option (String × Value) :=
  let digits := s.toList.filter (· ≠ '_')
  (if timeAllowed then (readTime s).map (("!!timestamp", .moment ·)) else none).orElse fun _ ↦
    ((readInteger digits).map (("!!int", ·))).orElse fun _ ↦
      if isDecimal digits then
        (readDouble digits).toOption.map (("!!float", .double ·))
      else none

/-- What an untagged scalar is spelled like, or what one with a tag may be spelled like. -/
def spelledLike (tag s : String) : String × Value :=
  let found : Option (String × Value) := (fixedScalar? s).orElse fun _ ↦
    match s.toList with
    | c :: _ =>
      if c = '.' then (readDouble s.toList).toOption.map (("!!float", .double ·))
      else if c.isDigit || c = '+' || c = '-' then
        numberLike? (tag = "" || tag = "!!timestamp") s
      else none
    | [] => none
  found.getD (strTag, .str s)

/-- The tag an untagged plain scalar gets. -/
def implicitTag (s : String) : String := (spelledLike "" s).1

/-- The tags that demand a spelling. -/
def demandingTags : List String :=
  ["!!bool", "!!int", "!!float", nullTag, "!!timestamp"]

/-- The value of a scalar under a tag. An integer will do for a floating-point number. -/
def resolve (tag s : String) : Option (String × Value) :=
  if tag ≠ "" && !demandingTags.contains tag then some (tag, .str s)
  else
    let (found, v) := spelledLike tag s
    if tag = "" || tag = found then some (found, v)
    else match tag, found, v with
      | "!!float", "!!int", .int .word n => some ("!!float", .double (.ofInt n))
      | _, _, _ => none

/-! ## Binary data -/

/-- The value of a digit of base 64. -/
def base64Digit? (c : Char) : Option Nat :=
  if c.isUpper then some (c.toNat - 65)
  else if c.isLower then some (c.toNat - 71)
  else if c.isDigit then some (c.toNat + 4)
  else if c = '+' then some 62
  else if c = '/' then some 63
  else none

/-- Reads groups of four digits of base 64; the last may be padded. -/
def base64Groups : List Char → Option (List UInt8)
  | [] => some []
  | [a, b, '=', '='] => do
    let n := (← base64Digit? a) * 64 + (← base64Digit? b)
    some [UInt8.ofNat (n / 16)]
  | [a, b, c, '='] => do
    let n := ((← base64Digit? a) * 64 + (← base64Digit? b)) * 64 + (← base64Digit? c)
    some [UInt8.ofNat (n / 1024), UInt8.ofNat (n / 4)]
  | a :: b :: c :: d :: rest => do
    let n := (((← base64Digit? a) * 64 + (← base64Digit? b)) * 64 + (← base64Digit? c)) * 64 +
      (← base64Digit? d)
    return [UInt8.ofNat (n / 65536), UInt8.ofNat (n / 256), UInt8.ofNat n] ++ (← base64Groups rest)
  | _ => none

/-- Reads binary data, in which line breaks do not count. -/
def readBinary (s : String) : Option Text :=
  (base64Groups (s.toList.filter fun c ↦ c ≠ '\n' && c ≠ '\r')).map (⟨·⟩)

end PathQuery.Yaml
