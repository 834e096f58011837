import PathQuery.Number.Binary

/-!
# Decimal notation

A floating-point number is printed with the fewest decimal digits that no other number of its
format is nearer to. On the grid of `n`-digit decimals only the two neighbours of the value can
lie within its rounding interval, so trying the grids in turn finds the shortest decimal, and the
nearer neighbour is taken when both would do.

How a decimal is laid out: positionally within a range of exponents, and with an explicit exponent
outside it. The two layouts in use are the one for people, in messages and listings, and the one
for JSON documents; they share the digits and differ in where positional notation ends.
-/

namespace PathQuery

/-! ## The fewest digits -/

/-- A positive decimal `0.d₁d₂… * 10 ^ point`, with neither leading nor trailing zeros. -/
structure Decimal where
  /-- The digits, most significant first. -/
  digits : List Char
  /-- Where the decimal point stands: before the digits when it is zero. -/
  point : Int
  deriving DecidableEq, Repr

/-- The digits of a natural number without its trailing zeros. -/
def significantDigits (n : Nat) : List Char :=
  ((Nat.toDigits 10 n).reverse.dropWhile (· == '0')).reverse

/-- A ratio of natural numbers together with the ends of its rounding interval, over one
denominator. -/
structure RoundingInterval where
  /-- The numerator of the lower end. -/
  low : Nat
  /-- The numerator of the value. -/
  mid : Nat
  /-- The numerator of the upper end. -/
  high : Nat
  /-- The common denominator. -/
  den : Nat
  /-- Whether the ends belong to the interval. -/
  closed : Bool

namespace RoundingInterval

/-- The interval of the reals that round to `m * 2 ^ q`. Below a power of two the neighbouring
numbers lie twice as close. -/
def ofBinary (f : BinaryFormat) (m : Nat) (q : Int) : RoundingInterval :=
  let unit := Nat.pow 2 q.toNat
  let below := if m = Nat.pow 2 f.fractionBits && f.leastExponent < q then unit else 2 * unit
  { low := 4 * m * unit - below
    mid := 4 * m * unit
    high := 4 * m * unit + 2 * unit
    den := 4 * Nat.pow 2 (-q).toNat
    closed := m % 2 = 0 }

/-- Whether `a * 10 ^ s` lies in the interval. -/
def admits (i : RoundingInterval) (a : Nat) (s : Int) : Bool :=
  let x := a * Nat.pow 10 s.toNat * i.den
  let scale := Nat.pow 10 (-s).toNat
  if i.closed then i.low * scale ≤ x && x ≤ i.high * scale
  else i.low * scale < x && x < i.high * scale

/-- The first `n` digits of the value as a number, for a value below `10 ^ point`. -/
def floorOnGrid (i : RoundingInterval) (s : Int) : Nat :=
  i.mid * Nat.pow 10 (-s).toNat / (i.den * Nat.pow 10 s.toNat)

/-- Whether the value lies in the upper half between `a` and `a + 1` on the grid of `10 ^ s`. -/
def upperHalf (i : RoundingInterval) (a : Nat) (s : Int) : Bool :=
  let twice := 2 * i.mid * Nat.pow 10 (-s).toNat
  let middle := (2 * a + 1) * (i.den * Nat.pow 10 s.toNat)
  twice > middle || (twice = middle && a % 2 = 1)

/-- The least `k` with value below `10 ^ k`, looked for upwards from a lower bound. -/
def pointFrom (i : RoundingInterval) : Nat → Int → Int
  | 0, k => k
  | fuel + 1, k =>
    if i.mid * Nat.pow 10 (-k).toNat < i.den * Nat.pow 10 k.toNat then k else i.pointFrom fuel (k + 1)

/-- The least `k` with value below `10 ^ k`. -/
def point (i : RoundingInterval) : Int :=
  let e := BinaryFormat.log2Ratio i.mid i.den
  i.pointFrom 4 (e * 30103 / 100000 - 1)

/-- The shortest decimal of at least `n` digits in the interval, trying `fuel` lengths. -/
def shortestFrom (i : RoundingInterval) (k : Int) : Nat → Nat → Nat × Int
  | 0, n => (i.floorOnGrid (k - n), k - n)
  | fuel + 1, n =>
    let s := k - n
    let a := i.floorOnGrid s
    match i.admits a s, i.admits (a + 1) s with
    | true, true => (if i.upperHalf a s then a + 1 else a, s)
    | true, false => (a, s)
    | false, true => (a + 1, s)
    | false, false => i.shortestFrom k fuel (n + 1)

/-- The shortest decimal in the interval; seventeen digits always suffice. -/
def shortest (i : RoundingInterval) : Decimal :=
  let (a, s) := i.shortestFrom i.point 17 1
  ⟨significantDigits a, s + (Nat.toDigits 10 a).length⟩

end RoundingInterval

/-- The shortest decimal that reads back as `m * 2 ^ q` for positive `m`, and zero without
digits. -/
def BinaryFormat.shortest (f : BinaryFormat) (m : Nat) (q : Int) : Decimal :=
  if m = 0 then ⟨[], 1⟩ else (RoundingInterval.ofBinary f m q).shortest

/-! ## Layouts -/

/-- Where positional notation ends and how an exponent is written. -/
structure NumberLayout where
  /-- The least exponent written positionally. -/
  least : Int
  /-- The first exponent past those written positionally. -/
  limit : Int
  /-- The least number of digits of an exponent. -/
  exponentWidth : Nat

/-- Numbers for people: positional from a ten-thousandth up to a million, with at least two digits
in an exponent. -/
def NumberLayout.plain : NumberLayout := ⟨-4, 6, 2⟩

/-- Numbers of a JSON document: positional from a millionth up to `10 ^ 21`. -/
def NumberLayout.json : NumberLayout := ⟨-6, 21, 1⟩

/-- A natural number in at least `width` digits. -/
def padZeros (width n : Nat) : String :=
  let ds := Nat.toDigits 10 n
  String.ofList (List.replicate (width - ds.length) '0' ++ ds)

/-- A decimal in positional notation. -/
def Decimal.positional (d : Decimal) : String :=
  let n : Int := d.digits.length
  if d.point ≤ 0 then
    let zeros := List.replicate (-d.point).toNat '0'
    if d.digits.isEmpty then "0" else "0." ++ String.ofList (zeros ++ d.digits)
  else if n ≤ d.point then
    String.ofList (d.digits ++ List.replicate (d.point - n).toNat '0')
  else
    String.ofList (d.digits.take d.point.toNat ++ '.' :: d.digits.drop d.point.toNat)

/-- A decimal with one digit before the point and an exponent. -/
def Decimal.scientific (width : Nat) (d : Decimal) : String :=
  let exponent := d.point - 1
  let mantissa := match d.digits with
    | [] => "0"
    | [c] => String.singleton c
    | c :: rest => String.ofList (c :: '.' :: rest)
  mantissa ++ "e" ++ (if exponent < 0 then "-" else "+") ++ padZeros width exponent.natAbs

/-- A decimal in a layout. -/
def Decimal.render (layout : NumberLayout) (d : Decimal) : String :=
  let exponent := d.point - 1
  if exponent < layout.least || layout.limit ≤ exponent then d.scientific layout.exponentWidth
  else d.positional

/-- A stored number of a format in a layout. -/
def BinaryFormat.print (f : BinaryFormat) (layout : NumberLayout) : BinaryValue → String
  | .nan => "NaN"
  | .infinite negative => if negative then "-Inf" else "+Inf"
  | .finite negative m q => (if negative then "-" else "") ++ (f.shortest m q).render layout

/-- A 64-bit number for people. -/
def Double.render (x : Double) : String := binary64.print .plain x.value

/-- A 32-bit number for people. -/
def Single.render (x : Single) : String := binary32.print .plain x.value

/-- A 64-bit number in a JSON document. -/
def Double.renderJson (x : Double) : String := binary64.print .json x.value

/-- A 32-bit number in a JSON document. -/
def Single.renderJson (x : Single) : String := binary32.print .json x.value

end PathQuery
