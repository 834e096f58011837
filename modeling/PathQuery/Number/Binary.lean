/-!
# Binary floating point, exactly

A floating-point number is kept as the word that stores it. Its value is `m * 2 ^ q` for natural
`m` and integer `q`, so that rounding, printing and truncation are exact arithmetic on natural
numbers and no step depends on the machine.
-/

namespace PathQuery

/-- The layout of an interchange format: how many bits hold the fraction and the exponent. -/
structure BinaryFormat where
  /-- Bits of the stored fraction. -/
  fractionBits : Nat
  /-- Bits of the biased exponent. -/
  exponentBits : Nat

/-- The 64-bit format. -/
def binary64 : BinaryFormat := ⟨52, 11⟩

/-- The 32-bit format. -/
def binary32 : BinaryFormat := ⟨23, 8⟩

/-- What a stored word stands for. -/
inductive BinaryValue where
  /-- Not a number. -/
  | nan
  /-- An infinity. -/
  | infinite (negative : Bool)
  /-- The number `m * 2 ^ q`, with its sign apart so that zero keeps one. -/
  | finite (negative : Bool) (m : Nat) (q : Int)
  deriving DecidableEq, Repr

namespace BinaryFormat

/-- The exponent of the least significant bit of the smallest numbers. -/
def leastExponent (f : BinaryFormat) : Int :=
  2 - (Nat.pow 2 (f.exponentBits - 1) : Nat) - f.fractionBits

/-- The word of positive infinity. -/
def infinityWord (f : BinaryFormat) : Nat := (Nat.pow 2 f.exponentBits - 1) * Nat.pow 2 f.fractionBits

/-- The word that stores a quiet not-a-number. -/
def nanWord (f : BinaryFormat) : Nat := f.infinityWord + Nat.pow 2 (f.fractionBits - 1)

/-- The word of a sign. -/
def signWord (f : BinaryFormat) (negative : Bool) : Nat :=
  if negative then Nat.pow 2 (f.fractionBits + f.exponentBits) else 0

/-- What a stored word stands for. -/
def read (f : BinaryFormat) (word : Nat) : BinaryValue :=
  let fraction := word % Nat.pow 2 f.fractionBits
  let biased := word / Nat.pow 2 f.fractionBits % Nat.pow 2 f.exponentBits
  let negative := word / Nat.pow 2 (f.fractionBits + f.exponentBits) % 2 == 1
  if biased = Nat.pow 2 f.exponentBits - 1 then
    if fraction = 0 then .infinite negative else .nan
  else if biased = 0 then .finite negative fraction f.leastExponent
  else .finite negative (fraction + Nat.pow 2 f.fractionBits) (f.leastExponent + biased - 1)

/-- The greatest `e` with `2 ^ e ≤ num / den`, for positive `num` and `den`. -/
def log2Ratio (num den : Nat) : Int :=
  let e : Int := (Nat.log2 num : Int) - Nat.log2 den
  if num * Nat.pow 2 (-e).toNat < den * Nat.pow 2 e.toNat then e - 1 else e

/-- The word of the number nearest to `num / den`, halves going to the even word. Past the
greatest finite number it is the word of infinity. -/
def nearest (f : BinaryFormat) (num den : Nat) : Nat :=
  if num = 0 || den = 0 then 0
  else
    let q := max f.leastExponent (log2Ratio num den - f.fractionBits)
    let n := num * Nat.pow 2 (-q).toNat
    let d := den * Nat.pow 2 q.toNat
    let floor := n / d
    let twice := 2 * (n % d)
    let m := if twice > d || (twice = d && floor % 2 = 1) then floor + 1 else floor
    let word :=
      if m < Nat.pow 2 f.fractionBits then m
      else (q - f.leastExponent).toNat * Nat.pow 2 f.fractionBits + m
    min word f.infinityWord

end BinaryFormat

/-- A 64-bit floating-point number. -/
structure Double where
  /-- The word that stores it. -/
  word : UInt64
  deriving DecidableEq, Repr, Inhabited

/-- A 32-bit floating-point number. -/
structure Single where
  /-- The word that stores it. -/
  word : UInt32
  deriving DecidableEq, Repr, Inhabited

namespace Double

/-- What the number stands for. -/
def value (x : Double) : BinaryValue := binary64.read x.word.toNat

/-- Whether two numbers are equal: zero has two words, and what is no number equals nothing. -/
def equals (x y : Double) : Bool :=
  match x.value, y.value with
  | .nan, _ | _, .nan => false
  | .finite _ 0 _, .finite _ 0 _ => true
  | _, _ => x == y

/-- The number nearest to a signed ratio. -/
def ofRatio (negative : Bool) (num den : Nat) : Double :=
  ⟨UInt64.ofNat (binary64.signWord negative + binary64.nearest num den)⟩

/-- The number nearest to an integer. -/
def ofInt (n : Int) : Double := ofRatio (n < 0) n.natAbs 1

/-- An infinity. -/
def infinity (negative : Bool) : Double :=
  ⟨UInt64.ofNat (binary64.signWord negative + binary64.infinityWord)⟩

/-- A quiet not-a-number. -/
def nan : Double := ⟨UInt64.ofNat binary64.nanWord⟩

/-- Whether the number is at most `2 ^ 63`. -/
def atMostInt (x : Double) : Bool :=
  match x.value with
  | .nan => false
  | .infinite negative => negative
  | .finite negative m q => negative || m * Nat.pow 2 q.toNat ≤ Nat.pow 2 63 * Nat.pow 2 (-q).toNat

/-- The number without its fraction, or the least 64-bit integer where that does not fit. -/
def truncate (x : Double) : Int :=
  match x.value with
  | .finite negative m q =>
    let magnitude : Nat := m * Nat.pow 2 q.toNat / Nat.pow 2 (-q).toNat
    let n : Int := if negative then -magnitude else magnitude
    if -(Nat.pow 2 63 : Nat) ≤ n && n < (Nat.pow 2 63 : Nat) then n else -(Nat.pow 2 63 : Nat)
  | _ => -(Nat.pow 2 63 : Nat)

end Double

namespace Single

/-- What the number stands for. -/
def value (x : Single) : BinaryValue := binary32.read x.word.toNat

/-- The number nearest to a signed ratio. -/
def ofRatio (negative : Bool) (num den : Nat) : Single :=
  ⟨UInt32.ofNat (binary32.signWord negative + binary32.nearest num den)⟩

/-- The number nearest to one of 64 bits. -/
def ofDouble (x : Double) : Single :=
  match x.value with
  | .nan => ⟨UInt32.ofNat binary32.nanWord⟩
  | .infinite negative => ⟨UInt32.ofNat (binary32.signWord negative + binary32.infinityWord)⟩
  | .finite negative m q => .ofRatio negative (m * Nat.pow 2 q.toNat) (Nat.pow 2 (-q).toNat)

/-- The same number in 64 bits, where every 32-bit number has a place. -/
def toDouble (x : Single) : Double :=
  match x.value with
  | .nan => .nan
  | .infinite negative => .infinity negative
  | .finite negative m q => .ofRatio negative (m * Nat.pow 2 q.toNat) (Nat.pow 2 (-q).toNat)

end Single

/-- The numbers nearest to small integers and halves are the numbers themselves. -/
example : (Double.ofInt 1).word = 0x3FF0000000000000 ∧ (Double.ofInt (-2)).word = 0xC000000000000000
    ∧ (Double.ofRatio false 1 2).word = 0x3FE0000000000000 := by decide +kernel

end PathQuery
