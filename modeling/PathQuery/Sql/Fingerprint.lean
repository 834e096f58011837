import PathQuery.Text.Quoted

/-!
# Fingerprints

The text of a statement is identified in logs and messages by a 64-bit hash, written as sixteen
hexadecimal digits. The hash is XXH3 with its default secret: short texts are mixed in one step,
texts of up to 240 bytes by folding 128-bit products, and longer ones by eight accumulators that
take 64 bytes at a time.
-/

namespace PathQuery

namespace Fingerprint

/-- The bytes of the secret that keys every step. -/
def secret : ByteArray := ⟨#[
  0xb8, 0xfe, 0x6c, 0x39, 0x23, 0xa4, 0x4b, 0xbe, 0x7c, 0x01, 0x81, 0x2c, 0xf7, 0x21, 0xad, 0x1c,
  0xde, 0xd4, 0x6d, 0xe9, 0x83, 0x90, 0x97, 0xdb, 0x72, 0x40, 0xa4, 0xa4, 0xb7, 0xb3, 0x67, 0x1f,
  0xcb, 0x79, 0xe6, 0x4e, 0xcc, 0xc0, 0xe5, 0x78, 0x82, 0x5a, 0xd0, 0x7d, 0xcc, 0xff, 0x72, 0x21,
  0xb8, 0x08, 0x46, 0x74, 0xf7, 0x43, 0x24, 0x8e, 0xe0, 0x35, 0x90, 0xe6, 0x81, 0x3a, 0x26, 0x4c,
  0x3c, 0x28, 0x52, 0xbb, 0x91, 0xc3, 0x00, 0xcb, 0x88, 0xd0, 0x65, 0x8b, 0x1b, 0x53, 0x2e, 0xa3,
  0x71, 0x64, 0x48, 0x97, 0xa2, 0x0d, 0xf9, 0x4e, 0x38, 0x19, 0xef, 0x46, 0xa9, 0xde, 0xac, 0xd8,
  0xa8, 0xfa, 0x76, 0x3f, 0xe3, 0x9c, 0x34, 0x3f, 0xf9, 0xdc, 0xbb, 0xc7, 0xc7, 0x0b, 0x4f, 0x1d,
  0x8a, 0x51, 0xe0, 0x4b, 0xcd, 0xb4, 0x59, 0x31, 0xc8, 0x9f, 0x7e, 0xc9, 0xd9, 0x78, 0x73, 0x64,
  0xea, 0xc5, 0xac, 0x83, 0x34, 0xd3, 0xeb, 0xc3, 0xc5, 0x81, 0xa0, 0xff, 0xfa, 0x13, 0x63, 0xeb,
  0x17, 0x0d, 0xdd, 0x51, 0xb7, 0xf0, 0xda, 0x49, 0xd3, 0x16, 0x55, 0x26, 0x29, 0xd4, 0x68, 0x9e,
  0x2b, 0x16, 0xbe, 0x58, 0x7d, 0x47, 0xa1, 0xfc, 0x8f, 0xf8, 0xb8, 0xd1, 0x7a, 0xd0, 0x31, 0xce,
  0x45, 0xcb, 0x3a, 0x8f, 0x95, 0x16, 0x04, 0x28, 0xaf, 0xd7, 0xfb, 0xca, 0xbb, 0x4b, 0x40, 0x7e]⟩

/-- The 64-bit primes of the scheme. -/
def prime64 : Nat → UInt64
  | 0 => 0x9E3779B185EBCA87
  | 1 => 0xC2B2AE3D27D4EB4F
  | 2 => 0x165667B19E3779F9
  | 3 => 0x85EBCA77C2B2AE63
  | _ => 0x27D4EB2F165667C5

/-- The 32-bit primes of the scheme. -/
def prime32 : Nat → UInt64
  | 0 => 0x9E3779B1
  | 1 => 0x85EBCA77
  | _ => 0xC2B2AE3D

/-- The byte at an offset; past the end there are zeros. -/
def byte (data : ByteArray) (offset : Nat) : UInt64 :=
  if h : offset < data.size then (data.get offset h).toUInt64 else 0

/-- The `n` bytes at an offset as a little-endian number. -/
def readBytes (data : ByteArray) (offset : Nat) : Nat → UInt64
  | 0 => 0
  | n + 1 => (readBytes data (offset + 1) n <<< 8) ||| (byte data offset)

/-- Eight bytes of the data. -/
def word (data : ByteArray) (offset : Nat) : UInt64 := readBytes data offset 8

/-- Eight bytes of the secret. -/
def key (offset : Nat) : UInt64 := word secret offset

/-- The halves of a 128-bit product, folded into one. -/
def foldProduct (a b : UInt64) : UInt64 :=
  let p := a.toNat * b.toNat
  UInt64.ofNat p ^^^ UInt64.ofNat (p / Nat.pow 2 64)

/-- A left rotation. -/
def rotate (h : UInt64) (n : UInt64) : UInt64 := (h <<< n) ||| (h >>> (64 - n))

/-- The bytes of a word in reverse. -/
def swapBytes (h : UInt64) : UInt64 :=
  (List.range 8).foldl (fun acc i ↦ (acc <<< 8) ||| ((h >>> (8 * i).toUInt64) &&& 0xFF)) 0

/-- The finishing mix of texts of up to three bytes. -/
def finishShort (h : UInt64) : UInt64 :=
  let h := (h ^^^ (h >>> 33)) * prime64 1
  let h := (h ^^^ (h >>> 29)) * prime64 2
  h ^^^ (h >>> 32)

/-- The finishing mix of longer texts. -/
def finish (h : UInt64) : UInt64 :=
  let h := (h ^^^ (h >>> 37)) * 0x165667919E3779F9
  h ^^^ (h >>> 32)

/-- Mixes sixteen bytes of the data with sixteen of the secret. -/
def mix (data : ByteArray) (offset keyOffset : Nat) : UInt64 :=
  foldProduct (word data offset ^^^ key keyOffset) (word data (offset + 8) ^^^ key (keyOffset + 8))

/-- The hash of one to three bytes. -/
def hashTiny (data : ByteArray) : UInt64 :=
  let n := data.size
  let first := byte data 0
  let middle := byte data (n / 2)
  let last := byte data (n - 1)
  let combined := (first <<< 16) ||| (middle <<< 24) ||| last ||| (n.toUInt64 <<< 8)
  finishShort (combined ^^^ (readBytes secret 0 4 ^^^ readBytes secret 4 4))

/-- The hash of four to eight bytes. -/
def hashWord (data : ByteArray) : UInt64 :=
  let n := data.size
  let h := (readBytes data (n - 4) 4 + (readBytes data 0 4 <<< 32)) ^^^ (key 8 ^^^ key 16)
  let h := (h ^^^ rotate h 49 ^^^ rotate h 24) * 0x9FB21C651E98DF25
  let h := (h ^^^ ((h >>> 35) + n.toUInt64)) * 0x9FB21C651E98DF25
  h ^^^ (h >>> 28)

/-- The hash of nine to sixteen bytes. -/
def hashPair (data : ByteArray) : UInt64 :=
  let n := data.size
  let low := word data 0 ^^^ (key 24 ^^^ key 32)
  let high := word data (n - 8) ^^^ (key 40 ^^^ key 48)
  finish (n.toUInt64 + swapBytes low + high + foldProduct low high)

/-- The hash of 17 to 128 bytes: pairs of sixteen bytes from both ends. -/
def hashMedium (data : ByteArray) : UInt64 :=
  let n := data.size
  let pairs := (n - 1) / 32 + 1
  finish ((List.range pairs).foldl (fun acc i ↦
    acc + mix data (16 * i) (32 * i) + mix data (n - 16 * (i + 1)) (32 * i + 16))
    (n.toUInt64 * prime64 0))

/-- The hash of 129 to 240 bytes: all of them, sixteen at a time. -/
def hashLong (data : ByteArray) : UInt64 :=
  let n := data.size
  let start := (List.range 8).foldl (fun acc i ↦ acc + mix data (16 * i) (16 * i))
    (n.toUInt64 * prime64 0)
  let acc := (List.range (n / 16 - 8)).foldl (fun acc i ↦
    acc + mix data (16 * (i + 8)) (16 * i + 3)) (finish start)
  finish (acc + mix data (n - 16) 119)

/-- Takes a stripe of 64 bytes into the accumulators. -/
def accumulate (data : ByteArray) (acc : Array UInt64) (offset keyOffset : Nat) : Array UInt64 :=
  (List.range 8).foldl (fun acc i ↦
    let value : UInt64 := word data (offset + 8 * i)
    let keyed : UInt64 := value ^^^ key (keyOffset + 8 * i)
    let acc := acc.modify (i ^^^ 1) (· + value)
    acc.modify i (· + (keyed &&& (0xFFFFFFFF : UInt64)) * (keyed >>> 32))) acc

/-- Takes a number of stripes in a row. -/
def accumulateStripes (data : ByteArray) (acc : Array UInt64) (offset count : Nat) :
    Array UInt64 :=
  (List.range count).foldl (fun acc i ↦ accumulate data acc (offset + 64 * i) (8 * i)) acc

/-- Scrambles the accumulators after a block of sixteen stripes. -/
def scramble (acc : Array UInt64) : Array UInt64 :=
  acc.mapIdx fun i a ↦ (a ^^^ (a >>> (47 : UInt64)) ^^^ key (128 + 8 * i)) * prime32 0

/-- The hash of more than 240 bytes. -/
def hashStriped (data : ByteArray) : UInt64 :=
  let n := data.size
  let start : Array UInt64 :=
    #[prime32 2, prime64 0, prime64 1, prime64 2, prime64 3, prime32 1, prime64 4,
      prime32 0]
  let blocks := (n - 1) / 1024
  let acc := (List.range blocks).foldl (fun acc b ↦
    scramble (accumulateStripes data acc (1024 * b) 16)) start
  let acc := accumulateStripes data acc (1024 * blocks) ((n - 1 - 1024 * blocks) / 64)
  let acc := accumulate data acc (n - 64) 121
  finish ((List.range 4).foldl (fun r i ↦
    r + foldProduct (((acc.getD (2 * i) 0 : UInt64)) ^^^ key (11 + 16 * i)) (((acc.getD (2 * i + 1) 0 : UInt64)) ^^^ key (19 + 16 * i)))
    (n.toUInt64 * prime64 0))

/-- The hash of a byte string. -/
def hash (data : ByteArray) : UInt64 :=
  let n := data.size
  if n = 0 then finishShort (key 56 ^^^ key 64)
  else if n ≤ 3 then hashTiny data
  else if n ≤ 8 then hashWord data
  else if n ≤ 16 then hashPair data
  else if n ≤ 128 then hashMedium data
  else if n ≤ 240 then hashLong data
  else hashStriped data

end Fingerprint

/-- The fingerprint of a text: its hash in sixteen hexadecimal digits. -/
def fingerprint (s : String) : String :=
  String.ofList (hexDigits 16 (Fingerprint.hash s.toUTF8).toNat)

end PathQuery
