/-!
# Text that may hold stray bytes

Operands and stored values are byte strings that are almost always, but not by law, UTF-8. A
`Text` keeps the bytes; reading it as a sequence of glyphs shows each well-formed character and,
between them, the bytes that belong to no character. A `String` is a `Text` without strays, and
everything the library prints on its own account is a `String` that is coerced where it meets an
operand.
-/

namespace PathQuery

/-- A byte string meant to be read as UTF-8. -/
structure Text where
  /-- The bytes, in order. -/
  bytes : List UInt8
  deriving DecidableEq, Repr, Inhabited

/-- What a reader meets in a text: a character, or a byte that is part of none. -/
inductive Glyph where
  /-- A well-formed character. -/
  | char (c : Char)
  /-- A byte that starts no well-formed character. -/
  | stray (b : UInt8)
  deriving DecidableEq, Repr

namespace Text

/-! ## Texts and strings -/

/-- The text of a string: its UTF-8 bytes. -/
def ofString (s : String) : Text := ⟨s.toUTF8.toList⟩

instance : Coe String Text := ⟨ofString⟩

instance : Append Text := ⟨fun a b ↦ ⟨a.bytes ++ b.bytes⟩⟩

@[simp]
theorem bytes_append (a b : Text) : (a ++ b).bytes = a.bytes ++ b.bytes := rfl

/-- The string a text spells, unless it holds a stray byte. -/
def toString? (t : Text) : Option String := String.fromUTF8? t.bytes.toByteArray

/-- The texts joined by a separator. -/
def intercalate (sep : Text) : List Text → Text
  | [] => ⟨[]⟩
  | [t] => t
  | t :: u :: rest => t ++ sep ++ intercalate sep (u :: rest)

/-- The texts, one after the other. -/
def join (ts : List Text) : Text := ⟨ts.flatMap Text.bytes⟩

/-- Lexicographic order of the bytes. -/
def lt (a b : Text) : Bool := decide (a.bytes < b.bytes)

/-! ## Glyphs -/

/-- Whether a byte continues a multi-byte character. -/
def isContinuation (b : UInt8) : Bool := 0x80 ≤ b && b ≤ 0xBF

/-- The payload of a continuation byte. -/
def payload (b : UInt8) : Nat := b.toNat % 64

/-- The character that starts with byte `b` followed by `rest`, and how many bytes of `rest` it
takes. Overlong forms, surrogates and code points past the last plane are no characters. -/
def charAt? (b : UInt8) (rest : List UInt8) : Option (Char × Nat) :=
  if b < 0x80 then some (Char.ofNat b.toNat, 0)
  else if 0xC2 ≤ b && b ≤ 0xDF then
    match rest with
    | c :: _ =>
      if isContinuation c then some (Char.ofNat ((b.toNat - 0xC0) * 64 + payload c), 1) else none
    | _ => none
  else if 0xE0 ≤ b && b ≤ 0xEF then
    match rest with
    | c :: d :: _ =>
      let n := (b.toNat - 0xE0) * 4096 + payload c * 64 + payload d
      if isContinuation c && isContinuation d && 0x800 ≤ n && !(0xD800 ≤ n && n ≤ 0xDFFF) then
        some (Char.ofNat n, 2)
      else none
    | _ => none
  else if 0xF0 ≤ b && b ≤ 0xF4 then
    match rest with
    | c :: d :: e :: _ =>
      let n := (b.toNat - 0xF0) * 262144 + payload c * 4096 + payload d * 64 + payload e
      if isContinuation c && isContinuation d && isContinuation e && 0x10000 ≤ n && n ≤ 0x10FFFF then
        some (Char.ofNat n, 3)
      else none
    | _ => none
  else none

/-- The glyphs of a byte list of which the first `skip` bytes have been read already. -/
def glyphsFrom : Nat → List UInt8 → List Glyph
  | _, [] => []
  | skip + 1, _ :: rest => glyphsFrom skip rest
  | 0, b :: rest =>
    match charAt? b rest with
    | some (c, extra) => .char c :: glyphsFrom extra rest
    | none => .stray b :: glyphsFrom 0 rest

/-- The glyphs of a text. -/
def glyphs (t : Text) : List Glyph := glyphsFrom 0 t.bytes

/-- The string in which every stray byte has become the replacement character. -/
def scrub (t : Text) : String :=
  String.ofList (t.glyphs.map fun
    | .char c => c
    | .stray _ => '\uFFFD')

/-! ## Searching -/

/-- Whether `p` starts `t`. -/
def startsWith (t p : Text) : Bool := p.bytes.isPrefixOf t.bytes

/-- Whether `p` ends `t`. -/
def endsWith (t p : Text) : Bool := p.bytes.isSuffixOf t.bytes

/-- Whether the bytes of `p` occur in a row in a byte list. -/
def occursIn (p : List UInt8) : List UInt8 → Bool
  | [] => p.isEmpty
  | b :: rest => p.isPrefixOf (b :: rest) || occursIn p rest

/-- Whether `p` occurs in `t`. -/
def contains (t p : Text) : Bool := occursIn p.bytes t.bytes

end Text

end PathQuery
