import PathQuery.Terminal.Width

/-!
# Escape sequences

Text for a terminal may hold escape sequences, which take no cells. They start with the escape
character, or with a stray byte that stands for a whole introducer, and go on up to a final
character or, when they carry a string, up to its terminator.

There are two readings of the same text. One goes glyph by glyph and tells of each whether it is
shown, and it never looks ahead. The other cuts the text into tokens, each a whole sequence or one
thing that is seen.
-/

namespace PathQuery.Terminal

/-- The code of a glyph in a sequence: a byte, or a number beyond all bytes for a character outside
of ASCII. -/
def glyphCode : Glyph → Nat
  | .char c => if c.toNat < 0x80 then c.toNat else 0x100
  | .stray b => b.toNat

/-! ## Glyph by glyph -/

/-- Where in a sequence a place is. -/
inductive ScanState where
  | ground
  | escape
  | escapeInner
  | controlStart
  | controlNumber
  | controlInner
  | deviceStart
  | deviceNumber
  | deviceInner
  | deviceText
  | systemText
  | otherText
  deriving DecidableEq, Repr, Inhabited

/-- What becomes of a piece of text. -/
inductive UnitKind where
  /-- It is printable ASCII. -/
  | printed
  /-- It is a control character. -/
  | control
  /-- It is seen, and not ASCII. -/
  | seen
  /-- It belongs to a sequence. -/
  | silent
  deriving DecidableEq, Repr, Inhabited

/-- A piece of text that is handled at once. -/
structure TextUnit where
  /-- Its glyphs. -/
  glyphs : List Glyph
  /-- Its cells. -/
  width : Nat
  /-- What becomes of it. -/
  kind : UnitKind
  deriving Inhabited

/-- Whether a code is a plain control character. -/
def isPlainControl (b : Nat) : Bool := b ≤ 0x17 || b = 0x19 || (0x1C ≤ b && b ≤ 0x1F)

/-- Whether a code lies in a range. -/
def within (low high b : Nat) : Bool := low ≤ b && b ≤ high

namespace ScanState

/-- What a code does in a state that has no rule for it. -/
def anywhere (b : Nat) : ScanState × UnitKind :=
  if b = 0x1B then (escape, .silent)
  else if b = 0x98 || b = 0x9E || b = 0x9F then (otherText, .silent)
  else if b = 0x9B then (controlStart, .silent)
  else if b = 0x90 then (deviceStart, .silent)
  else if b = 0x9D then (systemText, .silent)
  else if b = 0x18 || b = 0x1A || within 0x80 0x9C b then (ground, .control)
  else (ground, .silent)

/-- What a code does in a state. -/
def step (s : ScanState) (b : Nat) : ScanState × UnitKind :=
  match s with
  | ground =>
    if isPlainControl b || b = 0x7F then (ground, .control)
    else if within 0x20 0x7E b then (ground, .printed)
    else anywhere b
  | escape =>
    if isPlainControl b then (escape, .control)
    else if b = 0x7F then (escape, .silent)
    else if within 0x20 0x2F b then (escapeInner, .silent)
    else if b = 0x58 || b = 0x5E || b = 0x5F then (otherText, .silent)
    else if b = 0x50 then (deviceStart, .silent)
    else if b = 0x5B then (controlStart, .silent)
    else if b = 0x5D then (systemText, .silent)
    else if within 0x30 0x7E b then (ground, .silent)
    else anywhere b
  | escapeInner =>
    if isPlainControl b then (escapeInner, .control)
    else if within 0x20 0x2F b || b = 0x7F then (escapeInner, .silent)
    else if within 0x30 0x7E b then (ground, .silent)
    else anywhere b
  | controlStart | controlNumber =>
    if isPlainControl b then (s, .control)
    else if b = 0x7F then (s, .silent)
    else if within 0x20 0x2F b then (controlInner, .silent)
    else if within 0x30 0x3F b then (controlNumber, .silent)
    else if within 0x40 0x7E b then (ground, .silent)
    else anywhere b
  | controlInner =>
    if isPlainControl b then (controlInner, .control)
    else if within 0x20 0x2F b || b = 0x7F then (controlInner, .silent)
    else if within 0x30 0x7E b then (ground, .silent)
    else anywhere b
  | deviceStart | deviceNumber =>
    if isPlainControl b || b = 0x7F then (s, .silent)
    else if within 0x20 0x2F b then (deviceInner, .silent)
    else if within 0x30 0x3F b then (deviceNumber, .silent)
    else if within 0x40 0x7E b then (deviceText, .silent)
    else anywhere b
  | deviceInner =>
    if isPlainControl b || b = 0x7F || within 0x20 0x2F b then (deviceInner, .silent)
    else if within 0x30 0x7E b then (deviceText, .silent)
    else anywhere b
  | deviceText | systemText =>
    if b = 0x1B then (escape, .silent)
    else if b = 0x9C || b = 0x18 || b = 0x1A || (b = 7 && s = systemText) then (ground, .silent)
    else (s, .silent)
  | otherText =>
    if b = 0x18 || b = 0x1A || b = 0x9C then (ground, .silent)
    else if b ≠ 0x1B && b < 0x80 then (otherText, .silent)
    else anywhere b

/-- Whether every glyph belongs to the sequence in a state. -/
def takesAll (s : ScanState) : Bool := s = deviceText || s = systemText

end ScanState

/-- Whether a glyph starts something that is seen. -/
def startsSeen (g : Glyph) : Bool :=
  match g with
  | .char c => c.toNat ≥ 0x80
  | .stray b => 0xC2 ≤ b && b ≤ 0xF4

/-- Reads text glyph by glyph. -/
def units (s : ScanState) (gs : List Glyph) : List TextUnit :=
  match gs with
  | [] => []
  | g :: rest =>
    if !s.takesAll && startsSeen g then
      let found := takeCluster g rest
      ⟨found.1.glyphs, found.1.width, .seen⟩ :: units .ground found.2
    else
      let (next, kind) := s.step (glyphCode g)
      ⟨[g], if kind = .printed then 1 else 0, kind⟩ :: units next rest
  termination_by gs.length
  decreasing_by
  · have := length_takeCluster g rest
    simp only [List.length_cons]
    omega
  · simp

/-- The cells of a text. -/
def textWidth (gs : List Glyph) : Nat := (units .ground gs).foldl (fun n u ↦ n + u.width) 0

/-- The part of a text that fits a width. Sequences behind it are kept. -/
def cutToWidth (width : Nat) (gs : List Glyph) : List Glyph :=
  if textWidth gs ≤ width then gs
  else
    ((units .ground gs).foldl (fun (out, used, full) u ↦
      if u.width = 0 && u.kind ≠ .seen then (out ++ u.glyphs, used, full)
      else if full || used + u.width > width then (out, used, true)
      else (out ++ u.glyphs, used + u.width, full)) (([] : List Glyph), 0, false)).1

/-! ## Token by token -/

/-- Where in a sequence the reader of tokens is. -/
inductive TokenState where
  /-- Behind the escape character. -/
  | escape
  /-- Behind the introducer, before the numbers. -/
  | marks (device : Bool)
  /-- Among the numbers. -/
  | numbers (device : Bool)
  /-- Behind the numbers. -/
  | inner (device : Bool)
  /-- In a string, that of a system command or another. -/
  | string (system : Bool)
  deriving DecidableEq, Repr, Inhabited

/-- How many glyphs of a sequence there are from a state on. -/
def sequenceLength : TokenState → List Glyph → Nat
  | _, [] => 0
  | .escape, g :: gs =>
    let b := glyphCode g
    if b = 0x5B || b = 0x50 then sequenceLength (.marks (b = 0x50)) gs + 1
    else if b = 0x5D || b = 0x58 || b = 0x5E || b = 0x5F then
      sequenceLength (.string (b = 0x5D)) gs + 1
    else if within 0x20 0x2F b then sequenceLength .escape gs + 1
    else if within 0x30 0x7E b then 1
    else 0
  | .string system, g :: gs =>
    let b := glyphCode g
    if b = 7 && system || b = 0x9C then 1
    else if b = 0x18 || b = 0x1A then 0
    else if b = 0x1B then (if gs.head? = some (.char '\\') then 2 else 0)
    else sequenceLength (.string system) gs + 1
  | .marks device, g :: gs =>
    let b := glyphCode g
    if within 0x3C 0x3F b then sequenceLength (.marks device) gs + 1
    else if within 0x30 0x3B b then sequenceLength (.numbers device) gs + 1
    else if within 0x20 0x2F b then sequenceLength (.inner device) gs + 1
    else if within 0x40 0x7E b then (if device then sequenceLength (.string false) gs + 1 else 1)
    else 0
  | .numbers device, g :: gs =>
    let b := glyphCode g
    if within 0x30 0x3B b then sequenceLength (.numbers device) gs + 1
    else if within 0x20 0x2F b then sequenceLength (.inner device) gs + 1
    else if within 0x40 0x7E b then (if device then sequenceLength (.string false) gs + 1 else 1)
    else 0
  | .inner device, g :: gs =>
    let b := glyphCode g
    if within 0x20 0x2F b then sequenceLength (.inner device) gs + 1
    else if within 0x40 0x7E b then (if device then sequenceLength (.string false) gs + 1 else 1)
    else 0

/-- The state behind a glyph that starts a sequence. -/
def tokenStart? (b : Nat) : Option TokenState :=
  if b = 0x1B then some .escape
  else if b = 0x9B || b = 0x90 then some (.marks (b = 0x90))
  else if b = 0x98 || within 0x9D 0x9F b then some (.string (b = 0x9D))
  else none

/-- A whole sequence or one thing that is seen. -/
structure Token where
  /-- Its glyphs. -/
  glyphs : List Glyph
  /-- Its cells. -/
  width : Nat
  deriving Inhabited

/-- Cuts a text into tokens. -/
def tokens (gs : List Glyph) : List Token :=
  match gs with
  | [] => []
  | g :: rest =>
    match tokenStart? (glyphCode g) with
    | some s =>
      let n := sequenceLength s rest
      ⟨g :: rest.take n, 0⟩ :: tokens (rest.drop n)
    | none =>
      let isLow : Bool := match g with
        | .char c => c.toNat < 0x80
        | .stray b => b < 0xC0
      if isLow then ⟨[g], if within 0x20 0x7E (glyphCode g) then 1 else 0⟩ :: tokens rest
      else
        let found := takeCluster g rest
        ⟨found.1.glyphs, found.1.width⟩ :: tokens found.2
  termination_by gs.length
  decreasing_by
  · simp only [List.length_drop, List.length_cons]
    omega
  · simp
  · have := length_takeCluster g rest
    simp only [List.length_cons]
    omega

/-! ## Pens -/

/-- A colour as it stands in a sequence, without the number that says what it colours. -/
inductive PenColour where
  /-- One of the sixteen basic ones. -/
  | basic (n : Nat)
  /-- One of a table of 256. -/
  | indexed (n : Nat)
  /-- A mixture. -/
  | mixed (r g b : Nat)
  deriving DecidableEq, Repr

/-- The numbers that set a colour; `base` is the first of the eight basic numbers. -/
def PenColour.numbers (base : Nat) : PenColour → List String
  | .basic n => [toString (if n < 8 then base + n else base + 52 + n)]
  | .indexed n => [toString (base + 8), "5", toString n]
  | .mixed r g b => [toString (base + 8), "2", toString r, toString g, toString b]

/-- How text is shown: the attributes that are on, by their numbers, the kind of underline, and
colours. -/
structure Pen where
  /-- The attributes that are on. -/
  attributes : List Nat := []
  /-- The kind of underline; none is zero. -/
  underline : Nat := 0
  /-- The colour of the text. -/
  foreground : Option PenColour := none
  /-- The colour behind it. -/
  background : Option PenColour := none
  /-- The colour of the underline. -/
  underColour : Option PenColour := none
  deriving DecidableEq, Repr

namespace Pen

/-- Whether nothing is set. -/
def isPlain (p : Pen) : Bool := p = {}

/-- Whether a blank shows nothing of how text is shown. -/
def hidesBlanks (p : Pen) : Bool :=
  !p.attributes.contains 7 && p.background.isNone && p.underline = 0

/-- Sets an attribute. -/
def set (p : Pen) (n : Nat) : Pen :=
  { p with attributes := ([1, 2, 3, 5, 6, 7, 8, 9]).filter fun m ↦ m = n || p.attributes.contains m }

/-- Clears some attributes. -/
def clear (p : Pen) (ns : List Nat) : Pen :=
  { p with attributes := p.attributes.filter (!ns.contains ·) }

/-- The colour that follows a number, and how many numbers it takes. -/
def colour? : List Nat → Option (PenColour × Nat)
  | 5 :: n :: _ => some (.indexed n, 2)
  | 2 :: r :: g :: b :: _ => some (.mixed r g b, 4)
  | _ => none

/-- Applies the numbers of a sequence. -/
def apply : Nat → Pen → List Nat → Pen
  | 0, p, _ => p
  | _, p, [] => p
  | fuel + 1, p, n :: ns =>
    let colour (set : PenColour → Pen) : Pen :=
      match colour? ns with
      | some (c, k) => apply fuel (set c) (ns.drop k)
      | none => apply fuel p ns
    if n = 38 then colour fun c ↦ { p with foreground := some c }
    else if n = 48 then colour fun c ↦ { p with background := some c }
    else if n = 58 then colour fun c ↦ { p with underColour := some c }
    else
      let p := match n with
        | 0 => {}
        | 1 | 2 | 3 | 5 | 6 | 7 | 8 | 9 => p.set n
        | 4 => { p with underline := 1 }
        | 22 => p.clear [1, 2]
        | 23 => p.clear [3]
        | 24 => { p with underline := 0 }
        | 25 => p.clear [5, 6]
        | 27 => p.clear [7]
        | 28 => p.clear [8]
        | 29 => p.clear [9]
        | 39 => { p with foreground := none }
        | 49 => { p with background := none }
        | 59 => { p with underColour := none }
        | _ =>
          if within 30 37 n then { p with foreground := some (.basic (n - 30)) }
          else if within 40 47 n then { p with background := some (.basic (n - 40)) }
          else if within 90 97 n then { p with foreground := some (.basic (n - 82)) }
          else if within 100 107 n then { p with background := some (.basic (n - 92)) }
          else p
      apply fuel p ns

/-- The sequence that switches a pen on. -/
def sequence (p : Pen) : String :=
  let parts := p.attributes.map toString ++
    (if p.underline = 0 then [] else ["4"]) ++
    (p.foreground.map (PenColour.numbers 30)).getD [] ++
    (p.background.map (PenColour.numbers 40)).getD [] ++
    (p.underColour.map (PenColour.numbers 50)).getD []
  "\x1b[" ++ String.intercalate ";" parts ++ "m"

end Pen

/-- The characters of some glyphs; a stray byte is left out. -/
def glyphChars (gs : List Glyph) : List Char :=
  gs.filterMap fun
    | .char c => some c
    | .stray _ => none

/-- The text of a sequence behind its introducer: that of control sequences, and that of system
commands, without their ends. -/
def sequenceBody? (introducer : Char) (code : Nat) (t : Token) : Option (List Char) :=
  match t.glyphs with
  | .stray b :: rest => if b.toNat = code then some (glyphChars rest) else none
  | .char e :: .char c :: rest =>
    if e.toNat = 0x1B && c = introducer then some (glyphChars rest) else none
  | _ => none

/-- The numbers of a sequence that sets how text is shown. -/
def penNumbers? (t : Token) : Option (List Nat) := do
  let body ← sequenceBody? '[' 0x9B t
  if body.getLast? ≠ some 'm' then none
  let numbers := body.dropLast
  if !numbers.all (fun c ↦ c.isDigit || c = ';' || c = ':') then none
  if numbers.isEmpty then some [0]
  else
    let parts := (String.ofList numbers).splitToList fun c ↦ c = ';' || c = ':'
    some (parts.map fun p ↦ p.toList.foldl (fun n d ↦ 10 * n + (d.toNat - 48)) 0)

/-- Where a text leads: the parameters and the address of a link. -/
def linkOf? (t : Token) : Option (String × String) := do
  let body ← sequenceBody? ']' 0x9D t
  let text := body.takeWhile fun c ↦ c.toNat ≠ 7 && c.toNat ≠ 0x1B
  match (String.ofList text).splitOn ";" with
  | ["8", params, address] => some (params, address)
  | _ => none

end PathQuery.Terminal
