/-!
# A place in a text

The scanner walks over the text with a cursor that knows its line and column. Five characters
break lines; a carriage return and a line feed in a row are one break.

A text is taken in pieces of 512 bytes. A character that may not stand in a text spoils its whole
piece, so the text can be read up to the piece before.
-/

namespace PathQuery.Yaml

/-- Whether a character breaks a line. -/
def isBreak (c : Char) : Bool :=
  c = '\n' || c = '\r' || c.toNat = 0x85 || c.toNat = 0x2028 || c.toNat = 0x2029

/-- Whether a character separates words within a line. -/
def isSpace (c : Char) : Bool := c = ' ' || c = '\t'

/-- Whether there is a line break, or no character at all. -/
def isBreakOrEnd : Option Char → Bool
  | none => true
  | some c => isBreak c

/-- Whether there is a blank, a line break, or no character at all. -/
def isGap : Option Char → Bool
  | none => true
  | some c => isSpace c || isBreak c

/-- Whether a character may stand in the name of an anchor or a directive. -/
def isNameChar (c : Char) : Bool := c.isAlphanum || c = '_' || c = '-'

/-- Whether a character may stand in a text at all. -/
def isAllowed (c : Char) : Bool :=
  let n := c.toNat
  n = 9 || n = 0xA || n = 0xD || (0x20 ≤ n && n ≤ 0x7E) || n = 0x85 ||
    (0xA0 ≤ n && n ≤ 0xD7FF) || (0xE000 ≤ n && n ≤ 0xFFFD) || 0x10000 ≤ n

/-- A place in a text. -/
structure Cursor where
  /-- The text from here on. -/
  rest : List Char
  /-- How many characters lie before. -/
  index : Nat := 0
  /-- The line, counted from zero. -/
  line : Nat := 0
  /-- The column, counted from zero. -/
  column : Nat := 0
  deriving Inhabited

namespace Cursor

/-- The character here. -/
def peek (c : Cursor) : Option Char := c.rest.head?

/-- The character `n` places ahead. -/
def peekAt (c : Cursor) (n : Nat) : Option Char := c.rest[n]?

/-- Moves over `n` characters of a line. -/
def advance (c : Cursor) (n : Nat) : Cursor :=
  { c with rest := c.rest.drop n, index := c.index + n, column := c.column + n }

/-- Moves over characters that satisfy `p`, and returns them. -/
def takeWhile (c : Cursor) (p : Char → Bool) : List Char × Cursor :=
  let taken := c.rest.takeWhile p
  (taken, c.advance taken.length)

/-- Moves over a line break, if there is one, and returns what it stands for. -/
def readBreak (c : Cursor) : List Char × Cursor :=
  let next (n : Nat) (rest : List Char) : Cursor :=
    { rest, index := c.index + n, line := c.line + 1, column := 0 }
  match c.rest with
  | '\r' :: '\n' :: rest => (['\n'], next 2 rest)
  | b :: rest =>
    if isBreak b then
      (if b.toNat = 0x2028 || b.toNat = 0x2029 then [b] else ['\n'], next 1 rest)
    else ([], c)
  | [] => ([], c)

/-- Whether the cursor stands at a line that consists of three equal marks, up to a gap. -/
def atMarks (c : Cursor) (m : Char) : Bool :=
  c.column = 0 && c.rest.take 3 == [m, m, m] && isGap (c.peekAt 3)

/-- Whether a document starts or ends here. -/
def atDocumentMark (c : Cursor) : Bool := c.atMarks '-' || c.atMarks '.'

/-- Moves over blanks and line breaks, `n` of them at most. -/
def skipBlank : Nat → Cursor → Cursor
  | 0, c => c
  | n + 1, c =>
    match c.peek with
    | some ch =>
      if isBreak ch then skipBlank n c.readBreak.2
      else if isSpace ch then skipBlank n (c.advance 1)
      else c
    | none => c

/-- Moves over a comment, and over those that follow it with nothing but blanks between them. At
most 512 characters are looked at in search of the next. -/
def skipComments : Nat → Cursor → Cursor
  | 0, c => c
  | fuel + 1, c =>
    let c := (c.takeWhile (!isBreak ·)).2
    let gap := (c.rest.takeWhile fun ch ↦ isGap (some ch)).length
    if gap < 512 && c.peekAt gap = some '#' then skipComments fuel (c.skipBlank gap) else c

/-- Moves over a comment later in the line, with at most 511 blanks before it. -/
def skipLineComment (c : Cursor) : Cursor :=
  let gap := (c.rest.takeWhile isSpace).length
  if gap < 512 && c.peekAt gap = some '#' then (c.takeWhile (!isBreak ·)).2 else c

end Cursor

/-! ## Pieces -/

/-- How many bytes make a piece. -/
def pieceSize : Nat := 512

/-- Splits a text into pieces of whole characters; `room` bytes are left in the piece at hand. -/
def piecesFrom : Nat → List Char → List Char → List (List Char)
  | _, piece, [] => [piece.reverse]
  | room, piece, c :: rest =>
    if c.utf8Size ≤ room then piecesFrom (room - c.utf8Size) (c :: piece) rest
    else piece.reverse :: piecesFrom (pieceSize - c.utf8Size) [c] rest

/-- The part of a text that can be read. -/
structure Readable where
  /-- The characters up to the first piece that is spoilt. -/
  chars : List Char
  /-- Whether a spoilt piece follows. -/
  spoilt : Bool
  /-- How many characters are in the first piece. -/
  firstPiece : Nat

/-- The readable part of a text. A byte order mark at its start is no part of it. -/
def Readable.ofText (text : String) : Readable :=
  let marked := text.startsWith "\uFEFF"
  let cs := if marked then text.toList.drop 1 else text.toList
  let pieces := piecesFrom (if marked then pieceSize - 3 else pieceSize) [] cs
  let good := pieces.takeWhile (·.all isAllowed)
  { chars := good.flatten
    spoilt := good.length < pieces.length
    firstPiece := (pieces.headD []).length }

end PathQuery.Yaml
