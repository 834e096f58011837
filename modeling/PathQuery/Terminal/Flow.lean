import PathQuery.Terminal.Sequence
import PathQuery.Text.Blank

/-!
# Flowing text

Text flows into lines of at most a given number of cells. A line ends before the word that does
not fit, and the blanks there are dropped; a word may also end behind a hyphen.

There are three ways of doing so. In a cell of a table a word that is longer than a line is broken
where the line is full, and styles and links are closed at the end of each line and opened again on
the next. The height of a row is found in a simpler way, where a hyphen may stand past the end of a
line. On a page long words are left as they are, and a word may end behind further signs.
-/

namespace PathQuery.Terminal

/-- So many blank glyphs. -/
def blankGlyphs (n : Nat) : List Glyph := List.replicate n (.char ' ')

/-- The glyphs of a string. -/
def stringGlyphs (s : String) : List Glyph := s.toList.map .char

/-- A text in which every line ends in a line feed alone. -/
def unifyLines : List Glyph → List Glyph
  | .char '\r' :: .char '\n' :: rest => .char '\n' :: unifyLines rest
  | g :: rest => g :: unifyLines rest
  | [] => []

/-- The lines of a text. -/
def splitLines : List Glyph → List (List Glyph)
  | [] => [[]]
  | .char '\n' :: rest => [] :: splitLines rest
  | g :: rest =>
    match splitLines rest with
    | line :: lines => (g :: line) :: lines
    | [] => [[g]]

/-! ## Cells of tables -/

/-- A text part of which has been broken into lines. -/
structure Flow where
  /-- The finished lines. -/
  done : List (List Glyph) := []
  /-- The line that is being filled. -/
  line : List Glyph := []
  /-- Its width. -/
  lineWidth : Nat := 0
  /-- The blanks behind it. -/
  space : List Glyph := []
  /-- The word behind those. -/
  word : List Glyph := []
  /-- Its width. -/
  wordWidth : Nat := 0
  /-- How text is shown now. -/
  pen : Pen := {}
  /-- Where text leads now. -/
  link : String × String := ("", "")
  /-- How the text on the line is shown at its end. -/
  linePen : Pen := {}
  /-- Where the text on the line leads at its end. -/
  lineLink : String × String := ("", "")

/-- The sequence that makes text lead somewhere. -/
def linkSequence (link : String × String) : List Glyph :=
  stringGlyphs ("\x1b]8;" ++ link.1 ++ ";" ++ link.2 ++ "\x07")

/-- The sequence that makes text be shown plainly. -/
def plainSequence : List Glyph := stringGlyphs "\x1b[m"

namespace Flow

/-- Whether the line leads somewhere. -/
def leads (f : Flow) : Bool := f.lineLink ≠ ("", "")

/-- Puts the blanks on the line. -/
def addSpace (f : Flow) : Flow :=
  { f with line := f.line ++ f.space, lineWidth := f.lineWidth + f.space.length, space := [] }

/-- Puts the blanks and the word on the line. -/
def addWord (f : Flow) : Flow :=
  if f.word.isEmpty then f
  else
    let f := f.addSpace
    { f with
      line := f.line ++ f.word
      lineWidth := f.lineWidth + f.wordWidth
      word := []
      wordWidth := 0
      linePen := f.pen
      lineLink := f.link }

/-- Begins a line. What the line shows in a special way is closed and opened again. -/
def addLine (f : Flow) : Flow :=
  let closing := (if f.linePen.isPlain then [] else plainSequence) ++
    (if f.leads then linkSequence ("", "") else [])
  let opening := (if f.leads then linkSequence f.lineLink else []) ++
    (if f.linePen.isPlain then [] else stringGlyphs f.linePen.sequence)
  { f with done := f.done ++ [f.line ++ closing], line := opening, lineWidth := 0, space := [] }

/-- Puts the blanks on the line before it ends, if no word follows and they fit. -/
def endSpace (limit : Nat) (f : Flow) : Flow :=
  if f.wordWidth ≠ 0 then f
  else if f.lineWidth + f.space.length > limit then { f with space := [], lineWidth := 0 }
  else { f with line := f.line ++ f.space, space := [] }

/-- Adds a token to the word. -/
def extendWord (limit : Nat) (f : Flow) (t : Token) : Flow :=
  let f := if f.wordWidth + t.width > limit then f.addWord else f
  let f := { f with word := f.word ++ t.glyphs, wordWidth := f.wordWidth + t.width }
  if f.lineWidth + f.wordWidth + f.space.length > limit then f.addLine else f

/-- Notes what a sequence says. -/
def obey (f : Flow) (t : Token) : Flow :=
  match penNumbers? t, linkOf? t with
  | some ns, _ => { f with pen := f.pen.apply ns.length ns }
  | none, some link => { f with link }
  | none, none => f

/-- Takes a token. -/
def step (limit : Nat) (f : Flow) (t : Token) : Flow :=
  if t.glyphs = [.char '\t'] || (t.glyphs = [.char ' '] && f.pen.hidesBlanks) then
    let f := f.addWord
    { f with space := f.space ++ t.glyphs }
  else if t.glyphs = [.char '\n'] then (f.endSpace limit).addWord.addLine
  else if t.width = 0 then { f.obey t with word := f.word ++ t.glyphs }
  else if t.glyphs = [.char '-'] then
    let f := f.addSpace
    if f.lineWidth + f.wordWidth + t.width ≤ limit then
      let f := f.addWord
      { f with line := f.line ++ t.glyphs, lineWidth := f.lineWidth + t.width }
    else f.extendWord limit t
  else f.extendWord limit t

/-- Takes the end of the text; blanks at the end stay if they fit. -/
def finish (limit : Nat) (f : Flow) : List (List Glyph) :=
  let f := (f.endSpace limit).addWord
  let closing := (if f.leads then linkSequence ("", "") else []) ++
    (if f.linePen.isPlain then [] else plainSequence)
  f.done ++ [f.line ++ closing]

end Flow

/-- Breaks a text into lines of at most `limit` cells. -/
def wrap (limit : Nat) (gs : List Glyph) : List (List Glyph) :=
  if limit = 0 then splitLines gs else ((tokens gs).foldl (Flow.step limit) {}).finish limit

/-! ## Filling lines without regard to styles -/

/-- Lines that are being filled. -/
structure Fill where
  /-- What has been written. -/
  written : List Glyph := []
  /-- The width of the last line. -/
  lineWidth : Nat := 0
  /-- The blanks behind it. -/
  space : List Glyph := []
  /-- The word behind those. -/
  word : List Glyph := []
  /-- Its width. -/
  wordWidth : Nat := 0

/-- The bytes of a glyph. -/
def glyphBytes : Glyph → Nat
  | .char c => c.utf8Size
  | .stray _ => 1

/-- Whether a glyph is a blank between words; a blank that holds words together is none. -/
def isWordBlank : Glyph → Bool
  | .char c => isBlank c && c.toNat ≠ 0xA0
  | .stray b => b = 0x85

namespace Fill

/-- The width of the blanks: each counts for as many cells as it has bytes. -/
def spaceWidth (f : Fill) : Nat := f.space.foldl (fun n g ↦ n + glyphBytes g) 0

/-- Writes the blanks. -/
def addSpace (f : Fill) : Fill :=
  { f with written := f.written ++ f.space, lineWidth := f.lineWidth + f.spaceWidth, space := [] }

/-- Writes the blanks and the word. -/
def addWord (f : Fill) : Fill :=
  if f.word.isEmpty then f
  else
    let f := f.addSpace
    { f with
      written := f.written ++ f.word
      lineWidth := f.lineWidth + f.wordWidth
      word := []
      wordWidth := 0 }

/-- Ends the line. -/
def addLine (f : Fill) : Fill :=
  { f with written := f.written ++ [.char '\n'], lineWidth := 0, space := [] }

/-- Writes the blanks before the line ends, if no word follows and they fit. -/
def endSpace (limit : Nat) (f : Fill) : Fill :=
  if f.wordWidth ≠ 0 then f
  else if f.lineWidth + f.spaceWidth > limit then { f with space := [], lineWidth := 0 }
  else { f with written := f.written ++ f.space, space := [] }

/-- Adds a unit to the word. -/
def extend (f : Fill) (u : TextUnit) (width : Nat) : Fill :=
  { f with word := f.word ++ u.glyphs, wordWidth := f.wordWidth + width }

/-- The width of everything that is not finished. -/
def openWidth (f : Fill) : Nat := f.lineWidth + f.spaceWidth + f.wordWidth

/-- Takes a unit, and breaks words that are too long. A hyphen that does not fit belongs to the
word, but does not end the line. -/
def stepBreaking (limit : Nat) (f : Fill) (u : TextUnit) : Fill :=
  if u.kind = .silent then f.extend u 0
  else if u.glyphs = [.char '\n'] then (f.endSpace limit).addWord.addLine
  else if (u.glyphs.take 1).any isWordBlank then
    let f := f.addWord
    { f with space := f.space ++ u.glyphs.take 1 }
  else if u.glyphs = [.char '-'] then
    let f := f.addSpace
    if f.lineWidth + f.wordWidth ≥ limit then f.extend u 1
    else
      let f := f.addWord
      { f with written := f.written ++ u.glyphs, lineWidth := f.lineWidth + 1 }
  else if u.kind = .seen then
    let f := if f.wordWidth + u.width > limit then f.addWord else f
    let f := f.extend u u.width
    if f.openWidth > limit then f.addLine else f
  else
    let f := f.extend u 1
    let f := if f.wordWidth = limit then f.addWord else f
    if f.openWidth > limit then f.addLine else f

/-- Takes a unit, and leaves words as they are. A word may end behind any of some signs. -/
def stepKeeping (signs : List Char) (limit : Nat) (f : Fill) (u : TextUnit) : Fill :=
  if u.kind = .silent then f.extend u 0
  else if u.glyphs = [.char '\n'] then (f.endSpace limit).addWord.addLine
  else if (u.glyphs.take 1).any isWordBlank then
    let f := f.addWord
    { f with space := f.space ++ u.glyphs.take 1 }
  else if signs.any fun c ↦ u.glyphs.contains (.char c) then
    let f := f.addSpace.addWord
    { f with written := f.written ++ u.glyphs, lineWidth := f.lineWidth + 1 }
  else
    let f := f.extend u (if u.kind = .seen then u.width else 1)
    if f.openWidth > limit && f.wordWidth < limit then f.addLine else f

end Fill

/-- The number of lines that a text takes, each of its lines on its own. -/
def wrapHeight (limit : Nat) (gs : List Glyph) : Nat :=
  if limit = 0 then 1
  else (splitLines (unifyLines gs)).foldl (fun n line ↦
    let f := ((units .ground line).foldl (Fill.stepBreaking limit) {}).endSpace limit
    n + f.addWord.written.count (.char '\n') + 1) 0

/-- The signs behind which a word may end on a page. -/
def breakSigns : List Char := ",.;-+|".toList

/-- Breaks the text of a page between words. -/
def fillLines (limit : Nat) (cs : List Char) : List Char :=
  let us := units .ground (cs.map .char)
  glyphChars (us.foldl (Fill.stepKeeping breakSigns limit) {}).addWord.written

end PathQuery.Terminal
