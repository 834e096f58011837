import PathQuery.Markdown.Block
import PathQuery.Markdown.Reading
import PathQuery.Terminal.Basic
import PathQuery.Terminal.Flow
import PathQuery.Terminal.Theme
import PathQuery.Text.Named

/-!
# Pages

A page is markdown laid out for a terminal: paragraphs and lists with emphasized words and code.
Styles are switched on and off by escape sequences, which take no cells. Text is broken between
words, and every line has a margin on its left and is filled up with blanks on its right. A style
that is on where a line ends is switched off for the margin of the next.
-/

namespace PathQuery.Terminal

/-! ## Escape sequences -/

/-- The character that starts an escape sequence. -/
def escape : Char := Char.ofNat 27

/-- Whether a character ends an escape sequence. -/
def endsSequence (c : Char) : Bool :=
  (0x40 ≤ c.toNat && c.toNat ≤ 0x5A) || (0x61 ≤ c.toNat && c.toNat ≤ 0x7A)

/-- The sequence that switches styles on. -/
def switchOn (codes : List String) : List Char :=
  escape :: '[' :: (String.intercalate ";" codes ++ "m").toList

/-- The sequence that switches every style off. -/
def switchOff : List Char := switchOn ["0"]

/-- Some characters in a style; nothing is written for none. -/
def styled (codes : List String) (cs : List Char) : List Char :=
  if codes.isEmpty || cs.isEmpty then cs else switchOn codes ++ cs ++ switchOff

/-- The cells that characters with escape sequences take. -/
def printedWidth (cs : List Char) : Nat :=
  (cs.foldl (fun (n, inside) c ↦
    if c = escape then (n, true)
    else if inside then (n, !endsSequence c)
    else (n + charWidth c, false)) (0, false)).1

/-! ## Words -/

/-- A style of text. -/
structure Emphasis where
  /-- Whether it is strong. -/
  strong : Bool := false
  /-- Whether it is emphasized. -/
  slanted : Bool := false

/-- The codes of a style. -/
def Emphasis.codes (e : Emphasis) : List String :=
  (if e.strong then ["1"] else []) ++ (if e.slanted then ["3"] else [])

/-- The value of a hexadecimal digit. -/
def hexNumber (c : Char) : Nat := if c.isDigit then c.toNat - 48 else c.toLower.toNat - 87

/-- The codes of a colour. -/
def colourCodes (colour : String) : List String :=
  match colour.toList with
  | ['#', a, b, c, d, e, f] =>
    ["38", "2"] ++ [(a, b), (c, d), (e, f)].map fun (h, l) ↦
      toString (16 * hexNumber h + hexNumber l)
  | digits =>
    let n := digits.foldl (fun n d ↦ 10 * n + (d.toNat - 48)) 0
    if n < 8 then [toString (30 + n)]
    else if n < 16 then [toString (82 + n)]
    else ["38", "5", toString n]

/-- The characters that a backslash protects. -/
def protectedChars : List Char := "\\`*_\x7b\x7d<>[]()#+-.!|".toList

/-- Drops the backslashes that protect characters. -/
def dropBackslashes : List Char → List Char
  | '\\' :: c :: rest =>
    if protectedChars.contains c then c :: dropBackslashes rest
    else '\\' :: dropBackslashes (c :: rest)
  | c :: rest => c :: dropBackslashes rest
  | [] => []
  termination_by cs => cs.length

/-- Text as it is shown: references are replaced, and then backslashes are dropped. -/
def plainText (cs : List Char) : List Char := dropBackslashes (resolveReferences cs)

/-- Code as it is shown: between backticks, in the accent colour. In emphasized text backslashes are
dropped. -/
def codeChars (t : Theme) (e : Emphasis) (s : String) : List Char :=
  let body := "`".toList ++ resolveReferences s.toList ++ "`".toList
  let coloured := styled ((t.accent.map colourCodes).getD []) body
  if e.codes.isEmpty then coloured else styled e.codes (dropBackslashes coloured)

/-- Where an address without a scheme leads from the root. -/
def shownAddress (s : String) : List Char :=
  let cs := s.toList
  if (Markdown.schemeLength? cs).isSome || cs.isEmpty then cs
  else '/' :: (if cs.head? = some '/' then cs.drop 1 else cs)

/-- A link as it is shown: its text, unless that is its address, and its address, unless that is a
place in the same document. -/
def linkChars (text : List Char) (address : String) : List Char :=
  let label := if text.isEmpty || text == address.toList then [] else dropBackslashes text
  if address.startsWith "#" then label
  else label ++ (if label.isEmpty then [] else [' ']) ++ dropBackslashes (shownAddress address)

/-- The characters of a plain text with the end of its line. -/
def textChars (s : String) (ending : Markdown.Ending) : List Char :=
  s.toList ++ if ending = .none then [] else ['\n']

mutual

/-- The characters of a piece of text. -/
def inlineChars (t : Theme) (e : Emphasis) : Markdown.Inline → List Char
  | .text s ending => styled e.codes (plainText (textChars s ending))
  | .code s => codeChars t e s
  | .emphasis true body => inlinesChars t { e with strong := true } body
  | .emphasis false body => inlinesChars t { e with slanted := true } body
  | .struck body => styled e.codes (plainText (Markdown.contents body))
  | .link image address body =>
    let text := Markdown.contents body
    if image then styled e.codes (dropBackslashes text ++ ' ' :: dropBackslashes (shownAddress address))
    else styled e.codes (linkChars text address)
  | .address lead s => styled e.codes (linkChars s.toList (lead ++ s))
  | .html | .checkbox _ => []

/-- The characters of pieces of text. -/
def inlinesChars (t : Theme) (e : Emphasis) : List Markdown.Inline → List Char
  | [] => []
  | i :: rest => inlineChars t e i ++ inlinesChars t e rest

end

/-! ## Breaking lines between words -/

/-- A paragraph part of which has been broken into lines. A hyphen ends a word, and takes no cell. -/
structure WordFlow where
  /-- What has been written. -/
  written : List Char := []
  /-- The width of the line that is being filled. -/
  lineWidth : Nat := 0
  /-- The blanks behind it. -/
  space : List Char := []
  /-- The word behind those, with its escape sequences. -/
  word : List Char := []
  /-- Whether an escape sequence is open. -/
  inSequence : Bool := false

namespace WordFlow

/-- The width of the blanks: each counts for as many cells as it has bytes. -/
def spaceWidth (f : WordFlow) : Nat := f.space.foldl (fun n c ↦ n + c.utf8Size) 0

/-- Writes the blanks. -/
def addSpace (f : WordFlow) : WordFlow :=
  { f with written := f.written ++ f.space, lineWidth := f.lineWidth + f.spaceWidth, space := [] }

/-- Writes the blanks and the word. -/
def addWord (f : WordFlow) : WordFlow :=
  if f.word.isEmpty then f
  else
    let f := f.addSpace
    let width := printedWidth f.word
    { f with written := f.written ++ f.word, lineWidth := f.lineWidth + width, word := [] }

/-- Ends the line. -/
def addLine (f : WordFlow) : WordFlow :=
  { f with written := f.written ++ ['\n'], lineWidth := 0, space := [] }

/-- Takes a character. -/
def step (limit : Nat) (f : WordFlow) (c : Char) : WordFlow :=
  if c = escape then { f with word := f.word ++ [c], inSequence := true }
  else if f.inSequence then { f with word := f.word ++ [c], inSequence := !endsSequence c }
  else if c = '\n' then
    let f :=
      if !f.word.isEmpty then f
      else if f.lineWidth + f.spaceWidth > limit then { f with lineWidth := 0, space := [] }
      else { f with written := f.written ++ f.space, space := [] }
    f.addWord.addLine
  else if isBlank c then
    let f := f.addWord
    { f with space := f.space ++ [c] }
  else if c = '-' then
    let f := f.addSpace.addWord
    { f with written := f.written ++ [c] }
  else
    let f := { f with word := f.word ++ [c] }
    let width := printedWidth f.word
    if f.lineWidth + width + f.spaceWidth > limit && width < limit then f.addLine else f

end WordFlow

/-- Breaks the text of a paragraph between words. -/
def wrapWords (limit : Nat) (cs : List Char) : List Char :=
  (cs.foldl (WordFlow.step limit) {}).addWord.written

/-! ## Margins -/

/-- The styles that are on. -/
structure StyleState where
  /-- The sequence that is being read. -/
  pending : List Char := []
  /-- The sequences that are in force. -/
  active : List Char := []
  /-- Whether a style has been switched on since all were switched off. -/
  changed : Bool := false

namespace StyleState

/-- Takes a character: what is to be written for it, and the state after it. -/
def step (s : StyleState) (c : Char) : List Char × StyleState :=
  if c = escape then ([], { s with pending := s.pending ++ [c], changed := true })
  else if s.pending.isEmpty then ([c], s)
  else
    let sequence := s.pending ++ [c]
    if !endsSequence c then ([], { s with pending := sequence })
    else if "[0m".toList.isSuffixOf sequence then (sequence, {})
    else if c = 'm' then (sequence, { s with pending := [], active := s.active ++ sequence })
    else (sequence, { s with pending := [] })

/-- What switches the styles off, if one may be on. -/
def suspend (s : StyleState) : List Char := if s.changed then switchOff else []

end StyleState

/-- A writer that fills lines up to a width. -/
structure Filler where
  /-- The width of the line so far. -/
  lineWidth : Nat := 0
  /-- Whether an escape sequence is open. -/
  inSequence : Bool := false
  /-- The styles. -/
  styles : StyleState := {}

/-- Takes a character: what is to be written for it, and the writer after it. -/
def Filler.step (width : Nat) (f : Filler) (c : Char) : List Char × Filler :=
  let through (f : Filler) (before : List Char) : List Char × Filler :=
    let (out, styles) := f.styles.step c
    (before ++ out, { f with styles })
  if c = escape then through { f with inSequence := true } []
  else if f.inSequence then through { f with inSequence := !endsSequence c } []
  else if c = '\n' then
    through { f with lineWidth := 0 }
      (List.replicate (width - f.lineWidth) ' ' ++ f.styles.suspend)
  else through { f with lineWidth := f.lineWidth + charWidth c } []

/-- Writes characters. -/
def Filler.write (width : Nat) (f : Filler) (cs : List Char) : List Char × Filler :=
  cs.foldl (fun (out, f) c ↦ let (more, f) := f.step width c; (out ++ more, f)) ([], f)

/-- A writer that indents lines and fills them up. -/
structure MarginWriter where
  /-- What has been written. -/
  written : List Char := []
  /-- Whether the line has its margin. -/
  indented : Bool := false
  /-- Whether an escape sequence is open. -/
  inSequence : Bool := false
  /-- The styles. -/
  styles : StyleState := {}
  /-- What fills the lines. -/
  filler : Filler := {}

namespace MarginWriter

/-- Hands characters on to be filled up. -/
def forward (width : Nat) (m : MarginWriter) (cs : List Char) : MarginWriter :=
  let (out, filler) := m.filler.write width cs
  { m with written := m.written ++ out, filler }

/-- Hands a character on, with regard to styles. -/
def through (width : Nat) (m : MarginWriter) (c : Char) : MarginWriter :=
  let (out, styles) := m.styles.step c
  ({ m with styles }).forward width out

/-- Takes a character. The margin is written before the first that is not part of an escape
sequence. -/
def step (margin width : Nat) (m : MarginWriter) (c : Char) : MarginWriter :=
  if c = escape then ({ m with inSequence := true }).through width c
  else if m.inSequence then ({ m with inSequence := !endsSequence c }).through width c
  else
    let m :=
      if m.indented then m
      else
        let m := m.forward width m.styles.suspend
        let m := { m with written := m.written ++ List.replicate margin ' ', indented := true }
        m.forward width m.styles.active
    ({ m with indented := c ≠ '\n' }).through width c

end MarginWriter

/-- Text with a margin on its left, filled up with blanks on its right. -/
def withMargin (margin width : Nat) (cs : List Char) : List Char :=
  (cs.foldl (MarginWriter.step margin width) {}).written

/-! ## Blocks -/

/-- The text in front of a list item. -/
def itemLead : Markdown.Marker → Nat → List Char
  | .bullet _, _ => "• ".toList
  | .ordered start _, i => (toString (start + i) ++ ". ").toList

/-- Lays out a paragraph. -/
def layParagraph (width : Nat) (cs : List Char) : List Char :=
  let trimmed := trimBoth isBlank cs
  if trimmed.isEmpty then []
  else
    let flat := trimmed.map fun c ↦ if c = '\n' then ' ' else c
    withMargin 0 width (wrapWords width flat ++ ['\n'])

/-- How a document is laid out. -/
structure PageSetting where
  /-- The theme. -/
  theme : Theme
  /-- The link definitions. -/
  definitions : List Markdown.Definition
  /-- The width. -/
  width : Nat

namespace PageSetting

/-- The pieces of the lines of a block; the flag tells whether it is the first of a list item. -/
def pieces (p : PageSetting) (startsItem : Bool) (lines : List Markdown.Line) : List Markdown.Inline :=
  Markdown.inlines { extended := true, definitions := p.definitions, startsItem } lines

/-- Whether a list item starts with a box to be ticked. Such an item has no mark of its own. -/
def hasBox (p : PageSetting) : List Markdown.Block → Bool
  | .paragraph lines :: _ =>
    match (p.pieces true lines).head? with
    | some (.checkbox _) => true
    | _ => false
  | _ => false

/-- The text of the blocks of a list item. -/
def itemChars (p : PageSetting) (body : List Markdown.Block) : List Char :=
  body.zipIdx.flatMap fun
    | (.paragraph lines, i) => inlinesChars p.theme {} (p.pieces (i = 0) lines)
    | _ => []

/-- Lays out a list. -/
def layList (p : PageSetting) (marker : Markdown.Marker) (items : List Markdown.Block) : List Char :=
  let texts := items.zipIdx.map fun
    | (.item body, i) =>
      (if p.hasBox body then [] else itemLead marker i) ++ p.itemChars body
    | _ => []
  let text := (texts.intersperse ['\n']).flatten
  withMargin 0 p.width (fillLines p.width text ++ ['\n'])

/-- Lays out a block; the flag tells whether it is the first. -/
def layBlock (p : PageSetting) (first : Bool) : Markdown.Block → List Char
  | .heading _ lines | .paragraph lines =>
    (if first then [] else ['\n']) ++
      layParagraph p.width (inlinesChars p.theme {} (p.pieces false lines))
  | .list marker items => '\n' :: p.layList marker items
  | _ => []

end PageSetting

/-- The width of a page when none is given. -/
def defaultWidth : Nat := 120

/-- Lays a document out for a terminal. -/
def renderPage (t : Theme) (text : String) (width : Int) : String :=
  let width := if 0 < width then width.toNat else defaultWidth
  let doc := Markdown.read text
  let p : PageSetting := ⟨t, doc.definitions, width⟩
  let laid := doc.blocks.zipIdx.flatMap fun (b, i) ↦ p.layBlock (i = 0) b
  let body := '\n' :: withMargin Theme.reportMargin width (fillLines width laid)
  String.ofList ((body.reverse.dropWhile (· = '\n')).reverse ++ ['\n'])

end PathQuery.Terminal
